import Gotun.Tun.Manager

/-! What holds along every run of the manager: each registered service was built from its own
configuration and holds exactly its listeners, and no two bound listeners conflict. -/

namespace Gotun.Tun
namespace Manager

open Gotun.Lib

variable {h : Host}

/-- The listeners that an instance has bound. -/
def boundBy (m : Manager) (id : Nat) : List Listener :=
  (m.held.filter fun owned => owned.1 = id).map Prod.snd

/-- The manager with more listeners bound by an instance. -/
def bound (m : Manager) (id : Nat) (ls : List Listener) : Manager :=
  { m with held := m.held ++ ls.map (Prod.mk id) }

def closed (m : Manager) (id : Nat) : Manager :=
  { m with held := m.held.filter fun owned => owned.1 ≠ id }

/-- The manager after an instance was made. -/
def issued (m : Manager) : Manager := { m with next := m.next + 1 }

def withService (m : Manager) (name : String) (s : Option Service) : Manager :=
  { m with services := Function.update m.services name s }

theorem listen_cases (id : Nat) (fault : Option String) (l : Listener) (m : Manager) :
    fault = none ∧ m.bindable h l = true ∧ listen h id fault l m = (.ok (), m.bound id [l]) ∨
      ¬ (fault = none ∧ m.bindable h l = true) ∧ ∃ e, listen h id fault l m = (.error e, m) := by
  unfold listen
  rcases fault with _ | text
  · by_cases free : m.bindable h l = true
    · exact Or.inl ⟨rfl, free, if_pos free⟩
    · exact Or.inr ⟨fun both => free both.2, _, if_neg free⟩
  · exact Or.inr ⟨fun both => by simp at both, _, rfl⟩

theorem bound_bound (m : Manager) (id : Nat) (ls ls' : List Listener) :
    (m.bound id ls).bound id ls' = m.bound id (ls ++ ls') := by
  simp only [bound, List.map_append, List.append_assoc]

theorem bound_nil (m : Manager) (id : Nat) : m.bound id [] = m := by
  simp only [bound, List.map_nil, List.append_nil]

/-- A `Run` binds its listeners up to the first that fails. -/
theorem runListeners_cases (id : Nat) (ls : List Listener) (faults : Nat → Option String) (m : Manager) :
    runListeners h id ls faults m = (.ok (), m.bound id ls) ∨
      ∃ k e, k < ls.length ∧ runListeners h id ls faults m = (.error e, m.bound id (ls.take k)) := by
  induction ls generalizing faults m with
  | nil => exact Or.inl (by rw [bound_nil]; rfl)
  | cons l rest ih =>
    rw [runListeners]
    rcases listen_cases (h := h) id (faults 0) l m with ⟨_, _, bind⟩ | ⟨_, e, bind⟩
    · rw [Action.bind_ok _ bind]
      rcases ih (fun k => faults (k + 1)) (m.bound id [l]) with ok | ⟨k, e, short, failed⟩
      · rw [ok, bound_bound]
        exact Or.inl rfl
      · refine Or.inr ⟨k + 1, e, Nat.succ_lt_succ short, ?_⟩
        rw [failed, bound_bound]
        rfl
    · refine Or.inr ⟨0, e, Nat.zero_lt_succ _, ?_⟩
      rw [Action.bind_error _ bind, List.take_zero, bound_nil]

/-! What holds of the ports. -/

/-- The bound listeners belong to instances made so far, and none conflicts with another. -/
structure Ports (h : Host) (m : Manager) : Prop where
  fresh : ∀ owned ∈ m.held, owned.1 < m.next
  apart : (m.held.map Prod.snd).Pairwise fun a b => h.conflicts a b = false
  clear : ∀ owned ∈ m.held, ∀ other ∈ m.taken, h.conflicts owned.2 other = false

theorem bindable_iff (m : Manager) (l : Listener) :
    m.bindable h l = true ↔ (∀ owned ∈ m.held, h.conflicts l owned.2 = false) ∧
      ∀ other ∈ m.taken, h.conflicts l other = false := by
  simp only [bindable, Bool.and_eq_true, List.all_eq_true, Bool.not_eq_true']

theorem Ports.bound {m : Manager} (ports : Ports h m) {id : Nat} (made : id < m.next) {l : Listener}
    (free : m.bindable h l = true) : Ports h (m.bound id [l]) := by
  obtain ⟨others, outside⟩ := (bindable_iff m l).mp free
  refine ⟨fun owned member => ?_, ?_, fun owned member other taken => ?_⟩
  · rcases List.mem_append.mp member with old | new
    · exact ports.fresh owned old
    · rw [List.mem_singleton.mp new]
      exact made
  · simp only [Manager.bound, List.map_append, List.map_cons, List.map_nil]
    rw [List.pairwise_append]
    refine ⟨ports.apart, List.pairwise_singleton _ _, fun a old b new => ?_⟩
    obtain ⟨owned, member, rfl⟩ := List.mem_map.mp old
    rw [List.mem_singleton.mp new, h.symmetric]
    exact others owned member
  · rcases List.mem_append.mp member with old | new
    · exact ports.clear owned old other taken
    · rw [List.mem_singleton.mp new]
      exact outside other taken

theorem Ports.closed {m : Manager} (ports : Ports h m) (id : Nat) : Ports h (m.closed id) := by
  refine ⟨fun owned member => ports.fresh owned (List.mem_filter.mp member).1, ?_,
    fun owned member => ports.clear owned (List.mem_filter.mp member).1⟩
  exact ports.apart.sublist ((List.filter_sublist (l := m.held)).map Prod.snd)

theorem Ports.run {m : Manager} (ports : Ports h m) {id : Nat} (made : id < m.next) (ls : List Listener)
    (faults : Nat → Option String) : Ports h (runListeners h id ls faults m).2 := by
  induction ls generalizing faults m with
  | nil => exact ports
  | cons l rest ih =>
    rw [runListeners]
    rcases listen_cases (h := h) id (faults 0) l m with ⟨_, free, bind⟩ | ⟨_, e, bind⟩
    · rw [Action.bind_ok _ bind]
      exact ih (ports.bound made free) made _
    · rw [Action.bind_error _ bind]
      exact ports

/-- Listeners that conflict with nothing are all bound. -/
theorem runListeners_ok {id : Nat} {ls : List Listener} {faults : Nat → Option String} {m : Manager}
    (fine : ∀ k, faults k = none) (apart : ls.Pairwise fun a b => h.conflicts a b = false)
    (free : ∀ l ∈ ls, m.bindable h l = true) :
    runListeners h id ls faults m = (.ok (), m.bound id ls) := by
  induction ls generalizing faults m with
  | nil => rw [bound_nil]; rfl
  | cons l rest ih =>
    obtain ⟨first, apart⟩ := List.pairwise_cons.mp apart
    rw [runListeners]
    rcases listen_cases (h := h) id (faults 0) l m with ⟨_, _, bind⟩ | ⟨busy, _, _⟩
    · rw [Action.bind_ok _ bind, ih (fun k => fine (k + 1)) apart, bound_bound]
      · rfl
      · intro other member
        obtain ⟨others, outside⟩ :=
          (bindable_iff m other).mp (free other (List.mem_cons_of_mem l member))
        refine (bindable_iff _ other).mpr ⟨fun owned held => ?_, outside⟩
        rcases List.mem_append.mp held with old | new
        · exact others owned old
        · rw [List.mem_singleton.mp new, h.symmetric]
          exact first other member
    · exact absurd ⟨fine 0, free l List.mem_cons_self⟩ busy

/-! What holds of the services. -/

def Built (h : Host) (s : Service) : Prop :=
  s.cfg.Disabled = true ∧ s.kind = .disabled ∨ s.cfg.Disabled = false ∧
    NewService h.parsers s.cfg = .ok s.kind

/-- A registered service is the one its configuration describes, and its listeners are bound. -/
structure Registered (h : Host) (m : Manager) (name : String) (s : Service) : Prop where
  made : s.id < m.next
  named : s.cfg.Name = name
  built : Built h s
  listening : m.boundBy s.id = s.kind.listeners

/-- The names in `free` are those that an operation is about to set. -/
structure SoundBut (h : Host) (free : String → Prop) (m : Manager) : Prop where
  ports : Ports h m
  registered : ∀ {name s}, m.services name = some s → ¬ free name → Registered h m name s
  distinct : ∀ {name other s s'}, m.services name = some s → m.services other = some s' →
    ¬ free name → ¬ free other →
    s.id = s'.id → name = other

def Sound (h : Host) (m : Manager) : Prop := SoundBut h (fun _ => False) m

section steps

variable {free : String → Prop} {m : Manager}

theorem boundBy_bound_of_ne {id other : Nat} (differ : other ≠ id) (ls : List Listener) :
    (m.bound id ls).boundBy other = m.boundBy other := by
  have none_new : (ls.map (Prod.mk id)).filter (fun owned => owned.1 = other) = [] := by
    rw [List.filter_eq_nil_iff]
    intro owned member
    obtain ⟨l, _, rfl⟩ := List.mem_map.mp member
    simpa using differ.symm
  rw [boundBy, bound, List.filter_append, none_new, List.append_nil]
  rfl

theorem boundBy_closed_of_ne {id other : Nat} (differ : other ≠ id) :
    (m.closed id).boundBy other = m.boundBy other := by
  rw [boundBy, boundBy, closed, List.filter_filter]
  congr 1
  apply List.filter_congr
  intro owned _
  by_cases same : owned.1 = other
  · simp [same, differ]
  · simp [same]

/-- The listeners of a fresh instance are those it binds. -/
theorem boundBy_bound_self {id : Nat} (unused : ∀ owned ∈ m.held, owned.1 ≠ id) (ls : List Listener) :
    (m.bound id ls).boundBy id = ls := by
  have none_old : m.held.filter (fun owned => owned.1 = id) = [] := by
    rw [List.filter_eq_nil_iff]
    intro owned member
    simpa using unused owned member
  have all_new : (ls.map (Prod.mk id)).filter (fun owned => owned.1 = id) = ls.map (Prod.mk id) := by
    rw [List.filter_eq_self]
    intro owned member
    obtain ⟨l, _, rfl⟩ := List.mem_map.mp member
    simp
  rw [boundBy, bound, List.filter_append, none_old, all_new, List.nil_append, List.map_map]
  exact List.map_id _

theorem SoundBut.issued (sound : SoundBut h free m) : SoundBut h free m.issued := by
  refine ⟨⟨fun owned member => Nat.lt_succ_of_lt (sound.ports.fresh owned member), sound.ports.apart,
    sound.ports.clear⟩, fun present kept => ?_, sound.distinct⟩
  have held := sound.registered present kept
  exact ⟨Nat.lt_succ_of_lt held.made, held.named, held.built, held.listening⟩

theorem SoundBut.closed (sound : SoundBut h free m) {id : Nat}
    (other : ∀ {name s}, m.services name = some s → ¬ free name → s.id ≠ id) :
    SoundBut h free (m.closed id) := by
  refine ⟨sound.ports.closed id, fun present kept => ?_, sound.distinct⟩
  have held := sound.registered present kept
  exact ⟨held.made, held.named, held.built,
    (boundBy_closed_of_ne (other present kept)).trans held.listening⟩

theorem SoundBut.run (sound : SoundBut h free m) {id : Nat} (made : id < m.next)
    (other : ∀ {name s}, m.services name = some s → ¬ free name → s.id ≠ id) (ls : List Listener)
    (faults : Nat → Option String) : SoundBut h free (runListeners h id ls faults m).2 := by
  have ports := sound.ports.run made ls faults
  have same : ∃ ls', (runListeners h id ls faults m).2 = m.bound id ls' := by
    rcases runListeners_cases (h := h) id ls faults m with ok | ⟨k, e, _, failed⟩
    · exact ⟨ls, by rw [ok]⟩
    · exact ⟨ls.take k, by rw [failed]⟩
  obtain ⟨ls', same⟩ := same
  rw [same] at ports ⊢
  refine ⟨ports, fun present kept => ?_, sound.distinct⟩
  have held := sound.registered present kept
  exact ⟨held.made, held.named, held.built,
    (boundBy_bound_of_ne (other present kept) ls').trans held.listening⟩

theorem SoundBut.files (sound : SoundBut h free m) (files : Files) : SoundBut h free { m with files } :=
  ⟨⟨sound.ports.fresh, sound.ports.apart, sound.ports.clear⟩, fun present kept =>
    let held := sound.registered present kept
    ⟨held.made, held.named, held.built, held.listening⟩, sound.distinct⟩

theorem SoundBut.mono (sound : SoundBut h free m) {free' : String → Prop}
    (more : ∀ name, free name → free' name) :
    SoundBut h free' m :=
  ⟨sound.ports, fun present kept => sound.registered present fun freed => kept (more _ freed),
    fun present present' kept kept' => sound.distinct present present' (fun freed => kept (more _ freed))
      fun freed => kept' (more _ freed)⟩

/-- A name that is set to a running instance of its own, or to none, is free no longer. -/
theorem SoundBut.set (sound : SoundBut h free m) {name : String} {s : Option Service}
    (ready : ∀ t ∈ s, Registered h m name t)
    (own : ∀ t ∈ s, ∀ {other s'}, m.services other = some s' → ¬ free other →
      other ≠ name → s'.id ≠ t.id) :
    SoundBut h (fun other => free other ∧ other ≠ name) (m.withService name s) := by
  have split : ∀ {other s'}, Function.update m.services name s other = some s' →
    ¬ (free other ∧ other ≠ name) →
      other = name ∧ s' ∈ s ∨ other ≠ name ∧ m.services other = some s' ∧ ¬ free other := by
    intro other s' present kept
    by_cases same : other = name
    · subst same
      rw [Function.update_self] at present
      exact Or.inl ⟨rfl, present⟩
    · rw [Function.update_of_ne same] at present
      exact Or.inr ⟨same, present, fun freed => kept ⟨freed, same⟩⟩
  refine ⟨⟨sound.ports.fresh, sound.ports.apart, sound.ports.clear⟩, fun present kept => ?_,
    fun present present' kept kept' same => ?_⟩
  · rcases split present kept with ⟨rfl, new⟩ | ⟨_, old, kept⟩
    · have held := ready _ new
      exact ⟨held.made, held.named, held.built, held.listening⟩
    · have held := sound.registered old kept
      exact ⟨held.made, held.named, held.built, held.listening⟩
  · rcases split present kept with ⟨rfl, new⟩ | ⟨differ, old, bound⟩
    · rcases split present' kept' with ⟨rfl, _⟩ | ⟨differ', old', bound'⟩
      · rfl
      · exact absurd same.symm (own _ new old' bound' differ')
    · rcases split present' kept' with ⟨rfl, new'⟩ | ⟨_, old', bound'⟩
      · exact absurd same (own _ new' old bound differ)
      · exact sound.distinct old old' bound bound' same

end steps

/-! What the operations do. -/

theorem prepareManagedService_cases (cfg : Config) (m : Manager) :
    (∃ s : Service, s.id = m.next ∧ s.cfg = cfg ∧ Built h s ∧
      prepareManagedService h cfg m = (.ok s, m.issued)) ∨
    ∃ e, cfg.Disabled = false ∧ NewService h.parsers cfg = .error e ∧
      prepareManagedService h cfg m = (.error e, m) := by
  unfold prepareManagedService
  split
  · rename_i disabled
    have same : { cfg with Disabled := true } = cfg := by rw [← disabled]
    refine Or.inl ⟨⟨m.next, cfg, .disabled⟩, rfl, rfl, Or.inl ⟨disabled, rfl⟩, ?_⟩
    rw [NewDisabledService, same]
    rfl
  · rename_i enabled
    rcases built : NewService h.parsers cfg with e | kind
    · exact Or.inr ⟨e, by simpa using enabled, rfl, rfl⟩
    · exact Or.inl ⟨⟨m.next, cfg, kind⟩, rfl, rfl, Or.inr ⟨by simpa using enabled, built⟩, rfl⟩

section operations

variable {free : String → Prop} {m : Manager}

/-- The new instance is none of the registered ones. -/
theorem SoundBut.other (sound : SoundBut h free m) {id : Nat} (new : m.next ≤ id) {name : String}
    {s : Service} (present : m.services name = some s) (kept : ¬ free name) : s.id ≠ id :=
  Nat.ne_of_lt (Nat.lt_of_lt_of_le (sound.registered present kept).made new)

/-- An instance that was just made and run is ready to be registered. -/
theorem registered_of_run (ports : Ports h m) {s : Service} (new : s.id = m.next) (built : Built h s) :
    Registered h (m.issued.bound s.id s.kind.listeners) s.cfg.Name s := by
  refine ⟨new ▸ Nat.lt_succ_self _, rfl, built, boundBy_bound_self (fun owned member => ?_) _⟩
  exact Nat.ne_of_lt (new ▸ ports.fresh owned member)

/-- A rollback runs a new instance of the old service, or ends without the service. -/
theorem rollbackReplaceLocked_cases (faults : Nat → Option String) (oldName : String)
    (oldCfg : Config) (cause : Err) (m : Manager) :
    (∃ s : Service, s.id = m.next ∧ s.cfg = oldCfg ∧ Built h s ∧
      runListeners h s.id s.kind.listeners faults m.issued =
        (.ok (), m.issued.bound s.id s.kind.listeners) ∧
      rollbackReplaceLocked h faults oldName oldCfg cause m =
        (.error cause, (m.issued.bound s.id s.kind.listeners).withService oldName (some s))) ∨
    (∃ e, oldCfg.Disabled = false ∧ NewService h.parsers oldCfg = .error e ∧
      rollbackReplaceLocked h faults oldName oldCfg cause m =
        (.error (rollbackFailed cause e), m.withService oldName none)) ∨
    ∃ s : Service, ∃ k e, s.id = m.next ∧ s.cfg = oldCfg ∧ Built h s ∧ k < s.kind.listeners.length ∧
      runListeners h s.id s.kind.listeners faults m.issued =
        (.error e, m.issued.bound s.id (s.kind.listeners.take k)) ∧
      rollbackReplaceLocked h faults oldName oldCfg cause m =
        (.error (rollbackFailed cause e),
          (m.issued.bound s.id (s.kind.listeners.take k)).withService oldName none) := by
  rcases prepareManagedService_cases (h := h) oldCfg m with
    ⟨s, new, same, built, made⟩ | ⟨e, enabled, refused, made⟩
  · rcases runListeners_cases (h := h) s.id s.kind.listeners faults m.issued with
      ok | ⟨k, e, short, failed⟩
    · have restored : restoreService h faults oldName oldCfg m =
          (.ok (), (m.issued.bound s.id s.kind.listeners).withService oldName (some s)) := by
        rw [restoreService, Action.bind_ok _ made,
          Action.bind_ok _ (show runPreparedService h s faults _ = _ from ok)]
        rfl
      refine Or.inl ⟨s, new, same, built, ok, ?_⟩
      rw [rollbackReplaceLocked, Action.bind_ok _ (Action.handle_ok _ restored)]
      rfl
    · have abandoned : restoreService h faults oldName oldCfg m =
          (.error e, m.issued.bound s.id (s.kind.listeners.take k)) := by
        rw [restoreService, Action.bind_ok _ made,
          Action.bind_error _ (show runPreparedService h s faults _ = _ from failed)]
      refine Or.inr (Or.inr ⟨s, k, e, new, same, built, short, failed, ?_⟩)
      rw [rollbackReplaceLocked, Action.bind_error _ ((Action.handle_error _ abandoned).trans rfl)]
      rfl
  · have abandoned : restoreService h faults oldName oldCfg m = (.error e, m) := by
      rw [restoreService, Action.bind_error _ made]
    refine Or.inr (Or.inl ⟨e, enabled, refused, ?_⟩)
    rw [rollbackReplaceLocked, Action.bind_error _ ((Action.handle_error _ abandoned).trans rfl)]
    rfl

theorem SoundBut.rollback {oldName : String} (sound : SoundBut h (fun other => other = oldName) m)
    (faults : Nat → Option String) {oldCfg : Config} (named : oldCfg.Name = oldName) (cause : Err) :
    Sound h (rollbackReplaceLocked h faults oldName oldCfg cause m).2 := by
  have done : ∀ {m' : Manager}, SoundBut h (fun other => other = oldName ∧ other ≠ oldName) m' →
      Sound h m' :=
    fun sound => sound.mono fun _ both => both.2 both.1
  have issued := sound.issued
  rcases rollbackReplaceLocked_cases (h := h) faults oldName oldCfg cause m with
    ⟨s, new, same, built, ok, result⟩ | ⟨e, _, _, result⟩ | ⟨s, k, e, new, _, _, _, failed, result⟩
  · have made : s.id < m.issued.next := new ▸ Nat.lt_succ_self _
    have ran :=
      issued.run made (fun present kept => sound.other new.ge present kept) s.kind.listeners faults
    rw [ok] at ran
    have ready := registered_of_run sound.ports new built
    rw [same, named] at ready
    rw [result]
    refine done (ran.set (fun t member => ?_) fun t member _ _ present kept _ => ?_)
    · rw [← Option.some.inj member]
      exact ready
    · rw [← Option.some.inj member]
      exact sound.other new.ge present kept
  · rw [result]
    exact done (sound.set (fun _ member => by simp at member) fun _ member => by simp at member)
  · have made : s.id < m.issued.next := new ▸ Nat.lt_succ_self _
    have ran :=
      issued.run made (fun present kept => sound.other new.ge present kept) s.kind.listeners faults
    rw [failed] at ran
    rw [result]
    exact done (ran.set (fun _ member => by simp at member) fun _ member => by simp at member)

theorem rollbackReplaceLocked_error (faults : Nat → Option String) (oldName : String)
    (oldCfg : Config) (cause : Err) (m : Manager) :
    ∃ e m', rollbackReplaceLocked h faults oldName oldCfg cause m = (.error e, m') := by
  rcases rollbackReplaceLocked_cases (h := h) faults oldName oldCfg cause m with
    ⟨s, _, _, _, _, result⟩ | ⟨e, _, _, result⟩ | ⟨s, k, e, _, _, _, _, _, result⟩
  · exact ⟨_, _, result⟩
  · exact ⟨_, _, result⟩
  · exact ⟨_, _, result⟩

theorem onFiles_eq {α : Type} {x : Action Files α} {m : Manager} {result : Except Err α} {files : Files}
    (done : x m.files = (result, files)) : onFiles x m = (result, { m with files }) := by
  rw [onFiles, done]

/-- An action whose errors are rolled back ends there when it fails. -/
theorem handle_rollback {x : Action Manager Unit} {undo : Err → Action Manager Unit} {m' : Manager}
    {e : Err} (failed : x m = (.error e, m')) (ends : ∃ e' m'', undo e m' = (.error e', m''))
    (f : Unit → Action Manager Unit) :
    (x.handle undo >>= f) m = undo e m' := by
  obtain ⟨e', m'', undone⟩ := ends
  rw [Action.bind_error _ ((Action.handle_error _ failed).trans undone), undone]

/-- Everything that a replacement can do. -/
theorem replaceLocked_cases (faults : Faults) (oldName : String) (old : Service) (newName : String)
    (newCfg : Config) (m : Manager) :
    (∃ e, newCfg.Disabled = false ∧ NewService h.parsers newCfg = .error e ∧
      replaceLocked h faults oldName old newName newCfg m = (.error e, m)) ∨
    ∃ new : Service, new.id = m.next ∧ new.cfg = newCfg ∧ Built h new ∧
      ((∃ k e, k < new.kind.listeners.length ∧
        runListeners h new.id new.kind.listeners faults.bind (m.issued.closed old.id) =
          (.error e, (m.issued.closed old.id).bound new.id (new.kind.listeners.take k)) ∧
        replaceLocked h faults oldName old newName newCfg m =
          rollbackReplaceLocked h faults.rollback oldName old.cfg e
          ((m.issued.closed old.id).bound new.id (new.kind.listeners.take k))) ∨
      runListeners h new.id new.kind.listeners faults.bind (m.issued.closed old.id) =
        (.ok (), (m.issued.closed old.id).bound new.id new.kind.listeners) ∧
      ((∃ e files, replaceServiceFile h.dir faults.file old.cfg newCfg m.files = (.error e, files) ∧
        replaceLocked h faults oldName old newName newCfg m =
          rollbackReplaceLocked h faults.rollback oldName old.cfg e
          (({ (m.issued.closed old.id).bound new.id new.kind.listeners with files } :
            Manager).closed new.id)) ∨
      ∃ files, replaceServiceFile h.dir faults.file old.cfg newCfg m.files = (.ok (), files) ∧
        replaceLocked h faults oldName old newName newCfg m =
          (.ok (), (({ (m.issued.closed old.id).bound new.id new.kind.listeners with files } :
            Manager).withService
            oldName none).withService newName (some new)))) := by
  rcases prepareManagedService_cases (h := h) newCfg m with
    ⟨new, id, same, built, made⟩ | ⟨e, enabled, refused, made⟩
  · refine Or.inr ⟨new, id, same, built, ?_⟩
    have close : Close old m.issued = (.ok (), m.issued.closed old.id) := rfl
    rcases runListeners_cases (h := h) new.id new.kind.listeners faults.bind
      (m.issued.closed old.id) with
      ok | ⟨k, e, short, failed⟩
    · refine Or.inr ⟨ok, ?_⟩
      have ran := Action.handle_ok (fun e => rollbackReplaceLocked h faults.rollback oldName old.cfg e)
        (show runPreparedService h new faults.bind _ = _ from ok)
      rcases moved : replaceServiceFile h.dir faults.file old.cfg newCfg m.files with ⟨e | ⟨⟩, files⟩
      · have written := onFiles_eq (m := (m.issued.closed old.id).bound new.id new.kind.listeners) moved
        refine Or.inl ⟨e, files, rfl, ?_⟩
        rw [replaceLocked, Action.bind_ok _ made, Action.bind_ok _ close, Action.bind_ok _ ran,
          handle_rollback written]
        · exact Action.bind_ok _ rfl
        · exact rollbackReplaceLocked_error (h := h) faults.rollback oldName old.cfg e _
      · have written := onFiles_eq (m := (m.issued.closed old.id).bound new.id new.kind.listeners) moved
        refine Or.inr ⟨files, rfl, ?_⟩
        rw [replaceLocked, Action.bind_ok _ made, Action.bind_ok _ close, Action.bind_ok _ ran,
          Action.bind_ok _ (Action.handle_ok _ written)]
        rfl
    · refine Or.inl ⟨k, e, short, failed, ?_⟩
      rw [replaceLocked, Action.bind_ok _ made, Action.bind_ok _ close,
        handle_rollback (show runPreparedService h new faults.bind _ = _ from failed)]
      exact rollbackReplaceLocked_error (h := h) faults.rollback oldName old.cfg e _
  · refine Or.inl ⟨e, enabled, refused, ?_⟩
    rw [replaceLocked, Action.bind_error _ made]

theorem Registered.files {name : String} {s : Service} (held : Registered h m name s) (files : Files) :
    Registered h { m with files } name s := ⟨held.made, held.named, held.built, held.listening⟩

theorem Registered.withService {name : String} {s : Service} (held : Registered h m name s)
    (other : String) (t : Option Service) : Registered h (m.withService other t) name s :=
  ⟨held.made, held.named, held.built, held.listening⟩

theorem SoundBut.unset (sound : SoundBut h free m) (name : String) :
    SoundBut h (fun other => free other ∧ other ≠ name) (m.withService name none) :=
  sound.set (fun _ member => by simp at member) fun _ member => by simp at member

/-- With the old service closed, everything but its name is in order. -/
theorem Sound.released (sound : Sound h m) {name : String} {old : Service}
    (present : m.services name = some old) :
    SoundBut h (fun other => other = name) (m.closed old.id) := by
  refine (sound.mono fun _ => False.elim).closed fun {other s} found differ same => ?_
  exact differ (sound.distinct found present id id same)

theorem Sound.replaceLocked (sound : Sound h m) {oldName : String} {old : Service}
    (present : m.services oldName = some old) (faults : Faults) {newName : String} {newCfg : Config}
    (named : newCfg.Name = newName) :
    Sound h (replaceLocked h faults oldName old newName newCfg m).2 := by
  have oldNamed := (sound.registered present id).named
  have released := sound.released present
  rcases replaceLocked_cases (h := h) faults oldName old newName newCfg m with
    ⟨e, _, _, result⟩ | ⟨new, id, same, built,
      ⟨k, e, _, failed, result⟩ | ⟨ok, ⟨e, files, _, result⟩ | ⟨files, _, result⟩⟩⟩
  · rw [result]
    exact sound
  all_goals
    have made : new.id < (m.closed old.id).issued.next := id ▸ Nat.lt_succ_self _
    have ran := released.issued.run made
      (fun found differ => released.other id.ge found differ) new.kind.listeners faults.bind
    rw [result]
  · rw [show runListeners h new.id _ _ (m.closed old.id).issued = _ from failed] at ran
    exact ran.rollback faults.rollback oldNamed e
  · rw [show runListeners h new.id _ _ (m.closed old.id).issued = _ from ok] at ran
    exact ((ran.files files).closed fun found differ => released.other id.ge found differ).rollback
      faults.rollback oldNamed e
  · rw [show runListeners h new.id _ _ (m.closed old.id).issued = _ from ok] at ran
    have ready := registered_of_run released.ports id built
    rw [same, named] at ready
    refine (((ran.files files).unset oldName).set (fun t member => ?_)
      fun t member other s' found _ _ => ?_).mono fun _ both => both.1.2 both.1.1
    · rw [← Option.some.inj member]
      exact (ready.files files).withService oldName none
    · rw [← Option.some.inj member]
      have apart : other ≠ oldName := by
        rintro rfl
        simp [Manager.withService] at found
      exact released.other id.ge ((Function.update_of_ne apart _ _).symm.trans found) apart

theorem Sound.AddService (sound : Sound h m) (faults : Faults) (now : Int) (uuid : String)
    (config : Config) (createFile : Bool) :
    Sound h (AddService h faults now uuid config createFile m).2 := by
  simp only [Manager.AddService, Action.choose_apply]
  generalize normalizeConfig now uuid config = cfg
  by_cases exists_ : (m.services cfg.Name).isSome = true
  · rw [if_pos exists_]
    exact sound
  rw [if_neg exists_]
  rcases prepareManagedService_cases (h := h) cfg m with ⟨s, new, rfl, built, made⟩ | ⟨e, _, _, made⟩
  · have other : ∀ {name s'}, m.services name = some s' → ¬ False → s'.id ≠ s.id :=
      fun found kept => SoundBut.other sound new.ge found kept
    have ran := (SoundBut.issued sound).run (new ▸ Nat.lt_succ_self _) other s.kind.listeners faults.bind
    have ready := registered_of_run sound.ports new built
    rw [Action.bind_ok _ made]
    rcases runListeners_cases (h := h) s.id s.kind.listeners faults.bind m.issued with
      ok | ⟨k, e, _, failed⟩
    · rw [Action.bind_ok _ (show runPreparedService h s faults.bind _ = _ from ok)]
      rw [ok] at ran
      have added : ∀ files : Files, Sound h
          (({ m.issued.bound s.id s.kind.listeners with files } : Manager).withService s.cfg.Name
            (some s)) := by
        intro files
        refine ((ran.files files).set (fun t member => ?_) fun t member _ _ found kept _ => ?_).mono
          fun _ both => both.1
        · rw [← Option.some.inj member]
          exact ready.files files
        · rw [← Option.some.inj member]
          exact other found kept
      cases createFile
      · exact added m.files
      · simp only [persistService, if_true]
        rcases created : createServiceFile h.dir faults.file s.cfg m.files with ⟨e | ⟨⟩, files⟩
        · have written := onFiles_eq (m := m.issued.bound s.id s.kind.listeners) created
          rw [Action.bind_error _ ((Action.handle_error _ written).trans rfl)]
          exact (ran.files files).closed fun found kept => other found kept
        · have written := onFiles_eq (m := m.issued.bound s.id s.kind.listeners) created
          rw [Action.bind_ok _ (Action.handle_ok _ written)]
          exact added files
    · rw [Action.bind_error _ (show runPreparedService h s faults.bind _ = _ from failed)]
      rw [failed] at ran
      exact ran
  · rw [Action.bind_error _ made]
    exact sound

theorem Sound.RemoveService (sound : Sound h m) (faults : Faults) (name : String) :
    Sound h (RemoveService h faults name m).2 := by
  rw [Manager.RemoveService]
  rcases deleted : deleteServiceFile h.dir faults.file name m.files with ⟨e | ⟨⟩, files⟩
  · rw [Action.bind_error _ (onFiles_eq deleted)]
    exact SoundBut.files sound files
  · rw [Action.bind_ok _ (onFiles_eq deleted), removeLocked, Action.choose_apply]
    rcases present : m.services name with _ | s
    · dsimp only
      exact SoundBut.files sound files
    · dsimp only
      have released := ((sound.released present).files files).unset name
      exact released.mono fun _ both => both.2 both.1

end operations

/-! Changes of one service. -/

inductive Change where
  | replace (order : List String) (now : Int) (uuid : String) (config : Config)
  | setDisabled (name : String) (disabled : Bool)

namespace Change

def apply (h : Host) (faults : Faults) : Change → Action Manager Unit
  | .replace order now uuid config => ReplaceServiceByUUID h faults order now uuid config
  | .setDisabled name disabled => SetServiceDisabled h faults name disabled

/-- The service that the change is made on. -/
def target (m : Manager) : Change → Option (String × Service)
  | .replace order _ _ config => getServiceByUUIDLocked order config.UUID m
  | .setDisabled name _ => (m.services name).map (Prod.mk name)

/-- The name and the configuration that it is to get, unless there is nothing to change or the
new name is in use. -/
def wanted (m : Manager) (name : String) (old : Service) : Change → Option (String × Config)
  | .replace _ now uuid config =>
    let config :=
  { normalizeConfig now uuid config with UUID := old.cfg.UUID, CreatedAt := old.cfg.CreatedAt }
    if config.Name ≠ name ∧ (m.services config.Name).isSome then none else some (config.Name, config)
  | .setDisabled _ disabled =>
    if old.cfg.Disabled = disabled then none else some (name, { old.cfg with Disabled := disabled })

variable {m : Manager} {name : String} {old : Service}

theorem target_some {change : Change}
    (found : change.target m = some (name, old)) : m.services name = some old := by
  cases change with
  | replace order now uuid config =>
    obtain ⟨other, _, picked⟩ := List.exists_of_findSome?_eq_some found
    obtain ⟨t, kept, same⟩ := Option.map_eq_some_iff.mp picked
    obtain ⟨rfl, rfl⟩ := Prod.mk.inj same
    exact (Option.filter_eq_some_iff.mp kept).1
  | setDisabled name' disabled =>
    obtain ⟨t, present, same⟩ := Option.map_eq_some_iff.mp found
    obtain ⟨rfl, rfl⟩ := Prod.mk.inj same
    exact present

theorem apply_none (faults : Faults) {change : Change} (missing : change.target m = none) :
    ∃ e, change.apply h faults m = (.error e, m) := by
  cases change with
  | replace order now uuid config =>
    refine ⟨.failed "uuid not exist", ?_⟩
    rw [apply, ReplaceServiceByUUID, Action.choose_apply]
    rw [target] at missing
    simp only [missing]
    rfl
  | setDisabled name' disabled =>
    refine ⟨.failed "tun not exist", ?_⟩
    rw [apply, SetServiceDisabled, Action.choose_apply]
    rw [target, Option.map_eq_none_iff] at missing
    simp only [missing]
    rfl

theorem apply_unwanted (faults : Faults) {change : Change} (found : change.target m = some (name, old))
    (unwanted : change.wanted m name old = none) : ∃ result, change.apply h faults m = (result, m) := by
  cases change with
  | replace order now uuid config =>
    rw [apply, ReplaceServiceByUUID, Action.choose_apply]
    rw [target] at found
    simp only [found]
    simp only [wanted, ite_eq_left_iff, reduceCtorEq, imp_false, not_not] at unwanted
    rw [if_pos unwanted]
    exact ⟨_, rfl⟩
  | setDisabled name' disabled =>
    obtain ⟨t, present, same⟩ := Option.map_eq_some_iff.mp found
    obtain ⟨rfl, rfl⟩ := Prod.mk.inj same
    rw [apply, SetServiceDisabled, Action.choose_apply]
    simp only [present]
    simp only [wanted, ite_eq_left_iff, reduceCtorEq, imp_false, not_not] at unwanted
    rw [if_pos unwanted]
    exact ⟨_, rfl⟩

theorem apply_wanted (faults : Faults) {change : Change} (found : change.target m = some (name, old))
    {newName : String} {newCfg : Config} (plan : change.wanted m name old = some (newName, newCfg)) :
    change.apply h faults m = replaceLocked h faults name old newName newCfg m := by
  cases change with
  | replace order now uuid config =>
    rw [apply, ReplaceServiceByUUID, Action.choose_apply]
    rw [target] at found
    simp only [found]
    simp only [wanted, Option.ite_none_left_eq_some, Option.some.injEq, Prod.mk.injEq] at plan
    obtain ⟨clear, rfl, rfl⟩ := plan
    rw [if_neg clear]
  | setDisabled name' disabled =>
    obtain ⟨t, present, same⟩ := Option.map_eq_some_iff.mp found
    obtain ⟨rfl, rfl⟩ := Prod.mk.inj same
    rw [apply, SetServiceDisabled, Action.choose_apply]
    simp only [present]
    simp only [wanted, Option.ite_none_left_eq_some, Option.some.injEq, Prod.mk.injEq] at plan
    obtain ⟨differ, rfl, rfl⟩ := plan
    rw [if_neg differ]

theorem wanted_named {change : Change} (named : old.cfg.Name = name) {newName : String} {newCfg : Config}
    (plan : change.wanted m name old = some (newName, newCfg)) : newCfg.Name = newName := by
  cases change with
  | replace order now uuid config =>
    simp only [wanted, Option.ite_none_left_eq_some, Option.some.injEq, Prod.mk.injEq] at plan
    obtain ⟨_, rfl, rfl⟩ := plan
    rfl
  | setDisabled name' disabled =>
    simp only [wanted, Option.ite_none_left_eq_some, Option.some.injEq, Prod.mk.injEq] at plan
    obtain ⟨_, rfl, rfl⟩ := plan
    exact named

end Change

theorem Sound.change {m : Manager} (sound : Sound h m) (faults : Faults) (change : Change) :
    Sound h (change.apply h faults m).2 := by
  rcases found : change.target m with _ | ⟨name, old⟩
  · obtain ⟨e, result⟩ := Change.apply_none (h := h) faults found
    rw [result]
    exact sound
  · have present := Change.target_some found
    rcases plan : change.wanted m name old with _ | ⟨newName, newCfg⟩
    · obtain ⟨_, result⟩ := Change.apply_unwanted (h := h) faults found plan
      rw [result]
      exact sound
    · rw [Change.apply_wanted faults found plan]
      exact sound.replaceLocked present faults
        (Change.wanted_named (sound.registered present id).named plan)

/-! Runs. -/

inductive Event where
  | add (faults : Faults) (now : Int) (uuid : String) (config : Config) (createFile : Bool)
  | change (faults : Faults) (change : Change)
  | remove (faults : Faults) (name : String)
  | others (taken : List Listener)

/-- Other processes take and release ports between the operations, but none that is in use. -/
def step (h : Host) (m : Manager) : Event → Option Manager
  | .add faults now uuid config createFile => some (AddService h faults now uuid config createFile m).2
  | .change faults change => some (change.apply h faults m).2
  | .remove faults name => some (RemoveService h faults name m).2
  | .others taken =>
    if m.held.all fun owned => taken.all fun other => !h.conflicts owned.2 other then
      some { m with taken }
    else none

/-- `NewManager`, over any files and with any ports taken. -/
def NewManager (files : Files) (taken : List Listener) : Manager := ⟨fun _ => none, [], taken, files, 0⟩

def system (h : Host) : System Manager Event where
  start m := ∃ files taken, m = NewManager files taken
  step := step h

theorem sound_step {m m' : Manager} (sound : Sound h m) (event : Event)
    (next : step h m event = some m') :
    Sound h m' := by
  cases event with
  | add faults now uuid config createFile =>
    rw [← Option.some.inj next]
    exact sound.AddService faults now uuid config createFile
  | change faults change =>
    rw [← Option.some.inj next]
    exact sound.change faults change
  | remove faults name =>
    rw [← Option.some.inj next]
    exact sound.RemoveService faults name
  | others taken =>
    simp only [step, List.all_eq_true, Bool.not_eq_true', Option.ite_none_right_eq_some,
      Option.some.injEq] at next
    obtain ⟨clear, rfl⟩ := next
    refine ⟨⟨sound.ports.fresh, sound.ports.apart, clear⟩, fun present kept => ?_, sound.distinct⟩
    have held := sound.registered present kept
    exact ⟨held.made, held.named, held.built, held.listening⟩

theorem sound_of_reachable {m : Manager} (reachable : (system h).Reachable m) : Sound h m := by
  refine reachable.invariant (Sound h) ?_ fun m event m' sound next => sound_step sound event next
  rintro m ⟨files, taken, rfl⟩
  refine ⟨⟨fun _ member => ?_, List.Pairwise.nil, fun _ member => ?_⟩, fun present => ?_,
    fun present => ?_⟩
  · exact absurd member List.not_mem_nil
  · exact absurd member List.not_mem_nil
  · exact absurd present (by simp [NewManager])
  · exact absurd present (by simp [NewManager])

/-! Instances are never used again. -/

/-- What is registered was registered before, or was made since. -/
def Renewed (m m' : Manager) : Prop :=
  m.next ≤ m'.next ∧ ∀ name s, m'.services name = some s → m.services name = some s ∨ m.next ≤ s.id

namespace Renewed

variable (m₀ : Manager)

theorem listen (id : Nat) (fault : Option String) (l : Listener) :
    Action.Keeps (Renewed m₀) (listen h id fault l) := by
  intro m renewed
  rcases listen_cases (h := h) id fault l m with ⟨_, _, bind⟩ | ⟨_, e, bind⟩
  · rw [bind]
    exact renewed
  · rw [bind]
    exact renewed

theorem runListeners (id : Nat) (ls : List Listener) (faults : Nat → Option String) :
    Action.Keeps (Renewed m₀) (runListeners h id ls faults) := by
  induction ls generalizing faults with
  | nil => exact Action.Keeps.pure _
  | cons l rest ih => exact (listen m₀ id (faults 0) l).bind fun _ => ih _

theorem prepare (cfg : Config) : Action.Keeps (Renewed m₀) (prepareManagedService h cfg) := by
  intro m renewed
  rcases prepareManagedService_cases (h := h) cfg m with ⟨s, _, _, _, made⟩ | ⟨e, _, _, made⟩
  · rw [made]
    exact ⟨Nat.le_succ_of_le renewed.1, renewed.2⟩
  · rw [made]
    exact renewed

theorem prepare_new {cfg : Config} {m m' : Manager} {s : Service} (renewed : Renewed m₀ m)
    (ok : prepareManagedService h cfg m = (.ok s, m')) : m₀.next ≤ s.id := by
  rcases prepareManagedService_cases (h := h) cfg m with ⟨t, new, _, _, made⟩ | ⟨e, _, _, made⟩
  · rw [made] at ok
    obtain ⟨same, _⟩ := Prod.mk.inj ok
    rw [← Except.ok.inj same, new]
    exact renewed.1
  · rw [made] at ok
    simp at ok

theorem setService (name : String) {s : Option Service} (new : ∀ t ∈ s, m₀.next ≤ t.id) :
    Action.Keeps (Renewed m₀) (setService name s) := by
  intro m renewed
  refine ⟨renewed.1, fun other t present => ?_⟩
  by_cases same : other = name
  · subst same
    change Function.update m.services other s other = some t at present
    rw [Function.update_self] at present
    exact Or.inr (new t present)
  · exact renewed.2 other t ((Function.update_of_ne same _ _).symm.trans present)

theorem setService_none (name : String) : Action.Keeps (Renewed m₀) (Manager.setService name none) :=
  setService m₀ name fun _ member => by simp at member

theorem setService_new (name : String) {s : Service} (new : m₀.next ≤ s.id) :
    Action.Keeps (Renewed m₀) (Manager.setService name (some s)) :=
  setService m₀ name fun _ member => Option.some.inj member ▸ new

theorem close (s : Service) : Action.Keeps (Renewed m₀) (Close s) := fun _ renewed => renewed

theorem onFiles {α : Type} (x : Action Files α) : Action.Keeps (Renewed m₀) (onFiles x) :=
  fun _ renewed => renewed

theorem rollback (faults : Nat → Option String) (oldName : String) (oldCfg : Config) (cause : Err) :
    Action.Keeps (Renewed m₀) (rollbackReplaceLocked h faults oldName oldCfg cause) := by
  refine Action.Keeps.bind (Action.Keeps.handle ?_ fun e => ?_) fun _ => Action.Keeps.fail _
  · refine (prepare m₀ oldCfg).bind_of
      (fun _ _ _ renewed ok => prepare_new m₀ renewed ok) fun s new => ?_
    exact (runListeners m₀ s.id _ faults).bind fun _ => setService_new m₀ oldName new
  · exact (setService_none m₀ oldName).bind fun _ => Action.Keeps.fail _

theorem replaceLocked (faults : Faults) (oldName : String) (old : Service) (newName : String)
    (newCfg : Config) :
    Action.Keeps (Renewed m₀) (replaceLocked h faults oldName old newName newCfg) := by
  refine (prepare m₀ newCfg).bind_of (fun _ _ _ renewed ok => prepare_new m₀ renewed ok) fun s new => ?_
  refine (close m₀ old).bind fun _ => Action.Keeps.bind ?_ fun _ => Action.Keeps.bind ?_ fun _ => ?_
  · exact (runListeners m₀ s.id _ _).handle fun e => rollback m₀ _ _ _ e
  · exact (onFiles m₀ _).handle fun e => (close m₀ s).bind fun _ => rollback m₀ _ _ _ e
  · exact (setService_none m₀ oldName).bind fun _ => setService_new m₀ newName new

theorem AddService (faults : Faults) (now : Int) (uuid : String) (config : Config) (createFile : Bool) :
    Action.Keeps (Renewed m₀) (AddService h faults now uuid config createFile) := by
  rw [Manager.AddService]
  refine Action.Keeps.choose fun m => ?_
  split
  · exact Action.Keeps.fail _
  refine (prepare m₀ _).bind_of (fun _ _ _ renewed ok => prepare_new m₀ renewed ok) fun s new => ?_
  refine (runListeners m₀ s.id _ _).bind fun _ => Action.Keeps.bind ?_ fun _ => setService_new m₀ _ new
  unfold persistService
  split
  · exact (onFiles m₀ _).handle fun e => (close m₀ s).bind fun _ => Action.Keeps.fail _
  · exact Action.Keeps.pure _

theorem change (faults : Faults) (change : Change) :
    Action.Keeps (Renewed m₀) (change.apply h faults) := by
  cases change with
  | replace order now uuid config =>
    rw [Change.apply, ReplaceServiceByUUID]
    refine Action.Keeps.choose fun m => ?_
    split
    · exact Action.Keeps.fail _
    · dsimp only
      split
      · exact Action.Keeps.fail _
      · exact replaceLocked m₀ _ _ _ _ _
  | setDisabled name disabled =>
    rw [Change.apply, SetServiceDisabled]
    refine Action.Keeps.choose fun m => ?_
    split
    · exact Action.Keeps.fail _
    · split
      · exact Action.Keeps.pure _
      · exact replaceLocked m₀ _ _ _ _ _

theorem RemoveService (faults : Faults) (name : String) :
    Action.Keeps (Renewed m₀) (RemoveService h faults name) := by
  refine (onFiles m₀ _).bind fun _ => ?_
  rw [removeLocked]
  refine Action.Keeps.choose fun m => ?_
  split
  · exact Action.Keeps.pure _
  · exact (close m₀ _).bind fun _ => setService_none m₀ name

end Renewed

theorem renewed_step {m m' : Manager} {event : Event}
    (next : step h m event = some m') : Renewed m m' := by
  have unchanged : Renewed m m := ⟨Nat.le_refl _, fun _ _ present => Or.inl present⟩
  cases event with
  | add faults now uuid config createFile =>
    rw [← Option.some.inj next]
    exact Renewed.AddService m faults now uuid config createFile m unchanged
  | change faults change =>
    rw [← Option.some.inj next]
    exact Renewed.change m faults change m unchanged
  | remove faults name =>
    rw [← Option.some.inj next]
    exact Renewed.RemoveService m faults name m unchanged
  | others taken =>
    simp only [step, Option.ite_none_right_eq_some, Option.some.injEq] at next
    rw [← next.2]
    exact unchanged

/-! A host with one port taken by another process, and a manager there with one service. -/

def loopback : Host where
  parsers := ⟨fun _ _ => none, fun _ => 0, fun _ => none⟩
  dir := ⟨"tunnels", fun _ => .ok [], "1", "1"⟩
  conflicts a b := a = b
  symmetric _ _ := by simp only [eq_comm]

def noFaults : Faults := ⟨fun _ => none, fun _ => none, fun _ => none⟩

def configOf (mode input output : String) : Config :=
  ⟨"u", "a", false, mode, input, "", "", "", "", output, "", "", "", "", 1⟩

def startedWith (config : Config) : Manager :=
  (AddService loopback noFaults 1 "u" config false
    (NewManager (fun _ => none) [⟨.tcp, "127.0.0.1:7003"⟩])).2

theorem startedWith_reachable (config : Config) : (system loopback).Reachable (startedWith config) := by
  have started : (system loopback).Run (fun _ _ => True) []
      (NewManager (fun _ => none) [⟨.tcp, "127.0.0.1:7003"⟩]) :=
    .start ⟨_, _, rfl⟩
  exact ⟨[.add noFaults 1 "u" config false], started.step trivial rfl⟩

def tunnel (port : String) : Config := configOf "" ("tcp@127.0.0.1:" ++ port) "tcp@127.0.0.1:1"

end Manager
end Gotun.Tun
