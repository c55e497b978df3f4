import Gotun.Tun.ManagerRuns
import Mathlib.Data.List.Pairwise

/-! Replacing a service. The old service is closed before the new one starts; when a step fails
the old one is brought back, which works unless the new one was left with one of its two
listeners bound. -/

namespace Gotun.Tun
namespace Manager

open Gotun.Lib

variable {h : Host} {m : Manager} {name : String} {old : Service}

/-- The service is registered with its old configuration, exactly the listeners of before are
bound, and its file is as it was. -/
structure Restored (h : Host) (m m' : Manager) (name : String) (old : Service) : Prop where
  registered : ∃ s, m'.services name = some s ∧ s.cfg = old.cfg ∧ m'.boundBy s.id = old.kind.listeners
  bound : (m'.held.map Prod.snd).Perm (m.held.map Prod.snd)
  file : m'.files (serviceFile h.dir.tunDir name) = m.files (serviceFile h.dir.tunDir name)

/-- The new service is a frps whose input can be bound once the old listeners are released, but
whose worker cannot. -/
def HalfBound (h : Host) (faults : Faults) (m : Manager) (old : Service) (newCfg : Config) : Prop :=
  newCfg.Disabled = false ∧ ∃ input worker, NewService h.parsers newCfg = .ok (.frps input worker) ∧
    (faults.bind 0 = none ∧ (m.closed old.id).bindable h input = true) ∧
    ¬ (faults.bind 1 = none ∧ ((m.closed old.id).bound m.next [input]).bindable h worker = true)

theorem Restored.unchanged (sound : Sound h m)
    (present : m.services name = some old) : Restored h m m name old :=
  ⟨⟨old, present, rfl, (sound.registered present id).listening⟩, List.Perm.refl _, rfl⟩

/-- The kind of a service follows from its configuration. -/
theorem Built.kind_eq {s t : Service} (built : Built h s) (built' : Built h t) (same : s.cfg = t.cfg) :
    s.kind = t.kind := by
  rcases built with ⟨disabled, kind⟩ | ⟨enabled, kind⟩ <;> rcases built' with
    ⟨disabled', kind'⟩ | ⟨enabled', kind'⟩
  · rw [kind, kind']
  · rw [same, enabled'] at disabled
    contradiction
  · rw [same, disabled'] at enabled
    contradiction
  · rw [same, kind'] at kind
    exact (Except.ok.inj kind).symm

/-- Once the old service is closed, its listeners can be bound again. -/
theorem bindable_again (sound : Sound h m) (present : m.services name = some old) {l : Listener}
    (listener : l ∈ old.kind.listeners) : (m.closed old.id).bindable h l = true := by
  have symm : Std.Symm fun a b : Nat × Listener => h.conflicts a.2 b.2 = false :=
    ⟨fun a b apart => (h.symmetric b.2 a.2).trans apart⟩
  rw [← (sound.registered present id).listening] at listener
  obtain ⟨owned, mine, rfl⟩ := List.mem_map.mp listener
  obtain ⟨held, owner⟩ := List.mem_filter.mp mine
  refine (bindable_iff _ _).mpr ⟨fun other rest => ?_, sound.ports.clear owned held⟩
  obtain ⟨held', owner'⟩ := List.mem_filter.mp rest
  refine (List.pairwise_map.mp sound.ports.apart).forall held held' ?_
  rintro rfl
  simp at owner owner'
  exact owner' owner

/-- A rollback that starts with the old listeners released and nothing else bound. -/
theorem rollback_restores (sound : Sound h m) (present : m.services name = some old)
    {faults : Nat → Option String} (calm : ∀ k, faults k = none) {m₀ m' : Manager} {cause e : Err}
    (rolled : rollbackReplaceLocked h faults name old.cfg cause m₀ = (.error e, m'))
    (held : m₀.held = (m.closed old.id).held) (taken : m₀.taken = m.taken)
    (later : m.next ≤ m₀.next)
    (file : m₀.files (serviceFile h.dir.tunDir name) = m.files (serviceFile h.dir.tunDir name)) :
    Restored h m m' name old := by
  have entry := sound.registered present id
  have bindable : ∀ l ∈ old.kind.listeners, m₀.issued.bindable h l = true := by
    intro l listener
    have again := bindable_again sound present listener
    simp only [Manager.bindable, issued, held, taken] at again ⊢
    exact again
  have apart : old.kind.listeners.Pairwise fun a b => h.conflicts a b = false := by
    rw [← entry.listening]
    exact sound.ports.apart.sublist (List.filter_sublist.map Prod.snd)
  rcases rollbackReplaceLocked_cases (h := h) faults name old.cfg cause m₀ with
    ⟨s, new, same, built, ok, result⟩ | ⟨e', enabled, refused, _⟩ |
      ⟨s, k, e', new, same, built, short, failed, _⟩
  · have kind := built.kind_eq entry.built same
    rw [result] at rolled
    obtain ⟨_, rfl⟩ := Prod.mk.inj rolled
    refine ⟨⟨s, Function.update_self _ _ _, same, ?_⟩, ?_, file⟩
    · rw [← kind]
      refine boundBy_bound_self (fun owned member => ?_) _
      rw [show m₀.issued.held = m₀.held from rfl, held] at member
      have old_id := sound.ports.fresh owned (List.mem_filter.mp member).1
      exact Nat.ne_of_lt (Nat.lt_of_lt_of_le old_id (later.trans new.ge))
    · show ((m₀.held ++ s.kind.listeners.map (Prod.mk s.id)).map Prod.snd).Perm _
      rw [held, kind, ← entry.listening, List.map_append, List.map_map]
      show ((m.held.filter fun owned => owned.1 ≠ old.id).map Prod.snd ++
        (m.boundBy old.id).map id).Perm _
      rw [List.map_id, boundBy, ← List.map_append]
      refine List.Perm.map Prod.snd (List.perm_append_comm.trans ?_)
      have parts :=
        List.filter_append_perm (fun owned : Nat × Listener => decide (owned.1 = old.id)) m.held
      simpa using parts
  · rcases entry.built with ⟨disabled, _⟩ | ⟨_, kind⟩
    · rw [disabled] at enabled
      contradiction
    · rw [kind] at refused
      contradiction
  · have kind := built.kind_eq entry.built same
    rw [kind, runListeners_ok calm apart bindable] at failed
    simp at failed

/-- A rollback that finds one listener more than the old ones released. -/
theorem rollback_half (sound : Sound h m) (present : m.services name = some old)
    {faults : Nat → Option String} {m₀ m' : Manager} {cause e : Err} {extra : Nat × Listener}
    (held : m₀.held = (m.closed old.id).held ++ [extra])
    (rolled : rollbackReplaceLocked h faults name old.cfg cause m₀ = (.error e, m')) :
    ¬ Restored h m m' name old := by
  have entry := sound.registered present id
  intro restored
  obtain ⟨t, kept, _, _⟩ := restored.registered
  rcases rollbackReplaceLocked_cases (h := h) faults name old.cfg cause m₀ with
    ⟨s, new, same, built, _, result⟩ | ⟨e', _, _, result⟩ | ⟨s, k, e', _, _, _, _, _, result⟩
  · rw [result] at rolled
    obtain ⟨_, rfl⟩ := Prod.mk.inj rolled
    have count := restored.bound.length_eq
    have kind := congrArg List.length
      (entry.listening.trans (congrArg Kind.listeners (built.kind_eq entry.built same).symm))
    have parts := List.length_eq_length_filter_add (l := m.held) fun owned => decide (owned.1 = old.id)
    simp only [withService, Manager.bound, issued, held, closed, boundBy, List.length_map,
      List.length_append, List.length_singleton, decide_not, ne_eq] at count kind parts
    omega
  · rw [result] at rolled
    obtain ⟨_, rfl⟩ := Prod.mk.inj rolled
    simp [withService] at kept
  · rw [result] at rolled
    obtain ⟨_, rfl⟩ := Prod.mk.inj rolled
    simp [withService] at kept

/-- A frps binds both listeners, the first only, or none. -/
theorem run_frps_cases (id : Nat) (input worker : Listener) (faults : Nat → Option String)
    (m : Manager) :
    (faults 0 = none ∧ m.bindable h input = true) ∧
      (faults 1 = none ∧ (m.bound id [input]).bindable h worker = true) ∧
      runListeners h id [input, worker] faults m = (.ok (), m.bound id [input, worker]) ∨
    (faults 0 = none ∧ m.bindable h input = true) ∧
      ¬ (faults 1 = none ∧ (m.bound id [input]).bindable h worker = true) ∧
      (∃ e, runListeners h id [input, worker] faults m = (.error e, m.bound id [input])) ∨
    ¬ (faults 0 = none ∧ m.bindable h input = true) ∧
      ∃ e, runListeners h id [input, worker] faults m = (.error e, m) := by
  rw [runListeners]
  rcases listen_cases (h := h) id (faults 0) input m with ⟨fine, free, bind⟩ | ⟨busy, e, bind⟩
  · rw [Action.bind_ok _ bind, runListeners]
    rcases listen_cases (h := h) id (faults 1) worker (m.bound id [input]) with
      ⟨fine', free', bind'⟩ | ⟨busy', e, bind'⟩
    · rw [Action.bind_ok _ bind', bound_bound]
      exact Or.inl ⟨⟨fine, free⟩, ⟨fine', free'⟩, rfl⟩
    · rw [Action.bind_error _ bind']
      exact Or.inr (Or.inl ⟨⟨fine, free⟩, busy', e, rfl⟩)
  · rw [Action.bind_error _ bind]
    exact Or.inr (Or.inr ⟨busy, e, rfl⟩)

/-- Whether the new service is left half bound shows in its `Run`. -/
theorem HalfBound.run {faults : Faults} {new : Service} (half : HalfBound h faults m old new.cfg)
    (id : new.id = m.next) (built : Built h new) :
    ∃ input e, runListeners h new.id new.kind.listeners faults.bind (m.issued.closed old.id) =
      (.error e, (m.issued.closed old.id).bound new.id [input]) := by
  obtain ⟨enabled, input, worker, kind, first, second⟩ := half
  have frps : new.kind = .frps input worker := by
    rcases built with ⟨disabled, _⟩ | ⟨_, kind'⟩
    · rw [disabled] at enabled
      contradiction
    · rw [kind] at kind'
      exact (Except.ok.inj kind').symm
  rw [frps, id]
  rcases run_frps_cases (h := h) m.next input worker faults.bind (m.issued.closed old.id) with
    ⟨_, both, _⟩ | ⟨_, _, e, failed⟩ | ⟨none_bound, _⟩
  · exact absurd both second
  · exact ⟨input, e, failed⟩
  · exact absurd first none_bound

/-- A `Run` that fails otherwise has bound nothing. -/
theorem run_unbound {faults : Faults} {new : Service} (whole : ¬ HalfBound h faults m old new.cfg)
    (id : new.id = m.next) (built : Built h new) {e : Err} {m₁ : Manager}
    (failed : runListeners h new.id new.kind.listeners faults.bind
      (m.issued.closed old.id) = (.error e, m₁)) :
    m₁ = m.issued.closed old.id := by
  rcases runListeners_cases (h := h) new.id new.kind.listeners faults.bind (m.issued.closed old.id) with
    ok | ⟨k, e', short, failed'⟩
  · rw [ok] at failed
    simp at failed
  rcases built with ⟨_, kind⟩ | ⟨enabled, kind⟩
  · rw [kind] at short
    exact absurd short (Nat.not_lt_zero k)
  · rw [failed'] at failed
    obtain ⟨_, rfl⟩ := Prod.mk.inj failed
    rcases shape : new.kind with input | _ | ⟨input, worker⟩ | _
    · rw [shape] at short
      rw [Nat.lt_one_iff.mp short, List.take_zero, bound_nil]
    · rw [shape] at short
      exact absurd short (Nat.not_lt_zero k)
    · rw [shape, id] at failed'
      rw [id]
      rcases run_frps_cases (h := h) m.next input worker faults.bind (m.issued.closed old.id) with
        ⟨_, _, ok⟩ | ⟨first, second, _⟩ | ⟨_, e, none_bound⟩
      · rw [show Kind.listeners (.frps input worker) = [input, worker] from rfl, ok] at failed'
        simp at failed'
      · exact absurd ⟨enabled, input, worker, shape ▸ kind, first, second⟩ whole
      · rw [show Kind.listeners (.frps input worker) = [input, worker] from rfl, none_bound] at failed'
        exact (Prod.mk.inj failed').2.symm
    · rw [shape] at short
      exact absurd short (Nat.not_lt_zero k)

/-- What a closed instance had bound is released. -/
theorem closed_bound {id : Nat} (unused : ∀ owned ∈ m.held, owned.1 ≠ id) (ls : List Listener) :
    ((m.bound id ls).closed id).held = m.held := by
  have kept : m.held.filter (fun owned => owned.1 ≠ id) = m.held := by
    rw [List.filter_eq_self]
    intro owned member
    simpa using unused owned member
  have gone : (ls.map (Prod.mk id)).filter (fun owned => owned.1 ≠ id) = [] := by
    rw [List.filter_eq_nil_iff]
    intro owned member
    obtain ⟨l, _, rfl⟩ := List.mem_map.mp member
    simp
  rw [closed, Manager.bound, List.filter_append, kept, gone, List.append_nil]

theorem replaceLocked_restores_iff (sound : Sound h m) (present : m.services name = some old)
    {faults : Faults} (single : Single faults.file) (calm : ∀ k, faults.rollback k = none)
    {newName : String} {newCfg : Config} {e : Err} {m' : Manager}
    (failed : replaceLocked h faults name old newName newCfg m = (.error e, m')) :
    Restored h m m' name old ↔ ¬ HalfBound h faults m old newCfg := by
  have named := (sound.registered present id).named
  rcases replaceLocked_cases (h := h) faults name old newName newCfg m with
    ⟨e', _, refused, result⟩ | ⟨new, id, rfl, built, ⟨k, e', _, run, result⟩ | ⟨run, rest⟩⟩
  · rw [result] at failed
    obtain ⟨_, rfl⟩ := Prod.mk.inj failed
    refine iff_of_true (Restored.unchanged sound present) ?_
    rintro ⟨_, input, worker, kind, _⟩
    rw [refused] at kind
    contradiction
  · rw [result] at failed
    by_cases half : HalfBound h faults m old new.cfg
    · obtain ⟨input, e₁, bound⟩ := half.run id built
      rw [run] at bound
      rw [(Prod.mk.inj bound).2] at failed
      exact iff_of_false (rollback_half sound present rfl failed) fun whole => whole half
    · rw [run_unbound half id built run] at failed
      exact iff_of_true (rollback_restores sound present calm failed rfl rfl (Nat.le_succ _) rfl) half
  · have whole : ¬ HalfBound h faults m old new.cfg := by
      intro half
      obtain ⟨input, e₁, bound⟩ := half.run id built
      rw [run] at bound
      simp at bound
    refine iff_of_true ?_ whole
    rcases rest with ⟨e', files, moved, result⟩ | ⟨files, _, result⟩
    · rw [result] at failed
      have unused : ∀ owned ∈ (m.issued.closed old.id).held, owned.1 ≠ new.id := by
        intro owned member
        exact Nat.ne_of_lt (id ▸ sound.ports.fresh owned (List.mem_filter.mp member).1)
      have file := replaceServiceFile_error single moved name
      exact rollback_restores sound present calm failed (closed_bound unused _) rfl (Nat.le_succ _) file
    · rw [result] at failed
      simp at failed

/-- The change gets as far as a new service that is left half bound. -/
def Change.LeavesHalfBound (h : Host) (faults : Faults) (m : Manager) (name : String)
    (old : Service) (change : Change) :
    Prop :=
  ∃ newName newCfg, change.wanted m name old = some (newName, newCfg) ∧
    HalfBound h faults m old newCfg

/-- In every state that the manager reaches, a change that fails at one point puts the service
back as it was if and only if the new service is not left half bound. -/
theorem failed_change_restores_iff (reachable : (system h).Reachable m) {change : Change}
    (target : change.target m = some (name, old)) {faults : Faults} (single : Single faults.file)
    (calm : ∀ k, faults.rollback k = none) {e : Err} {m' : Manager}
    (failed : change.apply h faults m = (.error e, m')) :
    Restored h m m' name old ↔ ¬ change.LeavesHalfBound h faults m name old := by
  have sound := sound_of_reachable reachable
  have present := Change.target_some target
  rcases plan : change.wanted m name old with _ | ⟨newName, newCfg⟩
  · obtain ⟨result, unchanged⟩ := Change.apply_unwanted (h := h) faults target plan
    rw [unchanged] at failed
    obtain ⟨_, rfl⟩ := Prod.mk.inj failed
    refine iff_of_true (Restored.unchanged sound present) ?_
    rintro ⟨newName, newCfg, wanted, _⟩
    rw [plan] at wanted
    contradiction
  · rw [Change.apply_wanted faults target plan] at failed
    rw [replaceLocked_restores_iff sound present single calm failed, not_iff_not]
    constructor
    · exact fun half => ⟨newName, newCfg, plan, half⟩
    · rintro ⟨newName', newCfg', wanted, half⟩
      rw [plan] at wanted
      obtain ⟨rfl, rfl⟩ := Prod.mk.inj (Option.some.inj wanted)
      exact half

/-! A service to be moved onto a port that is taken. -/

def movedTo (config : Config) : Change := .replace ["a"] 1 "" config

/-- The input of a tunnel is moved to the taken port, and back again. -/
theorem server_moved_back :
    Restored loopback (startedWith (tunnel "7001"))
      ((movedTo (tunnel "7003")).apply loopback noFaults (startedWith (tunnel "7001"))).2 "a"
      ⟨0, tunnel "7001", .server ⟨.tcp, "127.0.0.1:7001"⟩⟩ := by
  have target : (movedTo (tunnel "7003")).target (startedWith (tunnel "7001")) =
      some ("a", ⟨0, tunnel "7001", .server ⟨.tcp, "127.0.0.1:7001"⟩⟩) := by decide +kernel
  have busy : ((movedTo (tunnel "7003")).apply loopback noFaults (startedWith (tunnel "7001"))).1 =
      .error (.failed "listen 127.0.0.1:7003: bind: address already in use") := by decide +kernel
  generalize result : (movedTo (tunnel "7003")).apply loopback noFaults
    (startedWith (tunnel "7001")) = outcome at busy ⊢
  obtain ⟨failed, after⟩ := outcome
  obtain rfl : failed = _ := busy
  refine (failed_change_restores_iff (startedWith_reachable _) target
    (fun _ _ fault => absurd rfl fault) (fun _ => rfl) result).mpr ?_
  rintro ⟨newName, newCfg, wanted, _, input, worker, frps, _⟩
  have moved : (movedTo (tunnel "7003")).wanted (startedWith (tunnel "7001")) "a"
      ⟨0, tunnel "7001", .server ⟨.tcp, "127.0.0.1:7001"⟩⟩ = some ("a", tunnel "7003") := by
    decide +kernel
  have server : NewService loopback.parsers (tunnel "7003") =
      .ok (.server ⟨.tcp, "127.0.0.1:7003"⟩) := by
    decide +kernel
  rw [moved] at wanted
  obtain ⟨rfl, rfl⟩ := Prod.mk.inj (Option.some.inj wanted)
  rw [server] at frps
  simp at frps

def relay (workerPort : String) : Config :=
  configOf "frps" "tcp@127.0.0.1:7001" ("tcp@127.0.0.1:" ++ workerPort)

/-- The worker port of a frps is moved to the taken one. The new frps keeps its input, so that
the old one cannot be brought back and is dropped. -/
theorem frps_dropped :
    (system loopback).Reachable (startedWith (relay "7002")) ∧
    (movedTo (relay "7003")).target (startedWith (relay "7002")) =
      some ("a", ⟨0, relay "7002", .frps ⟨.tcp, "127.0.0.1:7001"⟩ ⟨.tcp, "127.0.0.1:7002"⟩⟩) ∧
    ∃ m', (movedTo (relay "7003")).apply loopback noFaults (startedWith (relay "7002")) =
        (.error (.failed ("listen 127.0.0.1:7003: bind: address already in use; rollback failed: " ++
          "listen 127.0.0.1:7001: bind: address already in use")), m') ∧
      m'.services "a" = none ∧ m'.held = [(1, ⟨.tcp, "127.0.0.1:7001"⟩)] ∧
      ¬ Restored loopback (startedWith (relay "7002")) m' "a"
        ⟨0, relay "7002", .frps ⟨.tcp, "127.0.0.1:7001"⟩ ⟨.tcp, "127.0.0.1:7002"⟩⟩ := by
  have seen : ((movedTo (relay "7003")).apply loopback noFaults (startedWith (relay "7002"))).1 =
        .error (.failed ("listen 127.0.0.1:7003: bind: address already in use; rollback failed: " ++
          "listen 127.0.0.1:7001: bind: address already in use")) ∧
      ((movedTo (relay "7003")).apply loopback noFaults (startedWith (relay "7002"))).2.services
        "a" = none ∧
      ((movedTo (relay "7003")).apply loopback noFaults (startedWith (relay "7002"))).2.held =
        [(1, ⟨.tcp, "127.0.0.1:7001"⟩)] := by decide +kernel
  refine ⟨startedWith_reachable _, by decide +kernel, ?_⟩
  generalize (movedTo (relay "7003")).apply loopback noFaults
    (startedWith (relay "7002")) = outcome at seen ⊢
  obtain ⟨result, m'⟩ := outcome
  obtain ⟨rfl, dropped, held⟩ := seen
  refine ⟨m', rfl, dropped, held, fun restored => ?_⟩
  obtain ⟨s, present, _⟩ := restored.registered
  rw [dropped] at present
  contradiction

end Manager
end Gotun.Tun
