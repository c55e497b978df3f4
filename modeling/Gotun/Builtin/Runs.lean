import Gotun.Builtin.Manager

/-! What the operations of the built-in services can do, and what is known of the instances in every
reachable state. -/

namespace Gotun.Builtin

open Gotun.Lib
open Gotun.Tun (FileKind FileScript Files)

namespace Manager

/-- The manager after a `Close`, whatever it returns. -/
def closed (m : Manager) (closing : Closing) (i : Service) : Manager := (Close closing i m).2

/-- A `Close` does something, and returns an error. -/
def CloseFails (m : Manager) (closing : Closing) (i : Service) : Prop :=
  i.kind ≠ .disabled ∧ m.started i.id = true ∧ closing.err ≠ none

def spawned (m : Manager) (i : Service) : Manager :=
  { m with next := m.next + 1, goroutines := m.goroutines ++ [i] }

variable {m m' : Manager} {closing : Closing} {i : Service}

theorem close_ok (fine : ¬ m.CloseFails closing i) :
    Close closing i m = (.ok (), m.closed closing i) := by
  refine Prod.ext ?_ rfl
  unfold Close
  by_cases idle : i.kind = .disabled ∨ m.started i.id = false
  · rw [if_pos idle]
  · have err : closing.err = none := by
      by_contra some_
      exact fine ⟨fun disabled => idle (.inl disabled), by simpa using fun off => idle (.inr off), some_⟩
    rw [if_neg idle, err]
    rfl

theorem close_error (fails : m.CloseFails closing i) :
    ∃ e, Close closing i m = (.error e, m.closed closing i) := by
  obtain ⟨enabled, started, err⟩ := fails
  obtain ⟨text, err⟩ := Option.ne_none_iff_exists'.mp err
  refine ⟨.failed text, Prod.ext ?_ rfl⟩
  unfold Close
  rw [if_neg (by simp [enabled, started]), err]
  rfl

/-- Nothing but listeners changes. -/
theorem closed_eq (m : Manager) (closing : Closing) (i : Service) :
    ∃ bound, m.closed closing i = { m with bound } := by
  unfold closed Close
  split_ifs
  · exact ⟨m.bound, rfl⟩
  · exact ⟨Function.update m.bound i.id false, rfl⟩
  · exact ⟨m.bound, rfl⟩

@[simp] theorem closed_services : (m.closed closing i).services = m.services := by
  obtain ⟨bound, same⟩ := closed_eq m closing i
  rw [same]

@[simp] theorem closed_files : (m.closed closing i).files = m.files := by
  obtain ⟨bound, same⟩ := closed_eq m closing i
  rw [same]

@[simp] theorem closed_next : (m.closed closing i).next = m.next := by
  obtain ⟨bound, same⟩ := closed_eq m closing i
  rw [same]

@[simp] theorem closed_goroutines : (m.closed closing i).goroutines = m.goroutines := by
  obtain ⟨bound, same⟩ := closed_eq m closing i
  rw [same]

@[simp] theorem closed_started : (m.closed closing i).started = m.started := by
  obtain ⟨bound, same⟩ := closed_eq m closing i
  rw [same]

/-- Only the listener of the instance is released. -/
theorem closed_bound {id : Nat} : (m.closed closing i).bound id = true ↔ m.bound id = true ∧
    ¬ (id = i.id ∧ i.kind ≠ .disabled ∧ m.started id = true ∧ closing.released = true) := by
  unfold closed Close
  split_ifs with idle released
  · refine ⟨fun bound => ⟨bound, ?_⟩, And.left⟩
    rintro ⟨rfl, enabled, started, _⟩
    rcases idle with disabled | off
    · exact enabled disabled
    · rw [off] at started
      cases started
  · obtain ⟨enabled, started⟩ := not_or.mp idle
    by_cases same : id = i.id
    · subst same
      simp [enabled, released, by simpa using started]
    · simp [same]
  · simp [released]

theorem closed_withFiles (files : Files) :
    closed { m with files } closing i = { m.closed closing i with files } := by
  unfold closed Close
  dsimp only
  split_ifs <;> rfl

theorem closed_withNext (next : Nat) :
    closed { m with next } closing i = { m.closed closing i with next } := by
  unfold closed Close
  dsimp only
  split_ifs <;> rfl

/-! The operations, by what they leave. -/

variable (site : Site) (env : Env)

/-- The file of an operation that has started its new instance is written, if there is to be one. -/
def Writes (m : Manager) : Begun → Prop
  | .adding new createFile => createFile = true →
    ∃ b files, (site.serviceFiles.createFile (place site env) env.faults new.cfg).exec m.files =
      (.ok b, files)
  | .replacing _ old _ new =>
    ∃ b files, (site.serviceFiles.replaceFile (place site env) env.faults old.cfg new.cfg).exec
      m.files = (.ok b, files)

/-- A start that ends the operation, or that leaves the file to be written. -/
inductive Started (m : Manager) : Option Begun → Manager → Prop
  | kept (files : Files) (next : Nat) (later : m.next ≤ next) : Started m none { m with files, next }
  | failed {name : String} {i : Service} (files : Files) (next : Nat) (later : m.next ≤ next)
      (there : m.services name = some i)
      (fails : m.CloseFails env.closing i) : Started m none { m.closed env.closing i with files, next }
  | removed {name : String} {i : Service} (files : Files) (there : m.services name = some i)
      (fine : ¬ m.CloseFails env.closing i) :
      Started m none
        { m.closed env.closing i with files, services := Function.update m.services name none }
  | adding {new : Service} (createFile : Bool) (free : m.services new.cfg.Name = none)
      (fresh : new.id = m.next)
      (kind : new.kind = .disabled ↔ new.cfg.Disabled = true) :
      Started m (some (.adding new createFile)) (m.spawned new)
  | replacing {oldName newName : String} {old new : Service} (there : m.services oldName = some old)
      (name : new.cfg.Name = newName) (free : newName = oldName ∨ m.services newName = none)
      (fresh : new.id = m.next)
      (kind : new.kind = .disabled ↔ new.cfg.Disabled = true) (fine : ¬ m.CloseFails env.closing old) :
      Started m (some (.replacing oldName old newName new)) ((m.closed env.closing old).spawned new)

/-- The new instance is closed again, or is registered. -/
inductive Finished (m : Manager) : Begun → Manager → Prop
  | dropped (begun : Begun) (files : Files) (fails : ¬ Writes site env m begun) :
      Finished m begun { m.closed env.closingNew begun.new with files }
  | added (new : Service) (createFile : Bool) (files : Files)
      (writes : Writes site env m (.adding new createFile)) :
      Finished m (.adding new createFile)
        { m with files, services := Function.update m.services new.cfg.Name (some new) }
  | replaced (oldName : String) (old : Service) (newName : String) (new : Service) (files : Files)
      (writes : Writes site env m (.replacing oldName old newName new)) :
      Finished m (.replacing oldName old newName new)
        { m with
          files
          services := Function.update (Function.update m.services oldName none) newName (some new) }

variable {site env}

theorem prepare_error {cfg : Config} {e : Err} (refused : prepareManagedService cfg = .error e)
    (m : Manager) :
    prepare cfg m = (.error e, m) := by
  rw [prepare, refused]

theorem prepare_ok {cfg : Config} {make : Nat → Service}
    (made : prepareManagedService cfg = .ok make) (m : Manager) :
    prepare cfg m = (.ok (make m.next), { m with next := m.next + 1 }) := by
  rw [prepare, made]

/-- A new instance has the configuration that it is made of. -/
theorem prepared {cfg : Config} {make : Nat → Service} (made : prepareManagedService cfg = .ok make)
    (id : Nat) :
    (make id).id = id ∧ (make id).cfg = cfg ∧ ((make id).kind = .disabled ↔ cfg.Disabled = true) := by
  unfold prepareManagedService at made
  split_ifs at made with disabled
  · cases made
    refine ⟨rfl, ?_, by simp [disabled]⟩
    rw [← disabled]
  · unfold NewService at made
    split at made <;> cases made <;> exact ⟨rfl, rfl, by simp [disabled]⟩

theorem startAdd_cases {config : Config} {createFile : Bool} {result : Except Err Begun}
    (ran : startAdd env config createFile m = (result, m')) : Started env m result.toOption m' := by
  unfold startAdd at ran
  rw [Action.choose_apply] at ran
  split_ifs at ran with taken
  · cases ran
    exact .kept m.files m.next le_rfl
  · cases made : prepareManagedService (normalizeConfig env config) with
    | error e =>
      rw [Action.bind_error _ (prepare_error made m)] at ran
      cases ran
      exact .kept m.files m.next le_rfl
    | ok make =>
      rw [Action.bind_ok _ (prepare_ok made m)] at ran
      obtain ⟨id, cfg, kind⟩ := prepared made m.next
      cases ran
      exact .adding createFile (by simpa [cfg] using taken) id (by rw [cfg]; exact kind)

theorem startReplace_cases {oldName newName : String} {old : Service} {newCfg : Config}
    {result : Except Err Begun} (there : m.services oldName = some old)
    (name : newCfg.Name = newName) (free : newName = oldName ∨ m.services newName = none)
    (ran : startReplace env oldName old newName newCfg m = (result, m')) :
    Started env m result.toOption m' := by
  unfold startReplace at ran
  cases made : prepareManagedService newCfg with
  | error e =>
    rw [Action.bind_error _ (prepare_error made m)] at ran
    cases ran
    exact .kept m.files m.next le_rfl
  | ok make =>
    rw [Action.bind_ok _ (prepare_ok made m)] at ran
    obtain ⟨id, cfg, kind⟩ := prepared made m.next
    by_cases fails : m.CloseFails env.closing old
    · obtain ⟨e, failed⟩ := close_error (m := { m with next := m.next + 1 }) fails
      rw [Action.bind_error _ failed, closed_withNext] at ran
      cases ran
      have left := Started.failed m.files (m.next + 1) (Nat.le_succ _) there fails
      simpa [Except.toOption] using left
    · rw [Action.bind_ok _ (close_ok (m := { m with next := m.next + 1 }) fails), closed_withNext] at ran
      cases ran
      have left := Started.replacing there (by rw [cfg, name]) free id (by rw [cfg]; exact kind) fails
      simpa [Manager.spawned, Except.toOption] using left

theorem startReplaceByUUID_cases {config : Config} {result : Except Err Begun}
    (ran : startReplaceByUUID env config m = (result, m')) : Started env m result.toOption m' := by
  unfold startReplaceByUUID at ran
  rw [Action.choose_apply] at ran
  rcases found : m.getServiceByUUIDLocked env config.UUID with _ | ⟨oldName, old⟩
  · simp only [found] at ran
    cases ran
    exact .kept m.files m.next le_rfl
  · simp only [found] at ran
    split_ifs at ran with taken
    · cases ran
      exact .kept m.files m.next le_rfl
    · refine startReplace_cases (Table.of_find found).1 rfl ?_ ran
      rw [not_and_or] at taken
      simpa using taken

/-- The rest of an operation is still to come. -/
theorem of_begun {x : Action Manager Begun} {result : Except Err (Option Begun)}
    (each : ∀ result m', x m = (result, m') → Started env m result.toOption m')
    (ran : (x >>= fun begun => pure (some begun)) m = (result, m')) :
    Started env m (result.toOption.bind fun begun => begun) m' := by
  rcases first : x m with ⟨e | begun, m₁⟩
  · rw [Action.bind_error _ first] at ran
    cases ran
    exact each _ _ first
  · rw [Action.bind_ok _ first] at ran
    cases ran
    exact each _ _ first

/-- Nothing is left of an operation. -/
theorem of_whole {x : Action Manager Unit} {result : Except Err (Option Begun)}
    (each : ∀ result m', x m = (result, m') → Started env m none m')
    (ran : (x >>= fun _ => pure none) m = (result, m')) :
    Started env m (result.toOption.bind fun begun => begun) m' := by
  rcases first : x m with ⟨e | u, m₁⟩
  · rw [Action.bind_error _ first] at ran
    cases ran
    exact each _ _ first
  · rw [Action.bind_ok _ first] at ran
    cases ran
    exact each _ _ first

theorem startSetDisabled_cases {name : String} {disabled : Bool}
    {result : Except Err (Option Begun)} (named : m.services.Named fun i => i.cfg.Name)
    (ran : startSetDisabled env name disabled m = (result, m')) :
    Started env m (result.toOption.bind fun begun => begun) m' := by
  unfold startSetDisabled at ran
  rw [Action.choose_apply] at ran
  rcases found : m.services name with _ | current
  · simp only [found] at ran
    cases ran
    exact .kept m.files m.next le_rfl
  · simp only [found] at ran
    split_ifs at ran with same
    · cases ran
      exact .kept m.files m.next le_rfl
    · refine of_begun (fun result m' first => ?_) ran
      refine startReplace_cases found ?_ (.inl rfl) first
      exact named name current found

theorem createFileOnly_cases {config : Config} {result : Except Err Unit}
    (ran : Manager.CreateFileOnly site env config m = (result, m')) : Started env m none m' := by
  unfold Manager.CreateFileOnly at ran
  rw [Action.choose_apply] at ran
  split_ifs at ran
  · cases ran
    exact .kept m.files m.next le_rfl
  · cases ran
    exact .kept _ m.next le_rfl

theorem removeService_cases {name : String} {result : Except Err Unit}
    (ran : Manager.RemoveService site env name m = (result, m')) : Started env m none m' := by
  unfold Manager.RemoveService at ran
  rcases deleted : onFiles (site.serviceFiles.deleteFile (place site env) env.faults name) m with
    ⟨e | u, m₁⟩
  · rw [Action.bind_error _ deleted] at ran
    cases ran
    obtain ⟨_, rfl⟩ := Prod.mk.inj deleted
    exact .kept _ m.next le_rfl
  · rw [Action.bind_ok _ deleted] at ran
    obtain ⟨_, rfl⟩ := Prod.mk.inj deleted
    rw [Action.choose_apply] at ran
    generalize ((site.serviceFiles.deleteFile (place site env) env.faults name).exec m.files).2 =
      files at ran
    rcases found : m.services name with _ | i
    · simp only [found] at ran
      cases ran
      exact .kept files m.next le_rfl
    · simp only [found] at ran
      by_cases fails : m.CloseFails env.closing i
      · obtain ⟨e, failed⟩ := close_error (m := { m with files }) fails
        rw [Action.bind_error _ failed, closed_withFiles] at ran
        cases ran
        have left := Started.failed files m.next le_rfl found fails
        simpa using left
      · rw [Action.bind_ok _ (close_ok (m := { m with files }) fails), closed_withFiles] at ran
        cases ran
        have left := Started.removed files found fails
        simpa using left

theorem start_cases {operation : Operation} {result : Except Err (Option Begun)}
    (named : m.services.Named fun i => i.cfg.Name)
    (ran : operation.start site env m = (result, m')) :
      Started env m (result.toOption.bind fun begun => begun) m' := by
  cases operation with
  | AddService config createFile => exact of_begun (fun _ _ => startAdd_cases) ran
  | RemoveService name => exact of_whole (fun _ _ => removeService_cases) ran
  | ReplaceServiceByUUID config => exact of_begun (fun _ _ => startReplaceByUUID_cases) ran
  | SetServiceDisabled name disabled => exact startSetDisabled_cases named ran
  | CreateFileOnly config => exact of_whole (fun _ _ => createFileOnly_cases) ran

variable (env) in
/-- A new instance whose file is not written is closed again, whatever that returns. -/
theorem written_cases (x : FileScript Bool) (new : Service) (rest : Action Manager Unit) (m : Manager) :
    (∃ e files, x.exec m.files = (.error e, files) ∧
      ((onFiles x).handle (fun e => (Close env.closingNew new).handle (fun _ => pure ()) >>=
        fun _ => Action.fail e) >>= fun _ => rest) m =
        (.error e, { m.closed env.closingNew new with files })) ∨
    ∃ b files, x.exec m.files = (.ok b, files) ∧
      ((onFiles x).handle (fun e => (Close env.closingNew new).handle (fun _ => pure ()) >>=
        fun _ => Action.fail e) >>= fun _ => rest) m =
        rest { m with files } := by
  have wrote :
      onFiles x m = ((x.exec m.files).1.map fun _ => (), { m with files := (x.exec m.files).2 }) :=
    rfl
  rcases ran : x.exec m.files with ⟨e | b, files⟩
  · rw [ran] at wrote
    refine .inl ⟨e, files, rfl, Action.bind_error _ ((Action.handle_error _ wrote).trans ?_)⟩
    have ignored : ((Close env.closingNew new).handle fun _ => pure ()) { m with files } =
        (.ok (), { m.closed env.closingNew new with files }) := by
      by_cases fails : CloseFails { m with files } env.closingNew new
      · obtain ⟨e, failed⟩ := close_error fails
        rw [Action.handle_error _ failed, closed_withFiles]
        rfl
      · rw [Action.handle_ok _ (close_ok fails), closed_withFiles]
    rw [Action.bind_ok _ ignored]
    rfl
  · rw [ran] at wrote
    exact .inr ⟨b, files, rfl, Action.bind_ok _ (Action.handle_ok _ wrote)⟩

variable (site env) in
theorem finish_cases (begun : Begun) (m : Manager) :
    Finished site env m begun (finish site env begun m).2 := by
  cases begun with
  | adding new createFile =>
    cases createFile with
    | false => exact .added new false m.files nofun
    | true =>
      rcases written_cases env (site.serviceFiles.createFile (place site env) env.faults new.cfg) new
        (set new.cfg.Name (some new)) m with ⟨e, files, failed, ran⟩ | ⟨b, files, written, ran⟩
      · refine congrArg Prod.snd ran ▸ .dropped (.adding new true) files fun writes => ?_
        obtain ⟨_, _, written⟩ := writes rfl
        rw [failed] at written
        cases written
      · exact congrArg Prod.snd ran ▸ .added new true files fun _ => ⟨b, files, written⟩
  | replacing oldName old newName new =>
    rcases written_cases env
      (site.serviceFiles.replaceFile (place site env) env.faults old.cfg new.cfg) new
      (set oldName none >>= fun _ => set newName (some new)) m with
      ⟨e, files, failed, ran⟩ | ⟨b, files, written, ran⟩
    · refine congrArg Prod.snd ran ▸ .dropped (.replacing oldName old newName new) files ?_
      rintro ⟨_, _, written⟩
      rw [failed] at written
      cases written
    · exact congrArg Prod.snd ran ▸ .replaced oldName old newName new files ⟨b, files, written⟩

end Manager

/-! What is known of the instances. -/

namespace Locked

variable {site : Site} {s s' : Locked} {m m₁ : Manager} {e : Event}

/-- The instances with which something may be still to be done. -/
def Knows (s : Locked) (i : Service) : Prop :=
  (∃ name, s.manager.services name = some i) ∨ i ∈ s.manager.goroutines ∨ ∃ begun ∈ s.busy, begun.new = i

/-- The map is as the checks of the operation have found it. -/
def Checked (m : Manager) : Begun → Prop
  | .adding new _ => m.services new.cfg.Name = none
  | .replacing oldName old newName new =>
    m.services oldName = some old ∧ new.cfg.Name = newName ∧
      (newName = oldName ∨ m.services newName = none)

structure Inv (s : Locked) : Prop where
  named : s.manager.services.Named fun i => i.cfg.Name
  fresh : ∀ i, s.Knows i → i.id < s.manager.next
  same : ∀ i j, s.Knows i → s.Knows j → i.id = j.id → i = j
  started : ∀ id, s.manager.started id = true → id < s.manager.next
  enabled : ∀ i, s.Knows i → s.manager.started i.id = true → i.kind ≠ .disabled
  kind : ∀ i, s.Knows i → (i.kind = .disabled ↔ i.cfg.Disabled = true)
  bound : ∀ id, s.manager.bound id = true → s.manager.started id = true ∧
    ∀ i ∈ s.manager.goroutines, i.id ≠ id
  busy : ∀ begun ∈ s.busy, Checked s.manager begun ∧ ∀ name, s.manager.services name ≠ some begun.new

theorem Inv.start (files : Files) : Inv ⟨{ new with files }, none⟩ := by
  have knows (i : Service) : ¬ Knows ⟨{ new with files }, none⟩ i := by
    rintro (⟨name, found⟩ | member | ⟨begun, busy, _⟩)
    · exact absurd found (Option.some_ne_none i).symm
    · exact absurd member List.not_mem_nil
    · exact absurd busy (Option.not_mem_none begun)
  refine ⟨fun name i found => absurd found (Option.some_ne_none i).symm,
    fun i known => absurd known (knows i), fun i _ known => absurd known (knows i), fun id begins =>
    absurd begins Bool.false_ne_true, fun i known => absurd known (knows i), fun i known =>
    absurd known (knows i), fun id bound => absurd bound Bool.false_ne_true, fun begun busy => ?_⟩
  exact absurd busy (Option.not_mem_none begun)

namespace Inv

variable (inv : Inv s)

include inv in
/-- Nothing new is known, and nothing is started but what was known. -/
theorem of_knows (knows : ∀ i, s'.Knows i → s.Knows i) (next : s.manager.next ≤ s'.manager.next)
    (started : ∀ id, s'.manager.started id = true → s.manager.started id = true ∨ ∃ i, s.Knows i ∧
      i.id = id ∧ i.kind ≠ .disabled)
    (bound : ∀ id, s'.manager.bound id = true → s'.manager.started id = true ∧
      ∀ i ∈ s'.manager.goroutines, i.id ≠ id)
    (named : s'.manager.services.Named fun i => i.cfg.Name)
    (busy : ∀ begun ∈ s'.busy, Checked s'.manager begun ∧
      ∀ name, s'.manager.services name ≠ some begun.new) : Inv s' where
  named := named
  fresh i known := (inv.fresh i (knows i known)).trans_le next
  same i j known known' := inv.same i j (knows i known) (knows j known')
  started id begun := by
    rcases started id begun with before | ⟨i, known, rfl, _⟩
    · exact (inv.started id before).trans_le next
    · exact (inv.fresh i known).trans_le next
  enabled i known begun := by
    rcases started i.id begun with before | ⟨j, known', same, enabled⟩
    · exact inv.enabled i (knows i known) before
    · exact inv.same j i known' (knows i known) same ▸ enabled
  kind i known := inv.kind i (knows i known)
  bound := bound
  busy := busy

include inv in
theorem id_ne {name other : String} {i j : Service} (there : s.manager.services name = some i)
    (found : s.manager.services other = some j) (elsewhere : other ≠ name) : j.id ≠ i.id := by
  intro same
  have is := inv.same j i (.inl ⟨other, found⟩) (.inl ⟨name, there⟩) same
  rw [is] at found
  exact elsewhere ((inv.named other i found).symm.trans (inv.named name i there))

end Inv

theorem Checked.congr {begun : Begun} (checked : Checked m begun)
    (services : m₁.services = m.services) : Checked m₁ begun := by
  cases begun with
  | adding new createFile => exact (congrFun services _).trans checked
  | replacing oldName old newName new =>
    obtain ⟨there, name, free⟩ := checked
    exact ⟨(congrFun services _).trans there, name, free.imp_right (congrFun services _).trans⟩

/-- A new instance is started, with no other operation going on. -/
theorem Inv.spawn (begun : Begun) (inv : Inv ⟨m, none⟩) (services : m₁.services = m.services)
    (next : m₁.next = m.next)
    (goroutines : m₁.goroutines = m.goroutines) (started : m₁.started = m.started)
    (bound : ∀ id, m₁.bound id = true → m.bound id = true) (fresh : begun.new.id = m.next)
    (kind : begun.new.kind = .disabled ↔ begun.new.cfg.Disabled = true)
    (checked : Checked m begun) : Inv ⟨m₁.spawned begun.new, some begun⟩ := by
  have knows (i : Service) (known : Knows ⟨m₁.spawned begun.new, some begun⟩ i) :
      Knows ⟨m, none⟩ i ∨ i = begun.new := by
    rcases known with ⟨name, found⟩ | member | ⟨other, is, rfl⟩
    · exact .inl (.inl ⟨name, by rw [← services]; exact found⟩)
    · rcases List.mem_append.mp member with before | last
      · exact .inl (.inr (.inl (by rw [← goroutines]; exact before)))
      · exact .inr (List.mem_singleton.mp last)
    · exact .inr (by rw [Option.mem_some.mp is])
  have below (i : Service) (known : Knows ⟨m, none⟩ i) : i.id ≠ begun.new.id := by
    have lt : i.id < m.next := inv.fresh i known
    omega
  have unstarted : m.started begun.new.id = false := by
    by_contra begins
    have lt : begun.new.id < m.next := inv.started begun.new.id (by simpa using begins)
    omega
  refine ⟨?_, fun i known => ?_, fun i j known known' same => ?_, fun id begins => ?_,
    fun i known begins => ?_, fun i known => ?_, fun id is => ?_, ?_⟩
  · show m₁.services.Named _
    rw [services]
    exact inv.named
  · show i.id < m₁.next + 1
    rcases knows i known with before | rfl
    · have lt : i.id < m.next := inv.fresh i before
      omega
    · omega
  · rcases knows i known with before | rfl
    · rcases knows j known' with before' | rfl
      · exact inv.same i j before before' same
      · exact absurd same (below i before)
    · rcases knows j known' with before' | rfl
      · exact absurd same.symm (below j before')
      · rfl
  · show id < m₁.next + 1
    have lt : id < m.next := inv.started id (by rw [← started]; exact begins)
    omega
  · rcases knows i known with before | rfl
    · exact inv.enabled i before (by rw [← started]; exact begins)
    · have begins : m₁.started begun.new.id = true := begins
      rw [started, unstarted] at begins
      cases begins
  · rcases knows i known with before | rfl
    · exact inv.kind i before
    · exact kind
  · have was := inv.bound id (bound id is)
    refine ⟨?_, fun i member => ?_⟩
    · show m₁.started id = true
      rw [started]
      exact was.1
    · rcases List.mem_append.mp member with before | last
      · rw [goroutines] at before
        exact was.2 i before
      · rintro rfl
        rw [List.mem_singleton.mp last, unstarted] at was
        cases was.1
  · rintro other is
    rw [← Option.mem_some.mp is]
    refine ⟨?_, fun name found => ?_⟩
    · exact checked.congr services
    · have found : m₁.services name = some begun.new := found
      rw [services] at found
      exact below _ (.inl ⟨name, found⟩) rfl

/-- An operation comes to its end, and nothing is registered. -/
theorem Inv.less (inv : Inv s)
    (services : ∀ name i, m.services name = some i → s.manager.services name = some i)
    (next : s.manager.next ≤ m.next) (goroutines : m.goroutines = s.manager.goroutines)
    (started : m.started = s.manager.started)
    (bound : ∀ id, m.bound id = true → s.manager.bound id = true) : Inv ⟨m, none⟩ := by
  refine inv.of_knows ?_ next (fun id begins => .inl ?_) (fun id is => ?_)
    (fun name i found => inv.named name i (services name i found)) fun begun busy =>
    absurd busy (Option.not_mem_none begun)
  · rintro i (⟨name, found⟩ | member | ⟨begun, busy, _⟩)
    · exact .inl ⟨name, services name i found⟩
    · exact .inr (.inl (by rw [← goroutines]; exact member))
    · exact absurd busy (Option.not_mem_none begun)
  · rw [← started]
    exact begins
  · show m.started id = true ∧ ∀ i ∈ m.goroutines, i.id ≠ id
    rw [started, goroutines]
    exact inv.bound id (bound id is)

theorem of_removed {name other : String} {i : Service}
    (found : Function.update m.services name none other = some i) :
    m.services other = some i := (Table.of_drop found).2

theorem Inv.of_started {env : Env} {begun : Option Begun} (inv : Inv ⟨m, none⟩)
    (next : Manager.Started env m begun m₁) :
    Inv ⟨m₁, begun⟩ := by
  have less (i : Service) (id : Nat) (is : (m.closed env.closing i).bound id = true) :
      m.bound id = true :=
    (Manager.closed_bound.mp is).1
  cases next with
  | kept files next later => exact inv.less (fun _ _ => id) later rfl rfl fun _ => id
  | failed files next later there fails =>
    exact inv.less (fun _ _ found => by simpa using found) later Manager.closed_goroutines
      Manager.closed_started (less _)
  | removed files there fine =>
    exact inv.less (fun _ _ found => of_removed found)
      (le_of_eq Manager.closed_next.symm) Manager.closed_goroutines Manager.closed_started (less _)
  | @adding new createFile free fresh kind =>
    exact Inv.spawn (.adding new createFile) inv rfl rfl rfl rfl (fun _ => id) fresh kind free
  | @replacing oldName newName old new there name free fresh kind fine =>
    exact Inv.spawn (.replacing oldName old newName new) inv Manager.closed_services Manager.closed_next
      Manager.closed_goroutines Manager.closed_started (less old) fresh kind ⟨there, name, free⟩

/-- The new instance is registered, and another may be dropped. -/
theorem Inv.registered {begun : Begun} (inv : Inv ⟨m, some begun⟩) {table : Table String Service}
    {files : Files} {name : String}
    (table_le : ∀ name i, table name = some i → m.services name = some i)
    (own : begun.new.cfg.Name = name) :
    Inv ⟨{ m with files, services := Function.update table name (some begun.new) }, none⟩ := by
  have entries (other : String) (i : Service)
    (found : Function.update table name (some begun.new) other = some i) :
      other = name ∧ i = begun.new ∨ m.services other = some i := by
    rcases Table.of_put found with here | ⟨_, old⟩
    · exact .inl here
    · exact .inr (table_le other i old)
  refine inv.of_knows ?_ le_rfl (fun _ => .inl) inv.bound ?_ fun begun busy =>
    absurd busy (Option.not_mem_none begun)
  · rintro i (⟨other, found⟩ | member | ⟨begun, busy, _⟩)
    · rcases entries other i found with ⟨_, rfl⟩ | old
      · exact .inr (.inr ⟨begun, rfl, rfl⟩)
      · exact .inl ⟨other, old⟩
    · exact .inr (.inl member)
    · exact absurd busy (Option.not_mem_none begun)
  · intro other i found
    rcases entries other i found with ⟨rfl, rfl⟩ | old
    · exact own
    · exact inv.named other i old

theorem Inv.of_finished {env : Env} {begun : Begun} (inv : Inv ⟨m, some begun⟩)
    (next : Manager.Finished site env m begun m₁) :
    Inv ⟨m₁, none⟩ := by
  obtain ⟨checked, unregistered⟩ := inv.busy begun rfl
  cases next with
  | dropped begun files fails =>
    exact inv.less (fun _ _ found => by simpa using found) (le_of_eq Manager.closed_next.symm)
      Manager.closed_goroutines Manager.closed_started fun _ is => (Manager.closed_bound.mp is).1
  | added new createFile files writes => exact inv.registered (fun _ _ => id) rfl
  | replaced oldName old newName new files writes =>
    exact inv.registered (fun _ _ => of_removed) checked.2.1

/-! The goroutines. -/

theorem run_cases {id : Nat} {b : Bind} (ran : m.run id b = some m₁) :
    ∃ i ∈ m.goroutines, i.id = id ∧ m₁ = m.ran i b := by
  unfold Manager.run at ran
  rcases found : m.goroutines.find? (·.id = id) with _ | i <;> simp only [found, reduceCtorEq] at ran
  split_ifs at ran
  exact ⟨i, List.mem_of_find?_eq_some found,
    by simpa using List.find?_some found, (Option.some.inj ran).symm⟩

/-- Nothing but what a goroutine changes. -/
theorem ran_eq (m : Manager) (i : Service) (b : Bind) :
    ∃ goroutines started bound, m.ran i b = { m with goroutines, started, bound } := by
  unfold Manager.ran
  split_ifs
  · exact ⟨_, _, _, rfl⟩
  · cases b with
    | bound => exact ⟨_, _, _, rfl⟩
    | late => exact ⟨_, _, _, rfl⟩
    | failed => exact ⟨_, _, _, rfl⟩

theorem ran_services (i : Service) (b : Bind) : (m.ran i b).services = m.services := by
  obtain ⟨goroutines, started, bound, same⟩ := ran_eq m i b
  rw [same]

theorem ran_next (i : Service) (b : Bind) : (m.ran i b).next = m.next := by
  obtain ⟨goroutines, started, bound, same⟩ := ran_eq m i b
  rw [same]

theorem ran_files (i : Service) (b : Bind) : (m.ran i b).files = m.files := by
  obtain ⟨goroutines, started, bound, same⟩ := ran_eq m i b
  rw [same]

theorem mem_ran {i j : Service} {b : Bind} : j ∈ (m.ran i b).goroutines ↔
    j ∈ m.goroutines ∧ (j.id ≠ i.id ∨ i.kind ≠ .disabled ∧ b = .late) := by
  unfold Manager.ran
  split_ifs with disabled
  · simp [Manager.without, disabled]
  · cases b <;> simp [Manager.without, disabled]

theorem ran_started {i : Service} {b : Bind} {id : Nat} : (m.ran i b).started id = true ↔
    m.started id = true ∨ id = i.id ∧ i.kind ≠ .disabled ∧ b ≠ .failed := by
  unfold Manager.ran
  split_ifs with disabled
  · simp [Manager.without, disabled]
  · by_cases same : id = i.id
    · cases b <;> simp [Manager.without, disabled, same]
    · cases b <;> simp [Manager.without, same]

/-- An instance comes to listen only here. -/
theorem ran_bound {i : Service} {b : Bind} {id : Nat} : (m.ran i b).bound id = true ↔
    m.bound id = true ∨ id = i.id ∧ i.kind ≠ .disabled ∧ b = .bound := by
  unfold Manager.ran
  split_ifs with disabled
  · simp [Manager.without, disabled]
  · by_cases same : id = i.id
    · cases b <;> simp [Manager.without, disabled, same]
    · cases b <;> simp [Manager.without, same]

theorem Inv.run {i : Service} {b : Bind} (inv : Inv s) (member : i ∈ s.manager.goroutines) :
    Inv ⟨s.manager.ran i b, s.busy⟩ := by
  have services := ran_services (m := s.manager) i b
  refine inv.of_knows ?_ (le_of_eq (ran_next i b).symm) (fun id begins => ?_)
    (fun id is => ?_) ?_ fun begun busy => ?_
  · rintro j (⟨name, found⟩ | there | busy)
    · exact .inl ⟨name, by rw [← services]; exact found⟩
    · exact .inr (.inl (mem_ran.mp there).1)
    · exact .inr (.inr busy)
  · exact (ran_started.mp begins).imp_right fun ⟨same, enabled, _⟩ =>
      ⟨i, .inr (.inl member), same.symm, enabled⟩
  · rcases ran_bound.mp is with before | ⟨rfl, enabled, rfl⟩
    · obtain ⟨begins, ended⟩ := inv.bound id before
      exact ⟨ran_started.mpr (.inl begins), fun j there => ended j (mem_ran.mp there).1⟩
    · refine ⟨ran_started.mpr (.inr ⟨rfl, enabled, nofun⟩), fun j there => ?_⟩
      exact (mem_ran.mp there).2.resolve_right fun late => nomatch late.2
  · show (s.manager.ran i b).services.Named _
    rw [services]
    exact inv.named
  · obtain ⟨checked, unregistered⟩ := inv.busy begun busy
    exact ⟨checked.congr services, fun name => services ▸ unregistered name⟩

theorem Inv.step (inv : Inv s) (next : s.step site e = some s') : Inv s' := by
  obtain ⟨m, busy⟩ := s
  cases e with
  | start env operation =>
    cases busy with
    | some begun => cases next
    | none =>
      cases next
      exact inv.of_started (Manager.start_cases inv.named rfl)
  | finish env =>
    cases busy with
    | none => cases next
    | some begun =>
      cases next
      exact inv.of_finished (Manager.finish_cases site env begun m)
  | run id b =>
    obtain ⟨m₁, ran, rfl⟩ := Option.map_eq_some_iff.mp next
    obtain ⟨i, member, _, rfl⟩ := run_cases ran
    exact inv.run member

theorem inv_of_run {allowed : Locked → Event → Prop} {events : List Event}
    (run : (system site).Run allowed events s) : Inv s := by
  apply run.invariant Inv
  · rintro _ ⟨files, rfl⟩
    exact Inv.start files
  · intro _ _ _ inv _ next
    exact inv.step next

end Locked
end Gotun.Builtin
