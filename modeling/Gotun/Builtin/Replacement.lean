import Gotun.Builtin.Runs
import Gotun.Tun.Storage

/-! A replacement of a built-in service that fails: the old instance, which is closed before the
file is written. -/

namespace Gotun.Builtin

open Gotun.Lib
open Gotun.Tun (FileKind FileScript Files Single)

namespace Operation

variable (site : Site) (env : Env)

/-- What `ReplaceServiceByUUID` and `SetServiceDisabled` replace, and with what. -/
def target (m : Manager) : Operation → Option (String × Service × Config)
  | .ReplaceServiceByUUID config => (m.getServiceByUUIDLocked env config.UUID).map fun found =>
    (found.1, found.2,
      { Manager.normalizeConfig env config with
        UUID := found.2.cfg.UUID, CreatedAt := found.2.cfg.CreatedAt })
  | .SetServiceDisabled name disabled => (m.services name).map fun current =>
    (name, current, { current.cfg with Disabled := disabled })
  | _ => none

/-- The old instance is registered as before, it listens if it did, and its file is the same. -/
structure Unharmed (m m' : Manager) (oldName : String) (old : Service) : Prop where
  registered : m'.services oldName = some old
  running : m.bound old.id = true → m'.bound old.id = true
  file : m'.files (site.serviceFiles.file (place site env) oldName) =
    m.files (site.serviceFiles.file (place site env) oldName)

/-- The operation fails before it comes to the `Close` of the old instance, or there is nothing that
this releases. -/
def Spared (m : Manager) (oldName : String) (old : Service) (newCfg : Config) : Prop :=
  (newCfg.Name ≠ oldName ∧ (m.services newCfg.Name).isSome = true) ∨
    (∃ e, prepareManagedService newCfg = .error e) ∨
    m.bound old.id = false ∨ env.closing.released = false

variable {site env} {m : Manager} {runs : List (Nat × Bind)} {oldName newName : String}
  {old new : Service} {newCfg : Config}

theorem meanwhile_services (m : Manager) (runs : List (Nat × Bind)) :
    (meanwhile m runs).services = m.services := by
  induction runs generalizing m with
  | nil => rfl
  | cons r rest ih =>
    rw [meanwhile, List.foldl_cons]
    cases ran : m.run r.1 r.2 with
    | none => exact ih m
    | some m₁ =>
      obtain ⟨i, _, _, rfl⟩ := Locked.run_cases ran
      exact (ih _).trans (Locked.ran_services i r.2)

theorem meanwhile_files (m : Manager) (runs : List (Nat × Bind)) :
    (meanwhile m runs).files = m.files := by
  induction runs generalizing m with
  | nil => rfl
  | cons r rest ih =>
    rw [meanwhile, List.foldl_cons]
    cases ran : m.run r.1 r.2 with
    | none => exact ih m
    | some m₁ =>
      obtain ⟨i, _, _, rfl⟩ := Locked.run_cases ran
      exact (ih _).trans (Locked.ran_files i r.2)

/-- An instance without a goroutine neither comes to listen nor ceases to. -/
theorem meanwhile_bound {m : Manager} {id : Nat} (ended : ∀ i ∈ m.goroutines, i.id ≠ id)
    (runs : List (Nat × Bind)) :
    (meanwhile m runs).bound id = true ↔ m.bound id = true := by
  induction runs generalizing m with
  | nil => rfl
  | cons r rest ih =>
    rw [meanwhile, List.foldl_cons]
    cases ran : m.run r.1 r.2 with
    | none => exact ih ended
    | some m₁ =>
      obtain ⟨i, member, _, rfl⟩ := Locked.run_cases ran
      refine (ih fun j there => ended j (Locked.mem_ran.mp there).1).trans ?_
      rw [Locked.ran_bound]
      exact or_iff_left fun here => ended i member here.1.symm

theorem Unharmed.refl (there : m.services oldName = some old) : Unharmed site env m m oldName old :=
  ⟨there, id, rfl⟩

/-- Whether the old instance still listens after its `Close`. -/
theorem closed_running_iff (inv : Locked.Inv ⟨m, none⟩) (there : m.services oldName = some old) :
    (m.bound old.id = true → (m.closed env.closing old).bound old.id = true) ↔
      m.bound old.id = false ∨ env.closing.released = false := by
  rw [Manager.closed_bound]
  cases is : m.bound old.id with
  | false => simp
  | true =>
    have started := (inv.bound old.id is).1
    have enabled := inv.enabled old (.inl ⟨oldName, there⟩) started
    simp [show m.started old.id = true from started, enabled]

variable (site runs newName) in
/-- The file of the new instance is not written. -/
theorem unharmed_of_file (inv : Locked.Inv ⟨m, none⟩) (single : Single env.faults)
    (there : m.services oldName = some old) (fresh : new.id = m.next) {e : Err}
    (failed : (Manager.finish site env (.replacing oldName old newName new)
      (meanwhile ((m.closed env.closing old).spawned new) runs)).1 = .error e) :
    Unharmed site env m (Manager.finish site env (.replacing oldName old newName new)
      (meanwhile ((m.closed env.closing old).spawned new) runs)).2 oldName old ↔
      m.bound old.id = false ∨ env.closing.released = false := by
  have lt : old.id < m.next := inv.fresh old (.inl ⟨oldName, there⟩)
  have ne : old.id ≠ new.id := by omega
  have services : (meanwhile ((m.closed env.closing old).spawned new) runs).services = m.services :=
    (meanwhile_services _ runs).trans Manager.closed_services
  have files : (meanwhile ((m.closed env.closing old).spawned new) runs).files = m.files :=
    (meanwhile_files _ runs).trans Manager.closed_files
  have running : m.bound old.id = true →
      ((meanwhile ((m.closed env.closing old).spawned new) runs).bound old.id = true ↔
        (m.closed env.closing old).bound old.id = true) := by
    intro is
    refine meanwhile_bound (fun i member same => ?_) runs
    rcases List.mem_append.mp member with before | last
    · rw [Manager.closed_goroutines] at before
      exact (inv.bound old.id is).2 i before same
    · rw [List.mem_singleton.mp last] at same
      exact ne same.symm
  rcases Manager.written_cases env
    (site.serviceFiles.replaceFile (place site env) env.faults old.cfg new.cfg) new
    (Manager.set oldName none >>= fun _ => Manager.set newName (some new))
      (meanwhile ((m.closed env.closing old).spawned new) runs) with
    ⟨e', left, written, ran⟩ | ⟨b, left, _, ran⟩
  · have same := FileKind.replaceFile_fails (serviceFiles_regular site) single written
    rw [Manager.finish, ran, ← closed_running_iff inv there]
    constructor
    · intro unharmed is
      exact (running is).mp (Manager.closed_bound.mp (unharmed.running is)).1
    · intro kept
      refine ⟨?_,
        fun is => Manager.closed_bound.mpr ⟨(running is).mpr (kept is), fun here => ne here.1⟩, ?_⟩
      · exact (congrFun Manager.closed_services oldName).trans ((congrFun services oldName).trans there)
      · exact (same oldName).trans (congrFun files _)
  · rw [Manager.finish, ran] at failed
    cases failed

/-- What comes after the start of an operation. -/
def rest (site : Site) (env : Env) (runs : List (Nat × Bind)) (begun : Begun) : Action Manager Unit :=
  Action.modify (fun m => meanwhile m runs) >>= fun _ => Manager.finish site env begun

theorem exec_some {x : Action Manager Begun} {operation : Operation}
    (is : operation.start site env m = (x >>= fun begun => pure (some begun)) m) :
    operation.exec site env runs m = (x >>= rest site env runs) m := by
  rcases first : x m with ⟨e | begun, m₁⟩
  · rw [Action.bind_error _ first] at is
    rw [exec, Action.bind_error _ is, Action.bind_error _ first]
  · rw [Action.bind_ok _ first] at is
    rw [exec, Action.bind_ok _ is, Action.bind_ok _ first]
    rfl

/-- A replacement whose checks have passed. -/
theorem unharmed_of_replace (inv : Locked.Inv ⟨m, none⟩) (single : Single env.faults)
    (there : m.services oldName = some old) {e : Err}
    (failed : ((Manager.startReplace env oldName old newName newCfg >>= rest site env runs) m).1 =
      .error e) :
    Unharmed site env m
      ((Manager.startReplace env oldName old newName newCfg >>= rest site env runs) m).2 oldName
      old ↔
      (∃ e, prepareManagedService newCfg = .error e) ∨ m.bound old.id = false ∨
        env.closing.released = false := by
  unfold Manager.startReplace at failed ⊢
  cases made : prepareManagedService newCfg with
  | error e =>
    rw [Action.bind_error _ (Action.bind_error _ (Manager.prepare_error made m))]
    exact iff_of_true (.refl there) (.inl ⟨e, rfl⟩)
  | ok make =>
    have fresh := (Manager.prepared made m.next).1
    simp only [reduceCtorEq, exists_false, false_or]
    rw [Action.bind_assoc, Action.bind_ok _ (Manager.prepare_ok made m)] at failed ⊢
    by_cases fails : m.CloseFails env.closing old
    · obtain ⟨e, error⟩ := Manager.close_error (m := { m with next := m.next + 1 }) fails
      rw [Action.bind_error _ (Action.bind_error _ error), Manager.closed_withNext,
        ← closed_running_iff inv there]
      refine ⟨Unharmed.running, fun kept => ⟨?_, kept, ?_⟩⟩
      · exact (congrFun Manager.closed_services oldName).trans there
      · exact congrFun Manager.closed_files _
    · have fine := Manager.close_ok (m := { m with next := m.next + 1 }) fails
      rw [Manager.closed_withNext] at fine
      rw [Action.bind_assoc, Action.bind_ok _ fine] at failed ⊢
      have spawned : (m.closed env.closing old).spawned (make m.next) =
          { m.closed env.closing old with
            next := m.next + 1,
              goroutines := (m.closed env.closing old).goroutines ++ [make m.next] } := by
        rw [Manager.spawned, Manager.closed_next]
      have done := unharmed_of_file site runs newName inv single there fresh (e := e)
      rw [spawned] at done
      exact done failed

/-- A replacement that fails leaves the old instance as it was exactly where it fails before the
`Close`, or the instance is not listening, or its `Close` releases nothing. -/
theorem unharmed_iff {operation : Operation} {e : Err}
    (reachable : (Locked.system site).Reachable ⟨m, none⟩) (single : Single env.faults)
    (targets : operation.target env m = some (oldName, old, newCfg))
    (failed : (operation.exec site env runs m).1 = .error e) :
    Unharmed site env m (operation.exec site env runs m).2 oldName old ↔
      Spared env m oldName old newCfg := by
  obtain ⟨events, run⟩ := reachable
  have inv := Locked.inv_of_run run
  cases operation with
  | ReplaceServiceByUUID config =>
    obtain ⟨found, searched, pair⟩ := Option.map_eq_some_iff.mp targets
    cases pair
    obtain ⟨oldName, old⟩ := found
    have there := (Table.of_find searched).1
    rw [exec_some (x := Manager.startReplaceByUUID env config) rfl, Manager.startReplaceByUUID,
      Action.choose_bind] at failed ⊢
    simp only [searched] at failed ⊢
    unfold Spared
    dsimp only
    split_ifs at failed ⊢ with taken
    · exact iff_of_true (.refl there) (.inl taken)
    · rw [or_iff_right taken]
      exact unharmed_of_replace inv single there failed
  | SetServiceDisabled name disabled =>
    obtain ⟨current, there, pair⟩ := Option.map_eq_some_iff.mp targets
    cases pair
    have named : old.cfg.Name = oldName := inv.named oldName old there
    have start : (Operation.SetServiceDisabled oldName disabled).start site env m =
        (if old.cfg.Disabled = disabled then pure none
        else Manager.startReplace env oldName old oldName { old.cfg with Disabled := disabled } >>=
          fun begun => pure (some begun)) m := by
      show Manager.startSetDisabled env oldName disabled m = _
      rw [Manager.startSetDisabled, Action.choose_apply]
      simp only [there]
    by_cases same : old.cfg.Disabled = disabled
    · rw [if_pos same] at start
      rw [exec, Action.bind_ok _ start] at failed
      cases failed
    · rw [if_neg same] at start
      rw [exec_some start] at failed ⊢
      unfold Spared
      rw [or_iff_right fun taken => taken.1 named]
      exact unharmed_of_replace inv single there failed
  | AddService _ _ | RemoveService _ | CreateFileOnly _ => cases targets

/-! An echo service that is edited. -/

def echo (serviceType listen : String) : Config :=
  ⟨"77aa", "echo-test", serviceType, false, 1, listen, 0, 0, 0, "", ""⟩

def echoText (listen : String) : String :=
  "\x7b\"uuid\":\"77aa\",\"name\":\"echo-test\",\"type\":\"echo\",\"disabled\":false," ++
    "\"create_at\":\"0001-01-01T00:00:00.000000001Z\",\"listen\":\"" ++ listen ++
      "\",\"listen_port\":0," ++
    "\"tcp_timeout\":0,\"udp_timeout\":0\x7d"

def echoTable : List (Config × String) :=
  ["127.0.0.1:8081", "127.0.0.1:8082"].map fun listen => (echo "echo" listen, echoText listen)

def echoSite : Site := ⟨"tun", Tun.marshalOf id echoTable, Tun.unmarshalOf echoTable⟩

/-- The tunnel directory cannot be made. -/
def withoutDir : Env :=
  ⟨fun op => if op = .mkdir then some "mkdir tun: permission denied" else none, "1",
    "1", ⟨true, none⟩,
  ⟨true, none⟩, 5, "9f", ["echo-test"]⟩

def calm : Env := { withoutDir with faults := fun _ => none }

/-- The service is added, and listens. -/
def echoAdded : List Event :=
  [.start calm (.AddService (echo "echo" "127.0.0.1:8081") true), .finish calm, .run 0 .bound]

def echoService : Service := ⟨0, echo "echo" "127.0.0.1:8081", .echo⟩

/-- An unknown type is refused before anything is closed. -/
theorem echo_unharmed : ∃ m, (Locked.system echoSite).Reachable ⟨m, none⟩ ∧ m.bound 0 = true ∧
    Unharmed echoSite withoutDir m
      ((Operation.ReplaceServiceByUUID (echo "echoes" "127.0.0.1:8082")).exec echoSite withoutDir
        [] m).2 "echo-test" echoService := by
  have played : ((Locked.system echoSite).play (fun _ _ => true) echoAdded ⟨Locked.new, none⟩).any
    (fun s => s.busy.isNone &&
      s.manager.bound 0 && decide ((Operation.ReplaceServiceByUUID
        (echo "echoes" "127.0.0.1:8082")).target withoutDir s.manager =
        some ("echo-test", echoService, echo "echoes" "127.0.0.1:8082")) &&
      ((Operation.ReplaceServiceByUUID (echo "echoes" "127.0.0.1:8082")).exec echoSite withoutDir
        [] s.manager).1.toOption.isNone) =
      true := by decide +kernel
  have begins : (Locked.system echoSite).start ⟨Locked.new, none⟩ := ⟨fun _ => none, rfl⟩
  obtain ⟨⟨m, busy⟩, run, seen⟩ := System.Run.of_play begins played
  simp only [Bool.and_eq_true, decide_eq_true_eq, Option.isNone_iff_eq_none] at seen
  obtain ⟨⟨⟨rfl, bound⟩, targets⟩, failed⟩ := seen
  have reachable : (Locked.system echoSite).Reachable ⟨m, none⟩ := ⟨_, run.mono fun _ _ _ => trivial⟩
  have single : Single withoutDir.faults := by
    intro op op' faulty faulty'
    have is : op = .mkdir := by
      by_contra other
      exact faulty (if_neg other)
    have is' : op' = .mkdir := by
      by_contra other
      exact faulty' (if_neg other)
    rw [is, is']
  rcases ran : ((Operation.ReplaceServiceByUUID (echo "echoes" "127.0.0.1:8082")).exec echoSite
    withoutDir [] m).1 with e | u
  · exact ⟨m, reachable, bound, (unharmed_iff reachable single targets ran).mpr (.inr (.inl ⟨_, rfl⟩))⟩
  · rw [ran] at failed
    cases failed

/-- A replacement whose directory cannot be made leaves the old instance registered and closed. -/
theorem echo_closed :
    ∃ m, (Locked.system echoSite).Reachable ⟨m, none⟩ ∧ m.services "echo-test" = some echoService ∧
    (∃ e, ((Operation.ReplaceServiceByUUID (echo "echo" "127.0.0.1:8082")).exec echoSite withoutDir
      [] m).1 = .error e) ∧
    ¬ Unharmed echoSite withoutDir m
      ((Operation.ReplaceServiceByUUID (echo "echo" "127.0.0.1:8082")).exec echoSite withoutDir
        [] m).2 "echo-test" echoService := by
  have played : ((Locked.system echoSite).play (fun _ _ => true) echoAdded ⟨Locked.new, none⟩).any
    (fun s => s.busy.isNone &&
      s.manager.bound 0 && decide (s.manager.services "echo-test" = some echoService) &&
      ((Operation.ReplaceServiceByUUID (echo "echo" "127.0.0.1:8082")).exec echoSite withoutDir
        [] s.manager).1.toOption.isNone &&
      !((Operation.ReplaceServiceByUUID (echo "echo" "127.0.0.1:8082")).exec echoSite withoutDir
        [] s.manager).2.bound 0) =
      true := by decide +kernel
  have begins : (Locked.system echoSite).start ⟨Locked.new, none⟩ := ⟨fun _ => none, rfl⟩
  obtain ⟨⟨m, busy⟩, run, seen⟩ := System.Run.of_play begins played
  simp only [Bool.and_eq_true, decide_eq_true_eq, Option.isNone_iff_eq_none, Bool.not_eq_true'] at seen
  obtain ⟨⟨⟨⟨rfl, bound⟩, there⟩, failed⟩, closed⟩ := seen
  refine ⟨m, ⟨_, run.mono fun _ _ _ => trivial⟩, there, ?_, fun unharmed => ?_⟩
  · rcases ran : ((Operation.ReplaceServiceByUUID (echo "echo" "127.0.0.1:8082")).exec echoSite
      withoutDir [] m).1 with e | u
    · exact ⟨e, rfl⟩
    · rw [ran] at failed
      cases failed
  · have still := unharmed.running bound
    rw [show echoService.id = 0 from rfl, closed] at still
    cases still

end Operation
end Gotun.Builtin
