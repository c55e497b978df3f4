import Gotun.Builtin.Replacement

/-! Which of the built-in services listen once every operation and every goroutine has come to its
end. -/

namespace Gotun.Builtin

open Gotun.Lib

namespace Locked

variable {site : Site} {env : Env} {s s' : Locked} {m m₁ : Manager} {e : Event} {id : Nat}

/-- The operation under way has closed the instance. -/
def Replaces (s : Locked) (id : Nat) : Prop :=
  ∃ oldName old newName new, s.busy = some (.replacing oldName old newName new) ∧ old.id = id

def Registered (m : Manager) (id : Nat) : Prop := ∃ name i, m.services name = some i ∧ i.id = id

/-- The instance is registered and not being replaced, or it is the new one of the operation under
way. -/
def Wanted (s : Locked) (id : Nat) : Prop :=
  (Registered s.manager id ∧ ¬ s.Replaces id) ∨ ∃ begun ∈ s.busy, begun.new.id = id

/-- The instance listens, or its goroutine is still to come to its end. -/
def Lives (m : Manager) (i : Service) : Prop :=
  i.kind = .disabled ∨ m.bound i.id = true ∨ i ∈ m.goroutines

/-- No instance comes to listen that is not wanted any more, and the `Run` of none that is
registered fails. An operation whose file is not written leaves a listening instance registered or
none, and the new one is closed. A `Close` returns an error exactly when it does not release the
listener. -/
def Orderly (site : Site) (s : Locked) : Event → Prop
  | .start env _ => env.closing.released = true ↔ env.closing.err = none
  | .finish env => ∀ begun ∈ s.busy,
      (Manager.Writes site env s.manager begun → Lives s.manager begun.new) ∧
      (¬ Manager.Writes site env s.manager begun →
        (s.manager.bound begun.new.id = true → env.closingNew.released = true) ∧
        ∀ name i, s.manager.services name = some i → s.Replaces i.id → Lives s.manager i)
  | .run id b => ∀ i ∈ s.manager.goroutines, i.id = id → i.kind ≠ .disabled →
      (b = .bound → s.Wanted id) ∧ (b = .failed → Registered s.manager id → s.Replaces id)

structure Listens (s : Locked) : Prop where
  wanted : ∀ id, s.manager.bound id = true → s.Wanted id
  lives : ∀ name i, s.manager.services name = some i → ¬ s.Replaces i.id → Lives s.manager i

theorem not_replaces_none (m : Manager) (id : Nat) : ¬ Replaces ⟨m, none⟩ id := by
  rintro ⟨_, _, _, _, busy, _⟩
  cases busy

theorem wanted_idle : Wanted ⟨m, none⟩ id ↔ Registered m id := by
  constructor
  · rintro (⟨registered, _⟩ | ⟨begun, busy, _⟩)
    · exact registered
    · exact absurd busy (Option.not_mem_none begun)
  · exact fun registered => .inl ⟨registered, not_replaces_none m id⟩

/-- An instance that listens is closed without an error, and then it does not listen. -/
theorem closed_silent {name : String} {i : Service} {closing : Closing} (inv : Inv s)
    (there : s.manager.services name = some i)
    (orderly : closing.released = true ↔ closing.err = none)
    (fine : ¬ s.manager.CloseFails closing i) :
    (s.manager.closed closing i).bound i.id = false := by
  by_contra still
  obtain ⟨bound, kept⟩ := Manager.closed_bound.mp (by simpa using still)
  have started := (inv.bound i.id bound).1
  have enabled := inv.enabled i (.inl ⟨name, there⟩) started
  refine kept ⟨rfl, enabled, started, orderly.mpr ?_⟩
  by_contra err
  exact fine ⟨enabled, started, err⟩

/-- A `Close` with an error leaves everything as it is. -/
theorem closed_failed {i : Service} {closing : Closing}
    (orderly : closing.released = true ↔ closing.err = none) (fails : m.CloseFails closing i) :
    (m.closed closing i).bound id = true ↔ m.bound id = true := by
  rw [Manager.closed_bound]
  exact and_iff_left fun here => fails.2.2 (orderly.mp here.2.2.2)

theorem listens_idle : Listens ⟨m, none⟩ ↔
    (∀ id, m.bound id = true → Registered m id) ∧ ∀ name i, m.services name = some i → Lives m i := by
  constructor
  · intro listens
    exact ⟨fun id bound => wanted_idle.mp (listens.wanted id bound),
      fun name i there => listens.lives name i there (not_replaces_none m i.id)⟩
  · rintro ⟨wanted, lives⟩
    exact ⟨fun id bound => wanted_idle.mpr (wanted id bound), fun name i there _ => lives name i there⟩

theorem Registered.congr (registered : Registered m id)
    (services : m₁.services = m.services) : Registered m₁ id := by
  obtain ⟨name, i, there, same⟩ := registered
  exact ⟨name, i, (congrFun services name).trans there, same⟩

theorem Lives.mono {i : Service} (lives : Lives m i) (bound : m.bound i.id = true → m₁.bound i.id = true)
    (goroutines : i ∈ m.goroutines → i ∈ m₁.goroutines) : Lives m₁ i :=
  lives.imp_right fun either => either.imp bound goroutines

theorem Listens.of_started {begun : Option Begun} (inv : Inv ⟨m, none⟩)
    (listens : Listens ⟨m, none⟩) (orderly : env.closing.released = true ↔ env.closing.err = none)
    (next : Manager.Started env m begun m₁) : Listens ⟨m₁, begun⟩ := by
  obtain ⟨wanted, lives⟩ := listens_idle.mp listens
  cases next with
  | kept files next later => exact listens_idle.mpr ⟨wanted, lives⟩
  | @failed name i files next later there fails =>
    have bound (id : Nat) : (m.closed env.closing i).bound id = true ↔ m.bound id = true :=
      closed_failed orderly fails
    refine listens_idle.mpr ⟨fun id is => ?_, fun other j found => ?_⟩
    · exact (wanted id ((bound id).mp is)).congr Manager.closed_services
    · have found : (m.closed env.closing i).services other = some j := found
      rw [Manager.closed_services] at found
      exact (lives other j found).mono (bound j.id).mpr fun member =>
        Manager.closed_goroutines (m := m) ▸ member
  | @removed name i files there fine =>
    have silent := closed_silent inv there orderly fine
    refine listens_idle.mpr ⟨fun id is => ?_, fun other j found => ?_⟩
    · have is : (m.closed env.closing i).bound id = true := is
      obtain ⟨other, j, found, rfl⟩ := wanted id (Manager.closed_bound.mp is).1
      have elsewhere : other ≠ name := by
        rintro rfl
        cases Option.some.inj (there.symm.trans found)
        rw [silent] at is
        cases is
      exact ⟨other, j, (Function.update_of_ne elsewhere _ _).trans found, rfl⟩
    · obtain ⟨elsewhere, found⟩ := Table.of_drop found
      have differ := inv.id_ne there found elsewhere
      refine (lives other j found).mono (fun is => ?_) fun member =>
        Manager.closed_goroutines (m := m) ▸ member
      exact Manager.closed_bound.mpr ⟨is, fun here => differ here.1⟩
  | @adding new createFile free fresh kind =>
    refine ⟨fun id is => ?_, fun other j found _ => ?_⟩
    · refine .inl ⟨(wanted id is).congr rfl, ?_⟩
      rintro ⟨_, _, _, _, busy, _⟩
      cases busy
    · exact (lives other j found).mono (fun is => is) (List.mem_append_left _)
  | @replacing oldName newName old new there name free fresh kind fine =>
    have silent := closed_silent inv there orderly fine
    have replaced : Replaces ⟨(m.closed env.closing old).spawned new,
        some (.replacing oldName old newName new)⟩ old.id :=
      ⟨oldName, old, newName, new, rfl, rfl⟩
    refine ⟨fun id is => .inl ⟨?_, ?_⟩, fun other j found kept => ?_⟩
    · exact (wanted id (Manager.closed_bound.mp is).1).congr Manager.closed_services
    · rintro ⟨_, _, _, _, busy, rfl⟩
      cases busy
      have is : (m.closed env.closing old).bound old.id = true := is
      rw [silent] at is
      cases is
    · have found : (m.closed env.closing old).services other = some j := found
      rw [Manager.closed_services] at found
      refine (lives other j found).mono (fun is => ?_) fun member => ?_
      · exact Manager.closed_bound.mpr ⟨is, fun here => kept (here.1 ▸ replaced)⟩
      · exact List.mem_append_left _ (Manager.closed_goroutines (m := m) ▸ member)

/-- The new instance of an operation is registered, and its old one is dropped. -/
theorem Listens.of_registered {begun : Begun} {table : Table String Service}
    {files : Gotun.Tun.Files} {name : String} (listens : Listens ⟨m, some begun⟩)
    (lives : Lives m begun.new)
    (table_le : ∀ other i, table other = some i → m.services other = some i ∧
      ¬ Replaces ⟨m, some begun⟩ i.id)
    (le_table : ∀ other i, m.services other = some i → ¬ Replaces ⟨m, some begun⟩ i.id →
      other ≠ name ∧ table other = some i) :
    Listens ⟨{ m with files, services := Function.update table name (some begun.new) }, none⟩ := by
  refine listens_idle.mpr ⟨fun id is => ?_, fun other i found => ?_⟩
  · rcases listens.wanted id is with ⟨⟨other, i, there, rfl⟩, kept⟩ | ⟨begun, busy, rfl⟩
    · obtain ⟨elsewhere, there⟩ := le_table other i there kept
      exact ⟨other, i, (Function.update_of_ne elsewhere _ _).trans there, rfl⟩
    · cases busy
      exact ⟨name, begun.new, Function.update_self .., rfl⟩
  · rcases Table.of_put found with ⟨_, rfl⟩ | ⟨_, there⟩
    · exact lives
    · obtain ⟨there, kept⟩ := table_le other i there
      exact listens.lives other i there kept

theorem Listens.of_finished {begun : Begun} (inv : Inv ⟨m, some begun⟩)
    (listens : Listens ⟨m, some begun⟩) (orderly : Orderly site ⟨m, some begun⟩ (.finish env))
    (next : Manager.Finished site env m begun m₁) : Listens ⟨m₁, none⟩ := by
  obtain ⟨checked, unregistered⟩ := inv.busy begun rfl
  obtain ⟨success, failure⟩ := orderly begun rfl
  cases next with
  | dropped begun files fails =>
    obtain ⟨released, oldLives⟩ := failure fails
    have registered_ne {name : String} {i : Service} (there : m.services name = some i) :
        i.id ≠ begun.new.id := by
      intro same
      have is := inv.same i begun.new (.inl ⟨name, there⟩) (.inr (.inr ⟨begun, rfl, rfl⟩)) same
      exact unregistered name (is ▸ there)
    refine listens_idle.mpr ⟨fun id is => ?_, fun name i found => ?_⟩
    · obtain ⟨is, kept⟩ := Manager.closed_bound.mp is
      rcases listens.wanted id is with ⟨registered, _⟩ | ⟨other, busy, rfl⟩
      · exact registered.congr Manager.closed_services
      · cases busy
        have started := (inv.bound _ is).1
        exact absurd ⟨rfl, inv.enabled begun.new (.inr (.inr ⟨begun, rfl, rfl⟩)) started,
          started, released is⟩ kept
    · have found : (m.closed env.closingNew begun.new).services name = some i := found
      rw [Manager.closed_services] at found
      have lives : Lives m i := by
        by_cases replaced : Replaces ⟨m, some begun⟩ i.id
        · exact oldLives name i found replaced
        · exact listens.lives name i found replaced
      refine lives.mono (fun is => ?_) fun member => Manager.closed_goroutines (m := m) ▸ member
      exact Manager.closed_bound.mpr ⟨is, fun here => registered_ne found here.1⟩
  | added new createFile files writes =>
    have calm (id : Nat) : ¬ Replaces ⟨m, some (.adding new createFile)⟩ id := by
      rintro ⟨_, _, _, _, busy, _⟩
      cases busy
    refine listens.of_registered (success writes)
      (fun other i there => ⟨there, calm i.id⟩) fun other i there _ => ⟨?_, there⟩
    rintro rfl
    rw [show m.services new.cfg.Name = none from checked] at there
    cases there
  | replaced oldName old newName new files writes =>
    obtain ⟨there, _, free⟩ := checked
    have replaces {id : Nat} :
        Replaces ⟨m, some (.replacing oldName old newName new)⟩ id ↔ old.id = id := by
      constructor
      · rintro ⟨_, _, _, _, busy, same⟩
        cases busy
        exact same
      · exact fun same => ⟨oldName, old, newName, new, rfl, same⟩
    refine listens.of_registered (success writes) (fun other i found => ?_) fun other i found kept => ?_
    · obtain ⟨elsewhere, found⟩ := Table.of_drop found
      exact ⟨found, fun replaced => inv.id_ne there found elsewhere (replaces.mp replaced).symm⟩
    · have elsewhere : other ≠ oldName := by
        rintro rfl
        cases Option.some.inj (there.symm.trans found)
        exact kept (replaces.mpr rfl)
      refine ⟨?_, (Function.update_of_ne elsewhere _ _).trans found⟩
      rintro rfl
      rcases free with same | absent
      · exact elsewhere same
      · rw [absent] at found
        cases found

theorem Listens.run {i : Service} {b : Bind} (inv : Inv s) (listens : Listens s)
    (member : i ∈ s.manager.goroutines)
    (orderly : i.kind ≠ .disabled → (b = .bound → s.Wanted i.id) ∧
      (b = .failed → Registered s.manager i.id → s.Replaces i.id)) :
    Listens ⟨s.manager.ran i b, s.busy⟩ := by
  have services := ran_services (m := s.manager) i b
  refine ⟨fun id is => ?_, fun name j found kept => ?_⟩
  · have wanted : s.Wanted id := by
      rcases ran_bound.mp is with before | ⟨rfl, enabled, bound⟩
      · exact listens.wanted id before
      · exact (orderly enabled).1 bound
    exact wanted.imp_left fun ⟨registered, kept⟩ => ⟨registered.congr services, kept⟩
  · have there : s.manager.services name = some j := services ▸ found
    rcases listens.lives name j there kept with disabled | bound | going
    · exact .inl disabled
    · exact .inr (.inl (ran_bound.mpr (.inl bound)))
    · by_cases same : j.id = i.id
      · obtain rfl := inv.same j i (.inl ⟨name, there⟩) (.inr (.inl member)) same
        by_cases disabled : j.kind = .disabled
        · exact .inl disabled
        · cases b with
          | failed => exact absurd ((orderly disabled).2 rfl ⟨name, j, there, rfl⟩) kept
          | bound => exact .inr (.inl (ran_bound.mpr (.inr ⟨rfl, disabled, rfl⟩)))
          | late => exact .inr (.inr (mem_ran.mpr ⟨going, .inr ⟨disabled, rfl⟩⟩))
      · exact .inr (.inr (mem_ran.mpr ⟨going, .inl same⟩))

theorem Listens.step (inv : Inv s) (listens : Listens s) (orderly : Orderly site s e)
    (next : s.step site e = some s') : Listens s' := by
  obtain ⟨m, busy⟩ := s
  cases e with
  | start env operation =>
    cases busy with
    | some begun => cases next
    | none =>
      cases next
      exact listens.of_started inv orderly (Manager.start_cases inv.named rfl)
  | finish env =>
    cases busy with
    | none => cases next
    | some begun =>
      cases next
      exact listens.of_finished inv orderly (Manager.finish_cases site env begun m)
  | run id b =>
    obtain ⟨m₁, ran, rfl⟩ := Option.map_eq_some_iff.mp next
    obtain ⟨i, member, rfl, rfl⟩ := run_cases ran
    exact listens.run inv member (orderly i member rfl)

theorem listens_of_run {events : List Event}
    (run : (system site).Run (Orderly site) events s) : Listens s := by
  induction run with
  | start begins =>
    obtain ⟨files, rfl⟩ := begins
    exact listens_idle.mpr ⟨fun id bound => absurd bound Bool.false_ne_true,
      fun name i found => absurd found (Option.some_ne_none i).symm⟩
  | step before orderly next listens => exact listens.step (inv_of_run before) orderly next

/-- Once nothing is going on, what listens is registered and enabled, and what is said to be running
listens. -/
theorem listening_of_run {events : List Event} (run : (system site).Run (Orderly site) events s)
    (ended : s.busy = none) (idle : s.manager.goroutines = []) :
    (∀ id, s.manager.bound id = true → ∃ name i, s.manager.services name = some i ∧ i.id = id ∧
      i.cfg.Disabled = false) ∧
    ∀ name i, s.manager.services name = some i → i.Status = "running" → s.manager.bound i.id = true := by
  have inv := inv_of_run run
  obtain ⟨m, busy⟩ := s
  obtain rfl : busy = none := ended
  obtain ⟨wanted, lives⟩ := listens_idle.mp (listens_of_run run)
  constructor
  · intro id bound
    obtain ⟨name, i, there, rfl⟩ := wanted id bound
    have enabled := inv.enabled i (.inl ⟨name, there⟩) (inv.bound i.id bound).1
    refine ⟨name, i, there, rfl, ?_⟩
    rw [Ne, inv.kind i (.inl ⟨name, there⟩)] at enabled
    simpa using enabled
  · intro name i there running
    rcases lives name i there with disabled | bound | going
    · rw [Service.Status, if_pos disabled] at running
      exact absurd running (by decide)
    · exact bound
    · rw [show m.goroutines = [] from idle] at going
      cases going

/-! An echo service that is loaded. -/

open Operation (calm echo echoService echoSite)

def loaded : List Event := [.start calm (.AddService (echo "echo" "127.0.0.1:8081") false), .finish calm]

/-- The manager once it is registered, with its goroutine to come. -/
def loadedManager : Manager :=
  { new with
    services := Function.update (fun _ => none) "echo-test" (some echoService)
    next := 1
    goroutines := [echoService] }

def runningManager : Manager :=
  { loadedManager with
    goroutines := [], started := Function.update (fun _ => false) 0 true,
      bound := Function.update (fun _ => false) 0 true }

theorem orderly_loaded : (system echoSite).Run (Orderly echoSite) loaded ⟨loadedManager, none⟩ := by
  have begins : (system echoSite).start ⟨new, none⟩ := ⟨fun _ => none, rfl⟩
  have begun : (system echoSite).Run (Orderly echoSite)
    [.start calm (.AddService (echo "echo" "127.0.0.1:8081") false)]
      ⟨Manager.spawned new echoService, some (.adding echoService false)⟩ :=
    (System.Run.start begins).step (iff_of_true rfl rfl) rfl
  refine begun.step (fun begun is => ?_) rfl
  cases is
  exact ⟨fun _ => .inr (.inr (List.mem_singleton_self _)),
    fun fails => absurd (fun other => nomatch other) fails⟩

theorem orderly_running :
    (system echoSite).Run (Orderly echoSite) (loaded ++ [.run 0 .bound])
      ⟨runningManager, none⟩ := by
  have orderly : Orderly echoSite ⟨loadedManager, none⟩ (.run 0 .bound) := by
    intro _ _ _ _
    exact ⟨fun _ => wanted_idle.mpr ⟨"echo-test", echoService, rfl, rfl⟩, nofun⟩
  exact orderly_loaded.step orderly rfl

/-- The instance that takes its place, on another port. -/
def moved : Service := ⟨1, echo "echo" "127.0.0.1:8082", .echo⟩

def moving : Begun := .replacing "echo-test" echoService "echo-test" moved

/-- The manager between the `Close` of the old instance and the `Run` of the new one. -/
def closedManager : Manager :=
  { runningManager with
    next := 2, goroutines := [moved], bound := Function.update runningManager.bound 0 false }

/-- The manager once the new instance listens, with its file still to be written. -/
def movedManager : Manager :=
  { closedManager with
    goroutines := [], started := Function.update closedManager.started 1 true,
      bound := Function.update closedManager.bound 1 true }

/-- It comes to listen, and so does the instance that takes its place, once nothing is going on. -/
theorem echo_listens : ∃ s, (system echoSite).Run (Orderly echoSite)
      (loaded ++ [.run 0 .bound] ++
        [.start calm (.ReplaceServiceByUUID (echo "echo" "127.0.0.1:8082"))] ++ [.run 1 .bound] ++
        [.finish calm]) s ∧
    (s.manager.services "echo-test" = some moved ∧ s.manager.bound 0 = false ∧
      s.manager.bound 1 = true) ∧
    (∀ id, s.manager.bound id = true → ∃ name i, s.manager.services name = some i ∧ i.id = id ∧
      i.cfg.Disabled = false) ∧
    ∀ name i, s.manager.services name = some i → i.Status = "running" → s.manager.bound i.id = true := by
  have closes : Orderly echoSite ⟨runningManager, none⟩
      (.start calm (.ReplaceServiceByUUID (echo "echo" "127.0.0.1:8082"))) :=
    iff_of_true rfl rfl
  have binds : Orderly echoSite ⟨closedManager, some moving⟩ (.run 1 .bound) := by
    intro _ _ _ _
    exact ⟨fun _ => .inr ⟨moving, rfl, rfl⟩, nofun⟩
  have writes : Manager.Writes echoSite calm movedManager moving := by
    have done : ((echoSite.serviceFiles.replaceFile
      (place echoSite calm) calm.faults echoService.cfg moved.cfg).exec
        movedManager.files).1.toOption.isSome = true := by decide +kernel
    rcases ran : (echoSite.serviceFiles.replaceFile (place echoSite calm) calm.faults
      echoService.cfg moved.cfg).exec movedManager.files with ⟨e | b, files⟩
    · rw [ran] at done
      cases done
    · exact ⟨b, files, ran⟩
  have files : Orderly echoSite ⟨movedManager, some moving⟩ (.finish calm) := by
    intro begun is
    cases is
    exact ⟨fun _ => .inr (.inl rfl), fun fails => absurd writes fails⟩
  have begun : (system echoSite).Run (Orderly echoSite)
      (loaded ++ [.run 0 .bound] ++ [.start calm (.ReplaceServiceByUUID (echo "echo" "127.0.0.1:8082"))])
      ⟨closedManager, some moving⟩ := orderly_running.step closes rfl
  have bound : (system echoSite).Run (Orderly echoSite)
      (loaded ++ [.run 0 .bound] ++
        [.start calm (.ReplaceServiceByUUID (echo "echo" "127.0.0.1:8082"))] ++ [.run 1 .bound])
      ⟨movedManager, some moving⟩ := begun.step binds rfl
  have run := bound.step files rfl
  exact ⟨_, run, by decide +kernel, listening_of_run run rfl rfl⟩

/-- It is removed before its `Run` and listens ever after, or it cannot listen and is said to be
running. -/
theorem echo_lost :
    (∃ s, (system echoSite).Run (fun _ _ => True)
      (loaded ++ [.start calm (.RemoveService "echo-test")] ++ [.run 0 .bound]) s ∧
      s.busy = none ∧ s.manager.goroutines = [] ∧ s.manager.bound 0 = true ∧
        ∀ name, s.manager.services name = none) ∧
    ∃ s, (system echoSite).Run (fun _ _ => True) (loaded ++ [.run 0 .failed]) s ∧ s.busy = none ∧
      s.manager.goroutines = [] ∧
      s.manager.services "echo-test" = some echoService ∧ echoService.Status = "running" ∧
        s.manager.bound 0 = false := by
  have run := orderly_loaded.mono fun _ _ _ => trivial
  constructor
  · refine ⟨⟨{ runningManager with
      services := Function.update loadedManager.services "echo-test" none
      files := Tun.Files.remove "tun/echo-test.service" fun _ => none }, none⟩, ?_, rfl, rfl,
        rfl, fun name => ?_⟩
    · exact (run.step trivial rfl).step trivial rfl
    · show Function.update (Function.update (fun _ => none) "echo-test" _) "echo-test" none name = none
      rw [Function.update_idem, Function.update_eq_self]
  · exact ⟨⟨{ loadedManager with goroutines := [] }, none⟩, run.step trivial rfl, rfl, rfl,
      rfl, by decide, rfl⟩

end Locked
end Gotun.Builtin
