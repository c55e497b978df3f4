import Gotun.Tun.Identity
import Gotun.Tun.Storage

/-! What `AddService` and `AddRoute` leave behind when they fail. -/

namespace Gotun.Tun

open Gotun.Lib

/-! The file of a new configuration. -/

namespace FileKind

variable {κ : Type} (K : FileKind κ) (p : Place) (faults : FileFaults) (files : Files) (cfg : κ)

/-- The temporary file of a new configuration is made. -/
structure Starts : Prop where
  mkdir : faults .mkdir = none
  mkdirStage : faults .mkdirStage = none
  absent : ¬ (faults .stat = none ∧ (files (K.file p (K.name cfg))).isSome)
  data : ∃ data, K.marshal cfg = .ok data
  plain : '/' ∉ (K.name cfg).toList
  createTemp : faults .createTemp = none

/-- The file of a new configuration is made. -/
structure Creates : Prop where
  starts : K.Starts p faults files cfg
  write : faults .write = none
  closeTemp : faults .closeTemp = none
  renameNew : faults .renameNew = none

/-- The temporary file is made and stays: what is deferred comes only after it was written. -/
structure LeavesTemp : Prop where
  starts : K.Starts p faults files cfg
  failed : faults .write ≠ none ∨ faults .closeTemp ≠ none ∨ faults .renameNew ≠ none ∧
    faults .removeTemp ≠ none

variable {K p faults files cfg}

theorem LeavesTemp.not_creates (leaves : K.LeavesTemp p faults files cfg) :
    ¬ K.Creates p faults files cfg := by
  intro creates
  rcases leaves.failed with failed | failed | failed
  · exact failed creates.write
  · exact failed creates.closeTemp
  · exact failed.1 creates.renameNew

/-- What is left when the file is not made. -/
inductive Created (K : FileKind κ) (p : Place) (faults : FileFaults) (files : Files) (cfg : κ) :
    Except Err Bool × Files → Prop
  | made (creates : K.Creates p faults files cfg) (files' : Files) :
      Created K p faults files cfg (.ok true, files')
  | clean (not_made : ¬ K.Creates p faults files cfg)
      (none_left : ¬ K.LeavesTemp p faults files cfg) (e : Err) :
      Created K p faults files cfg (.error e, files)
  | left (leaves : K.LeavesTemp p faults files cfg) (e : Err) {files' : Files}
      (changed : files' ≠ files) :
      Created K p faults files cfg (.error e, files')

theorem Created.unstarted (not_started : ¬ K.Starts p faults files cfg) (e : Err) :
    Created K p faults files cfg (.error e, files) :=
  .clean (fun creates => not_started creates.starts) (fun leaves => not_started leaves.starts) e

/-- A temporary file that was not there before and is removed again. -/
theorem written_removed {path : String} (unused : files path = none) (data data' : Bytes) :
    ((files.write path data).write path data').remove path = files := by
  funext other
  by_cases here : other = path
  · rw [here, Files.remove_self, unused]
  · rw [Files.remove_of_ne _ here, Files.write_of_ne _ _ here, Files.write_of_ne _ _ here]

theorem written_ne {path : String} (unused : files path = none) {files' : Files}
    (there : (files' path).isSome) :
    files' ≠ files := by
  rintro rfl
  rw [unused] at there
  contradiction

/-- The renaming of the written file and what is deferred. -/
theorem renamed_created (starts : K.Starts p faults files cfg) (write : faults .write = none)
    (closeTemp : faults .closeTemp = none) (unused : files (K.temp p (K.name cfg)) = none)
    (data : Bytes) :
    Created K p faults files cfg
      (((FileScript.rename faults .renameNew (K.temp p (K.name cfg)) (K.file p (K.name cfg))).defer
        (K.removeTemp p faults cfg)).exec
          ((files.write (K.temp p (K.name cfg)) []).write (K.temp p (K.name cfg)) data)) := by
  have there : ((files.write (K.temp p (K.name cfg)) []).write (K.temp p (K.name cfg)) data
      (K.temp p (K.name cfg))).isSome := by
    rw [Files.write_self]
    rfl
  rw [Script.exec_defer, rename_exec faults _ .renameNew _ there]
  cases rename : faults .renameNew with
  | none => exact .made ⟨starts, write, closeTemp, rename⟩ _
  | some text =>
    have fails : faults .renameNew ≠ none := by
      rw [rename]
      simp
    dsimp only [Option.elim_some]
    rw [removeTemp, FileScript.ignoring, handle_exec]
    cases remove : faults .removeTemp with
    | none =>
      rw [Action.handle_ok _ (FileScript.perform_ok remove _ _), written_removed unused]
      refine .clean (fun creates => fails creates.renameNew) ?_ _
      rintro ⟨_, failed | failed | failed⟩
      · exact failed write
      · exact failed closeTemp
      · exact failed.2 remove
    | some text' =>
      rw [Action.handle_error _ (FileScript.perform_error remove _ _)]
      have stays : faults .removeTemp ≠ none := by
        rw [remove]
        simp
      exact .left ⟨starts, .inr (.inr ⟨fails, stays⟩)⟩ _ (written_ne unused there)

/-- How a creation can go: it does not start, or the temporary file is not written, or that is
renamed. -/
inductive Course (K : FileKind κ) (p : Place) (faults : FileFaults) (files : Files) (cfg : κ) :
    Except Err Bool × Files → Prop
  | unstarted (not_started : ¬ K.Starts p faults files cfg) (e : Err) :
      Course K p faults files cfg (.error e, files)
  | unwritten (starts : K.Starts p faults files cfg)
      (failed : ¬ (faults .write = none ∧ faults .closeTemp = none)) {e : Err}
      {files' : Files} (ran : (K.writeTemp p faults cfg).exec files = (.error e, files'))
      (there : (files' (K.temp p (K.name cfg))).isSome) : Course K p faults files cfg (.error e, files')
  | written (starts : K.Starts p faults files cfg) (write : faults .write = none)
      (closeTemp : faults .closeTemp = none)
      {data : Bytes} (ran : (K.writeTemp p faults cfg).exec files =
        (.ok true, (files.write (K.temp p (K.name cfg)) []).write (K.temp p (K.name cfg)) data)) :
      Course K p faults files cfg
        (((FileScript.rename faults .renameNew (K.temp p (K.name cfg)) (K.file p (K.name cfg))).defer
          (K.removeTemp p faults cfg)).exec
            ((files.write (K.temp p (K.name cfg)) []).write (K.temp p (K.name cfg)) data))

theorem createFile_course (K : FileKind κ) (p : Place) (faults : FileFaults) (files : Files) (cfg : κ) :
    Course K p faults files cfg ((K.createFile p faults cfg).exec files) := by
  unfold createFile
  rw [Script.exec_bind]
  by_cases staged : faults .mkdir = none ∧ faults .mkdirStage = none
  swap
  · obtain ⟨e, failed⟩ := stageDir_fails files staged
    rw [Action.bind_error _ failed]
    exact .unstarted (fun starts => staged ⟨starts.mkdir, starts.mkdirStage⟩) e
  rw [Action.bind_ok _ (stageDir_exec staged.1 staged.2), Script.exec_bind]
  have looked : (FileScript.isFileExist faults (K.file p (K.name cfg))).exec files =
      (.ok ((faults .stat).isNone && (files (K.file p (K.name cfg))).isSome), files) := rfl
  rw [Action.bind_ok _ looked]
  by_cases found : faults .stat = none ∧ (files (K.file p (K.name cfg))).isSome = true
  · rw [if_pos (by simp [found.1, found.2])]
    exact .unstarted (fun starts => starts.absent found) _
  rw [if_neg (by simpa using found)]
  rw [Script.exec_bind]
  by_cases temp : (∃ data, K.marshal cfg = .ok data) ∧ '/' ∉ (K.name cfg).toList ∧
    faults .createTemp = none
  swap
  · obtain ⟨e, failed⟩ := writeTemp_fails p files temp
    rw [Action.bind_error _ failed]
    exact .unstarted (fun starts => temp ⟨starts.data, starts.plain, starts.createTemp⟩) e
  obtain ⟨⟨data, marshalled⟩, plain, createTemp⟩ := temp
  have starts : K.Starts p faults files cfg :=
    ⟨staged.1, staged.2, found, ⟨data, marshalled⟩, plain, createTemp⟩
  by_cases written : faults .write = none ∧ faults .closeTemp = none
  · have wrote : (K.writeTemp p faults cfg).exec files =
        (.ok true, (files.write (K.temp p (K.name cfg)) []).write (K.temp p (K.name cfg)) data) :=
      writeTemp_exec marshalled plain createTemp written.1 written.2
    rw [Action.bind_ok _ wrote]
    exact .written starts written.1 written.2 wrote
  · obtain ⟨e, files', failed, there⟩ := writeTemp_stays p files marshalled plain createTemp written
    rw [Action.bind_error _ failed]
    exact .unwritten starts written failed there

/-- `os.CreateTemp` has taken a name that no file has. -/
theorem createFile_created (K : FileKind κ) (p : Place) (faults : FileFaults) {files : Files} (cfg : κ)
    (unused : files (K.temp p (K.name cfg)) = none) :
    Created K p faults files cfg ((K.createFile p faults cfg).exec files) := by
  generalize ended : (K.createFile p faults cfg).exec files = result
  have course : Course K p faults files cfg result := ended ▸ createFile_course K p faults files cfg
  cases course with
  | unstarted not_started e => exact .unstarted not_started e
  | unwritten starts failed ran there =>
    refine .left ⟨starts, ?_⟩ _ (written_ne unused there)
    by_cases write : faults .write = none
    · exact .inr (.inl fun closeTemp => failed ⟨write, closeTemp⟩)
    · exact .inl write
  | written starts write closeTemp _ => exact renamed_created starts write closeTemp unused _

variable (p faults files) in
/-- The files of the kind after a creation: one more, or the same. -/
theorem createFile_files (regular : K.Regular) (cfg : κ) :
    (K.Creates p faults files cfg ∧ ∃ data, SameFiles K p (files.write (K.file p (K.name cfg)) data)
        ((K.createFile p faults cfg).exec files).2) ∨
      ¬ K.Creates p faults files cfg ∧
        SameFiles K p files ((K.createFile p faults cfg).exec files).2 := by
  have kept : K.SameFiles p files ((K.writeTemp p faults cfg).exec files).2 :=
    writeTemp_keeps regular cfg files fun _ => rfl
  generalize ended : (K.createFile p faults cfg).exec files = result
  have course : Course K p faults files cfg result := ended ▸ createFile_course K p faults files cfg
  cases course with
  | unstarted not_started e => exact .inr ⟨fun creates => not_started creates.starts, fun _ => rfl⟩
  | unwritten starts failed ran there =>
    rw [ran] at kept
    exact .inr ⟨fun creates => failed ⟨creates.write, creates.closeTemp⟩, kept⟩
  | @written starts write closeTemp data wrote =>
    rw [wrote] at kept
    have there : ((files.write (K.temp p (K.name cfg)) []).write (K.temp p (K.name cfg)) data
        (K.temp p (K.name cfg))).isSome := by
      rw [Files.write_self]
      rfl
    have cleaned : ∀ (files' : Files) name,
      (ignoring faults .removeTemp (Files.remove (K.temp p (K.name cfg))) files').2
        (K.file p name) = files' (K.file p name) := by
      intro files' name
      show (faults .removeTemp).elim (files'.remove (K.temp p (K.name cfg))) (fun _ => files') _ = _
      cases faults .removeTemp with
      | none => exact Files.remove_of_ne _ (regular.file_ne_temp _ _)
      | some text => rfl
    rw [Script.exec_defer, removeTemp, ignoring_exec, rename_exec faults _ _ _ there]
    cases renameNew : faults .renameNew with
    | some text =>
      refine .inr
        ⟨fun creates => absurd (creates.renameNew.symm.trans renameNew) (by simp), fun name => ?_⟩
      exact (cleaned _ name).trans (kept name)
    | none =>
      refine .inl ⟨⟨starts, write, closeTemp, renameNew⟩, data, fun name => (cleaned _ name).trans ?_⟩
      dsimp only [Option.elim_none]
      by_cases here : K.file p name = K.file p (K.name cfg)
      · rw [here, Files.rename_target, Files.write_self, Files.write_self]
      · rw [Files.rename_of_ne _ (regular.file_ne_temp _ _) here, Files.write_of_ne _ _ here]
        exact kept name

end FileKind

/-! The listeners of a new instance. -/

namespace Manager

variable {h : Host} {m : Manager} {id : Nat} {l : Listener} {ls : List Listener}
  {faults : Nat → Option String}

/-- The listeners can be bound one after the other. -/
structure Fits (h : Host) (m : Manager) (ls : List Listener) (faults : Nat → Option String) : Prop where
  fine : ∀ k < ls.length, faults k = none
  free : ∀ l ∈ ls, m.bindable h l = true
  apart : ls.Pairwise fun a b => h.conflicts a b = false

theorem bindable_bound (other : Listener) :
    (m.bound id [l]).bindable h other = true ↔ m.bindable h other = true ∧
      h.conflicts other l = false := by
  rw [bindable_iff, bindable_iff]
  constructor
  · rintro ⟨held, taken⟩
    refine ⟨⟨fun owned member => held owned (List.mem_append_left _ member), taken⟩, ?_⟩
    exact held (id, l) (List.mem_append_right _ (List.mem_singleton_self _))
  · rintro ⟨⟨held, taken⟩, new⟩
    refine ⟨?_, taken⟩
    intro owned member
    rcases List.mem_append.mp member with old | added
    · exact held owned old
    · rw [List.mem_singleton.mp added]
      exact new

theorem fits_issued : Fits h m.issued ls faults ↔ Fits h m ls faults :=
  ⟨fun fits => ⟨fits.fine, fits.free, fits.apart⟩, fun fits => ⟨fits.fine, fits.free, fits.apart⟩⟩

theorem fits_nil : Fits h m [] faults where
  fine k short := absurd short (Nat.not_lt_zero k)
  free _ member := absurd member List.not_mem_nil
  apart := .nil

theorem fits_cons (id : Nat) : Fits h m (l :: ls) faults ↔
    (faults 0 = none ∧ m.bindable h l = true) ∧ Fits h (m.bound id [l]) ls fun k => faults (k + 1) := by
  constructor
  · rintro ⟨fine, free, apart⟩
    obtain ⟨first, apart⟩ := List.pairwise_cons.mp apart
    refine ⟨⟨fine 0 (Nat.zero_lt_succ _), free l List.mem_cons_self⟩, ?_, ?_, apart⟩
    · exact fun k short => fine (k + 1) (Nat.succ_lt_succ short)
    · intro other member
      rw [bindable_bound, h.symmetric]
      exact ⟨free other (List.mem_cons_of_mem l member), first other member⟩
  · rintro ⟨⟨fault, free⟩, rest⟩
    refine ⟨?_, ?_, List.pairwise_cons.mpr ⟨?_, rest.apart⟩⟩
    · intro k short
      cases k with
      | zero => exact fault
      | succ k => exact rest.fine k (Nat.lt_of_succ_lt_succ short)
    · intro other member
      rcases List.mem_cons.mp member with rfl | later
      · exact free
      · exact ((bindable_bound other).mp (rest.free other later)).1
    · intro other member
      rw [h.symmetric]
      exact ((bindable_bound other).mp (rest.free other member)).2

theorem runListeners_fits (fits : Fits h m ls faults) :
    runListeners h id ls faults m = (.ok (), m.bound id ls) := by
  induction ls generalizing faults m with
  | nil =>
    rw [bound_nil]
    rfl
  | cons l rest ih =>
    obtain ⟨first, fits⟩ := (fits_cons id).mp fits
    rw [runListeners]
    rcases listen_cases (h := h) id (faults 0) l m with ⟨_, _, bind⟩ | ⟨busy, _, _⟩
    · rw [Action.bind_ok _ bind, ih fits, bound_bound]
      rfl
    · exact absurd first busy

theorem fits_of_ok {m' : Manager}
    (ran : runListeners h id ls faults m = (.ok (), m')) : Fits h m ls faults := by
  induction ls generalizing faults m with
  | nil => exact fits_nil
  | cons l rest ih =>
    rw [runListeners] at ran
    rcases listen_cases (h := h) id (faults 0) l m with ⟨fault, free, bind⟩ | ⟨_, e, bind⟩
    · rw [Action.bind_ok _ bind] at ran
      exact (fits_cons id).mpr ⟨⟨fault, free⟩, ih ran⟩
    · rw [Action.bind_error _ bind] at ran
      cases ran

variable (id) in
/-- A `Run` that fails leaves a listener bound when it could bind the first one. -/
theorem runListeners_unfit (unfit : ¬ Fits h m ls faults) :
    ∃ e ls', runListeners h id ls faults m = (.error e, m.bound id ls') ∧
      (ls' = [] ↔ ¬ Fits h m (ls.take 1) faults) := by
  cases ls with
  | nil => exact absurd fits_nil unfit
  | cons l rest =>
    have single : Fits h m ((l :: rest).take 1) faults ↔ faults 0 = none ∧ m.bindable h l = true := by
      rw [List.take_succ_cons, List.take_zero, fits_cons id]
      exact and_iff_left fits_nil
    rw [single, runListeners]
    rcases listen_cases (h := h) id (faults 0) l m with ⟨fault, free, bind⟩ | ⟨busy, e, bind⟩
    · rw [Action.bind_ok _ bind]
      have stuck : ¬ Fits h (m.bound id [l]) rest fun k => faults (k + 1) :=
        fun fits => unfit ((fits_cons id).mpr ⟨⟨fault, free⟩, fits⟩)
      rcases runListeners_cases (h := h) id rest (fun k => faults (k + 1)) (m.bound id [l]) with
        ok | ⟨k, e, _, failed⟩
      · exact absurd (fits_of_ok ok) stuck
      · refine ⟨e, l :: rest.take k, ?_, ?_⟩
        · rw [failed, bound_bound]
          rfl
        · simp [fault, free]
    · refine ⟨e, [], ?_, ?_⟩
      · rw [Action.bind_error _ bind, bound_nil]
      · exact iff_of_true rfl busy

end Manager

/-! What is left. -/

namespace Registry

/-- Nothing is left of an operation: the maps and the files are as before, nothing is bound that was
not, and nothing runs that did not. -/
structure Clean (r r' : Registry) : Prop where
  store : SameStore r r'
  held : r'.manager.held ⊆ r.manager.held
  tasks : r'.tasks ⊆ r.tasks

theorem Clean.refl (r : Registry) : Clean r r := ⟨.refl r, List.Subset.refl _, List.Subset.refl _⟩

/-- The next instance is none of those that have bound or started something. -/
structure Fresh (r : Registry) : Prop where
  held : ∀ owned ∈ r.manager.held, owned.1 < r.manager.next
  tasks : ∀ task ∈ r.tasks, task.1 < r.manager.next

end Registry

namespace Shelf

variable {κ ι : Type} {S : Shelf κ ι} {site : Site} {env : Env} {r : Registry} {cfg : κ}
  {make : Nat → ι} {i : ι} {late : Bool} {faults : Nat → Option String}

/-- An instance has the number it was given. -/
def Numbered (S : Shelf κ ι) : Prop := ∀ {cfg make}, S.build cfg = .ok make → ∀ id, S.id (make id) = id

/-- The watcher that is started before anything is bound. -/
def watcher (S : Shelf κ ι) (i : ι) : List (Nat × Task) :=
  if (S.plan i).early then [(S.id i, .watch)] else []

theorem runPrepared_late (runs_on : (late && (S.plan i).waits) = true) :
    S.runPrepared site late i faults r =
    (.ok (), { r with tasks := r.tasks ++ S.watcher i ++ [(S.id i, .run)] }) := by
  unfold runPrepared
  rw [if_pos runs_on]
  rfl

theorem runPrepared_fits (inTime : (late && (S.plan i).waits) = false)
    (fits : Manager.Fits site.host r.manager (S.plan i).listeners faults) :
    S.runPrepared site late i faults r =
      (.ok (), { r with
        manager := r.manager.bound (S.id i) (S.plan i).listeners
        tasks := r.tasks ++ S.watcher i ++ (if (S.plan i).loops then [(S.id i, .watch)] else []) ++
          if (S.plan i).control then [(S.id i, .control)] else [] }) := by
  unfold runPrepared
  rw [inTime]
  have ran : onManager (Manager.runListeners site.host (S.id i) (S.plan i).listeners faults)
      { r with tasks := r.tasks ++ S.watcher i } =
      (.ok (), { r with
        manager := r.manager.bound (S.id i) (S.plan i).listeners
        tasks := r.tasks ++ S.watcher i }) := by
    unfold onManager
    rw [Manager.runListeners_fits fits]
  exact Action.bind_ok (fun _ => spawn (S.plan i).loops (S.id i) .watch >>= fun _ =>
    spawn (S.plan i).control (S.id i) .control) ran

theorem runPrepared_unfit (inTime : (late && (S.plan i).waits) = false)
    (unfit : ¬ Manager.Fits site.host r.manager (S.plan i).listeners faults) :
    ∃ e ls, S.runPrepared site late i faults r =
        (.error e, { r with manager := r.manager.bound (S.id i) ls, tasks := r.tasks ++ S.watcher i }) ∧
      (ls = [] ↔ ¬ Manager.Fits site.host r.manager ((S.plan i).listeners.take 1) faults) := by
  obtain ⟨e, ls, ran, first⟩ := Manager.runListeners_unfit (S.id i) unfit
  refine ⟨e, ls, ?_, first⟩
  unfold runPrepared
  rw [inTime]
  have failed : onManager (Manager.runListeners site.host (S.id i) (S.plan i).listeners faults)
      { r with tasks := r.tasks ++ S.watcher i } =
      (.error e,
        { r with manager := r.manager.bound (S.id i) ls, tasks := r.tasks ++ S.watcher i }) := by
    unfold onManager
    rw [ran]
  exact Action.bind_error (fun _ => spawn (S.plan i).loops (S.id i) .watch >>= fun _ =>
    spawn (S.plan i).control (S.id i) .control) failed

/-- How a failed addition leaves something behind: `i` is the instance it has made. -/
inductive Leftover (S : Shelf κ ι) (site : Site) (env : Env) (r : Registry) (cfg : κ) (i : ι) : Prop
  /-- The first listener of two is bound, and the second is not. -/
  | half (inTime : (env.late && (S.plan i).waits) = false)
      (first : Manager.Fits site.host r.manager ((S.plan i).listeners.take 1) env.faults.bind)
      (unfit : ¬ Manager.Fits site.host r.manager (S.plan i).listeners env.faults.bind)
  /-- The watcher is started, and then a listener is not bound. -/
  | watched (inTime : (env.late && (S.plan i).waits) = false) (early : (S.plan i).early = true)
      (unfit : ¬ Manager.Fits site.host r.manager (S.plan i).listeners env.faults.bind)
  /-- The `Run` is still going on when the file is not made. -/
  | running (runs_on : (env.late && (S.plan i).waits) = true)
      (unmade : ¬ S.files.Creates site.host.dir.place env.faults.file r.manager.files cfg)
  /-- The file is not made, and `Close` misses the control loop. -/
  | controlled (inTime : (env.late && (S.plan i).waits) = false)
      (fits : Manager.Fits site.host r.manager (S.plan i).listeners env.faults.bind)
      (control : (S.plan i).control = true) (missed : env.missed (S.id i) = true)
      (unmade : ¬ S.files.Creates site.host.dir.place env.faults.file r.manager.files cfg)
  /-- The temporary file stays. -/
  | temp (starts : (env.late && (S.plan i).waits) = true ∨
        Manager.Fits site.host r.manager (S.plan i).listeners env.faults.bind)
      (leaves : S.files.LeavesTemp site.host.dir.place env.faults.file r.manager.files cfg)

/-- What is left when the file is not made. -/
def abandoned (S : Shelf κ ι) (env : Env) (i : ι) (files : Files) (r : Registry) : Registry :=
  { r with
    manager := { r.manager.closed (S.id i) with files := files }
    tasks := r.tasks.filter fun task => !ends env.missed (S.id i) task }

theorem onFiles_eq {x : FileScript Bool} {result : Except Err Bool} {files : Files}
    (ran : x.exec r.manager.files = (result, files)) :
    onFiles x r = (result.map fun _ => (), { r with manager := { r.manager with files := files } }) := by
  have shape : onFiles x r = ((x.exec r.manager.files).1.map fun _ => (),
      { r with manager := { r.manager with files := (x.exec r.manager.files).2 } }) := rfl
  rw [ran] at shape
  exact shape

theorem persist_ok {b : Bool} {files : Files}
    (made : (S.files.createFile site.host.dir.place env.faults.file cfg).exec r.manager.files =
      (.ok b, files)) :
    ∃ r', S.persist site env i cfg true r = (.ok (), r') :=
  ⟨_, Action.handle_ok _ (onFiles_eq made)⟩

theorem persist_error {e : Err} {files : Files}
    (failed : (S.files.createFile site.host.dir.place env.faults.file cfg).exec r.manager.files =
      (.error e, files)) :
    S.persist site env i cfg true r = (.error e, S.abandoned env i files r) :=
  (Action.handle_error _ (onFiles_eq failed)).trans rfl

/-- The outcome of an addition whose start has succeeded. -/
theorem addLocked_started {r₁ : Registry} (built : S.build cfg = .ok make)
    (ran : S.runPrepared site env.late (make r.manager.next) env.faults.bind
      { r with manager := r.manager.issued } = (.ok (), r₁))
    (same : r₁.manager.files = r.manager.files)
    (unused : r.manager.files (S.files.temp site.host.dir.place (S.files.name cfg)) = none)
    {e : Err} (failed : (S.addLocked site env cfg true r).1 = .error e) :
    ∃ files, (S.addLocked site env cfg true r).2 = S.abandoned env (make r.manager.next) files r₁ ∧
      ¬ S.files.Creates site.host.dir.place env.faults.file r.manager.files cfg ∧
      (files = r.manager.files ↔
        ¬ S.files.LeavesTemp site.host.dir.place env.faults.file r.manager.files cfg) := by
  rw [addLocked, Action.bind_ok _ (prepare_ok built r), Action.bind_ok _ ran] at failed ⊢
  have created := FileKind.createFile_created S.files site.host.dir.place env.faults.file cfg unused
  rcases done : (S.files.createFile site.host.dir.place env.faults.file cfg).exec
    r.manager.files with ⟨result, files⟩
  rw [done] at created
  rw [← same] at done
  cases created with
  | made creates =>
    obtain ⟨r', persisted⟩ := persist_ok (i := make r.manager.next) done
    rw [Action.bind_ok _ persisted] at failed
    contradiction
  | clean not_made none_left e =>
    rw [Action.bind_error _ (persist_error done)]
    exact ⟨_, rfl, not_made, iff_of_true rfl none_left⟩
  | left leaves e changed =>
    rw [Action.bind_error _ (persist_error done)]
    exact ⟨_, rfl, leaves.not_creates, iff_of_false changed (not_not_intro leaves)⟩

/-- The next instance has started nothing before. -/
theorem not_mem_tasks (fresh : r.Fresh) (task : Task) : (r.manager.next, task) ∉ r.tasks :=
  fun member => Nat.lt_irrefl _ (fresh.tasks _ member)

theorem not_mem_held (fresh : r.Fresh) (l : Listener) : (r.manager.next, l) ∉ r.manager.held :=
  fun member => Nat.lt_irrefl _ (fresh.held _ member)

/-- Closing the new instance releases its listeners. -/
theorem closed_bound (ls : List Listener) :
    ((r.manager.bound r.manager.next ls).closed r.manager.next).held ⊆ r.manager.held := by
  intro owned member
  obtain ⟨there, other⟩ := List.mem_filter.mp member
  rcases List.mem_append.mp there with old | new
  · exact old
  · obtain ⟨l, _, rfl⟩ := List.mem_map.mp new
    simp at other

theorem ends_watch (missed : Nat → Bool) (id : Nat) : ends missed id (id, .watch) = true := by
  simp [ends]

theorem ends_control (missed : Nat → Bool) (id : Nat) :
    ends missed id (id, .control) = !missed id := by simp [ends]

theorem ends_run (missed : Nat → Bool) (id : Nat) : ends missed id (id, .run) = false := by simp [ends]

/-- Closing the new instance ends its loops, unless it misses the control loop. -/
theorem filter_loops (missed : Nat → Bool) (early loops control : Bool)
    (heard : control = true → missed r.manager.next = false) :
    ((r.tasks ++ (if early then [(r.manager.next, Task.watch)] else []) ++
      (if loops then [(r.manager.next, Task.watch)] else []) ++
      if control then [(r.manager.next, Task.control)] else []).filter fun task =>
        !ends missed r.manager.next task) ⊆ r.tasks := by
  intro task member
  obtain ⟨there, stays⟩ := List.mem_filter.mp member
  have runs_on : ends missed r.manager.next task = false := by simpa using stays
  have watches {wanted : Bool}
      (new : task ∈ if wanted then [(r.manager.next, Task.watch)] else []) : task ∈ r.tasks := by
    cases wanted with
    | false => exact absurd new List.not_mem_nil
    | true =>
      rw [List.mem_singleton.mp new, ends_watch] at runs_on
      contradiction
  rw [List.mem_append, List.mem_append, List.mem_append] at there
  rcases there with ((old | new) | new) | new
  · exact old
  · exact watches new
  · exact watches new
  · cases control with
    | false => exact absurd new List.not_mem_nil
    | true =>
      rw [List.mem_singleton.mp new, ends_control, heard rfl] at runs_on
      contradiction

/-- A creation that was run, and whose file could not be made. -/
theorem addLocked_fits_clean_iff (numbered : S.Numbered) (fresh : r.Fresh)
    (built : S.build cfg = .ok make)
    (unused : r.manager.files (S.files.temp site.host.dir.place (S.files.name cfg)) = none)
    (runs_on : (env.late && (S.plan (make r.manager.next)).waits) = false)
    (fits : Manager.Fits site.host r.manager (S.plan (make r.manager.next)).listeners
      env.faults.bind)
    {e : Err} (failed : (S.addLocked site env cfg true r).1 = .error e) :
    Registry.Clean r (S.addLocked site env cfg true r).2 ↔
      ¬ S.Leftover site env r cfg (make r.manager.next) := by
  have id := numbered built r.manager.next
  obtain ⟨files, after, unmade, same⟩ := addLocked_started built
    (runPrepared_fits runs_on (Manager.fits_issued.mpr fits)) rfl unused failed
  rw [after, abandoned, id]
  constructor
  · rintro clean
      (⟨_, _, unfit⟩ | ⟨_, _, unfit⟩ | ⟨late, _⟩ | ⟨_, _, control, missed, _⟩ | ⟨_, leaves⟩)
    · exact unfit fits
    · exact unfit fits
    · rw [runs_on] at late
      contradiction
    · rw [id] at missed
      refine not_mem_tasks fresh .control (clean.tasks (List.mem_filter.mpr ⟨?_, ?_⟩))
      · rw [if_pos control]
        exact List.mem_append_right _ (List.mem_singleton_self _)
      · rw [ends_control, missed]
        rfl
    · exact same.mp clean.store.files leaves
  · intro none_left
    refine ⟨⟨⟨rfl, rfl⟩, same.mpr fun leaves => none_left (.temp (.inr fits) leaves)⟩,
      closed_bound _, ?_⟩
    rw [watcher, id]
    refine filter_loops env.missed _ _ _ fun control => ?_
    by_contra missed
    exact none_left (.controlled runs_on fits control (id.symm ▸ Bool.of_not_eq_false missed) unmade)

/-- A creation that could not be run. -/
theorem addLocked_unfit_clean_iff (numbered : S.Numbered) (fresh : r.Fresh)
    (built : S.build cfg = .ok make)
    (runs_on : (env.late && (S.plan (make r.manager.next)).waits) = false)
    (unfit : ¬ Manager.Fits site.host r.manager (S.plan (make r.manager.next)).listeners
      env.faults.bind) :
    Registry.Clean r (S.addLocked site env cfg true r).2 ↔
      ¬ S.Leftover site env r cfg (make r.manager.next) := by
  have id := numbered built r.manager.next
  obtain ⟨e', ls, ran, first⟩ := runPrepared_unfit (S := S)
    (r := { r with manager := r.manager.issued }) runs_on (Manager.fits_issued.not.mpr unfit)
  rw [Manager.fits_issued] at first
  have after : S.addLocked site env cfg true r = _ :=
    (Action.bind_ok _ (prepare_ok built r)).trans (Action.bind_error _ ran)
  rw [after, id]
  constructor
  · rintro clean (⟨_, one, _⟩ | ⟨_, early, _⟩ | ⟨late, _⟩ | ⟨_, fits', _⟩ | ⟨starts | starts, _⟩)
    · have some_ : ls ≠ [] := fun none_ => first.mp none_ one
      obtain ⟨l, rest, rfl⟩ := List.exists_cons_of_ne_nil some_
      refine not_mem_held fresh l (clean.held (List.mem_append_right _ ?_))
      exact List.mem_cons_self
    · have started : (r.manager.next, Task.watch) ∈ r.tasks ++ S.watcher (make r.manager.next) := by
        rw [watcher, if_pos early, id]
        exact List.mem_append_right _ (List.mem_singleton_self _)
      exact not_mem_tasks fresh .watch (clean.tasks started)
    · rw [runs_on] at late
      contradiction
    · exact unfit fits'
    · rw [runs_on] at starts
      contradiction
    · exact unfit starts
  · intro none_left
    have unbound : ls = [] := first.mpr fun one => none_left (.half runs_on one unfit)
    have unwatched : S.watcher (make r.manager.next) = [] :=
      if_neg fun early => none_left (.watched runs_on early unfit)
    rw [unbound, unwatched, List.append_nil, Manager.bound_nil]
    exact ⟨⟨⟨rfl, rfl⟩, rfl⟩, List.Subset.refl _, List.Subset.refl _⟩

theorem addLocked_clean_iff (numbered : S.Numbered) (fresh : r.Fresh) (built : S.build cfg = .ok make)
    (unused : r.manager.files (S.files.temp site.host.dir.place (S.files.name cfg)) = none) {e : Err}
    (failed : (S.addLocked site env cfg true r).1 = .error e) :
    Registry.Clean r (S.addLocked site env cfg true r).2 ↔
      ¬ S.Leftover site env r cfg (make r.manager.next) := by
  cases runs_on : env.late && (S.plan (make r.manager.next)).waits with
  | true =>
    obtain ⟨files, after, unmade, _⟩ :=
      addLocked_started built (runPrepared_late runs_on) rfl unused failed
    refine iff_of_false ?_ (not_not_intro (.running runs_on unmade))
    intro clean
    have still : (r.manager.next, Task.run) ∈ (S.addLocked site env cfg true r).2.tasks := by
      rw [after, abandoned, numbered built r.manager.next]
      apply List.mem_filter.mpr
      exact ⟨List.mem_append_right _ (List.mem_singleton_self _), by rw [ends_run]; rfl⟩
    exact not_mem_tasks fresh .run (clean.tasks still)
  | false =>
    by_cases fits : Manager.Fits site.host r.manager
      (S.plan (make r.manager.next)).listeners env.faults.bind
    · exact addLocked_fits_clean_iff numbered fresh built unused runs_on fits failed
    · exact addLocked_unfit_clean_iff numbered fresh built runs_on fits

end Shelf

theorem services_numbered (site : Site) : site.services.Numbered := by
  intro cfg make built id
  change buildService site cfg = .ok make at built
  unfold buildService at built
  split_ifs at built
  · cases built
    rfl
  · cases made : NewService site.host.parsers cfg with
    | error e =>
      rw [made] at built
      contradiction
    | ok kind =>
      rw [made] at built
      cases built
      rfl

theorem routes_numbered (site : Site) : site.routes.Numbered := by
  intro cfg make built id
  change newRouteService site cfg = .ok make at built
  unfold newRouteService at built
  cases checked : cfg.validateBasic site.lib with
  | error e =>
    rw [checked] at built
    contradiction
  | ok cfg' =>
    rw [checked] at built
    cases listens : routeListener site cfg' with
    | error e =>
      simp only [bind, Except.bind, listens] at built
      contradiction
    | ok listener =>
      simp only [bind, Except.bind, listens, pure, Except.pure] at built
      cases built
      rfl

/-! The numbers of the instances along every run. -/

/-- The numbers below `k` have been given. -/
structure Issued (k : Nat) (r : Registry) : Prop extends Registry.Fresh r where
  made : k ≤ r.manager.next

namespace Shelf

variable {κ ι : Type} {S : Shelf κ ι} {k : Nat}

theorem Issued.spawn (wanted : Bool) {id : Nat} (known : id < k) (task : Task) :
    Action.Keeps (Issued k) (spawn wanted id task) := by
  intro r issued
  refine ⟨⟨issued.held, ?_⟩, issued.made⟩
  intro t member
  rcases List.mem_append.mp member with old | new
  · exact issued.tasks t old
  · cases wanted with
    | false => exact absurd new List.not_mem_nil
    | true =>
      rw [List.mem_singleton.mp new]
      exact known.trans_le issued.made

theorem Issued.runListeners (h : Host) {id : Nat} (known : id < k) (ls : List Listener)
    (faults : Nat → Option String) :
    Action.Keeps (Issued k) (onManager (Manager.runListeners h id ls faults)) := by
  intro r issued
  have bound : ∀ ls, Issued k { r with manager := r.manager.bound id ls } := by
    intro ls
    refine ⟨⟨?_, issued.tasks⟩, issued.made⟩
    intro owned member
    rcases List.mem_append.mp member with old | new
    · exact issued.held owned old
    · obtain ⟨l, _, rfl⟩ := List.mem_map.mp new
      exact known.trans_le issued.made
  unfold onManager
  rcases Manager.runListeners_cases (h := h) id ls faults r.manager with ok | ⟨j, e, _, failed⟩
  · rw [ok]
    exact bound ls
  · rw [failed]
    exact bound (ls.take j)

variable (site : Site) (env : Env)

theorem Issued.run (late : Bool) {i : ι} (known : S.id i < k) (faults : Nat → Option String) :
    Action.Keeps (Issued k) (S.runPrepared site late i faults) := by
  unfold runPrepared
  apply (Issued.spawn _ known _).bind
  intro _
  split
  · exact Issued.spawn _ known _
  · apply (Issued.runListeners _ known _ _).bind
    intro _
    exact (Issued.spawn _ known _).bind fun _ => Issued.spawn _ known _

theorem Issued.close (missed : Nat → Bool) (i : ι) : Action.Keeps (Issued k) (S.close missed i) := by
  intro r issued
  refine ⟨⟨?_, ?_⟩, issued.made⟩
  · exact fun owned member => issued.held owned (List.mem_filter.mp member).1
  · exact fun task member => issued.tasks task (List.mem_filter.mp member).1

/-- The new instance has a number that was not given before. -/
theorem Issued.prepare (numbered : S.Numbered) (cfg : κ) {f : ι → Action Registry Unit}
    (rest : ∀ i k', k ≤ k' → S.id i < k' → Action.Keeps (Issued k') (f i)) :
    Action.Keeps (Issued k) (S.prepare cfg >>= f) := by
  intro r issued
  rcases built : S.build cfg with e | make
  · rw [Action.bind_error _ (prepare_error built r)]
    exact issued
  · rw [Action.bind_ok _ (prepare_ok built r)]
    have next : Issued (r.manager.next + 1) { r with manager := r.manager.issued } :=
      ⟨⟨fun owned member => Nat.lt_succ_of_lt (issued.held owned member),
        fun task member => Nat.lt_succ_of_lt (issued.tasks task member)⟩, Nat.le_refl _⟩
    have known : S.id (make r.manager.next) < r.manager.next + 1 := by
      rw [numbered built]
      exact Nat.lt_succ_self _
    have after := rest _ _ (Nat.le_succ_of_le issued.made) known _ next
    exact ⟨after.toFresh, (Nat.le_succ_of_le issued.made).trans after.made⟩

/-- How the entries are set leaves the instances alone. -/
def Aside (S : Shelf κ ι) : Prop := ∀ name i r, (S.put name i r).manager.held = r.manager.held ∧
  (S.put name i r).manager.next = r.manager.next ∧ (S.put name i r).tasks = r.tasks

theorem Issued.set (aside : S.Aside) (name : String) (i : Option ι) :
    Action.Keeps (Issued k) (S.set name i) := by
  intro r issued
  obtain ⟨held, next, tasks⟩ := aside name i r
  refine ⟨⟨?_, ?_⟩, ?_⟩
  · show ∀ owned ∈ (S.put name i r).manager.held, owned.1 < (S.put name i r).manager.next
    rw [held, next]
    exact issued.held
  · show ∀ task ∈ (S.put name i r).tasks, task.1 < (S.put name i r).manager.next
    rw [tasks, next]
    exact issued.tasks
  · show k ≤ (S.put name i r).manager.next
    rw [next]
    exact issued.made

theorem Issued.onFiles (x : FileScript Bool) : Action.Keeps (Issued k) (onFiles x) :=
  fun _ issued => ⟨⟨issued.held, issued.tasks⟩, issued.made⟩

variable (numbered : S.Numbered) (aside : S.Aside)

include numbered aside in
theorem Issued.rollback (oldName : String) (oldCfg : κ) (cause : Err) :
    Action.Keeps (Issued k) (S.rollback site env oldName oldCfg cause) := by
  unfold Shelf.rollback
  apply Action.Keeps.bind
  · apply Action.Keeps.handle
    · apply Issued.prepare numbered
      intro i k' _ known
      exact (Issued.run site _ known _).bind fun _ => Issued.set aside _ _
    · exact fun e => (Issued.set aside _ _).bind fun _ => Action.Keeps.fail _
  · exact fun _ => Action.Keeps.fail _

include numbered aside in
theorem Issued.replaceLocked (oldName : String) (old : ι) (newName : String) (newCfg : κ) :
    Action.Keeps (Issued k) (S.replaceLocked site env oldName old newName newCfg) := by
  apply Issued.prepare numbered
  intro i k' _ known
  apply (Issued.close env.missed old).bind
  intro _
  apply Action.Keeps.bind
  · exact (Issued.run site _ known _).handle fun e => Issued.rollback site env numbered aside _ _ e
  intro _
  apply Action.Keeps.bind
  · apply (Issued.onFiles _).handle
    intro e
    exact (Issued.close env.missed i).bind fun _ => Issued.rollback site env numbered aside _ _ e
  · exact fun _ => (Issued.set aside _ _).bind fun _ => Issued.set aside _ _

include numbered aside in
theorem Issued.addLocked (cfg : κ) (createFile : Bool) :
    Action.Keeps (Issued k) (S.addLocked site env cfg createFile) := by
  apply Issued.prepare numbered
  intro i k' _ known
  apply (Issued.run site _ known _).bind
  intro _
  apply Action.Keeps.bind
  · unfold persist
    split
    · exact (Issued.onFiles _).handle fun e => (Issued.close env.missed i).bind fun _ =>
        Action.Keeps.fail e
    · exact Action.Keeps.pure _
  · exact fun _ => Issued.set aside _ _

include aside in
theorem Issued.remove (name : String) : Action.Keeps (Issued k) (S.remove site env name) := by
  apply (Issued.onFiles _).bind
  intro _
  apply Action.Keeps.choose
  intro r
  cases S.entries r name with
  | none => exact Action.Keeps.pure _
  | some i => exact (Issued.close env.missed i).bind fun _ => Issued.set aside _ _

end Shelf

theorem services_aside (site : Site) : site.services.Aside := fun _ _ _ => ⟨rfl, rfl, rfl⟩

theorem routes_aside (site : Site) : site.routes.Aside := fun _ _ _ => ⟨rfl, rfl, rfl⟩

namespace Registry

variable {site : Site} {env : Env} {r : Registry}

theorem issued_checked {k : Nat} (result : Except Err Route.RouteConfig)
    {f : Route.RouteConfig → Action Registry Unit} (rest : ∀ cfg, Action.Keeps (Issued k) (f cfg)) :
    Action.Keeps (Issued k) (Action.lift result >>= f) := by
  refine Action.Keeps.bind ?_ rest
  exact fun _ issued => issued

theorem issued_apply {k : Nat} (env : Env) (op : Op) : Action.Keeps (Issued k) (apply site env op) := by
  have tunnels :=
    Shelf.Issued.replaceLocked (k := k) site env (services_numbered site) (services_aside site)
  have routes := Shelf.Issued.replaceLocked (k := k) site env (routes_numbered site) (routes_aside site)
  cases op with
  | addService config createFile =>
    unfold apply AddService
    apply Action.Keeps.choose
    intro r
    split
    · exact Action.Keeps.fail _
    · exact Shelf.Issued.addLocked site env (services_numbered site) (services_aside site) _ _
  | replaceService config =>
    unfold apply ReplaceServiceByUUID
    apply Action.Keeps.choose
    intro r
    split
    · exact Action.Keeps.fail _
    · dsimp only
      split
      · exact Action.Keeps.fail _
      · exact tunnels _ _ _ _
  | setServiceDisabled name disabled =>
    unfold apply SetServiceDisabled
    apply Action.Keeps.choose
    intro r
    split
    · exact Action.Keeps.fail _
    · split
      · exact Action.Keeps.pure _
      · exact tunnels _ _ _ _
  | removeService name => exact Shelf.Issued.remove site env (services_aside site) name
  | removeServiceByUUID uuid =>
    unfold apply RemoveServiceByUUID
    apply Action.Keeps.choose
    intro r
    split
    · exact Action.Keeps.fail _
    · exact Shelf.Issued.remove site env (services_aside site) _
  | addRoute cfg createFile =>
    unfold apply AddRoute
    apply Action.Keeps.choose
    intro r
    dsimp only
    split
    · exact Action.Keeps.fail _
    · exact issued_checked _ fun _ => Shelf.Issued.addLocked site env (routes_numbered site)
        (routes_aside site) _ _
  | replaceRoute cfg =>
    unfold apply ReplaceRouteByUUID
    apply Action.Keeps.choose
    intro r
    split
    · exact Action.Keeps.fail _
    · exact issued_checked _ fun _ => routes _ _ _ _
  | setRouteDisabled name disabled =>
    unfold apply SetRouteDisabled
    apply Action.Keeps.choose
    intro r
    split
    · exact Action.Keeps.fail _
    · split
      · exact Action.Keeps.pure _
      · exact issued_checked _ fun _ => routes _ _ _ _
  | removeRoute name => exact Shelf.Issued.remove site env (routes_aside site) name
  | removeRouteByUUID uuid =>
    unfold apply RemoveRouteByUUID
    apply Action.Keeps.choose
    intro r
    split
    · exact Action.Keeps.fail _
    · exact Shelf.Issued.remove site env (routes_aside site) _

theorem Fresh.empty (taken : List Listener) (files : Files) : (Registry.empty taken files).Fresh where
  held _ member := absurd member List.not_mem_nil
  tasks _ member := absurd member List.not_mem_nil

/-- Every state that can be reached is one in which the next instance is new. -/
theorem fresh_of_run {allowed : Registry → Op × Env → Prop} {events : List (Op × Env)}
    (run : (system site).Run allowed events r) : r.Fresh := by
  have issued : Issued 0 r := by
    apply run.invariant (Issued 0)
    · rintro _ ⟨taken, files, rfl⟩
      exact ⟨Fresh.empty taken files, Nat.zero_le _⟩
    · rintro s e _ issued _ next
      cases next
      exact issued_apply e.2 e.1 s issued
  exact issued.toFresh

/-! The two operations. -/

/-- How `AddService` leaves something behind. -/
def TunnelLeftover (site : Site) (env : Env) (r : Registry) (config : Config) : Prop :=
  r.manager.services config.Name = none ∧
    ∃ make, buildService site (Manager.normalizeConfig env.now env.uuid config) = .ok make ∧
      site.services.Leftover site env r (Manager.normalizeConfig env.now env.uuid config)
        (make r.manager.next)

/-- How `AddRoute` does. -/
def RouteLeftover (site : Site) (env : Env) (r : Registry) (cfg : Route.RouteConfig) : Prop :=
  cfg.ProbeMode ≠ Route.RouteProbeLegacyFrame ∧
    ∃ cfg' make, validateRouteLocked site env r (withIdentity env cfg) "" = .ok cfg' ∧
      newRouteService site cfg' = .ok make ∧
      site.routes.Leftover site env r cfg' (make r.manager.next)

theorem addService_clean_iff (fresh : r.Fresh) (config : Config)
    (unused : r.manager.files (site.services.files.temp site.host.dir.place config.Name) = none)
    {e : Err} (failed : (AddService site env config true r).1 = .error e) :
    Clean r (AddService site env config true r).2 ↔ ¬ TunnelLeftover site env r config := by
  unfold AddService at failed ⊢
  dsimp only [Action.choose] at failed ⊢
  cases present : site.services.entries r (Manager.normalizeConfig env.now env.uuid config).Name with
  | some s =>
    refine iff_of_true (Clean.refl r) ?_
    rintro ⟨absent, _⟩
    have there : r.manager.services config.Name = some s := present
    rw [there] at absent
    contradiction
  | none =>
    rw [present] at failed
    dsimp only [Option.isSome_none] at failed ⊢
    rw [if_neg Bool.false_ne_true] at failed ⊢
    cases built : site.services.build (Manager.normalizeConfig env.now env.uuid config) with
    | error e' =>
      rw [Shelf.addLocked, Action.bind_error _ (Shelf.prepare_error built r)]
      refine iff_of_true (Clean.refl r) ?_
      rintro ⟨_, make, made, _⟩
      have same := built.symm.trans made
      contradiction
    | ok make =>
      rw [Shelf.addLocked_clean_iff (services_numbered site) fresh built unused failed, not_iff_not]
      constructor
      · exact fun left => ⟨present, make, built, left⟩
      · rintro ⟨_, make', made, left⟩
        cases Except.ok.inj (built.symm.trans made)
        exact left

theorem addRoute_clean_iff (fresh : r.Fresh) (cfg : Route.RouteConfig)
    (unused : r.manager.files (site.routes.files.temp site.host.dir.place cfg.Name) = none) {e : Err}
    (failed : (AddRoute site env cfg true r).1 = .error e) :
    Clean r (AddRoute site env cfg true r).2 ↔ ¬ RouteLeftover site env r cfg := by
  have given : withProbeMode site (site.services.configs r) cfg true = cfg := by
    unfold withProbeMode
    exact if_neg (by simp)
  unfold AddRoute at failed ⊢
  dsimp only [Action.choose] at failed ⊢
  rw [given] at failed ⊢
  by_cases legacy : cfg.ProbeMode = Route.RouteProbeLegacyFrame
  · rw [if_pos ⟨rfl, legacy⟩]
    exact iff_of_true (Clean.refl r) fun left => left.1 legacy
  rw [if_neg fun both => legacy both.2] at failed ⊢
  cases valid : validateRouteLocked site env r (withIdentity env cfg) "" with
  | error e' =>
    rw [Action.bind_error _ (Action.lift_apply (.error e') r)]
    refine iff_of_true (Clean.refl r) ?_
    rintro ⟨_, cfg', _, checked, _⟩
    cases valid.symm.trans checked
  | ok cfg' =>
    rw [valid] at failed
    rw [Action.bind_ok _ (Action.lift_apply (.ok cfg') r)] at failed ⊢
    cases built : site.routes.build cfg' with
    | error e' =>
      rw [Shelf.addLocked, Action.bind_error _ (Shelf.prepare_error built r)]
      refine iff_of_true (Clean.refl r) ?_
      rintro ⟨_, cfg'', make, checked, made, _⟩
      cases Except.ok.inj (valid.symm.trans checked)
      cases built.symm.trans made
    | ok make =>
      have name : cfg'.Name = cfg.Name := (of_validateRouteLocked valid).name
      have unused' : r.manager.files
          (site.routes.files.temp site.host.dir.place (site.routes.files.name cfg')) = none := by
        show r.manager.files (site.routes.files.temp site.host.dir.place cfg'.Name) = none
        rw [name]
        exact unused
      rw [Shelf.addLocked_clean_iff (routes_numbered site) fresh built unused' failed, not_iff_not]
      constructor
      · exact fun left => ⟨legacy, cfg', make, valid, built, left⟩
      · rintro ⟨_, cfg'', make', checked, made, left⟩
        cases Except.ok.inj (valid.symm.trans checked)
        cases Except.ok.inj (built.symm.trans made)
        exact left

variable (site env) in
/-- When a failed creation leaves nothing behind. -/
theorem failed_creation_clean_iff (fresh : r.Fresh) (config : Config) (cfg : Route.RouteConfig)
    (unused : r.manager.files (site.services.files.temp site.host.dir.place config.Name) = none)
    (unusedRoute : r.manager.files (site.routes.files.temp site.host.dir.place cfg.Name) = none) :
    (∀ e, (AddService site env config true r).1 = .error e →
      (Clean r (AddService site env config true r).2 ↔ ¬ TunnelLeftover site env r config)) ∧
    ∀ e, (AddRoute site env cfg true r).1 = .error e →
      (Clean r (AddRoute site env cfg true r).2 ↔ ¬ RouteLeftover site env r cfg) :=
  ⟨fun _ failed => addService_clean_iff fresh config unused failed,
    fun _ failed => addRoute_clean_iff fresh cfg unusedRoute failed⟩

/-- A manager on a host where two ports are in use. -/
def busyHost : Registry := empty [⟨.tcp, "127.0.0.1:7001"⟩, ⟨.tcp, "127.0.0.1:7003"⟩] fun _ => none

theorem taken_no_leftover :
    ¬ TunnelLeftover localSite (calm [] []) busyHost (tunnelOf "1" "web" "7001") := by
  rintro ⟨_, make, built, left⟩
  have shape : buildService localSite (Manager.normalizeConfig 1 "5b1e" (tunnelOf "1" "web" "7001")) =
      .ok fun id => ⟨id, tunnelOf "1" "web" "7001", .server ⟨.tcp, "127.0.0.1:7001"⟩⟩ := rfl
  cases Except.ok.inj (shape.symm.trans built)
  have unfit : ¬ Manager.Fits localSite.host busyHost.manager [⟨.tcp, "127.0.0.1:7001"⟩]
      (calm [] []).faults.bind :=
    fun fits => absurd (fits.free _ (List.mem_singleton_self _)) (by decide)
  rcases left with ⟨_, first, _⟩ | ⟨_, early, _⟩ | ⟨late, _⟩ | ⟨_, fits, _⟩ | ⟨late | fits, _⟩
  · exact unfit first
  · exact Bool.false_ne_true early
  · exact Bool.false_ne_true late
  · exact unfit fits
  · exact Bool.false_ne_true late
  · exact unfit fits

theorem missing_no_leftover :
    ¬ RouteLeftover localSite (calm [] []) busyHost (routeOf "2" "out" "7003" "web") := by
  rintro ⟨_, cfg', _, valid, _⟩
  have refused : validateRouteLocked localSite (calm [] []) busyHost
      (withIdentity (calm [] []) (routeOf "2" "out" "7003" "web")) "" =
        .error (.failed "member 不存在:web") := by
    decide +kernel
  have clash := refused.symm.trans valid
  cases clash

/-- The port of the tunnel is in use, and nothing is left; nor is anything left of a route over no
tunnel. -/
theorem refused_clean :
    (AddService localSite (calm [] []) (tunnelOf "1" "web" "7001") true busyHost).1 =
      .error (.failed "listen 127.0.0.1:7001: bind: address already in use") ∧
    Clean busyHost (AddService localSite (calm [] []) (tunnelOf "1" "web" "7001") true busyHost).2 ∧
    (AddRoute localSite (calm [] []) (routeOf "2" "out" "7003" "web") true busyHost).1 =
      .error (.failed "member 不存在:web") ∧
    Clean busyHost
      (AddRoute localSite (calm [] []) (routeOf "2" "out" "7003" "web") true busyHost).2 := by
  have taken : (AddService localSite (calm [] []) (tunnelOf "1" "web" "7001") true busyHost).1 =
      .error (.failed "listen 127.0.0.1:7001: bind: address already in use") := by decide +kernel
  have missing : (AddRoute localSite (calm [] []) (routeOf "2" "out" "7003" "web") true busyHost).1 =
      .error (.failed "member 不存在:web") := by decide +kernel
  have iffs := failed_creation_clean_iff localSite (calm [] []) (Fresh.empty _ _ : busyHost.Fresh)
    (tunnelOf "1" "web" "7001") (routeOf "2" "out" "7003" "web") rfl rfl
  exact ⟨taken, (iffs.1 _ taken).mpr taken_no_leftover, missing,
    (iffs.2 _ missing).mpr missing_no_leftover⟩

/-- A frps whose worker port is in use. -/
def relayOf (uuid name port worker : String) : Config :=
  ⟨uuid, name, false, "frps", "tcp@127.0.0.1:" ++ port, "", "", "", "", "tcp@127.0.0.1:" ++ worker,
    "", "", "", "", 1⟩

/-- Its input stays bound. -/
theorem input_left_bound : ¬ ∀ (r : Registry) (config : Config), r.Fresh →
    r.manager.files (localSite.services.files.temp localSite.host.dir.place config.Name) = none →
    ∀ e, (AddService localSite (calm [] []) config true r).1 = .error e →
      Clean r (AddService localSite (calm [] []) config true r).2 := by
  intro claimed
  have failed : (AddService localSite (calm [] []) (relayOf "1" "relay" "7002" "7003") true busyHost).1 =
      .error (.failed "listen 127.0.0.1:7003: bind: address already in use") := by decide +kernel
  have bound : (AddService localSite (calm [] [])
    (relayOf "1" "relay" "7002" "7003") true busyHost).2.manager.held =
      [(0, ⟨.tcp, "127.0.0.1:7002"⟩)] := by decide +kernel
  have clean := claimed busyHost (relayOf "1" "relay" "7002" "7003") (Fresh.empty _ _) rfl _ failed
  have none_held := clean.held
  rw [bound] at none_held
  exact absurd (none_held (List.mem_singleton_self _)) List.not_mem_nil

end Registry

end Gotun.Tun
