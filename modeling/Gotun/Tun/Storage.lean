import Gotun.Lib.Table
import Gotun.Tun.CrashSafety

/-! The directory as a map from names to configurations, and how the functions of `tun/config.go` change
it when they succeed. -/

namespace Gotun.Tun
namespace FileKind

open Gotun.Lib

variable {κ κ' : Type} {K : FileKind κ} {K' : FileKind κ'} {p : Place} {files files' : Files}
  {map : Table String κ} {faults : FileFaults} {name : String} {cfg oldCfg newCfg : κ}
  {data : Bytes} {b : Bool}

/-- There is a file for each configuration of the map, with its content, and no other file of the
kind. -/
structure Stores (K : FileKind κ) (p : Place) (files : Files) (map : Table String κ) : Prop where
  absent : ∀ name, '/' ∉ name.toList → map name = none → files (K.file p name) = none
  plain : ∀ name cfg, map name = some cfg → '/' ∉ name.toList
  present : ∀ name cfg, map name = some cfg → ∃ data, K.marshal cfg = .ok data ∧
    files (K.file p name) = some data

theorem Stores.empty : K.Stores p (fun _ => none) fun _ => none where
  absent _ _ _ := rfl
  plain _ _ found := nomatch found
  present _ _ found := nomatch found

theorem Stores.of_eq (stores : K.Stores p files map)
    (same : ∀ name, '/' ∉ name.toList → files' (K.file p name) = files (K.file p name)) :
    K.Stores p files' map where
  absent name plain none_ := (same name plain).trans (stores.absent name plain none_)
  plain := stores.plain
  present name cfg found := by
    rw [same name (stores.plain name cfg found)]
    exact stores.present name cfg found

theorem sameEntries_file (same : SameEntries p files files') (regular : K.Regular)
    (plain : '/' ∉ name.toList) :
    files' (K.file p name) = files (K.file p name) := by
  rw [← file_eq (K := K) rfl]
  exact same _ (regular.plain_append plain)

theorem Stores.congr (stores : K.Stores p files map) (regular : K.Regular)
    (same : SameEntries p files files') :
    K.Stores p files' map :=
  stores.of_eq fun _ plain => sameEntries_file same regular plain

theorem Stores.write (stores : K.Stores p files map) (plain : '/' ∉ name.toList)
    (marshalled : K.marshal cfg = .ok data) :
    K.Stores p (files.write (K.file p name) data) (map.put name cfg) where
  absent other isPlain none_ := by
    by_cases here : other = name
    · rw [here, Table.put, Function.update_self] at none_
      contradiction
    · rw [Table.put, Function.update_of_ne here] at none_
      rw [Files.write_of_ne _ _ fun same => here (file_inj same)]
      exact stores.absent other isPlain none_
  plain other c found := by
    rcases Table.of_put found with ⟨rfl, _⟩ | ⟨_, old⟩
    · exact plain
    · exact stores.plain other c old
  present other c found := by
    rcases Table.of_put found with ⟨rfl, rfl⟩ | ⟨here, old⟩
    · exact ⟨data, marshalled, Files.write_self ..⟩
    · rw [Files.write_of_ne _ _ fun same => here (file_inj same)]
      exact stores.present other c old

theorem Stores.remove (stores : K.Stores p files map) (name : String) :
    K.Stores p (files.remove (K.file p name)) (map.drop name) where
  absent other isPlain none_ := by
    by_cases here : other = name
    · rw [here, Files.remove_self]
    · rw [Table.drop, Function.update_of_ne here] at none_
      rw [Files.remove_of_ne _ fun same => here (file_inj same)]
      exact stores.absent other isPlain none_
  plain other c found := stores.plain other c (Table.of_drop found).2
  present other c found := by
    obtain ⟨here, old⟩ := Table.of_drop found
    rw [Files.remove_of_ne _ fun same => here (file_inj same)]
    exact stores.present other c old

/-- The files of the two kinds have different names. -/
def Other (K : FileKind κ) (K' : FileKind κ') : Prop :=
  ∀ {p : Place} (name name' : String), K.file p name ≠ K'.file p name'

theorem Stores.beside_write (stores : K.Stores p files map) (other : K.Other K') :
    K.Stores p (files.write (K'.file p name) data) map :=
  stores.of_eq fun _ _ => Files.write_of_ne _ _ (other _ _)

theorem Stores.beside_remove (stores : K.Stores p files map) (other : K.Other K') :
    K.Stores p (files.remove (K'.file p name)) map :=
  stores.of_eq fun _ _ => Files.remove_of_ne _ (other _ _)

/-! The functions, when they succeed. -/

theorem stageDir_ok (ran : (stageDir faults).exec files = (.ok b, files')) : files' = files := by
  by_cases fine : faults .mkdir = none ∧ faults .mkdirStage = none
  · rw [stageDir_exec fine.1 fine.2] at ran
    cases ran
    rfl
  · obtain ⟨e, failed⟩ := stageDir_fails files fine
    rw [failed] at ran
    cases ran

theorem writeTemp_ok (ran : (K.writeTemp p faults cfg).exec files = (.ok b, files')) :
    ∃ data, K.marshal cfg = .ok data ∧ '/' ∉ (K.name cfg).toList ∧
      files' = (files.write (K.temp p (K.name cfg)) []).write (K.temp p (K.name cfg)) data := by
  by_cases temp : (∃ data, K.marshal cfg = .ok data) ∧ '/' ∉ (K.name cfg).toList ∧
    faults .createTemp = none
  swap
  · obtain ⟨e, failed⟩ := writeTemp_fails p files temp
    rw [failed] at ran
    cases ran
  obtain ⟨⟨data, marshalled⟩, plain, createTemp⟩ := temp
  by_cases written : faults .write = none ∧ faults .closeTemp = none
  · rw [writeTemp_exec marshalled plain createTemp written.1 written.2] at ran
    cases ran
    exact ⟨data, marshalled, plain, rfl⟩
  · obtain ⟨e, left, failed, _⟩ := writeTemp_stays p files marshalled plain createTemp written
    rw [failed] at ran
    cases ran

theorem rename_ok {op : FileOp} {source target : String}
    (ran : (FileScript.rename faults op source target).exec files = (.ok b, files')) :
    files' = files.rename source target := by
  rw [FileScript.rename, attempt_exec] at ran
  cases fault : faults op with
  | some text =>
    rw [fault] at ran
    cases ran
  | none =>
    rw [fault, Option.elim_none] at ran
    split_ifs at ran
    · cases ran
      rfl
    · cases ran

/-- A call on a staged file whose error is ignored. -/
theorem ignoring_same (files : Files) (faults : FileFaults) (op : FileOp) {path : String}
    (staged : Staged p path) :
    SameEntries p files
      ((FileScript.ignoring (FileScript.perform faults op (Files.remove path))).exec files).2 := by
  rw [ignoring_exec]
  show SameEntries p files ((faults op).elim (files.remove path) fun _ => files)
  cases faults op with
  | none => exact (SameEntries.refl files).remove staged
  | some text => exact SameEntries.refl files

/-- The temporary file is seen nowhere in the directory. -/
theorem temp_written (name : String) (data data' : Bytes) :
    SameEntries p files ((files.write (K.temp p name) data).write (K.temp p name) data') :=
  ((SameEntries.refl files).write (staged_temp K name)).write (staged_temp K name)

theorem createFile_writes (ran : (K.createFile p faults cfg).exec files = (.ok b, files')) :
    ∃ data, K.marshal cfg = .ok data ∧ '/' ∉ (K.name cfg).toList ∧
      SameEntries p (files.write (K.file p (K.name cfg)) data) files' := by
  unfold createFile at ran
  obtain ⟨_, files₁, staged, ran⟩ := Script.of_bind_ok ran
  cases stageDir_ok staged
  have looked : (FileScript.isFileExist faults (K.file p (K.name cfg))).exec files =
      (.ok ((faults .stat).isNone && (files (K.file p (K.name cfg))).isSome), files) := rfl
  rw [Script.exec_bind, Action.bind_ok _ looked] at ran
  split_ifs at ran
  · cases ran
  obtain ⟨_, files₁, written, ran⟩ := Script.of_bind_ok ran
  obtain ⟨data, marshalled, plain, made⟩ := writeTemp_ok written
  rw [Script.exec_defer] at ran
  obtain ⟨renames, after⟩ := Prod.ext_iff.mp ran
  dsimp only at renames after
  have renamed := rename_ok (Prod.ext renames rfl)
  have there : files₁ (K.temp p (K.name cfg)) = some data := by
    rw [made, Files.write_self]
  have same : SameEntries p files files₁ := by
    rw [made]
    exact temp_written _ _ _
  have placed : SameEntries p (files.write (K.file p (K.name cfg)) data) _ :=
    same.moveIn (staged_temp K _) there
  rw [← renamed] at placed
  refine ⟨data, marshalled, plain, ?_⟩
  rw [← after]
  exact placed.trans (ignoring_same _ _ _ (staged_temp K _))

theorem deleteFile_removes (ran : (K.deleteFile p faults name).exec files = (.ok b, files')) :
    files' = files.remove (K.file p name) := by
  rw [deleteFile, FileScript.perform, attempt_exec] at ran
  cases fault : faults .removeFile with
  | some text =>
    rw [fault] at ran
    cases ran
  | none =>
    rw [fault] at ran
    cases ran
    rfl

/-- A handler that always fails does not turn an error into a success. -/
theorem of_handle_ok {x : FileScript Bool} (undo : FileScript Bool)
    (ran : (x.handle fun e => undo >>= fun _ => .fail e).exec files = (.ok b, files')) :
    x.exec files = (.ok b, files') := by
  rw [handle_exec] at ran
  rcases first : x.exec files with ⟨e | c, t⟩
  · rw [Action.handle_error _ first] at ran
    obtain ⟨_, _, _, failed⟩ := Script.of_bind_ok ran
    cases failed
  · rw [Action.handle_ok _ first] at ran
    exact ran

/-- The old file is moved out of the way if it is seen. -/
theorem move_writes (regular : K.Regular)
    (seen : faults .stat = none ∨ K.name newCfg = K.name oldCfg) {files₁ : Files}
    (there : files₁ (K.temp p (K.name newCfg)) = some data) (same : SameEntries p files files₁)
    (ran : (K.move p faults oldCfg newCfg).exec files₁ = (.ok b, files')) :
    SameEntries p
      ((files.remove (K.file p (K.name oldCfg))).write (K.file p (K.name newCfg)) data) files' := by
  unfold move at ran
  have looked : (FileScript.isFileExist faults (K.file p (K.name oldCfg))).exec files₁ =
      (.ok ((faults .stat).isNone && (files₁ (K.file p (K.name oldCfg))).isSome), files₁) := rfl
  dsimp only at ran
  rw [Script.exec_bind, Action.bind_ok _ looked] at ran
  by_cases found : ((faults .stat).isNone && (files₁ (K.file p (K.name oldCfg))).isSome) = true
  · simp only [found, if_true] at ran
    obtain ⟨_, files₂, backedUp, ran⟩ := Script.of_bind_ok ran
    have renamed := rename_ok backedUp
    have gone : SameEntries p (files.remove (K.file p (K.name oldCfg))) files₂ := by
      rw [renamed]
      exact same.moveOut (staged_backup K _)
    have kept : files₂ (K.temp p (K.name newCfg)) = some data := by
      rw [renamed, Files.rename_of_ne _ (regular.file_ne_temp _ _).symm (regular.temp_ne_backup _ _)]
      exact there
    obtain ⟨_, files₃, placed, ran⟩ := Script.of_bind_ok ran
    have placed := rename_ok (of_handle_ok _ placed)
    have written : SameEntries p (Files.write (K.file p (K.name newCfg)) data _) _ :=
      gone.moveIn (staged_temp K _) kept
    rw [← placed] at written
    have cleaned := ignoring_same files₃ faults .removeBackup (staged_backup (p := p) K (K.name oldCfg))
    rw [ran] at cleaned
    exact written.trans cleaned
  · simp only [found] at ran
    obtain ⟨_, files₂, unseen, ran⟩ := Script.of_bind_ok ran
    cases unseen
    obtain ⟨_, files₂, placed, ran⟩ := Script.of_bind_ok ran
    have placed := rename_ok (of_handle_ok (pure false) placed)
    have written : SameEntries p (Files.write (K.file p (K.name newCfg)) data _) _ :=
      same.moveIn (staged_temp K _) there
    rw [← placed] at written
    cases ran
    -- the old file is not there, or it is the one that is written over
    have alone : SameEntries p
      ((files.remove (K.file p (K.name oldCfg))).write (K.file p (K.name newCfg)) data)
        (files.write (K.file p (K.name newCfg)) data) := by
      intro entry plain
      by_cases here : p.tunDir ++ "/" ++ entry = K.file p (K.name newCfg)
      · rw [here, Files.write_self, Files.write_self]
      · rw [Files.write_of_ne _ _ here, Files.write_of_ne _ _ here]
        by_cases old : p.tunDir ++ "/" ++ entry = K.file p (K.name oldCfg)
        · rw [old, Files.remove_self]
          rcases seen with stat | name
          · rw [← old, ← same entry plain, old]
            simpa [stat] using found
          · rw [name] at here
            exact absurd old here
        · rw [Files.remove_of_ne _ old]
    exact alone.trans written

/-- Where the old file was looked at, or is written over, only the new one is left. -/
theorem replaceFile_writes (regular : K.Regular)
    (seen : faults .stat = none ∨ K.name newCfg = K.name oldCfg)
    (ran : (K.replaceFile p faults oldCfg newCfg).exec files = (.ok b, files')) :
    ∃ data, K.marshal newCfg = .ok data ∧ '/' ∉ (K.name newCfg).toList ∧
      SameEntries p ((files.remove (K.file p (K.name oldCfg))).write
        (K.file p (K.name newCfg)) data) files' := by
  unfold replaceFile at ran
  obtain ⟨_, files₁, staged, ran⟩ := Script.of_bind_ok ran
  cases stageDir_ok staged
  obtain ⟨_, files₁, written, ran⟩ := Script.of_bind_ok ran
  obtain ⟨data, marshalled, plain, made⟩ := writeTemp_ok written
  have there : files₁ (K.temp p (K.name newCfg)) = some data := by
    rw [made, Files.write_self]
  have same : SameEntries p files files₁ := by
    rw [made]
    exact temp_written _ _ _
  rw [Script.exec_defer] at ran
  obtain ⟨moves, after⟩ := Prod.ext_iff.mp ran
  dsimp only at moves after
  have moved : (K.move p faults oldCfg newCfg).exec files₁ = (.ok b, _) := Prod.ext moves rfl
  refine ⟨data, marshalled, plain, ?_⟩
  rw [← after]
  exact (move_writes regular seen there same moved).trans (ignoring_same _ _ _ (staged_temp K _))

/-! A replacement that fails. -/

/-- Every file of the kind is the same in both. -/
def SameFiles (K : FileKind κ) (p : Place) (files files' : Files) : Prop :=
  ∀ name, files' (K.file p name) = files (K.file p name)

theorem SameFiles.other {f : Files → Files} {files₁ : Files} (same : K.SameFiles p files files₁)
    (others : ∀ name, f files₁ (K.file p name) = files₁ (K.file p name)) :
    K.SameFiles p files (f files₁) :=
  fun name => (others name).trans (same name)

theorem perform_keeps (op : FileOp) {f : Files → Files}
    (others : ∀ files name, f files (K.file p name) = files (K.file p name)) :
    Action.Keeps (K.SameFiles p files) (FileScript.perform faults op f).exec := by
  intro files₁ same
  rw [FileScript.perform, attempt_exec]
  cases faults op with
  | none => exact same.other (others files₁)
  | some text => exact same

theorem write_others (regular : K.Regular) (name : String) (data : Bytes) (files : Files)
    (other : String) :
    files.write (K.temp p name) data (K.file p other) = files (K.file p other) :=
  Files.write_of_ne _ _ (regular.file_ne_temp other name)

theorem stageDir_keeps : Action.Keeps (K.SameFiles p files) (stageDir faults).exec := by
  rw [stageDir, Script.exec_bind]
  exact (perform_keeps .mkdir fun _ _ => rfl).bind fun _ => perform_keeps .mkdirStage fun _ _ => rfl

theorem writeTemp_keeps (regular : K.Regular) (cfg : κ) :
    Action.Keeps (K.SameFiles p files) (K.writeTemp p faults cfg).exec := by
  intro files₁ same
  cases marshalled : K.marshal cfg with
  | error e =>
    rw [writeTemp, marshalled]
    exact same
  | ok data =>
    by_cases plain : '/' ∈ (K.name cfg).toList
    · have refused : ∃ e, (K.writeTemp p faults cfg).exec files₁ = (.error e, files₁) :=
        writeTemp_fails p files₁ fun ready => ready.2.1 plain
      obtain ⟨e, failed⟩ := refused
      rw [failed]
      exact same
    · rw [writeTemp_eq marshalled plain]
      simp only [Script.exec_bind]
      exact ((perform_keeps .createTemp fun files => write_others regular _ _ files).bind fun _ =>
        (perform_keeps .write fun files => write_others regular _ _ files).bind fun _ =>
          perform_keeps .closeTemp fun _ _ => rfl) files₁ same

/-- The backup is put back. -/
theorem SameFiles.restored (regular : K.Regular) (name : String) (files : Files) : K.SameFiles p files
    ((files.rename (K.file p name) (K.backup p name)).rename (K.backup p name) (K.file p name)) := by
  intro other
  by_cases here : K.file p other = K.file p name
  · rw [here, Files.rename_target, Files.rename_target]
  · rw [Files.rename_of_ne _ (regular.file_ne_backup other name) here,
      Files.rename_of_ne _ here (regular.file_ne_backup other name)]

/-- The second rename is the one call that fails, and the first is undone. -/
theorem renameNew_fails {undo last : FileScript Bool} {files₁ : Files} {temp target : String}
    {e : Err} (there : (files₁ temp).isSome = true)
    (undone : faults .renameNew ≠ none → ∃ b files₂, undo.exec files₁ = (.ok b, files₂) ∧
      K.SameFiles p files files₂)
    (lastOk : ∀ files, ∃ b files', last.exec files = (.ok b, files'))
    (ran : ((FileScript.rename faults .renameNew temp target).handle
      (fun e => undo >>= fun _ => .fail e) >>= fun _ => last).exec files₁ = (.error e, files')) :
    K.SameFiles p files files' := by
  rw [Script.exec_bind, handle_exec] at ran
  have renamed := rename_exec faults files₁ .renameNew target there
  cases fault : faults .renameNew with
  | none =>
    rw [fault] at renamed
    rw [Action.bind_ok _ (Action.handle_ok _ renamed)] at ran
    obtain ⟨b, files', fine⟩ := lastOk (files₁.rename temp target)
    rw [fine] at ran
    cases ran
  | some text =>
    rw [fault] at renamed
    obtain ⟨b, files₂, restored, same⟩ := undone (by simp [fault])
    have handled := Action.handle_error
      (fun e => (undo >>= fun _ => (Script.fail e : FileScript Bool)).exec) renamed
    rw [Script.exec_bind, Action.bind_ok _ restored, Script.fail, Script.exec] at handled
    rw [Action.bind_error _ handled] at ran
    cases ran
    exact same

theorem move_fails (regular : K.Regular) (single : Single faults) {e : Err}
    (there : (files (K.temp p (K.name newCfg))).isSome = true)
    (ran : (K.move p faults oldCfg newCfg).exec files = (.error e, files')) :
    K.SameFiles p files files' := by
  unfold move at ran
  have looked : (FileScript.isFileExist faults (K.file p (K.name oldCfg))).exec files =
      (.ok ((faults .stat).isNone && (files (K.file p (K.name oldCfg))).isSome), files) := rfl
  dsimp only at ran
  rw [Script.exec_bind, Action.bind_ok _ looked] at ran
  by_cases found : ((faults .stat).isNone && (files (K.file p (K.name oldCfg))).isSome) = true
  · have present := (Bool.and_eq_true _ _ ▸ found).2
    simp only [found, if_true] at ran
    rw [Script.exec_bind] at ran
    have renamed := rename_exec faults files .renameOld (K.backup p (K.name oldCfg)) present
    cases fault : faults .renameOld with
    | some text =>
      rw [fault] at renamed
      rw [Action.bind_error _ renamed] at ran
      cases ran
      exact fun _ => rfl
    | none =>
      rw [fault] at renamed
      rw [Action.bind_ok _ renamed] at ran
      have kept : (files.rename (K.file p (K.name oldCfg)) (K.backup p (K.name oldCfg)))
        (K.temp p (K.name newCfg)) =
          files (K.temp p (K.name newCfg)) :=
        Files.rename_of_ne _ (regular.file_ne_temp _ _).symm (regular.temp_ne_backup _ _)
      have backedUp : ((files.rename (K.file p (K.name oldCfg)) (K.backup p (K.name oldCfg)))
          (K.backup p (K.name oldCfg))).isSome := by
        rw [Files.rename_target]
        exact present
      refine renameNew_fails (by rw [kept]; exact there) (fun failed => ?_)
        (fun files => ⟨_, _, ignoring_exec ..⟩) ran
      have fine : faults .restore = none := by
        by_contra other
        exact absurd (single .renameNew .restore failed other) (by decide)
      have restored : (FileScript.ignoring
          (FileScript.rename faults .restore _ (K.file p (K.name oldCfg)))).exec _ = _ :=
        restore_exec faults _ backedUp
      rw [Gotun.Tun.ignoring, fine] at restored
      exact ⟨_, _, restored, SameFiles.restored regular (K.name oldCfg) files⟩
  · simp only [found] at ran
    exact renameNew_fails there (fun _ => ⟨false, files, rfl, fun _ => rfl⟩)
      (fun files => ⟨false, files, rfl⟩) ran

/-- A replacement that fails through a single call leaves every file of the kind as it was. -/
theorem replaceFile_fails (regular : K.Regular) (single : Single faults) {e : Err}
    (ran : (K.replaceFile p faults oldCfg newCfg).exec files = (.error e, files')) :
    K.SameFiles p files files' := by
  unfold replaceFile at ran
  rw [Script.exec_bind] at ran
  have staged : K.SameFiles p files ((stageDir faults).exec files).2 := stageDir_keeps files fun _ => rfl
  rcases stage : (stageDir faults).exec files with ⟨e' | b, files₁⟩
  · rw [Action.bind_error _ stage] at ran
    rw [stage] at staged
    cases ran
    exact staged
  · rw [Action.bind_ok _ stage, Script.exec_bind] at ran
    rw [stage] at staged
    have kept : K.SameFiles p files ((K.writeTemp p faults newCfg).exec files₁).2 :=
      writeTemp_keeps regular newCfg files₁ staged
    rcases written : (K.writeTemp p faults newCfg).exec files₁ with ⟨e' | b, files₂⟩
    · rw [Action.bind_error _ written] at ran
      rw [written] at kept
      cases ran
      exact kept
    · rw [Action.bind_ok _ written, Script.exec_defer] at ran
      rw [written] at kept
      obtain ⟨data, _, _, made⟩ := writeTemp_ok written
      have there : (files₂ (K.temp p (K.name newCfg))).isSome = true := by
        rw [made, Files.write_self]
        rfl
      obtain ⟨moves, after⟩ := Prod.ext_iff.mp ran
      dsimp only at moves after
      have moved := move_fails regular single there (Prod.ext moves rfl)
      have same : K.SameFiles p files _ := fun name => (moved name).trans (kept name)
      rw [← after, removeTemp, ignoring_exec, Gotun.Tun.ignoring]
      cases faults .removeTemp with
      | none => exact same.other fun name => Files.remove_of_ne _ (regular.file_ne_temp name _)
      | some text => exact same

end FileKind

end Gotun.Tun
