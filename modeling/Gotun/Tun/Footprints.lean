import Gotun.Lib.Footprint
import Gotun.Tun.Storage

/-! Which files the functions of `tun/config.go` create, rename, overwrite and delete, and where
these are. -/

namespace Gotun.Tun

open Gotun.Lib

/-! The calls. -/

namespace FileScript

variable {faults : FileFaults} {op : FileOp} {inside : String → Prop} {files : Files}

theorem attempt_each {f : Files → Except Err Bool × Files} :
    (attempt faults op f).Each (Script.Within inside) files ↔
      (faults op = none → Script.Within inside f files) := by
  rw [attempt, Script.each_request]
  cases fault : faults op with
  | some text => exact iff_of_true (.inr ⟨_, rfl⟩) fun fine => absurd fine (Option.some_ne_none text)
  | none => exact (imp_iff_right rfl).symm

theorem perform_each {f : Files → Files}
    (kept : ∀ files path, ¬ inside path → f files path = files path) :
    (perform faults op f).Each (Script.Within inside) files :=
  attempt_each.mpr fun _ => .inl kept

theorem stat_each (path : String) : (isFileExist faults path).Each (Script.Within inside) files :=
  Script.each_request.mpr (.inl fun _ _ _ => rfl)

theorem ignoring_each {x : FileScript Bool} :
    (ignoring x).Each (Script.Within inside) files ↔ x.Each (Script.Within inside) files :=
  Script.each_handle.trans (and_iff_left fun _ _ => trivial)

/-- Both paths of a renaming are changed. -/
theorem rename_each {source target : String} (ne : source ≠ target) :
    (rename faults op source target).Each (Script.Within inside) files ↔
      (faults op = none → (files source).isSome → inside source ∧ inside target) := by
  rw [rename, attempt_each]
  refine forall_congr' fun _ => ?_
  constructor
  · intro within there
    have changes : ∀ t : Files, (t source).isSome → ∀ path, ¬ inside path →
        t.rename source target path = t path := by
      intro t found path outside
      rcases within with always | ⟨e, failed⟩
      · have same := always t path outside
        dsimp only at same
        rwa [if_pos found] at same
      · dsimp only at failed
        rw [if_pos there] at failed
        cases failed
    constructor
    · by_contra outside
      have same := changes files there source outside
      rw [Files.rename_source _ ne] at same
      rw [← same] at there
      cases there
    · by_contra outside
      have found : ((files.remove target) source).isSome := by
        rw [Files.remove_of_ne _ ne]
        exact there
      have same := changes (files.remove target) found target outside
      rw [Files.rename_target, Files.remove_self] at same
      rw [same] at found
      cases found
  · intro both
    by_cases there : (files source).isSome
    · left
      intro t path outside
      obtain ⟨sourceInside, targetInside⟩ := both there
      dsimp only
      split_ifs
      · exact Files.rename_of_ne _ (fun same => outside (same ▸ sourceInside)) fun same =>
          outside (same ▸ targetInside)
      · rfl
    · right
      dsimp only
      rw [if_neg there]
      exact ⟨_, rfl⟩

end FileScript

/-! The functions. -/

namespace FileKind

variable {κ : Type} {K : FileKind κ} {p : Place} {faults : FileFaults} {files : Files}
  {cfg oldCfg newCfg : κ} {inside : String → Prop}

/-- The temporary file is made, written and closed. -/
structure Stages (K : FileKind κ) (faults : FileFaults) (cfg : κ) : Prop where
  mkdir : faults .mkdir = none
  mkdirStage : faults .mkdirStage = none
  data : ∃ data, K.marshal cfg = .ok data
  plain : '/' ∉ (K.name cfg).toList
  createTemp : faults .createTemp = none
  write : faults .write = none
  closeTemp : faults .closeTemp = none

/-- A replacement moves the old file out of the way. -/
structure Displaces (K : FileKind κ) (p : Place) (faults : FileFaults) (files : Files)
    (oldCfg newCfg : κ) : Prop where
  staged : K.Stages faults newCfg
  stat : faults .stat = none
  present : (files (K.file p (K.name oldCfg))).isSome
  renameOld : faults .renameOld = none

/-- Where a configuration is written. -/
def Receives (K : FileKind κ) (p : Place) (inside : String → Prop) (cfg : κ) : Prop :=
  inside (K.temp p (K.name cfg)) ∧ inside (K.file p (K.name cfg))

theorem stageDir_each : (stageDir faults).Each (Script.Within inside) files :=
  Script.each_bind.mpr
    ⟨FileScript.perform_each fun _ _ _ => rfl, fun _ _ => FileScript.perform_each fun _ _ _ => rfl⟩

theorem write_within {path : String} (here : inside path) (data : Bytes) (files : Files) (other : String)
    (outside : ¬ inside other) : files.write path data other = files other :=
  Files.write_of_ne _ _ fun same => outside (same ▸ here)

theorem remove_within {path : String} (here : inside path) (files : Files) (other : String)
    (outside : ¬ inside other) :
    files.remove path other = files other :=
  Files.remove_of_ne _ fun same => outside (same ▸ here)

theorem writeTemp_each (received : '/' ∉ (K.name cfg).toList → inside (K.temp p (K.name cfg))) :
    (K.writeTemp p faults cfg).Each (Script.Within inside) files := by
  cases marshalled : K.marshal cfg with
  | error e =>
    rw [writeTemp, marshalled]
    trivial
  | ok data =>
    by_cases plain : '/' ∈ (K.name cfg).toList
    · rw [writeTemp, marshalled]
      show Script.Each _ (if '/' ∈ (K.name cfg).toList then _ else _) files
      rw [if_pos plain]
      trivial
    · rw [writeTemp_eq marshalled plain]
      have here := received plain
      refine Script.each_bind.mpr ⟨FileScript.perform_each (write_within here []), fun _ _ => ?_⟩
      refine Script.each_bind.mpr ⟨FileScript.perform_each (write_within here data), fun _ _ => ?_⟩
      exact FileScript.perform_each fun _ _ _ => rfl

theorem removeTemp_each (here : inside (K.temp p (K.name cfg))) :
    (K.removeTemp p faults cfg).Each (Script.Within inside) files :=
  FileScript.ignoring_each.mpr (FileScript.perform_each (remove_within here))

/-- What is done once the temporary file is written. -/
theorem move_each (regular : K.Regular) (received : K.Receives p inside newCfg) :
    (K.move p faults oldCfg newCfg).Each (Script.Within inside) files ↔
      (faults .stat = none → (files (K.file p (K.name oldCfg))).isSome → faults .renameOld = none →
        inside (K.file p (K.name oldCfg)) ∧ inside (K.backup p (K.name oldCfg))) := by
  have aside : K.file p (K.name oldCfg) ≠ K.backup p (K.name oldCfg) := regular.file_ne_backup _ _
  have looked : (FileScript.isFileExist faults (K.file p (K.name oldCfg))).exec files =
      (.ok ((faults .stat).isNone && (files (K.file p (K.name oldCfg))).isSome), files) := rfl
  -- the renaming of the new file, which leaves only what was moved aside to be put back
  have placed : ∀ (undo last : FileScript Bool) (t : Files), (∀ t, undo.Each (Script.Within inside) t) →
      (∀ t, last.Each (Script.Within inside) t) →
      (((FileScript.rename faults .renameNew (K.temp p (K.name newCfg))
        (K.file p (K.name newCfg))).handle fun e =>
        undo >>= fun _ => .fail e) >>= fun _ => last).Each (Script.Within inside) t := by
    intro undo last t undone lasts
    refine Script.each_bind.mpr ⟨Script.each_handle.mpr ⟨?_, ?_⟩, fun _ _ => lasts _⟩
    · exact (FileScript.rename_each (regular.file_ne_temp _ _).symm).mpr fun _ _ => received
    · exact fun e _ => Script.each_bind.mpr ⟨undone _, fun _ _ => trivial⟩
  unfold move
  dsimp only
  rw [Script.each_bind, looked]
  dsimp only
  cases found : (faults .stat).isNone && (files (K.file p (K.name oldCfg))).isSome with
  | false =>
    refine iff_of_true ⟨FileScript.stat_each _, ?_⟩ ?_
    · rintro _ ⟨⟩
      exact placed (pure false) (pure false) files (fun _ => trivial) fun _ => trivial
    · intro stat present
      rw [stat, present] at found
      cases found
  | true =>
    obtain ⟨seen, present⟩ := Bool.and_eq_true_iff.mp found
    have stat : faults .stat = none := Option.isNone_iff_eq_none.mp seen
    constructor
    · rintro ⟨_, rest⟩ _ _ fine
      have rest := rest true rfl
      simp only [if_true] at rest
      exact (FileScript.rename_each aside).mp (Script.each_bind.mp rest).1 fine present
    · intro moved
      refine ⟨FileScript.stat_each _, ?_⟩
      rintro _ ⟨⟩
      simp only [if_true]
      refine Script.each_bind.mpr
        ⟨(FileScript.rename_each aside).mpr fun fine _ => moved stat present fine, ?_⟩
      intro b backedUp
      have fine : faults .renameOld = none := by
        rw [rename_exec faults files _ _ present] at backedUp
        cases fault : faults .renameOld with
        | none => rfl
        | some text =>
          rw [fault] at backedUp
          cases backedUp
      obtain ⟨old, backup⟩ := moved stat present fine
      refine placed _ _ _ (fun t => ?_) fun t => ?_
      · exact FileScript.ignoring_each.mpr
          ((FileScript.rename_each aside.symm).mpr fun _ _ => ⟨backup, old⟩)
      · exact FileScript.ignoring_each.mpr (FileScript.perform_each (remove_within backup))

/-- What comes after the temporary file is written, if it is. -/
theorem each_staged {f : Bool → FileScript Bool}
    (received : '/' ∉ (K.name cfg).toList → inside (K.temp p (K.name cfg))) :
    (do
      let _ ← stageDir faults
      let b ← K.writeTemp p faults cfg
      f b).Each (Script.Within inside) files ↔
      ∀ data, K.Stages faults cfg → K.marshal cfg = .ok data →
        (f true).Each (Script.Within inside)
          ((files.write (K.temp p (K.name cfg)) []).write (K.temp p (K.name cfg)) data) := by
  rw [Script.each_bind, and_iff_right stageDir_each]
  constructor
  · intro rest data staged marshalled
    rw [stageDir_exec staged.mkdir staged.mkdirStage] at rest
    have rest := (Script.each_bind.mp (rest true rfl)).2
    rw [writeTemp_exec marshalled staged.plain staged.createTemp staged.write staged.closeTemp] at rest
    exact rest true rfl
  · rintro rest _ staged
    by_cases dirs : faults .mkdir = none ∧ faults .mkdirStage = none
    swap
    · obtain ⟨e, failed⟩ := stageDir_fails files dirs
      rw [failed] at staged
      cases staged
    rw [stageDir_exec dirs.1 dirs.2]
    refine Script.each_bind.mpr ⟨writeTemp_each received, ?_⟩
    intro b wrote
    by_cases temp : (∃ data, K.marshal cfg = .ok data) ∧ '/' ∉ (K.name cfg).toList ∧
      faults .createTemp = none
    swap
    · obtain ⟨e, failed⟩ := writeTemp_fails p files temp
      rw [failed] at wrote
      cases wrote
    obtain ⟨⟨data, marshalled⟩, plain, createTemp⟩ := temp
    by_cases written : faults .write = none ∧ faults .closeTemp = none
    swap
    · obtain ⟨e, left, failed, _⟩ := writeTemp_stays p files marshalled plain createTemp written
      rw [failed] at wrote
      cases wrote
    rw [writeTemp_exec marshalled plain createTemp written.1 written.2] at wrote ⊢
    cases wrote
    exact rest data
      ⟨dirs.1, dirs.2, ⟨data, marshalled⟩, plain, createTemp, written.1, written.2⟩ marshalled

/-- A replacement changes nothing outside, if it does not move the old file there or from there. -/
theorem replaceFile_each (regular : K.Regular)
    (received : '/' ∉ (K.name newCfg).toList → K.Receives p inside newCfg) :
    (K.replaceFile p faults oldCfg newCfg).Each (Script.Within inside) files ↔
      (K.Displaces p faults files oldCfg newCfg → inside (K.file p (K.name oldCfg)) ∧
        inside (K.backup p (K.name oldCfg))) := by
  have unmoved : ∀ data,
    (files.write (K.temp p (K.name newCfg)) []).write (K.temp p (K.name newCfg)) data
      (K.file p (K.name oldCfg)) = files (K.file p (K.name oldCfg)) := by
    intro data
    rw [Files.write_of_ne _ _ (regular.file_ne_temp _ _),
      Files.write_of_ne _ _ (regular.file_ne_temp _ _)]
  unfold replaceFile
  rw [each_staged fun plain => (received plain).1]
  constructor
  · intro rest displaces
    obtain ⟨data, marshalled⟩ := displaces.staged.data
    have moves := (Script.each_defer.mp (rest data displaces.staged marshalled)).1
    rw [move_each regular (received displaces.staged.plain), unmoved] at moves
    exact moves displaces.stat displaces.present displaces.renameOld
  · intro moved data staged marshalled
    have here := received staged.plain
    refine Script.each_defer.mpr ⟨(move_each regular here).mpr ?_, removeTemp_each here.1⟩
    rw [unmoved]
    exact fun stat present renameOld => moved ⟨staged, stat, present, renameOld⟩

theorem createFile_each (regular : K.Regular)
    (received : '/' ∉ (K.name cfg).toList → K.Receives p inside cfg) :
    (K.createFile p faults cfg).Each (Script.Within inside) files := by
  unfold createFile
  refine Script.each_bind.mpr
    ⟨stageDir_each, fun _ _ => Script.each_bind.mpr ⟨FileScript.stat_each _, fun found _ => ?_⟩⟩
  split_ifs
  · trivial
  refine Script.each_bind.mpr ⟨writeTemp_each fun plain => (received plain).1, fun _ wrote => ?_⟩
  obtain ⟨_, _, plain, _⟩ := writeTemp_ok (Prod.ext wrote rfl)
  have here := received plain
  refine Script.each_defer.mpr ⟨?_, removeTemp_each here.1⟩
  exact (FileScript.rename_each (regular.file_ne_temp _ _).symm).mpr fun _ _ => here

theorem replaceFile_plain {files' : Files} {b : Bool}
    (ran : (K.replaceFile p faults oldCfg newCfg).exec files = (.ok b, files')) :
    '/' ∉ (K.name newCfg).toList := by
  unfold replaceFile at ran
  obtain ⟨_, _, _, ran⟩ := Script.of_bind_ok ran
  obtain ⟨_, _, written, _⟩ := Script.of_bind_ok ran
  obtain ⟨_, _, plain, _⟩ := writeTemp_ok written
  exact plain

end FileKind

/-! The directories. -/

/-- An entry of a directory that is neither the directory itself nor the one above. -/
structure Entry (entry : String) : Prop where
  plain : '/' ∉ entry.toList
  named : entry ∉ ["", ".", ".."]

theorem Entry.of_append {name suffix : String} (plain : '/' ∉ name.toList)
    (plainSuffix : '/' ∉ suffix.toList) (some_ : suffix ≠ "")
    (last : suffix.toList.getLast? ≠ some '.') : Entry (name ++ suffix) where
  plain := by
    rw [String.toList_append]
    exact fun member => (List.mem_append.mp member).elim plain plainSuffix
  named member := by
    have ends : (name ++ suffix).toList.getLast? = suffix.toList.getLast? :=
      FileKind.getLast?_append some_
    have same : (name ++ suffix).toList.getLast? = none ∨
        (name ++ suffix).toList.getLast? = some '.' := by
      simp only [List.mem_cons, List.not_mem_nil, or_false] at member
      rcases member with empty | dot | dots
      · exact .inl (by rw [empty]; rfl)
      · exact .inr (by rw [dot]; rfl)
      · exact .inr (by rw [dots]; rfl)
    rw [ends] at same
    rcases same with none_ | dot
    · exact some_ (String.toList_inj.mp (List.getLast?_eq_none_iff.mp none_))
    · exact last dot

/-- Where paths lead: `place` is the directory that the file of a path is directly in, when links
and `..` have been followed. -/
structure Tree (δ : Type) (tunDir : String) where
  place : String → δ
  home : δ
  staging : δ
  direct : ∀ entry, Entry entry → place (tunDir ++ "/" ++ entry) = home
  staged : ∀ entry, Entry entry → place (tunDir ++ "/.staging/" ++ entry) = staging

/-- The file of the path is directly in the tunnel directory, or in its `.staging`. -/
def Tree.Inside {δ : Type} {tunDir : String} (tree : Tree δ tunDir) (path : String) : Prop :=
  tree.place path = tree.home ∨ tree.place path = tree.staging

/-- What `os.CreateTemp` and the time put into fresh names are numbers. -/
structure Directory.Numbers (dir : Directory) : Prop where
  random : '/' ∉ dir.random.toList
  stamp : '/' ∉ dir.stamp.toList

section inside

variable {δ : Type} {dir : Directory} {unmarshal : Bytes → Except Err Config} (tree : Tree δ dir.tunDir)
  {name : String}

theorem Tree.file_inside (plain : '/' ∉ name.toList) :
    tree.Inside ((serviceFiles dir unmarshal).file dir.place name) := by
  have entry : Entry (name ++ TUN_CONFIG_SUFFIX) := .of_append plain (by decide) (by decide) (by decide)
  left
  rw [← tree.direct _ entry]
  exact congrArg tree.place
    (FileKind.file_eq (K := serviceFiles dir unmarshal) (p := dir.place) rfl).symm

theorem Tree.backup_inside (numbers : dir.Numbers) (plain : '/' ∉ name.toList) :
    tree.Inside ((serviceFiles dir unmarshal).backup dir.place name) := by
  have whole : '/' ∉ (name ++ "-" ++ dir.stamp).toList := by
    simp only [String.toList_append, List.mem_append, not_or]
    exact ⟨⟨plain, by decide⟩, numbers.stamp⟩
  have entry : Entry (name ++ "-" ++ dir.stamp ++ ".bak") :=
    .of_append whole (by decide) (by decide) (by decide)
  right
  rw [← tree.staged _ entry]
  exact congrArg tree.place (by simp only [FileKind.backup, String.append_assoc]; rfl)

theorem Tree.receives (numbers : dir.Numbers) {cfg : Config} (plain : '/' ∉ cfg.Name.toList) :
    (serviceFiles dir unmarshal).Receives dir.place tree.Inside cfg := by
  refine ⟨?_, tree.file_inside plain⟩
  have whole : '/' ∉ (cfg.Name ++ "." ++ dir.random).toList := by
    simp only [String.toList_append, List.mem_append, not_or]
    exact ⟨⟨plain, by decide⟩, numbers.random⟩
  have entry : Entry (cfg.Name ++ "." ++ dir.random ++ ".tmp") :=
    .of_append whole (by decide) (by decide) (by decide)
  right
  rw [← tree.staged _ entry]
  exact congrArg tree.place (by simp only [FileKind.temp, String.append_assoc]; rfl)

end inside

end Gotun.Tun
