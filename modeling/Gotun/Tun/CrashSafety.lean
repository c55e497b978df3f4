import Gotun.Tun.ConfigFiles
import Mathlib.Data.List.Nodup

/-! What a restart finds when the process is killed while it replaces a configuration file. -/

namespace Gotun.Tun

open Gotun.Lib

namespace FileKind

variable {κ : Type} {K : FileKind κ} {p : Place} {files files' : Files} {cfgs cfgs' : List κ}
  {cfg : κ} {name : String}

/-- The configurations that are loaded, whatever the order of the entries. -/
def Holds (K : FileKind κ) (p : Place) (files : Files) (cfgs : List κ) : Prop :=
  (∃ entries, Lists p files entries) ∧
    ∀ entries, Lists p files entries → ∃ loaded,
      K.loadAllFile p files entries = .ok loaded ∧ loaded.Perm cfgs

/-! A directory by its entries. -/

theorem Lists.perm {entries entries' : List String} (lists : Lists p files entries)
    (lists' : Lists p files entries') :
    entries.Perm entries' := by
  rw [List.perm_ext_iff_of_nodup lists.1 lists'.1]
  intro entry
  rw [lists.2, lists'.2]

theorem somes_of_perm {options : List (Option κ)} (perm : options.Perm (cfgs.map some)) :
    ∃ loaded : List κ, options = loaded.map some ∧ loaded.Perm cfgs := by
  refine ⟨options.filterMap id, ?_, ?_⟩
  · have all : ∀ option ∈ options, option.isSome := by
      intro option member
      obtain ⟨cfg, _, rfl⟩ := List.mem_map.mp (perm.mem_iff.mp member)
      rfl
    clear perm
    induction options with
    | nil => rfl
    | cons first rest ih =>
      obtain ⟨here, later⟩ := List.forall_mem_cons.mp all
      obtain ⟨cfg, rfl⟩ := Option.isSome_iff_exists.mp here
      rw [List.filterMap_cons_some (show id (some cfg) = some cfg from rfl), List.map_cons, ← ih later]
  · have filtered := perm.filterMap id
    rwa [List.filterMap_map, show (id ∘ some : κ → Option κ) = some from rfl,
      List.filterMap_some] at filtered

/-- One order of the entries is enough. -/
theorem Regular.holds (regular : K.Regular) {entries : List String} (lists : Lists p files entries)
    (perm : ((K.names entries).map (K.cfgOf p files)).Perm (cfgs.map some)) : K.Holds p files cfgs := by
  refine ⟨⟨entries, lists⟩, ?_⟩
  intro entries' lists'
  have reordered := ((lists'.perm lists).filterMap K.nameOf).map (K.cfgOf p files)
  obtain ⟨loaded, same, loads⟩ := somes_of_perm (reordered.trans perm)
  exact ⟨loaded, (regular.loadAllFile_iff lists'.plain).mpr same, loads⟩

theorem Holds.entries (holds : K.Holds p files cfgs) (regular : K.Regular) :
    ∃ entries, Lists p files entries ∧
    ((K.names entries).map (K.cfgOf p files)).Perm (cfgs.map some) := by
  obtain ⟨⟨entries, lists⟩, load⟩ := holds
  obtain ⟨loaded, ok, perm⟩ := load entries lists
  rw [regular.loadAllFile_iff lists.plain] at ok
  exact ⟨entries, lists, ok ▸ perm.map some⟩

theorem Holds.unique (holds : K.Holds p files cfgs)
    (holds' : K.Holds p files cfgs') : cfgs.Perm cfgs' := by
  obtain ⟨⟨entries, lists⟩, load⟩ := holds
  obtain ⟨loaded, ok, perm⟩ := load entries lists
  obtain ⟨loaded', ok', perm'⟩ := holds'.2 entries lists
  cases ok.symm.trans ok'
  exact perm.symm.trans perm'

/-- The directory looks the same, apart from its subdirectories. -/
def SameEntries (p : Place) (files files' : Files) : Prop :=
  ∀ entry, '/' ∉ entry.toList → files' (p.tunDir ++ "/" ++ entry) = files (p.tunDir ++ "/" ++ entry)

theorem Regular.plain_append (regular : K.Regular) (plain : '/' ∉ name.toList) :
    '/' ∉ (name ++ K.suffix).toList := by
  rw [String.toList_append, regular.suffix_eq, List.mem_append, List.mem_cons]
  simp [plain, regular.plain.2]

theorem cfgOf_congr (same : files' (K.file p name) = files (K.file p name)) :
    K.cfgOf p files' name = K.cfgOf p files name := by
  rw [cfgOf, cfgOf, same]

theorem Holds.congr (holds : K.Holds p files cfgs) (regular : K.Regular)
    (same : SameEntries p files files') :
    K.Holds p files' cfgs := by
  obtain ⟨entries, lists, perm⟩ := holds.entries regular
  have lists' : Lists p files' entries := by
    refine ⟨lists.1, ?_⟩
    intro entry
    rw [lists.2]
    exact and_congr_right fun plain => by rw [same entry plain]
  refine regular.holds lists' ?_
  rwa [List.map_congr_left (g := K.cfgOf p files)]
  intro name member
  obtain ⟨plain, _⟩ := (regular.mem_names lists name).mp member
  apply cfgOf_congr
  rw [← file_eq (K := K) rfl]
  exact same _ (regular.plain_append plain)

theorem path_inj {entry entry' : String}
    (same : p.tunDir ++ "/" ++ entry = p.tunDir ++ "/" ++ entry') : entry = entry' := by
  have lists := congrArg String.toList same
  simp only [String.toList_append] at lists
  exact String.toList_inj.mp (List.append_cancel_left lists)

/-- Without the file of a name, the directory holds the other configurations. -/
theorem Holds.remove (holds : K.Holds p files (cfg :: cfgs)) (regular : K.Regular)
    (plain : '/' ∉ name.toList) (there : K.cfgOf p files name = some cfg) :
    K.Holds p (files.remove (K.file p name)) cfgs := by
  obtain ⟨entries, lists, perm⟩ := holds.entries regular
  have member : name ++ K.suffix ∈ entries := by
    rw [lists.2]
    refine ⟨regular.plain_append plain, ?_⟩
    rw [file_eq (K := K) rfl]
    obtain ⟨data, read, _⟩ := Option.bind_eq_some_iff.mp there
    exact Option.isSome_iff_exists.mpr ⟨data, read⟩
  have split : (K.names entries).Perm (name :: K.names (entries.erase (name ++ K.suffix))) := by
    have erased := (List.perm_cons_erase member).filterMap K.nameOf
    rwa [List.filterMap_cons_some (regular.nameOf_append plain)] at erased
  have absent : name ∉ K.names (entries.erase (name ++ K.suffix)) :=
    (List.nodup_cons.mp (split.nodup_iff.mp (regular.names_nodup lists))).1
  have lists' : Lists p (files.remove (K.file p name)) (entries.erase (name ++ K.suffix)) := by
    refine ⟨lists.1.erase _, ?_⟩
    intro entry
    rw [lists.1.mem_erase_iff, lists.2]
    by_cases same : entry = name ++ K.suffix
    · rw [same, file_eq (K := K) rfl, Files.remove_self]
      simp
    · have differ : p.tunDir ++ "/" ++ entry ≠ K.file p name := by
        rw [← file_eq (K := K) rfl]
        exact fun equal => same (path_inj equal)
      rw [Files.remove_of_ne _ differ]
      simp [same]
  refine regular.holds lists' ?_
  have others :
    ((K.names (entries.erase (name ++ K.suffix))).map (K.cfgOf p (files.remove (K.file p name)))) =
      (K.names (entries.erase (name ++ K.suffix))).map (K.cfgOf p files) := by
    apply List.map_congr_left
    intro other member
    apply cfgOf_congr
    apply Files.remove_of_ne
    exact fun equal => absent (file_inj equal ▸ member)
  rw [others]
  have first := (split.map (K.cfgOf p files)).symm.trans perm
  rw [List.map_cons, List.map_cons, there] at first
  exact first.cons_inv

/-- With one more file, it holds one more configuration. -/
theorem Holds.write (holds : K.Holds p files cfgs) (regular : K.Regular) (plain : '/' ∉ name.toList)
    (absent : files (K.file p name) = none) {data : Bytes} (read : K.unmarshal data = .ok cfg) :
    K.Holds p (files.write (K.file p name) data) (cfg :: cfgs) := by
  obtain ⟨entries, lists, perm⟩ := holds.entries regular
  have fresh : name ++ K.suffix ∉ entries := by
    rw [lists.2, file_eq (K := K) rfl, absent]
    simp
  have unnamed : name ∉ K.names entries := by
    rw [regular.mem_names lists, absent]
    simp
  have lists' : Lists p (files.write (K.file p name) data) ((name ++ K.suffix) :: entries) := by
    refine ⟨List.nodup_cons.mpr ⟨fresh, lists.1⟩, ?_⟩
    intro entry
    rw [List.mem_cons, lists.2]
    by_cases same : entry = name ++ K.suffix
    · rw [same, file_eq (K := K) rfl, Files.write_self]
      simpa using regular.plain_append plain
    · have differ : p.tunDir ++ "/" ++ entry ≠ K.file p name := by
        rw [← file_eq (K := K) rfl]
        exact fun equal => same (path_inj equal)
      rw [Files.write_of_ne _ _ differ]
      simp [same]
  refine regular.holds lists' ?_
  have here : K.cfgOf p (files.write (K.file p name) data) name = some cfg := by
    rw [cfgOf, Files.write_self, Option.bind_some, read]
    rfl
  have others : (K.names entries).map (K.cfgOf p (files.write (K.file p name) data)) =
      (K.names entries).map (K.cfgOf p files) := by
    apply List.map_congr_left
    intro other member
    apply cfgOf_congr
    apply Files.write_of_ne
    exact fun equal => unnamed (file_inj equal ▸ member)
  rw [names, List.filterMap_cons_some (regular.nameOf_append plain), List.map_cons,
    ← names, here, others]
  exact perm.cons _

/-! The calls, as they are seen in the directory. -/

/-- A file in the staging directory. -/
def Staged (p : Place) (path : String) : Prop := ∃ name, path = p.tunDir ++ "/.staging/" ++ name

theorem staged_temp (K : FileKind κ) (name : String) : Staged p (K.temp p name) :=
  ⟨name ++ "." ++ p.random ++ K.tempSuffix, by simp only [temp, String.append_assoc]⟩

theorem staged_backup (K : FileKind κ) (name : String) : Staged p (K.backup p name) :=
  ⟨name ++ "-" ++ p.stamp ++ K.backupSuffix, by simp only [backup, String.append_assoc]⟩

theorem Staged.ne {path entry : String} (staged : Staged p path) (plain : '/' ∉ entry.toList) :
    p.tunDir ++ "/" ++ entry ≠ path := by
  obtain ⟨name, rfl⟩ := staged
  intro same
  have split : p.tunDir ++ "/.staging/" ++ name = p.tunDir ++ "/" ++ (".staging/" ++ name) := by
    rw [show "/.staging/" = "/" ++ ".staging/" from rfl]
    simp only [String.append_assoc]
  apply plain
  rw [path_inj (same.trans split), String.toList_append]
  exact List.mem_append_left _ (by decide)

section entries

variable {path source target : String} {data : Bytes}

theorem SameEntries.write (same : SameEntries p files files') (staged : Staged p path) :
    SameEntries p files (files'.write path data) := by
  intro entry plain
  rw [Files.write_of_ne _ _ (staged.ne plain), same entry plain]

theorem SameEntries.remove (same : SameEntries p files files') (staged : Staged p path) :
    SameEntries p files (files'.remove path) := by
  intro entry plain
  rw [Files.remove_of_ne _ (staged.ne plain), same entry plain]

/-- A file moved out of the way is gone. -/
theorem SameEntries.moveOut (same : SameEntries p files files') (staged : Staged p target) :
    SameEntries p (files.remove source) (files'.rename source target) := by
  intro entry plain
  by_cases moved : p.tunDir ++ "/" ++ entry = source
  · rw [← moved, Files.remove_self, Files.rename_source _ (staged.ne plain)]
  · rw [Files.remove_of_ne _ moved, Files.rename_of_ne _ moved (staged.ne plain), same entry plain]

/-- A file moved into place is written at once. -/
theorem SameEntries.moveIn (same : SameEntries p files files') (staged : Staged p source)
    (there : files' source = some data) :
    SameEntries p (files.write target data) (files'.rename source target) := by
  intro entry plain
  by_cases moved : p.tunDir ++ "/" ++ entry = target
  · rw [moved, Files.write_self, Files.rename_target, there]
  · rw [Files.write_of_ne _ _ moved, Files.rename_of_ne _ (staged.ne plain) moved, same entry plain]

theorem SameEntries.trans {files'' : Files} (first : SameEntries p files files')
    (second : SameEntries p files' files'') :
    SameEntries p files files'' := fun entry plain => (second entry plain).trans (first entry plain)

end entries

/-! The points at which the process can be killed. -/

variable {faults : FileFaults} {oldCfg newCfg : κ}

/-- The new configuration gets into its temporary file. -/
def Written (K : FileKind κ) (faults : FileFaults) (newCfg : κ) : Prop :=
  (∃ data, K.marshal newCfg = .ok data) ∧ '/' ∉ (K.name newCfg).toList ∧
    ∀ op ∈ [FileOp.mkdir, .mkdirStage, .createTemp, .write, .closeTemp], faults op = none

/-- After so many calls the old file is only a backup, and no new one is in its place. -/
def Exposed (K : FileKind κ) (faults : FileFaults) (newCfg : κ) (calls : Nat) : Prop :=
  K.Written faults newCfg ∧ faults .stat = none ∧ faults .renameOld = none ∧
    (calls = 7 ∨ faults .renameNew ≠ none ∧ (calls = 8 ∨ 8 < calls ∧ faults .restore ≠ none))

/-- After so many calls there is a new file beside the old one, which was not seen. -/
def Doubled (K : FileKind κ) (faults : FileFaults) (oldCfg newCfg : κ) (calls : Nat) : Prop :=
  K.Written faults newCfg ∧ faults .stat ≠ none ∧ faults .renameNew = none ∧
    K.name newCfg ≠ K.name oldCfg ∧ 7 ≤ calls

/-- What is in the directory after so many calls. -/
inductive Outcome (K : FileKind κ) (p : Place) (faults : FileFaults) (oldCfg newCfg : κ)
    (files : Files) (calls : Nat) (files' : Files) : Prop
  | kept (safe : ¬ K.Exposed faults newCfg calls) (single : ¬ K.Doubled faults oldCfg newCfg calls)
      (same : SameEntries p files files')
  | lost (exposed : K.Exposed faults newCfg calls)
      (same : SameEntries p (files.remove (K.file p (K.name oldCfg))) files')
  | replaced (safe : ¬ K.Exposed faults newCfg calls)
      (single : ¬ K.Doubled faults oldCfg newCfg calls) (data : Bytes)
      (marshalled : K.marshal newCfg = .ok data) (plain : '/' ∉ (K.name newCfg).toList)
      (same : SameEntries p
        ((files.remove (K.file p (K.name oldCfg))).write (K.file p (K.name newCfg)) data) files')
  | doubled (doubled : K.Doubled faults oldCfg newCfg calls) (data : Bytes)
      (marshalled : K.marshal newCfg = .ok data)
      (plain : '/' ∉ (K.name newCfg).toList)
      (same : SameEntries p (files.write (K.file p (K.name newCfg)) data) files')

section kill

/-- The process is killed before the call, the call fails, or the rest follows. -/
theorem killed_call (faults : FileFaults) (op : FileOp) (f : Files → Except Err Bool × Files)
    {next : Except Err Bool → FileScript Bool} (P : Nat → Files → Prop) (before : P 0 files)
    (failed : ∀ n text, faults op = some text →
      P (n + 1) ((next (.error (.failed text))).killed n files))
    (after : ∀ n, faults op = none → P (n + 1) ((next (f files).1).killed n (f files).2)) (n : Nat) :
    P n ((Script.call op (fun files => match faults op with
      | some text => (.error (.failed text), files)
      | none => f files) next).killed n files) := by
  cases n with
  | zero => exact before
  | succ n =>
    simp only [Script.killed]
    cases fault : faults op with
    | some text => exact failed n text fault
    | none => exact after n fault

theorem SameEntries.refl (files : Files) : SameEntries p files files := fun _ _ => rfl

/-- The last call can change nothing that is seen. -/
theorem removeTemp_sameEntries (cfg : κ) (result : Except Err Bool) (n : Nat) :
    SameEntries p files (((K.removeTemp p faults cfg).ending result).killed n files) := by
  refine killed_call faults .removeTemp (fun files => (.ok true, files.remove (K.temp p (K.name cfg))))
    (fun _ => SameEntries p files) ?_ ?_ ?_ n
  · exact SameEntries.refl files
  · intro n text fault
    exact SameEntries.refl files
  · intro n fine
    exact (SameEntries.refl files).remove (staged_temp K _)

/-- Nor can the removal of the backup before it. -/
theorem removeBackup_sameEntries (name : String) (cfg : κ) (n : Nat) :
    SameEntries p files (((FileScript.ignoring (FileScript.perform faults .removeBackup
      (Files.remove (K.backup p name)))).defer (K.removeTemp p faults cfg)).killed n files) := by
  refine killed_call faults .removeBackup (fun files => (.ok true, files.remove (K.backup p name)))
    (fun _ => SameEntries p files) ?_ ?_ ?_ n
  · exact SameEntries.refl files
  · intro n text fault
    exact removeTemp_sameEntries cfg (.ok false) n
  · intro n fine
    exact ((SameEntries.refl files).remove (staged_backup K _)).trans
      (removeTemp_sameEntries cfg (.ok true) n)

variable {data : Bytes} {files₁ : Files}

/-- The new file is moved to where the old one was. -/
theorem renameNew_outcome (written : K.Written faults newCfg)
    (marshalled : K.marshal newCfg = .ok data) (statOk : faults .stat = none)
    (backedUp : faults .renameOld = none) (temp : files₁ (K.temp p (K.name newCfg)) = some data)
    (same : SameEntries p (files.remove (K.file p (K.name oldCfg))) files₁)
    (backup :
      SameEntries p files (files₁.rename (K.backup p (K.name oldCfg)) (K.file p (K.name oldCfg))))
    (kept : (files₁ (K.backup p (K.name oldCfg))).isSome) (n : Nat) :
    K.Outcome p faults oldCfg newCfg files (n + 7)
      ((((FileScript.rename faults .renameNew (K.temp p (K.name newCfg))
        (K.file p (K.name newCfg))).handle fun e =>
          FileScript.ignoring (FileScript.rename faults .restore (K.backup p (K.name oldCfg))
            (K.file p (K.name oldCfg))) >>=
            fun _ => .fail e) >>= fun _ =>
          FileScript.ignoring (FileScript.perform faults .removeBackup
            (Files.remove (K.backup p (K.name oldCfg))))).defer
        (K.removeTemp p faults newCfg) |>.killed n files₁) := by
  refine killed_call faults .renameNew (fun files => if (files (K.temp p (K.name newCfg))).isSome
      then (.ok true, files.rename (K.temp p (K.name newCfg)) (K.file p (K.name newCfg)))
      else (.error (.failed _), files))
        (fun n => K.Outcome p faults oldCfg newCfg files (n + 7)) ?_ ?_ ?_ n
  · exact .lost ⟨written, statOk, backedUp, .inl rfl⟩ same
  · intro n text fault
    have failed : faults .renameNew ≠ none := by rw [fault]; simp
    refine killed_call faults .restore (fun files => if (files (K.backup p (K.name oldCfg))).isSome
        then (.ok true, files.rename (K.backup p (K.name oldCfg)) (K.file p (K.name oldCfg)))
        else (.error (.failed _), files))
          (fun n => K.Outcome p faults oldCfg newCfg files (n + 8)) ?_ ?_ ?_ n
    · exact .lost ⟨written, statOk, backedUp, .inr ⟨failed, .inl rfl⟩⟩ same
    · intro n text' fault'
      have notRestored : faults .restore ≠ none := by rw [fault']; simp
      refine .lost ⟨written, statOk, backedUp, .inr ⟨failed, .inr ⟨by omega, notRestored⟩⟩⟩ ?_
      exact same.trans (removeTemp_sameEntries newCfg (.error (.failed text)) n)
    · intro n restored
      rw [if_pos kept]
      refine .kept ?_ ?_ (backup.trans (removeTemp_sameEntries newCfg (.error (.failed text)) n))
      · rintro ⟨_, _, _, killed | ⟨_, killed | ⟨_, notRestored⟩⟩⟩
        · omega
        · omega
        · exact notRestored restored
      · exact fun doubled => doubled.2.1 statOk
  · intro n renamed
    have there : (files₁ (K.temp p (K.name newCfg))).isSome := Option.isSome_iff_exists.mpr ⟨data, temp⟩
    rw [if_pos there]
    refine .replaced ?_ ?_ data marshalled written.2.1 ?_
    · rintro ⟨_, _, _, killed | ⟨failed, _⟩⟩
      · omega
      · exact failed renamed
    · exact fun doubled => doubled.2.1 statOk
    · exact (same.moveIn (staged_temp K _) temp).trans
        (removeBackup_sameEntries (K.name oldCfg) newCfg n)

/-- The moves, once it is known whether the old file is there. -/
def moveKnown (K : FileKind κ) (p : Place) (faults : FileFaults) (oldCfg newCfg : κ)
    (oldExists : Bool) : FileScript Bool := do
  let _ ← if oldExists then
      FileScript.rename faults .renameOld (K.file p (K.name oldCfg)) (K.backup p (K.name oldCfg))
    else pure false
  let _ ← (FileScript.rename faults .renameNew (K.temp p (K.name newCfg))
    (K.file p (K.name newCfg))).handle fun e => do
    let _ ← if oldExists then
        FileScript.ignoring (FileScript.rename faults .restore (K.backup p (K.name oldCfg))
          (K.file p (K.name oldCfg)))
      else pure false
    .fail e
  if oldExists then
    FileScript.ignoring (FileScript.perform faults .removeBackup
      (Files.remove (K.backup p (K.name oldCfg))))
  else pure false

theorem killed_move (n : Nat) :
    ((K.move p faults oldCfg newCfg).defer (K.removeTemp p faults newCfg)).killed (n + 1) files =
    ((K.moveKnown p faults oldCfg newCfg
      ((faults .stat).isNone && (files (K.file p (K.name oldCfg))).isSome)).defer
      (K.removeTemp p faults newCfg)).killed n files := rfl

/-- Before the seventh call nothing is seen to have changed. -/
theorem SameEntries.early {calls : Nat} (same : SameEntries p files files') (before : calls < 7) :
    K.Outcome p faults oldCfg newCfg files calls files' := by
  refine .kept ?_ ?_ same
  · rintro ⟨_, _, _, killed | ⟨_, killed | ⟨killed, _⟩⟩⟩ <;> omega
  · rintro ⟨_, _, _, _, killed⟩
    omega

/-- The old file is seen. -/
theorem moveSeen_outcome (regular : K.Regular) (written : K.Written faults newCfg)
    (marshalled : K.marshal newCfg = .ok data) (statOk : faults .stat = none)
    (temp : files₁ (K.temp p (K.name newCfg)) = some data) (same : SameEntries p files files₁)
    (there : (files₁ (K.file p (K.name oldCfg))).isSome) (n : Nat) :
    K.Outcome p faults oldCfg newCfg files (n + 6)
      (((K.moveKnown p faults oldCfg newCfg true).defer (K.removeTemp p faults newCfg)).killed n
        files₁) := by
  refine killed_call faults .renameOld (fun files => if (files (K.file p (K.name oldCfg))).isSome
      then (.ok true, files.rename (K.file p (K.name oldCfg)) (K.backup p (K.name oldCfg)))
      else (.error (.failed _), files))
        (fun n => K.Outcome p faults oldCfg newCfg files (n + 6)) ?_ ?_ ?_ n
  · exact same.early (by decide)
  · intro n text fault
    refine .kept ?_ ?_ (same.trans (removeTemp_sameEntries newCfg (.error (.failed text)) n))
    · rintro ⟨_, _, fine, _⟩
      rw [fine] at fault
      contradiction
    · exact fun doubled => doubled.2.1 statOk
  · intro n backedUp
    rw [if_pos there]
    have fileTemp := regular.file_ne_temp (p := p) (K.name oldCfg) (K.name newCfg)
    have fileBackup := regular.file_ne_backup (p := p) (K.name oldCfg) (K.name oldCfg)
    have tempBackup := regular.temp_ne_backup (p := p) (K.name newCfg) (K.name oldCfg)
    refine renameNew_outcome written marshalled statOk backedUp ?_
      (same.moveOut (staged_backup K _)) ?_ ?_ n
    · rw [Files.rename_of_ne _ fileTemp.symm tempBackup, temp]
    · -- the backup moved back is the old file
      intro entry plain
      by_cases old : p.tunDir ++ "/" ++ entry = K.file p (K.name oldCfg)
      · rw [old, Files.rename_target, Files.rename_target, ← old, same entry plain]
      · have ne := (staged_backup K (K.name oldCfg)).ne (p := p) plain
        rw [Files.rename_of_ne _ ne old, Files.rename_of_ne _ old ne, same entry plain]
    · rwa [Files.rename_target]

/-- The old file is not seen. -/
theorem moveUnseen_outcome (written : K.Written faults newCfg) (marshalled : K.marshal newCfg = .ok data)
    (statFails : faults .stat ≠ none) (temp : files₁ (K.temp p (K.name newCfg)) = some data)
    (same : SameEntries p files files₁) (n : Nat) : K.Outcome p faults oldCfg newCfg files (n + 6)
      (((K.moveKnown p faults oldCfg newCfg false).defer (K.removeTemp p faults newCfg)).killed n
        files₁) := by
  refine killed_call faults .renameNew (fun files => if (files (K.temp p (K.name newCfg))).isSome
      then (.ok true, files.rename (K.temp p (K.name newCfg)) (K.file p (K.name newCfg)))
      else (.error (.failed _), files))
        (fun n => K.Outcome p faults oldCfg newCfg files (n + 6)) ?_ ?_ ?_ n
  · exact same.early (by decide)
  · intro n text fault
    refine .kept (fun exposed => statFails exposed.2.1) ?_
      (same.trans (removeTemp_sameEntries newCfg (.error (.failed text)) n))
    rintro ⟨_, _, fine, _⟩
    rw [fine] at fault
    contradiction
  · intro n renamed
    have there : (files₁ (K.temp p (K.name newCfg))).isSome := Option.isSome_iff_exists.mpr ⟨data, temp⟩
    rw [if_pos there]
    have placed : SameEntries p (files.write (K.file p (K.name newCfg)) data) _ :=
      same.moveIn (staged_temp K _) temp
    by_cases renames : K.name newCfg = K.name oldCfg
    · refine .replaced (fun exposed => statFails exposed.2.1)
        (fun doubled => doubled.2.2.2.1 renames) data marshalled written.2.1 ?_
      have overwritten :
        (files.remove (K.file p (K.name oldCfg))).write (K.file p (K.name newCfg)) data =
          files.write (K.file p (K.name newCfg)) data := by
        rw [renames]
        exact Function.update_idem ..
      rw [overwritten]
      exact placed.trans (removeTemp_sameEntries newCfg (.ok false) n)
    · refine .doubled ⟨written, statFails, renamed, renames, by omega⟩ data marshalled written.2.1 ?_
      exact placed.trans (removeTemp_sameEntries newCfg (.ok false) n)

theorem move_outcome (regular : K.Regular) (written : K.Written faults newCfg)
    (marshalled : K.marshal newCfg = .ok data)
    (temp : files₁ (K.temp p (K.name newCfg)) = some data) (same : SameEntries p files files₁)
    (plain : '/' ∉ (K.name oldCfg).toList) (there : (files (K.file p (K.name oldCfg))).isSome)
    (n : Nat) :
    K.Outcome p faults oldCfg newCfg files (n + 5)
      (((K.move p faults oldCfg newCfg).defer (K.removeTemp p faults newCfg)).killed n files₁) := by
  have oldThere : (files₁ (K.file p (K.name oldCfg))).isSome := by
    rwa [← file_eq (K := K) rfl, same _ (regular.plain_append plain), file_eq (K := K) rfl]
  cases n with
  | zero => exact same.early (by decide)
  | succ n =>
    rw [killed_move, oldThere]
    cases fault : faults .stat with
    | none => exact moveSeen_outcome regular written marshalled fault temp same oldThere n
    | some text => exact moveUnseen_outcome written marshalled (by rw [fault]; simp) temp same n

/-- Before the file is written, nothing is seen to have changed. -/
theorem SameEntries.unwritten {calls : Nat} (same : SameEntries p files files')
    (unwritten : ¬ K.Written faults newCfg) :
    K.Outcome p faults oldCfg newCfg files calls files' :=
  .kept (fun exposed => unwritten exposed.1) (fun doubled => unwritten doubled.1) same

theorem not_written {op : FileOp}
    (early : op ∈ [FileOp.mkdir, .mkdirStage, .createTemp, .write, .closeTemp]) {text : String}
    (fault : faults op = some text) : ¬ K.Written faults newCfg := by
  intro written
  rw [written.2.2 op early] at fault
  contradiction

/-- Every point of the whole replacement. -/
theorem replaceFile_outcome (faults : FileFaults) (newCfg : κ) (regular : K.Regular)
    (plain : '/' ∉ (K.name oldCfg).toList) (there : (files (K.file p (K.name oldCfg))).isSome)
    (n : Nat) :
    K.Outcome p faults oldCfg newCfg files n
      ((K.replaceFile p faults oldCfg newCfg).killed n files) := by
  have same := SameEntries.refl (p := p) files
  refine killed_call faults .mkdir (fun files => (.ok true, files))
    (K.Outcome p faults oldCfg newCfg files) ?_ ?_ ?_ n
  · exact same.early (by decide)
  · exact fun n text fault => same.unwritten (not_written (by decide) fault)
  intro n mkdir
  refine killed_call faults .mkdirStage (fun files => (.ok true, files))
    (fun n => K.Outcome p faults oldCfg newCfg files (n + 1)) ?_ ?_ ?_ n
  · exact same.early (by decide)
  · exact fun n text fault => same.unwritten (not_written (by decide) fault)
  intro n mkdirStage
  show K.Outcome p faults oldCfg newCfg files (n + 2)
    (Script.killed (K.writeTemp p faults newCfg >>= _) n files)
  unfold writeTemp
  cases marshalled : K.marshal newCfg with
  | error e =>
    apply same.unwritten
    rintro ⟨⟨data, ok⟩, _⟩
    rw [ok] at marshalled
    contradiction
  | ok data =>
    show K.Outcome p faults oldCfg newCfg files (n + 2)
      (Script.killed ((if '/' ∈ (K.name newCfg).toList then _ else _) >>= _) n files)
    by_cases slash : '/' ∈ (K.name newCfg).toList
    · rw [if_pos slash]
      exact same.unwritten fun written => written.2.1 slash
    rw [if_neg slash]
    have staged := staged_temp (p := p) K (K.name newCfg)
    have same₁ : SameEntries p files (files.write (K.temp p (K.name newCfg)) []) := same.write staged
    have same₂ : SameEntries p files
        ((files.write (K.temp p (K.name newCfg)) []).write (K.temp p (K.name newCfg)) data) :=
      same₁.write staged
    refine killed_call faults .createTemp
      (fun files => (.ok true, files.write (K.temp p (K.name newCfg)) []))
      (fun n => K.Outcome p faults oldCfg newCfg files (n + 2)) ?_ ?_ ?_ n
    · exact same.early (by decide)
    · exact fun n text fault => same.unwritten (not_written (by decide) fault)
    intro n createTemp
    refine killed_call faults .write
      (fun files => (.ok true, files.write (K.temp p (K.name newCfg)) data))
      (fun n => K.Outcome p faults oldCfg newCfg files (n + 3)) ?_ ?_ ?_ n
    · exact same₁.early (by decide)
    · exact fun n text fault => same₁.unwritten (not_written (by decide) fault)
    intro n write
    refine killed_call faults .closeTemp (fun files => (.ok true, files))
      (fun n => K.Outcome p faults oldCfg newCfg files (n + 4)) ?_ ?_ ?_ n
    · exact same₂.early (by decide)
    · exact fun n text fault => same₂.unwritten (not_written (by decide) fault)
    intro n closeTemp
    have written : K.Written faults newCfg := by
      refine ⟨⟨data, marshalled⟩, slash, ?_⟩
      simp [mkdir, mkdirStage, createTemp, write, closeTemp]
    exact move_outcome regular written marshalled (Files.write_self _ data) same₂ plain there n

end kill

/-- A restart finds the old configuration or the new one, and the others. -/
def Survives (K : FileKind κ) (p : Place) (oldCfg newCfg : κ) (others : List κ) (files : Files) : Prop :=
  K.Holds p files (oldCfg :: others) ∨ K.Holds p files (K.stored newCfg :: others)

/-- The directory before: `oldCfg` is in its file, and the name of `newCfg` is that of `oldCfg` or
not used. -/
structure Replaceable (K : FileKind κ) (p : Place) (oldCfg newCfg : κ) (others : List κ)
    (files : Files) : Prop where
  holds : K.Holds p files (oldCfg :: others)
  plain : '/' ∉ (K.name oldCfg).toList
  there : K.cfgOf p files (K.name oldCfg) = some oldCfg
  unused : K.name newCfg = K.name oldCfg ∨ files (K.file p (K.name newCfg)) = none

theorem Replaceable.isSome {others : List κ} (before : K.Replaceable p oldCfg newCfg others files) :
    (files (K.file p (K.name oldCfg))).isSome := by
  obtain ⟨data, read, _⟩ := Option.bind_eq_some_iff.mp before.there
  exact Option.isSome_iff_exists.mpr ⟨data, read⟩

theorem Replaceable.survives_iff {others : List κ}
    (before : K.Replaceable p oldCfg newCfg others files) (regular : K.Regular)
    (roundTrip : ∀ data, K.marshal newCfg = .ok data → K.unmarshal data = .ok (K.stored newCfg))
    (n : Nat) :
    K.Survives p oldCfg newCfg others ((K.replaceFile p faults oldCfg newCfg).killed n files) ↔
      ¬ K.Exposed faults newCfg n ∧ ¬ K.Doubled faults oldCfg newCfg n := by
  have removed := before.holds.remove regular before.plain before.there
  cases replaceFile_outcome faults newCfg regular before.plain before.isSome n with
  | kept safe single same =>
    exact ⟨fun _ => ⟨safe, single⟩, fun _ => .inl (before.holds.congr regular same)⟩
  | lost exposed same =>
    have found := removed.congr regular same
    refine ⟨?_, fun fine => absurd exposed fine.1⟩
    rintro (old | new)
    · have lengths := (found.unique old).length_eq
      simp at lengths
    · have lengths := (found.unique new).length_eq
      simp at lengths
  | replaced safe single data marshalled plain same =>
    refine ⟨fun _ => ⟨safe, single⟩, fun _ => .inr ?_⟩
    refine (removed.write regular plain ?_ (roundTrip data marshalled)).congr regular same
    rcases before.unused with renames | unused
    · rw [renames, Files.remove_self]
    · by_cases renames : K.file p (K.name newCfg) = K.file p (K.name oldCfg)
      · rw [renames, Files.remove_self]
      · rw [Files.remove_of_ne _ renames, unused]
  | doubled doubled data marshalled plain same =>
    have unused := before.unused.resolve_left doubled.2.2.2.1
    have found :=
      (before.holds.write regular plain unused (roundTrip data marshalled)).congr regular same
    refine ⟨?_, fun fine => absurd doubled fine.2⟩
    rintro (old | new)
    · have lengths := (found.unique old).length_eq
      simp at lengths
    · have lengths := (found.unique new).length_eq
      simp at lengths

/-- Killed there, the replaced configuration is lost. -/
theorem Replaceable.lost {others : List κ} {calls : Nat}
    (before : K.Replaceable p oldCfg newCfg others files) (regular : K.Regular)
    (exposed : K.Exposed faults newCfg calls) :
    K.Holds p ((K.replaceFile p faults oldCfg newCfg).killed calls files) others := by
  have removed := before.holds.remove regular before.plain before.there
  cases replaceFile_outcome faults newCfg regular before.plain before.isSome calls with
  | kept safe _ _ => exact absurd exposed safe
  | lost _ same => exact removed.congr regular same
  | replaced safe _ _ _ _ _ => exact absurd exposed safe
  | doubled doubled _ _ _ _ => exact absurd exposed.2.1 doubled.2.1

/-- A directory with nothing in it but the file of one configuration. -/
theorem Replaceable.single {data : Bytes} (regular : K.Regular) (plain : '/' ∉ (K.name oldCfg).toList)
    (read : K.unmarshal data = .ok oldCfg) (newCfg : κ) :
    K.Replaceable p oldCfg newCfg [] (Files.write (K.file p (K.name oldCfg)) data fun _ => none) where
  holds := by
    have empty : K.Holds p (fun _ => none) [] := by
      have lists : Lists p (fun _ => none) [] := ⟨List.nodup_nil, by simp⟩
      exact regular.holds lists .nil
    exact empty.write regular plain rfl read
  plain := plain
  there := by
    rw [cfgOf, Files.write_self, Option.bind_some, read]
    rfl
  unused := by
    by_cases same : K.name newCfg = K.name oldCfg
    · exact .inl same
    · exact .inr (Files.write_of_ne _ _ fun equal => same (file_inj equal))

end FileKind

/-- The condition under which the old or the new configuration survives, for both kinds of files. -/
theorem replaceFile_survives_iff (dir : Directory) (unmarshal : Bytes → Except Err Config)
    (marshalRoute : Route.RouteConfig → Except Err Bytes)
    (unmarshalRoute : Bytes → Except Err Route.RouteConfig)
    (roundTrip : ∀ cfg data, dir.marshal cfg = .ok data → unmarshal data = .ok cfg)
    (roundTripRoute : ∀ cfg data, marshalRoute cfg = .ok data →
      unmarshalRoute data = .ok { cfg with ProbeWarnings := [] })
    (faults : FileFaults) (files : Files) (calls : Nat) :
    (∀ oldCfg newCfg others,
      (serviceFiles dir unmarshal).Replaceable dir.place oldCfg newCfg others files →
      ((serviceFiles dir unmarshal).Survives dir.place oldCfg newCfg others
          (((serviceFiles dir unmarshal).replaceFile dir.place faults oldCfg newCfg).killed calls
            files) ↔
        ¬ (serviceFiles dir unmarshal).Exposed faults newCfg calls ∧
          ¬ (serviceFiles dir unmarshal).Doubled faults oldCfg newCfg calls)) ∧
    (∀ oldCfg newCfg others,
      (routeFiles marshalRoute unmarshalRoute).Replaceable dir.place oldCfg newCfg others files →
      ((routeFiles marshalRoute unmarshalRoute).Survives dir.place oldCfg newCfg others
          (((routeFiles marshalRoute unmarshalRoute).replaceFile dir.place faults oldCfg
            newCfg).killed calls files) ↔
        ¬ (routeFiles marshalRoute unmarshalRoute).Exposed faults newCfg calls ∧
          ¬ (routeFiles marshalRoute unmarshalRoute).Doubled faults oldCfg newCfg calls)) := by
  constructor
  · intro oldCfg newCfg others before
    exact before.survives_iff (serviceFiles_regular dir unmarshal) (roundTrip newCfg) calls
  · intro oldCfg newCfg others before
    exact before.survives_iff (routeFiles_regular marshalRoute unmarshalRoute)
      (roundTripRoute newCfg) calls

/-! The files of a few configurations. -/

section table

variable {κ : Type} [DecidableEq κ]

@[irreducible] def ascii (text : String) : Bytes := text.toList.map fun c => UInt8.ofNat c.toNat

/-- `json.Marshal`, where the texts are known. -/
def marshalOf (stored : κ → κ) (table : List (κ × String)) (cfg : κ) : Except Err Bytes :=
  match table.find? (·.1 = stored cfg) with
  | some row => .ok (ascii row.2)
  | none => .error (.failed "json: unsupported value")

def unmarshalOf (table : List (κ × String)) (data : Bytes) : Except Err κ :=
  match table.find? (ascii ·.2 = data) with
  | some row => .ok row.1
  | none => .error (.failed "invalid character in JSON")

theorem unmarshalOf_marshalOf {stored : κ → κ} {table : List (κ × String)}
    (distinct : (table.map (ascii ·.2)).Nodup) {cfg : κ} {data : Bytes}
    (ok : marshalOf stored table cfg = .ok data) : unmarshalOf table data = .ok (stored cfg) := by
  unfold marshalOf at ok
  unfold unmarshalOf
  induction table with
  | nil => contradiction
  | cons row rest ih =>
    rw [List.map_cons, List.nodup_cons] at distinct
    rw [List.find?_cons] at ok ⊢
    by_cases found : row.1 = stored cfg
    · rw [decide_eq_true found] at ok
      cases ok
      rw [decide_eq_true rfl]
      exact congrArg Except.ok found
    · rw [decide_eq_false found] at ok
      have later : ascii row.2 ≠ data := by
        intro same
        apply distinct.1
        dsimp only at ok
        split at ok
        · rename_i other lookup
          cases ok
          rw [same]
          exact List.mem_map.mpr ⟨other, List.mem_of_find?_eq_some lookup, rfl⟩
        · contradiction
      rw [decide_eq_false later]
      exact ih distinct.2 ok

theorem marshalOf_of_mem {stored : κ → κ} {table : List (κ × String)}
    (distinct : (table.map Prod.fst).Nodup) {cfg : κ} {text : String}
    (member : (stored cfg, text) ∈ table) : marshalOf stored table cfg = .ok (ascii text) := by
  unfold marshalOf
  induction table with
  | nil => contradiction
  | cons row rest ih =>
    rw [List.map_cons, List.nodup_cons] at distinct
    rw [List.find?_cons]
    rcases List.mem_cons.mp member with rfl | later
    · rw [decide_eq_true rfl]
    · have other : row.1 ≠ stored cfg := fun same => distinct.1 (same ▸ List.mem_map_of_mem later)
      rw [decide_eq_false other]
      exact ih distinct.2 later

theorem ascii_append (a b : String) : ascii (a ++ b) = ascii a ++ ascii b := by
  simp only [ascii, String.toList_append, List.map_append]

end table

/-! A tunnel and a route that are changed. -/

def web (port : String) : Config :=
  ⟨"5b1e", "web", false, "", "tcp@127.0.0.1:7001", "", "", "", "", "tcp@127.0.0.1:" ++ port,
    "", "", "", "", 1⟩

def webHead : String :=
  "\x7b\"uuid\":\"5b1e\",\"name\":\"web\",\"disabled\":false,\"mode\":\"\",\"input\":\"tcp@127.0.0.1:7001\"," ++
    "\"in_proto_cfg\":\"\",\"in_decrypt_mode\":\"\",\"in_decrypt_key\":\"\",\"in_extend\":\"\",\"output\":\"tcp@127.0.0.1:"

def webTail : String :=
  "\",\"out_proto_cfg\":\"\",\"out_crypt_mode\":\"\",\"out_crypt_key\":\"\",\"out_extend\":\"\"," ++
    "\"create_at\":\"0001-01-01T00:00:00.000000001Z\"\x7d"

def webText (port : String) : String := webHead ++ port ++ webTail

def webTable : List (Config × String) := [(web "7002", webText "7002"), (web "7003", webText "7003")]

def webDir : Directory := ⟨"tun", marshalOf id webTable, "1", "1"⟩

def webFiles : FileKind Config := serviceFiles webDir (unmarshalOf webTable)

def webBefore : Files :=
  Files.write (webFiles.file webDir.place "web") (ascii (webText "7002")) fun _ => none

def routeOut (members : List String) : Route.RouteConfig :=
  ⟨"9c40", "out", false, "output", "tcp@127.0.0.1:7000", "", members, "priority",
    ⟨"", "", 0, 0, 0, 0, 0, 0⟩, "", [], 1⟩

def routeHead : String :=
  "\x7b\"uuid\":\"9c40\",\"name\":\"out\",\"disabled\":false,\"mode\":\"output\",\"listen\":\"tcp@127.0.0.1:7000\"," ++
    "\"in_proto_cfg\":\"\",\"members\":["

def routeTail : String :=
  "],\"policy\":\"priority\",\"quality\":\x7b\"download_url\":\"\",\"connectivity_url\":\"\",\"download_status\":0," ++
    "\"connectivity_status\":0,\"download_bytes\":0,\"interval_sec\":0,\"timeout_ms\":0,\"normal_ms\":0\x7d," ++
    "\"create_at\":\"0001-01-01T00:00:00.000000001Z\"\x7d"

def routeOutText (members : String) : String := routeHead ++ members ++ routeTail

def routeTable : List (Route.RouteConfig × String) :=
  [(routeOut ["web"], routeOutText "\"web\""), (routeOut ["web", "alt"], routeOutText "\"web\",\"alt\"")]

def marshalRouteOut : Route.RouteConfig → Except Err Bytes :=
  marshalOf (fun r => { r with ProbeWarnings := [] }) routeTable

def routeOutFiles : FileKind Route.RouteConfig := routeFiles marshalRouteOut (unmarshalOf routeTable)

def routeBefore : Files :=
  Files.write (routeOutFiles.file webDir.place "out") (ascii (routeOutText "\"web\"")) fun _ => none

theorem ascii_between {head tail a b : String}
    (same : ascii (head ++ a ++ tail) = ascii (head ++ b ++ tail)) :
    ascii a = ascii b := by
  rw [ascii_append, ascii_append, ascii_append, ascii_append] at same
  exact List.append_cancel_left (List.append_cancel_right same)

theorem webTable_distinct : (webTable.map (ascii ·.2)).Nodup := by
  have differ : ascii (webText "7002") ≠ ascii (webText "7003") :=
    fun same => absurd (ascii_between same) (by decide +kernel)
  exact List.nodup_cons.mpr ⟨fun member => differ (List.mem_singleton.mp member), List.nodup_singleton _⟩

theorem routeTable_distinct : (routeTable.map (ascii ·.2)).Nodup := by
  have differ : ascii (routeOutText "\"web\"") ≠ ascii (routeOutText "\"web\",\"alt\"") :=
    fun same => absurd (ascii_between same) (by decide +kernel)
  exact List.nodup_cons.mpr ⟨fun member => differ (List.mem_singleton.mp member), List.nodup_singleton _⟩

theorem marshal_web {port text : String} (member : (web port, text) ∈ webTable) :
    webDir.marshal (web port) = .ok (ascii text) := marshalOf_of_mem (by decide +kernel) member

theorem marshal_routeOut {members : List String} {text : String}
    (member : (routeOut members, text) ∈ routeTable) :
    marshalRouteOut (routeOut members) = .ok (ascii text) := marshalOf_of_mem (by decide +kernel) member

theorem web_replaceable : webFiles.Replaceable webDir.place (web "7002") (web "7003") [] webBefore := by
  refine .single (serviceFiles_regular _ _) (by decide +kernel) ?_ _
  exact unmarshalOf_marshalOf webTable_distinct (marshal_web List.mem_cons_self)

theorem routeOut_replaceable :
    routeOutFiles.Replaceable webDir.place (routeOut ["web"]) (routeOut ["web", "alt"])
      [] routeBefore := by
  refine .single (routeFiles_regular _ _) (by decide +kernel) ?_ _
  exact unmarshalOf_marshalOf routeTable_distinct (marshal_routeOut List.mem_cons_self)

/-- Killed when the new file is in its place and the backup is not removed yet, both survive. -/
theorem replaced_before_cleanup :
    webFiles.Survives webDir.place (web "7002") (web "7003") []
      ((webFiles.replaceFile webDir.place (fun _ => none) (web "7002") (web "7003")).killed 8
        webBefore) ∧
    routeOutFiles.Survives webDir.place (routeOut ["web"]) (routeOut ["web", "alt"]) []
      ((routeOutFiles.replaceFile webDir.place (fun _ => none) (routeOut ["web"])
        (routeOut ["web", "alt"])).killed 8
        routeBefore) := by
  have roundTrip : ∀ cfg data, webDir.marshal cfg = .ok data → unmarshalOf webTable data = .ok cfg := by
    intro cfg data ok
    exact unmarshalOf_marshalOf webTable_distinct ok
  have roundTripRoute : ∀ cfg data, marshalRouteOut cfg = .ok data →
      unmarshalOf routeTable data = .ok { cfg with ProbeWarnings := [] } := by
    intro cfg data ok
    exact unmarshalOf_marshalOf routeTable_distinct ok
  have iff := replaceFile_survives_iff webDir _ marshalRouteOut _ roundTrip roundTripRoute fun _ => none
  constructor
  · refine ((iff webBefore 8).1 _ _ _ web_replaceable).mpr ⟨?_, fun doubled => doubled.2.1 rfl⟩
    simp [FileKind.Exposed]
  · refine ((iff routeBefore 8).2 _ _ _ routeOut_replaceable).mpr ⟨?_, fun doubled => doubled.2.1 rfl⟩
    simp [FileKind.Exposed]

/-- Killed between the two renames, neither the old nor the new tunnel is loaded. -/
theorem replaced_tunnel_lost :
    webFiles.Replaceable webDir.place (web "7002") (web "7003") [] webBefore ∧
    webFiles.Holds webDir.place
      ((webFiles.replaceFile webDir.place (fun _ => none) (web "7002") (web "7003")).killed 7
        webBefore) [] ∧
    ¬ webFiles.Survives webDir.place (web "7002") (web "7003") []
      ((webFiles.replaceFile webDir.place (fun _ => none) (web "7002") (web "7003")).killed
        7 webBefore) := by
  have exposed : webFiles.Exposed (fun _ => none) (web "7003") 7 := by
    have marshalled := marshal_web (List.mem_cons_of_mem _ List.mem_cons_self)
    exact ⟨⟨⟨_, marshalled⟩, by decide +kernel, fun _ _ => rfl⟩, rfl, rfl, .inl rfl⟩
  have lost := web_replaceable.lost (serviceFiles_regular _ _) exposed
  refine ⟨web_replaceable, lost, ?_⟩
  rintro (old | new)
  · exact absurd (lost.unique old).length_eq (by decide)
  · exact absurd (lost.unique new).length_eq (by decide)

end Gotun.Tun
