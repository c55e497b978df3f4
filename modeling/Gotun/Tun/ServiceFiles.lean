import Gotun.Lib.Stream
import Mathlib.Logic.Function.Basic

/-! The configuration files of `tun/config.go`: writing one through a temporary file, and
replacing one with a backup that is put back when the replacement fails. -/

namespace Gotun.Tun

open Gotun.Lib

structure Config where
  UUID : String
  Name : String
  Disabled : Bool
  Mode : String
  Input : String
  InProtoCfg : String
  InDecryptMode : String
  InDecryptKey : String
  InExtend : String
  Output : String
  OutProtoCfg : String
  OutCryptMode : String
  OutCryptKey : String
  OutExtend : String
  /-- Nanoseconds since the zero time. -/
  CreatedAt : Int
  deriving DecidableEq, Repr

abbrev Files := String → Option Bytes

namespace Files

def write (path : String) (data : Bytes) (files : Files) : Files :=
  Function.update files path (some data)

def remove (path : String) (files : Files) : Files := Function.update files path none

def rename (source target : String) (files : Files) : Files :=
  Function.update (Function.update files source none) target (files source)

end Files

/-- The calls to the file system, each of which can fail. -/
inductive FileOp where
  | mkdir
  | mkdirStage
  | createTemp
  | write
  | closeTemp
  | stat
  | renameOld
  | renameNew
  | restore
  | removeBackup
  | removeTemp
  | removeFile
  deriving DecidableEq, Repr

/-- The error of each call that fails. -/
abbrev FileFaults := FileOp → Option String

/-- The tunnel directory, `json.Marshal`, and the parts of fresh file names. -/
structure Directory where
  tunDir : String
  marshal : Config → Except Err Bytes
  random : String
  stamp : String

def TUN_CONFIG_SUFFIX : String := ".tun"

def serviceFile (dir name : String) : String := dir ++ "/" ++ name ++ TUN_CONFIG_SUFFIX

section operations

variable (dir : Directory) (faults : FileFaults)

def attempt (op : FileOp) : Action Files Unit :=
  Action.lift ((faults op).elim (.ok ()) fun text => .error (.failed text))

/-- A call whose error is ignored. -/
def ignoring (op : FileOp) (f : Files → Files) : Action Files Unit :=
  Action.modify fun files => (faults op).elim (f files) fun _ => files

def isFileExist (path : String) : Action Files Bool :=
  fun files => (.ok ((faults .stat).isNone && (files path).isSome), files)

def serviceStageDir : Action Files String := do
  attempt faults .mkdir
  attempt faults .mkdirStage
  pure (dir.tunDir ++ "/.staging")

def tempFile (stageDir name : String) : String := stageDir ++ "/" ++ name ++ "." ++ dir.random ++ ".tmp"

def backupFile (stageDir name : String) : String := stageDir ++ "/" ++ name ++ "-" ++ dir.stamp ++ ".bak"

/-- `os.CreateTemp`, which refuses a name with a path separator. -/
def createTemp (stageDir name : String) : Action Files String :=
  if '/' ∈ name.toList then
    Action.fail (.failed ("createtemp " ++ name ++ ".*.tmp: pattern contains path separator"))
  else do
    attempt faults .createTemp
    Action.modify (Files.write (tempFile dir stageDir name) [])
    pure (tempFile dir stageDir name)

/-- A temporary file that cannot be written or closed is left behind. -/
def writeTempServiceFile (stageDir : String) (cfg : Config) : Action Files String := do
  let cfgData ← Action.lift (dir.marshal cfg)
  let temp ← createTemp dir faults stageDir cfg.Name
  attempt faults .write
  Action.modify (Files.write temp cfgData)
  attempt faults .closeTemp
  pure temp

/-- `defer os.Remove(temp)`. -/
def removingTemp (temp : String) (x : Action Files Unit) : Action Files Unit :=
  fun files => ((x files).1, (ignoring faults .removeTemp (Files.remove temp) (x files).2).2)

/-- The moves of `replaceServiceFile` once the new file is written. -/
def moveServiceFile (stageDir newTemp : String) (oldCfg newCfg : Config) : Action Files Unit := do
  let oldPath := serviceFile dir.tunDir oldCfg.Name
  let newPath := serviceFile dir.tunDir newCfg.Name
  let backupPath := backupFile dir stageDir oldCfg.Name
  let oldExists ← isFileExist faults oldPath
  if oldExists then
    attempt faults .renameOld
    Action.modify (Files.rename oldPath backupPath)
  match faults .renameNew with
  | some text => do
    if oldExists then ignoring faults .restore (Files.rename backupPath oldPath)
    Action.fail (.failed text)
  | none => do
    Action.modify (Files.rename newTemp newPath)
    if oldExists then ignoring faults .removeBackup (Files.remove backupPath)

def replaceServiceFile (oldCfg newCfg : Config) : Action Files Unit := do
  let stageDir ← serviceStageDir dir faults
  let newTemp ← writeTempServiceFile dir faults stageDir newCfg
  removingTemp faults newTemp (moveServiceFile dir faults stageDir newTemp oldCfg newCfg)

def writeServiceFileAtomic (cfg : Config) : Action Files Unit := do
  let stageDir ← serviceStageDir dir faults
  let filename := serviceFile dir.tunDir cfg.Name
  if ← isFileExist faults filename then Action.fail (.failed "tun already exist")
  else do
    let temp ← writeTempServiceFile dir faults stageDir cfg
    removingTemp faults temp do
      attempt faults .renameNew
      Action.modify (Files.rename temp filename)

def createServiceFile (cfg : Config) : Action Files Unit := writeServiceFileAtomic dir faults cfg

/-- A file that does not exist counts as deleted. -/
def deleteServiceFile (name : String) : Action Files Unit := do
  attempt faults .removeFile
  Action.modify (Files.remove (serviceFile dir.tunDir name))

end operations

/-! A replacement that fails leaves every configuration file as it was. -/

theorem ne_of_suffix {a b suffix suffix' : String}
    (lengths : suffix.toList.length = suffix'.toList.length)
    (differ : suffix ≠ suffix') : a ++ suffix ≠ b ++ suffix' := by
  intro same
  have lists := congrArg String.toList same
  rw [String.toList_append, String.toList_append] at lists
  exact differ (String.toList_inj.mp (List.append_inj' lists lengths).2)

section failures

variable (dir : Directory) (faults : FileFaults)

theorem serviceFile_ne_temp (stageDir name other : String) :
    serviceFile dir.tunDir name ≠ tempFile dir stageDir other := by
  rw [serviceFile, tempFile, TUN_CONFIG_SUFFIX]
  exact ne_of_suffix (by decide) (by decide)

theorem serviceFile_ne_backup (stageDir name other : String) :
    serviceFile dir.tunDir name ≠ backupFile dir stageDir other := by
  rw [serviceFile, backupFile, TUN_CONFIG_SUFFIX]
  exact ne_of_suffix (by decide) (by decide)

/-- Every configuration file is the same in both. -/
def SameServices (dir : Directory) (files files' : Files) : Prop :=
  ∀ name, files' (serviceFile dir.tunDir name) = files (serviceFile dir.tunDir name)

/-- At most one call fails. -/
def Single (faults : FileFaults) : Prop := ∀ op op', faults op ≠ none → faults op' ≠ none → op = op'

theorem attempt_keeps (op : FileOp) (P : Files → Prop) : Action.Keeps P (attempt faults op) :=
  fun _ held => held

theorem serviceStageDir_keeps (P : Files → Prop) : Action.Keeps P (serviceStageDir dir faults) :=
  (attempt_keeps faults _ P).bind fun _ => (attempt_keeps faults _ P).bind fun _ => Action.Keeps.pure _

variable {dir} in
theorem SameServices.write {files files' : Files} (same : SameServices dir files files') {path : String}
    (other : ∀ name, serviceFile dir.tunDir name ≠ path) (data : Bytes) :
    SameServices dir files (files'.write path data) :=
  fun name => (Function.update_of_ne (other name) _ _).trans (same name)

variable {dir} in
theorem SameServices.remove {files files' : Files} (same : SameServices dir files files') {path : String}
    (other : ∀ name, serviceFile dir.tunDir name ≠ path) : SameServices dir files (files'.remove path) :=
  fun name => (Function.update_of_ne (other name) _ _).trans (same name)

theorem createTemp_keeps (stageDir name : String) (files : Files) :
    Action.Keeps (SameServices dir files) (createTemp dir faults stageDir name) := by
  unfold createTemp
  split_ifs
  · exact Action.Keeps.fail _
  · refine (attempt_keeps faults _ _).bind fun _ => Action.Keeps.bind ?_ fun _ => Action.Keeps.pure _
    exact fun _ same => same.write (fun other => serviceFile_ne_temp dir stageDir other name) []

variable {dir faults} in
theorem createTemp_path {stageDir name temp : String} {files files' : Files}
    (ok : createTemp dir faults stageDir name files = (.ok temp, files')) :
    temp = tempFile dir stageDir name := by
  unfold createTemp at ok
  split_ifs at ok
  · simp [Action.fail] at ok
  · obtain ⟨_, _, _, ok⟩ := Action.of_bind_ok ok
    obtain ⟨_, _, _, ok⟩ := Action.of_bind_ok ok
    exact (Except.ok.inj (Prod.ext_iff.mp ok).1).symm

theorem writeTempServiceFile_keeps (stageDir : String) (cfg : Config) (files : Files) :
    Action.Keeps (SameServices dir files) (writeTempServiceFile dir faults stageDir cfg) := by
  refine Action.Keeps.bind (fun _ same => same) fun data files' same => ?_
  have kept := createTemp_keeps dir faults stageDir cfg.Name files files' same
  rcases created : createTemp dir faults stageDir cfg.Name files' with ⟨e | temp, files''⟩
  · rw [Action.bind_error _ created]
    rwa [created] at kept
  · rw [Action.bind_ok _ created]
    rw [created] at kept
    have path := createTemp_path created
    refine ((attempt_keeps faults _ _).bind fun _ => Action.Keeps.bind ?_ fun _ =>
      (attempt_keeps faults _ _).bind fun _ =>
      Action.Keeps.pure _) files'' kept
    exact fun _ same =>
      same.write (fun name => path ▸ serviceFile_ne_temp dir stageDir name cfg.Name) data

variable {dir faults}

theorem writeTempServiceFile_path {stageDir temp : String} {cfg : Config} {files files' : Files}
    (ok : writeTempServiceFile dir faults stageDir cfg files = (.ok temp, files')) :
    temp = tempFile dir stageDir cfg.Name := by
  obtain ⟨_, _, _, ok⟩ := Action.of_bind_ok ok
  obtain ⟨path, _, created, ok⟩ := Action.of_bind_ok ok
  obtain ⟨_, _, _, ok⟩ := Action.of_bind_ok ok
  obtain ⟨_, _, _, ok⟩ := Action.of_bind_ok ok
  obtain ⟨_, _, _, ok⟩ := Action.of_bind_ok ok
  exact (Except.ok.inj (Prod.ext_iff.mp ok).1).symm.trans (createTemp_path created)

/-- The backup put back. -/
theorem SameServices.restored (stageDir name : String) (files : Files) :
    SameServices dir files
      ((files.rename (serviceFile dir.tunDir name) (backupFile dir stageDir name)).rename
      (backupFile dir stageDir name) (serviceFile dir.tunDir name)) := by
  intro other
  simp only [Files.rename, Function.update_self]
  by_cases same : serviceFile dir.tunDir other = serviceFile dir.tunDir name
  · rw [same, Function.update_self]
  · rw [Function.update_of_ne same,
      Function.update_of_ne (serviceFile_ne_backup dir stageDir other name), Function.update_of_ne
      (serviceFile_ne_backup dir stageDir other name), Function.update_of_ne same]

theorem attempt_ok {op : FileOp} (fine : faults op = none) (files : Files) :
    attempt faults op files = (.ok (), files) := by
  rw [attempt, fine]
  rfl

theorem attempt_error {op : FileOp} {text : String} (fault : faults op = some text) (files : Files) :
    attempt faults op files = (.error (.failed text), files) := by
  rw [attempt, fault]
  rfl

theorem moveServiceFile_error (single : Single faults) {stageDir newTemp : String}
    {oldCfg newCfg : Config} {files files' : Files} {e : Err}
    (failed : moveServiceFile dir faults stageDir newTemp oldCfg newCfg files = (.error e, files')) :
    SameServices dir files files' := by
  simp only [moveServiceFile] at failed
  rw [Action.bind_ok _ (show isFileExist faults _ files = (.ok _, files) from rfl)] at failed
  split at failed
  · rcases old : faults .renameOld with _ | text
    · rw [Action.bind_ok _ (attempt_ok old files),
        Action.bind_ok _ (show Action.modify _ files = (.ok (), _) from rfl)] at failed
      rcases new : faults .renameNew with _ | text
      · simp only [new] at failed
        exact absurd (congrArg Prod.fst failed) (by simp [Action.modify, ignoring, bind])
      · -- the second rename is the one call that fails, so the first is undone
        have fine : faults .restore = none := by
          by_contra fault
          exact absurd (single .renameNew .restore (by rw [new]; simp) fault) (by decide)
        simp only [new] at failed
        rw [Action.bind_ok _ (show ignoring faults .restore _ _ = (.ok (), _) from rfl), fine] at failed
        obtain ⟨_, rfl⟩ := Prod.mk.inj failed
        exact SameServices.restored stageDir oldCfg.Name files
    · rw [Action.bind_error _ (attempt_error old files)] at failed
      obtain ⟨_, rfl⟩ := Prod.mk.inj failed
      exact fun _ => rfl
  · rcases new : faults .renameNew with _ | text
    · simp only [new] at failed
      exact absurd (congrArg Prod.fst failed) (by simp [Action.modify, bind, pure])
    · simp only [new] at failed
      obtain ⟨_, rfl⟩ := Prod.mk.inj failed
      exact fun _ => rfl

theorem replaceServiceFile_error (single : Single faults) {oldCfg newCfg : Config}
    {files files' : Files} {e : Err}
    (failed : replaceServiceFile dir faults oldCfg newCfg files = (.error e, files')) :
    SameServices dir files files' := by
  have staged := serviceStageDir_keeps dir faults (SameServices dir files) files fun _ => rfl
  rcases stage : serviceStageDir dir faults files with ⟨e' | stageDir, files₁⟩
  · rw [replaceServiceFile, Action.bind_error _ stage] at failed
    rw [stage] at staged
    obtain ⟨_, rfl⟩ := Prod.mk.inj failed
    exact staged
  · rw [stage] at staged
    rw [replaceServiceFile, Action.bind_ok _ stage] at failed
    have kept := writeTempServiceFile_keeps dir faults stageDir newCfg files files₁ staged
    rcases written : writeTempServiceFile dir faults stageDir newCfg files₁ with ⟨e' | temp, files₂⟩
    · rw [Action.bind_error _ written] at failed
      rw [written] at kept
      obtain ⟨_, rfl⟩ := Prod.mk.inj failed
      exact kept
    · rw [written] at kept
      rw [Action.bind_ok _ written] at failed
      rcases moved : moveServiceFile dir faults stageDir temp oldCfg newCfg files₂ with ⟨result, files₃⟩
      simp only [removingTemp, moved] at failed
      obtain ⟨rfl, rfl⟩ := Prod.mk.inj failed
      have same : SameServices dir files files₃ :=
        fun name => (moveServiceFile_error single moved name).trans (kept name)
      have path := writeTempServiceFile_path written
      rcases fault : faults .removeTemp with _ | text
      · simp only [ignoring, fault, Action.modify, Option.elim]
        exact same.remove fun name => path ▸ serviceFile_ne_temp dir stageDir name newCfg.Name
      · simp only [ignoring, fault, Action.modify, Option.elim]
        exact same

end failures
end Gotun.Tun
