import Gotun.Lib.Script
import Gotun.Tun.RouteConfig
import Mathlib.Data.List.TakeWhile
import Mathlib.Data.List.Perm.Basic

/-! The two kinds of configuration files of `tun/config.go`, call by call, and the loading of all files
of a kind. -/

namespace Gotun.Tun

open Gotun.Lib

/-! What the calls do to the files. -/

namespace Files

variable (files : Files) {path other source target : String} (data : Bytes)

theorem write_self : files.write path data path = some data := Function.update_self ..

theorem write_of_ne (ne : other ≠ path) : files.write path data other = files other :=
  Function.update_of_ne ne ..

theorem remove_self : files.remove path path = none := Function.update_self ..

theorem remove_of_ne (ne : other ≠ path) : files.remove path other = files other :=
  Function.update_of_ne ne ..

theorem rename_target : files.rename source target target = files source := Function.update_self ..

theorem rename_source (ne : source ≠ target) : files.rename source target source = none := by
  rw [rename, Function.update_of_ne ne, Function.update_self]

theorem rename_of_ne (ne : other ≠ source) (ne' : other ≠ target) :
    files.rename source target other = files other := by
  rw [rename, Function.update_of_ne ne', Function.update_of_ne ne]

end Files

def ROUTE_CONFIG_SUFFIX : String := ".route"

/-- What the functions for `.tun` files and those for `.route` files differ in. -/
structure FileKind (κ : Type) where
  suffix : String
  tempSuffix : String
  backupSuffix : String
  alreadyExist : String
  name : κ → String
  marshal : κ → Except Err Bytes
  unmarshal : Bytes → Except Err κ
  /-- What of a configuration is in its file. -/
  stored : κ → κ

/-- The directory, and the parts of fresh file names. -/
structure Place where
  tunDir : String
  random : String
  stamp : String

abbrev FileScript := Script FileOp Files

namespace FileScript

/-- A call that fails when the file system does. -/
def attempt (faults : FileFaults) (op : FileOp)
    (f : Files → Except Err Bool × Files) : FileScript Bool :=
  .request op fun files => match faults op with
    | some text => (.error (.failed text), files)
    | none => f files

def perform (faults : FileFaults) (op : FileOp) (f : Files → Files) : FileScript Bool :=
  attempt faults op fun files => (.ok true, f files)

def rename (faults : FileFaults) (op : FileOp) (source target : String) : FileScript Bool :=
  attempt faults op fun files =>
    if (files source).isSome then (.ok true, files.rename source target)
    else (.error (.failed ("rename " ++ source ++ " " ++ target ++ ": no such file or directory")),
      files)

/-- A `Stat` that fails is taken for a file that is not there. -/
def isFileExist (faults : FileFaults) (path : String) : FileScript Bool :=
  .request .stat fun files => (.ok ((faults .stat).isNone && (files path).isSome), files)

/-- A call whose error is ignored. -/
def ignoring (x : FileScript Bool) : FileScript Bool := x.handle fun _ => pure false

end FileScript

namespace FileKind

variable {κ : Type} (K : FileKind κ) (p : Place) (faults : FileFaults)

def file (name : String) : String := p.tunDir ++ "/" ++ name ++ K.suffix

def temp (name : String) : String := p.tunDir ++ "/.staging/" ++ name ++ "." ++ p.random ++ K.tempSuffix

def backup (name : String) : String :=
  p.tunDir ++ "/.staging/" ++ name ++ "-" ++ p.stamp ++ K.backupSuffix

def stageDir : FileScript Bool := do
  let _ ← FileScript.perform faults .mkdir id
  FileScript.perform faults .mkdirStage id

/-- `os.CreateTemp` refuses a name with a path separator. -/
def writeTemp (cfg : κ) : FileScript Bool := do
  let data ← .lift (K.marshal cfg)
  if '/' ∈ (K.name cfg).toList then
    .fail (.failed
      ("createtemp " ++ K.name cfg ++ ".*" ++ K.tempSuffix ++ ": pattern contains path separator"))
  else do
    let _ ← FileScript.perform faults .createTemp (Files.write (K.temp p (K.name cfg)) [])
    let _ ← FileScript.perform faults .write (Files.write (K.temp p (K.name cfg)) data)
    FileScript.perform faults .closeTemp id

def removeTemp (cfg : κ) : FileScript Bool :=
  FileScript.ignoring (FileScript.perform faults .removeTemp (Files.remove (K.temp p (K.name cfg))))

/-- The old file is kept as a backup until the new one is in its place. -/
def move (oldCfg newCfg : κ) : FileScript Bool := do
  let oldPath := K.file p (K.name oldCfg)
  let backupPath := K.backup p (K.name oldCfg)
  let oldExists ← FileScript.isFileExist faults oldPath
  let _ ← if oldExists then FileScript.rename faults .renameOld oldPath backupPath else pure false
  let _ ← (FileScript.rename faults .renameNew
      (K.temp p (K.name newCfg)) (K.file p (K.name newCfg))).handle fun e => do
    let _ ← if oldExists then
        FileScript.ignoring (FileScript.rename faults .restore backupPath oldPath)
      else pure false
    .fail e
  if oldExists then
    FileScript.ignoring (FileScript.perform faults .removeBackup (Files.remove backupPath))
  else pure false

def replaceFile (oldCfg newCfg : κ) : FileScript Bool := do
  let _ ← stageDir faults
  let _ ← K.writeTemp p faults newCfg
  (K.move p faults oldCfg newCfg).defer (K.removeTemp p faults newCfg)

def createFile (cfg : κ) : FileScript Bool := do
  let _ ← stageDir faults
  if ← FileScript.isFileExist faults (K.file p (K.name cfg)) then .fail (.failed K.alreadyExist)
  else do
    let _ ← K.writeTemp p faults cfg
    (FileScript.rename faults .renameNew (K.temp p (K.name cfg)) (K.file p (K.name cfg))).defer
      (K.removeTemp p faults cfg)

/-- A file that does not exist counts as deleted. -/
def deleteFile (name : String) : FileScript Bool :=
  FileScript.perform faults .removeFile (Files.remove (K.file p name))

/-! Loading. -/

/-- The entries of the directory that are no directories. -/
def Lists (p : Place) (files : Files) (entries : List String) : Prop :=
  entries.Nodup ∧ ∀ entry, entry ∈ entries ↔ '/' ∉ entry.toList ∧
    (files (p.tunDir ++ "/" ++ entry)).isSome

/-- `path.Ext`, from the last dot of the last element on. -/
def ext (name : String) : String :=
  let last := name.toList.reverse.takeWhile (· ≠ '/')
  if '.' ∈ last then String.ofList ((last.takeWhile (· ≠ '.')) ++ ['.']).reverse else ""

/-- The files are read in the order of the entries, and the first that cannot be read ends it. -/
def loadAllFile (files : Files) : List String → Except Err (List κ)
  | [] => .ok []
  | entry :: rest =>
    if ext entry ≠ K.suffix then loadAllFile files rest
    else match files (p.tunDir ++ "/" ++ entry) with
      | none => .error (.failed ("open " ++ p.tunDir ++ "/" ++ entry ++ ": no such file or directory"))
      | some data => do
        let cfg ← K.unmarshal data
        let cfgs ← loadAllFile files rest
        pure (cfg :: cfgs)

/-! The names of the files. -/

/-- The suffix is an extension, and what the three kinds of names end in differs. -/
structure Regular (K : FileKind κ) : Prop where
  dotted : K.suffix.toList.head? = some '.'
  plain : '.' ∉ K.suffix.toList.tail ∧ '/' ∉ K.suffix.toList.tail
  temp : K.suffix.toList.getLast? ≠ K.tempSuffix.toList.getLast? ∧ K.tempSuffix ≠ ""
  backup : K.suffix.toList.getLast? ≠ K.backupSuffix.toList.getLast? ∧ K.backupSuffix ≠ ""
  staged : K.tempSuffix.toList.getLast? ≠ K.backupSuffix.toList.getLast?

theorem getLast?_append {a b : String} (some_ : b ≠ "") :
    (a ++ b).toList.getLast? = b.toList.getLast? := by
  have nonempty : b.toList ≠ [] := fun empty => some_ (String.toList_inj.mp empty)
  rw [String.toList_append, List.getLast?_append_of_ne_nil _ nonempty]

theorem append_ne {a b s s' : String} (some_ : s ≠ "") (some_' : s' ≠ "")
    (differ : s.toList.getLast? ≠ s'.toList.getLast?) :
    a ++ s ≠ b ++ s' := by
  intro same
  apply differ
  rw [← getLast?_append (a := a) some_, ← getLast?_append (a := b) some_', same]

variable {K p}

theorem Regular.suffix_ne (regular : K.Regular) : K.suffix ≠ "" := by
  intro empty
  have dotted := regular.dotted
  rw [empty] at dotted
  contradiction

theorem Regular.file_ne_temp (regular : K.Regular) (name other : String) :
    K.file p name ≠ K.temp p other :=
  append_ne regular.suffix_ne regular.temp.2 regular.temp.1

theorem Regular.file_ne_backup (regular : K.Regular) (name other : String) :
    K.file p name ≠ K.backup p other :=
  append_ne regular.suffix_ne regular.backup.2 regular.backup.1

theorem Regular.temp_ne_backup (regular : K.Regular) (name other : String) :
    K.temp p name ≠ K.backup p other :=
  append_ne regular.temp.2 regular.backup.2 regular.staged

theorem file_inj {name other : String} (same : K.file p name = K.file p other) : name = other := by
  have lists := congrArg String.toList same
  simp only [file, String.toList_append] at lists
  exact String.toList_inj.mp (List.append_cancel_left (List.append_cancel_right lists))

/-- The name that a file of this kind is for. -/
def nameOf (K : FileKind κ) (entry : String) : Option String :=
  if ext entry = K.suffix then
    some (String.ofList (entry.toList.take (entry.toList.length - K.suffix.toList.length)))
  else none

theorem takeWhile_all {l : List Char} {c : Char} (absent : c ∉ l) : l.takeWhile (· ≠ c) = l := by
  apply List.takeWhile_eq_self_iff.mpr
  intro d member
  have differ : d ≠ c := fun same => absent (same ▸ member)
  simpa using differ

theorem Regular.suffix_eq (regular : K.Regular) : K.suffix.toList = '.' :: K.suffix.toList.tail :=
  (List.cons_head?_tail regular.dotted).symm

theorem Regular.ext_append (regular : K.Regular) {name : String} (plain : '/' ∉ name.toList) :
    ext (name ++ K.suffix) = K.suffix := by
  have noSlash : '/' ∉ (name ++ K.suffix).toList.reverse := by
    rw [List.mem_reverse, String.toList_append, regular.suffix_eq, List.mem_append, List.mem_cons]
    simp [plain, regular.plain.2]
  have noDot : '.' ∉ K.suffix.toList.tail.reverse := by
    rw [List.mem_reverse]
    exact regular.plain.1
  have reversed : (name ++ K.suffix).toList.reverse =
      K.suffix.toList.tail.reverse ++ '.' :: name.toList.reverse := by
    rw [String.toList_append, regular.suffix_eq, List.reverse_append, List.reverse_cons,
      List.append_assoc]
    rfl
  have body : (K.suffix.toList.tail.reverse ++ '.' :: name.toList.reverse).takeWhile (· ≠ '.') =
      K.suffix.toList.tail.reverse := by
    rw [List.takeWhile_append_of_pos, List.takeWhile_cons_of_neg (by simp), List.append_nil]
    intro c member
    have differ : c ≠ '.' := fun same => noDot (same ▸ member)
    simpa using differ
  rw [ext, takeWhile_all noSlash, reversed, if_pos (by simp), body]
  apply String.toList_inj.mp
  rw [String.toList_ofList, List.reverse_append, List.reverse_reverse]
  exact regular.suffix_eq.symm

theorem Regular.nameOf_append (regular : K.Regular) {name : String} (plain : '/' ∉ name.toList) :
    K.nameOf (name ++ K.suffix) = some name := by
  rw [nameOf, if_pos (regular.ext_append plain)]
  simp [String.toList_append]

/-- A file of the kind is named by a name and the suffix. -/
theorem of_nameOf {entry name : String} (plain : '/' ∉ entry.toList) (regular : K.Regular)
    (found : K.nameOf entry = some name) : entry = name ++ K.suffix := by
  have noSlash : '/' ∉ entry.toList.reverse := by
    rw [List.mem_reverse]
    exact plain
  unfold nameOf at found
  split_ifs at found with isExt
  rw [ext, takeWhile_all noSlash] at isExt
  split_ifs at isExt with dotted
  · have split := List.takeWhile_append_dropWhile (p := (· ≠ '.')) (l := entry.toList.reverse)
    obtain ⟨rest, dropped⟩ : ∃ rest, entry.toList.reverse.dropWhile (· ≠ '.') = '.' :: rest := by
      have nonempty : entry.toList.reverse.dropWhile (· ≠ '.') ≠ [] := by
        intro empty
        have none_ := List.dropWhile_eq_nil_iff.mp empty '.' dotted
        simp at none_
      obtain ⟨c, rest, shape⟩ := List.exists_cons_of_ne_nil nonempty
      have head := List.head_dropWhile_not (p := (· ≠ '.')) (l := entry.toList.reverse) nonempty
      simp only [shape, List.head_cons] at head
      exact ⟨rest, by rw [shape]; simpa using head⟩
    have suffix : K.suffix.toList = '.' :: (entry.toList.reverse.takeWhile (· ≠ '.')).reverse := by
      rw [← isExt, String.toList_ofList, List.reverse_append]
      rfl
    have whole : entry.toList = rest.reverse ++ K.suffix.toList := by
      rw [← List.reverse_reverse entry.toList, ← split, dropped, suffix, List.reverse_append,
        List.reverse_cons, List.append_assoc]
      rfl
    have stem : name.toList = rest.reverse := by
      rw [← Option.some.inj found, String.toList_ofList, whole]
      simp
    apply String.toList_inj.mp
    rw [String.toList_append, stem, whole]
  · exact absurd isExt.symm regular.suffix_ne

def names (K : FileKind κ) (entries : List String) : List String := entries.filterMap K.nameOf

def cfgOf (K : FileKind κ) (p : Place) (files : Files) (name : String) : Option κ :=
  (files (K.file p name)).bind fun data => (K.unmarshal data).toOption

theorem file_eq {entry name : String} (same : entry = name ++ K.suffix) :
    p.tunDir ++ "/" ++ entry = K.file p name := by
  rw [same, file, ← String.append_assoc]

/-- Loading succeeds when every file of the kind can be read, with the configurations of all of them. -/
theorem Regular.loadAllFile_iff (regular : K.Regular) {files : Files} {entries : List String}
    {cfgs : List κ} (plain : ∀ entry ∈ entries, '/' ∉ entry.toList) :
    K.loadAllFile p files entries = .ok cfgs ↔
      (K.names entries).map (K.cfgOf p files) = cfgs.map some := by
  induction entries generalizing cfgs with
  | nil =>
    cases cfgs with
    | nil => exact ⟨fun _ => rfl, fun _ => rfl⟩
    | cons c cs => simp [loadAllFile, names]
  | cons entry rest ih =>
    obtain ⟨first, later⟩ := List.forall_mem_cons.mp plain
    cases found : K.nameOf entry with
    | none =>
      have other : ext entry ≠ K.suffix := by
        intro isExt
        rw [nameOf, if_pos isExt] at found
        contradiction
      rw [loadAllFile, if_pos other, names, List.filterMap_cons_none found]
      exact ih later
    | some name =>
      have isExt : ¬ ext entry ≠ K.suffix := by
        intro other
        rw [nameOf, if_neg other] at found
        contradiction
      rw [loadAllFile, if_neg isExt, names, List.filterMap_cons_some found, List.map_cons,
        file_eq (of_nameOf first regular found), cfgOf]
      cases files (K.file p name) with
      | none => cases cfgs <;> simp
      | some data =>
        rw [Option.bind_some]
        dsimp only
        cases read : K.unmarshal data with
        | error e => cases cfgs <;> simp [bind, Except.bind, Except.toOption]
        | ok cfg =>
          cases cfgs with
          | nil =>
            cases K.loadAllFile p files rest <;> simp [bind, Except.bind, pure, Except.pure]
          | cons c cs =>
            rw [List.map_cons, List.cons.injEq, ← names, ← ih later]
            cases K.loadAllFile p files rest <;>
              simp [bind, Except.bind, pure, Except.pure, Except.toOption]

theorem Lists.plain {files : Files} {entries : List String} (lists : Lists p files entries) :
    ∀ entry ∈ entries, '/' ∉ entry.toList := fun entry member => ((lists.2 entry).mp member).1

theorem Regular.mem_names (regular : K.Regular) {files : Files} {entries : List String}
    (lists : Lists p files entries) (name : String) :
    name ∈ K.names entries ↔ '/' ∉ name.toList ∧ (files (K.file p name)).isSome := by
  rw [names, List.mem_filterMap]
  constructor
  · rintro ⟨entry, member, found⟩
    obtain ⟨plain, exists_⟩ := (lists.2 entry).mp member
    have same := of_nameOf plain regular found
    refine ⟨?_, file_eq same ▸ exists_⟩
    intro slash
    apply plain
    rw [same, String.toList_append]
    exact List.mem_append_left _ slash
  · rintro ⟨plain, exists_⟩
    refine ⟨name ++ K.suffix, (lists.2 _).mpr ⟨?_, file_eq (K := K) rfl ▸ exists_⟩,
      regular.nameOf_append plain⟩
    rw [String.toList_append, regular.suffix_eq, List.mem_append, List.mem_cons]
    simp [plain, regular.plain.2]

theorem Regular.names_nodup (regular : K.Regular) {files : Files} {entries : List String}
    (lists : Lists p files entries) : (K.names entries).Nodup := by
  refine List.pairwise_filterMap.mpr (lists.1.imp_of_mem ?_)
  intro entry other member member' differ name found name' found' same
  apply differ
  rw [of_nameOf (lists.plain entry member) regular found,
    of_nameOf (lists.plain other member') regular found', same]

end FileKind

/-! The two kinds. -/

def serviceFiles (dir : Directory) (unmarshal : Bytes → Except Err Config) : FileKind Config where
  suffix := TUN_CONFIG_SUFFIX
  tempSuffix := ".tmp"
  backupSuffix := ".bak"
  alreadyExist := "tun already exist"
  name := Config.Name
  marshal := dir.marshal
  unmarshal := unmarshal
  stored := id

/-- The probe warnings of a route are not kept. -/
def routeFiles (marshal : Route.RouteConfig → Except Err Bytes)
    (unmarshal : Bytes → Except Err Route.RouteConfig) :
    FileKind Route.RouteConfig where
  suffix := ROUTE_CONFIG_SUFFIX
  tempSuffix := ".route.tmp"
  backupSuffix := ".route.bak"
  alreadyExist := "route already exist"
  name := Route.RouteConfig.Name
  marshal := marshal
  unmarshal := unmarshal
  stored r := { r with ProbeWarnings := [] }

def Directory.place (dir : Directory) : Place := ⟨dir.tunDir, dir.random, dir.stamp⟩

theorem serviceFiles_regular (dir : Directory) (unmarshal : Bytes → Except Err Config) :
    (serviceFiles dir unmarshal).Regular where
  dotted := by show TUN_CONFIG_SUFFIX.toList.head? = _; decide
  plain := by show '.' ∉ TUN_CONFIG_SUFFIX.toList.tail ∧ '/' ∉ TUN_CONFIG_SUFFIX.toList.tail; decide
  temp := by show TUN_CONFIG_SUFFIX.toList.getLast? ≠ ".tmp".toList.getLast? ∧ ".tmp" ≠ ""; decide
  backup := by show TUN_CONFIG_SUFFIX.toList.getLast? ≠ ".bak".toList.getLast? ∧ ".bak" ≠ ""; decide
  staged := by show ".tmp".toList.getLast? ≠ ".bak".toList.getLast?; decide

theorem routeFiles_regular (marshal : Route.RouteConfig → Except Err Bytes)
    (unmarshal : Bytes → Except Err Route.RouteConfig) : (routeFiles marshal unmarshal).Regular where
  dotted := by show ROUTE_CONFIG_SUFFIX.toList.head? = _; decide
  plain := by show '.' ∉ ROUTE_CONFIG_SUFFIX.toList.tail ∧ '/' ∉ ROUTE_CONFIG_SUFFIX.toList.tail; decide
  temp := by
    show ROUTE_CONFIG_SUFFIX.toList.getLast? ≠ ".route.tmp".toList.getLast? ∧
      ".route.tmp" ≠ ""; decide
  backup := by
    show ROUTE_CONFIG_SUFFIX.toList.getLast? ≠ ".route.bak".toList.getLast? ∧
      ".route.bak" ≠ ""; decide
  staged := by show ".route.tmp".toList.getLast? ≠ ".route.bak".toList.getLast?; decide

/-! With nothing in between, the calls for `.tun` files do what their functions do. -/

/-- The same error or none, and the same files. -/
def Agree (x : Except Err α × Files) (y : Except Err β × Files) : Prop :=
  (x.1.map fun _ => ()) = (y.1.map fun _ => ()) ∧ x.2 = y.2

section agree

variable {α β γ δ : Type} {x : FileScript α} {y : Action Files γ} {files : Files}

/-- The parts agree when the first ones do and the rest agrees after both have succeeded. -/
theorem Agree.bind {f : α → FileScript β} {g : γ → Action Files δ}
    (first : Agree (x.exec files) (y files))
    (rest : ∀ a c files', x.exec files = (.ok a, files') → y files = (.ok c, files') →
      Agree ((f a).exec files') (g c files')) :
    Agree ((x >>= f).exec files) ((y >>= g) files) := by
  rw [Script.exec_bind]
  obtain ⟨results, files'⟩ := first
  rcases ran : x.exec files with ⟨e | a, s⟩ <;> rcases ran' : y files with ⟨e' | c, s'⟩
  · rw [Action.bind_error _ ran, Action.bind_error _ ran']
    rw [ran, ran'] at results files'
    exact ⟨by simpa [Except.map] using results, files'⟩
  · rw [ran, ran'] at results
    simp [Except.map] at results
  · rw [ran, ran'] at results
    simp [Except.map] at results
  · rw [Action.bind_ok _ ran, Action.bind_ok _ ran']
    rw [ran, ran'] at files'
    cases files'
    exact rest a c s ran ran'

end agree

section service

variable (dir : Directory) (unmarshal : Bytes → Except Err Config) (faults : FileFaults) (files : Files)

theorem attempt_exec (op : FileOp) (f : Files → Except Err Bool × Files) :
    (FileScript.attempt faults op f).exec files =
    (faults op).elim (f files) fun text => (.error (.failed text), files) := by
  simp only [FileScript.attempt, Script.request, Script.exec]
  cases faults op <;> rfl

theorem perform_agrees (op : FileOp) (f : Files → Files) :
    Agree ((FileScript.perform faults op f).exec files)
      ((do attempt faults op; Action.modify f : Action Files Unit) files) := by
  rw [FileScript.perform, attempt_exec]
  cases fault : faults op with
  | none =>
    rw [Action.bind_ok _ (attempt_ok fault files)]
    exact ⟨rfl, rfl⟩
  | some text =>
    rw [Action.bind_error _ (attempt_error fault files)]
    exact ⟨rfl, rfl⟩

/-- A call without an effect of its own. -/
theorem attempt_agrees (op : FileOp) :
    Agree ((FileScript.perform faults op id).exec files) (attempt faults op files) := by
  rw [FileScript.perform, attempt_exec, attempt]
  cases faults op <;> exact ⟨rfl, rfl⟩

theorem stageDir_agrees :
    Agree ((FileKind.stageDir faults).exec files) (serviceStageDir dir faults files) := by
  refine Agree.bind (attempt_agrees faults files _) ?_
  intro _ _ files' _ _
  have second := attempt_agrees faults files' .mkdirStage
  cases fault : faults .mkdirStage with
  | none =>
    rw [Action.bind_ok _ (attempt_ok fault files')]
    rw [attempt_ok fault files'] at second
    exact second
  | some text =>
    rw [Action.bind_error _ (attempt_error fault files')]
    rw [attempt_error fault files'] at second
    exact second

@[simp]
theorem serviceFiles_name : (serviceFiles dir unmarshal).name = Config.Name := rfl

theorem file_eq_serviceFile (name : String) :
    (serviceFiles dir unmarshal).file dir.place name = serviceFile dir.tunDir name := rfl

theorem temp_eq (name : String) :
    (serviceFiles dir unmarshal).temp dir.place name =
      tempFile dir (dir.tunDir ++ "/.staging") name := by
  have joined : dir.tunDir ++ "/.staging" ++ "/" = dir.tunDir ++ "/.staging/" := String.append_assoc
  simp only [FileKind.temp, tempFile, joined]
  rfl

theorem backup_eq (name : String) :
    (serviceFiles dir unmarshal).backup dir.place name =
      backupFile dir (dir.tunDir ++ "/.staging") name := by
  have joined : dir.tunDir ++ "/.staging" ++ "/" = dir.tunDir ++ "/.staging/" := String.append_assoc
  simp only [FileKind.backup, backupFile, joined]
  rfl

variable {dir faults} in
theorem serviceStageDir_ok {stageDir : String} {files files' : Files}
    (ok : serviceStageDir dir faults files = (.ok stageDir, files')) :
    stageDir = dir.tunDir ++ "/.staging" := by
  obtain ⟨_, _, _, ok⟩ := Action.of_bind_ok ok
  obtain ⟨_, _, _, ok⟩ := Action.of_bind_ok ok
  exact (Except.ok.inj (Prod.ext_iff.mp ok).1).symm

theorem writeTemp_agrees (cfg : Config) :
    Agree (((serviceFiles dir unmarshal).writeTemp dir.place faults cfg).exec files)
      (writeTempServiceFile dir faults (dir.tunDir ++ "/.staging") cfg files) := by
  unfold FileKind.writeTemp writeTempServiceFile createTemp
  rw [temp_eq]
  cases marshalled : dir.marshal cfg with
  | error e =>
    rw [show (serviceFiles dir unmarshal).marshal cfg = .error e from marshalled]
    exact ⟨rfl, rfl⟩
  | ok data =>
    rw [show (serviceFiles dir unmarshal).marshal cfg = .ok data from marshalled,
      Action.bind_ok _ (show Action.lift (.ok data) files = (.ok data, files) from rfl)]
    show Agree (Script.exec (if '/' ∈ cfg.Name.toList then _ else _) files) _
    by_cases slash : '/' ∈ cfg.Name.toList
    · have text : "createtemp " ++ cfg.Name ++ ".*" ++ ".tmp" ++ ": pattern contains path separator" =
          "createtemp " ++ cfg.Name ++ ".*.tmp: pattern contains path separator" := by
        rw [String.append_assoc, String.append_assoc]
        rfl
      rw [if_pos slash, if_pos slash, ← text]
      exact ⟨rfl, rfl⟩
    · rw [if_neg slash, if_neg slash]
      simp only [Script.exec_bind, FileScript.perform]
      cases create : faults .createTemp <;> cases write : faults .write <;>
        cases close : faults .closeTemp <;> simp [attempt_exec, create, write, close, attempt, bind,
        Action.lift, Action.modify, pure, Agree, Except.map, serviceFiles]

variable {dir faults} in
theorem writeTempServiceFile_some {stageDir temp : String} {cfg : Config} {files files' : Files}
    (ok : writeTempServiceFile dir faults stageDir cfg files = (.ok temp, files')) :
    (files' (tempFile dir stageDir cfg.Name)).isSome := by
  obtain ⟨data, _, _, ok⟩ := Action.of_bind_ok ok
  obtain ⟨path, _, created, ok⟩ := Action.of_bind_ok ok
  obtain ⟨_, _, _, ok⟩ := Action.of_bind_ok ok
  obtain ⟨_, written, wrote, ok⟩ := Action.of_bind_ok ok
  obtain ⟨_, _, closed, ok⟩ := Action.of_bind_ok ok
  cases wrote
  cases (Prod.ext_iff.mp closed).2
  cases (Prod.ext_iff.mp ok).2
  rw [createTemp_path created]
  exact Option.isSome_iff_exists.mpr ⟨data, Files.write_self _ data⟩

theorem rename_exec (op : FileOp) {source : String} (target : String) (there : (files source).isSome) :
    (FileScript.rename faults op source target).exec files =
      (faults op).elim (.ok true, files.rename source target) fun text =>
        (.error (.failed text), files) := by
  rw [FileScript.rename, attempt_exec, if_pos there]

theorem handle_exec {α : Type} (x : FileScript α) (f : Err → FileScript α) :
    (x.handle f).exec = x.exec.handle fun e => (f e).exec := by
  funext files
  induction x generalizing files with
  | done result => cases result <;> rfl
  | call label run next ih => exact ih _ _

theorem removeTemp_agrees (cfg : Config) (x : FileScript Bool) (y : Action Files Unit)
    (first : Agree (x.exec files) (y files)) :
    Agree ((x.defer ((serviceFiles dir unmarshal).removeTemp dir.place faults cfg)).exec files)
      (removingTemp faults (tempFile dir (dir.tunDir ++ "/.staging") cfg.Name) y files) := by
  rw [Script.exec_defer, removingTemp, FileKind.removeTemp, temp_eq, FileScript.ignoring,
    handle_exec, FileScript.perform]
  refine ⟨first.1, ?_⟩
  rw [first.2]
  cases fault : faults .removeTemp <;>
    simp [Action.handle, attempt_exec, fault, ignoring, Action.modify, serviceFiles]
  rfl

theorem createFile_agrees (cfg : Config) :
    Agree (((serviceFiles dir unmarshal).createFile dir.place faults cfg).exec files)
    (createServiceFile dir faults cfg files) := by
  refine Agree.bind (stageDir_agrees dir faults files) ?_
  intro _ stageDir files₁ _ staged
  obtain rfl := serviceStageDir_ok staged
  have looked : isFileExist faults (serviceFile dir.tunDir cfg.Name) files₁ =
      (.ok ((faults .stat).isNone && (files₁ (serviceFile dir.tunDir cfg.Name)).isSome), files₁) := rfl
  rw [Action.bind_ok _ looked]
  show Agree (Script.exec (if ((faults .stat).isNone &&
    (files₁ (serviceFile dir.tunDir cfg.Name)).isSome) = true then _ else _) files₁) _
  split_ifs with found
  · exact ⟨rfl, rfl⟩
  · refine Agree.bind (writeTemp_agrees dir unmarshal faults files₁ cfg) ?_
    intro _ temp files₂ _ written
    obtain rfl := writeTempServiceFile_path written
    refine removeTemp_agrees dir unmarshal faults files₂ cfg _ _ ?_
    rw [temp_eq, serviceFiles_name, rename_exec faults files₂ _ _ (writeTempServiceFile_some written)]
    cases fault : faults .renameNew with
    | none =>
      rw [Action.bind_ok _ (attempt_ok fault files₂)]
      exact ⟨rfl, rfl⟩
    | some text =>
      rw [Action.bind_error _ (attempt_error fault files₂)]
      exact ⟨rfl, rfl⟩

theorem deleteFile_agrees (name : String) :
    Agree (((serviceFiles dir unmarshal).deleteFile dir.place faults name).exec files)
      (deleteServiceFile dir faults name files) := perform_agrees faults files _ _

/-- A call whose error is ignored, of which only the effect is left. -/
theorem ignoring_exec (op : FileOp) (f : Files → Files) :
    (FileScript.ignoring (FileScript.perform faults op f)).exec files =
      (.ok (faults op).isNone, (ignoring faults op f files).2) := by
  rw [FileScript.ignoring, handle_exec, FileScript.perform]
  cases fault : faults op <;> simp [Action.handle, attempt_exec, fault, ignoring, Action.modify]
  rfl

theorem restore_exec {source target : String} (there : (files source).isSome) :
    (FileScript.ignoring (FileScript.rename faults .restore source target)).exec files =
      (.ok (faults .restore).isNone,
        (ignoring faults .restore (Files.rename source target) files).2) := by
  rw [FileScript.ignoring, handle_exec]
  unfold Action.handle
  rw [rename_exec faults files _ _ there]
  cases fault : faults .restore <;> simp [fault, ignoring, Action.modify]
  rfl

/-- The file in place of the old one, or what is done about a failure. -/
theorem renameNew_agrees {temp path : String} {x : FileScript Bool} {y : Action Files Unit}
    (there : (files temp).isSome) (undo : Agree (x.exec files) (y files)) (last : FileScript Bool)
    (last' : Action Files Unit) (cleanup : ∀ files', Agree (last.exec files') (last' files')) :
    Agree ((((FileScript.rename faults .renameNew temp path).handle fun e => x >>= fun _ =>
      .fail e) >>= fun _ => last).exec
        files)
      ((match faults .renameNew with
        | some text => y >>= fun _ => Action.fail (.failed text)
        | none => Action.modify (Files.rename temp path) >>= fun _ => last') files) := by
  rw [Script.exec_bind, handle_exec]
  have renamed := rename_exec faults files .renameNew path there
  cases fault : faults .renameNew with
  | none =>
    rw [fault] at renamed
    rw [Action.bind_ok _ (Action.handle_ok _ renamed)]
    exact cleanup _
  | some text =>
    rw [fault] at renamed
    have undone := Agree.bind undo (f := fun _ => Script.fail (α := Bool) (.failed text))
      (g := fun _ => Action.fail (α := Unit) (.failed text)) fun _ _ _ _ _ => ⟨rfl, rfl⟩
    have handled :=
      Action.handle_error (fun e => (x >>= fun _ => Script.fail (α := Bool) e).exec) renamed
    rcases ran : (x >>= fun _ => Script.fail (α := Bool) (.failed text)).exec files with ⟨e | b, files'⟩
    · rw [ran] at handled undone
      rw [Action.bind_error _ handled]
      exact undone
    · rw [Script.exec_bind] at ran
      obtain ⟨_, _, _, failed⟩ := Action.of_bind_ok ran
      exact absurd (Prod.ext_iff.mp failed).1 (by simp [Script.fail, Script.exec])

theorem move_agrees (oldCfg newCfg : Config)
    (there : (files (tempFile dir (dir.tunDir ++ "/.staging") newCfg.Name)).isSome) :
    Agree (((serviceFiles dir unmarshal).move dir.place faults oldCfg newCfg).exec files)
      (moveServiceFile dir faults (dir.tunDir ++ "/.staging")
        (tempFile dir (dir.tunDir ++ "/.staging") newCfg.Name)
        oldCfg newCfg files) := by
  simp only [moveServiceFile, FileKind.move, temp_eq, backup_eq, file_eq_serviceFile, serviceFiles_name]
  rw [Action.bind_ok _ (show isFileExist faults _ files = (.ok _, files) from rfl)]
  show Agree (Script.exec (_ >>= _) files) _
  rw [Script.exec_bind]
  rw [Action.bind_ok _ (show (FileScript.isFileExist faults _).exec files = (.ok _, files) from rfl)]
  by_cases found : ((faults .stat).isNone && (files (serviceFile dir.tunDir oldCfg.Name)).isSome) = true
  · simp only [found, if_true]
    have oldThere := (Bool.and_eq_true_iff.mp found).2
    have renamed := rename_exec faults files .renameOld
      (backupFile dir (dir.tunDir ++ "/.staging") oldCfg.Name) oldThere
    rw [Script.exec_bind]
    cases fault : faults .renameOld with
    | none =>
      rw [fault] at renamed
      rw [Action.bind_ok _ renamed, Action.bind_ok _ (attempt_ok fault files),
        Action.bind_ok _ (show Action.modify _ files = (.ok (), _) from rfl)]
      -- the temporary file is still there, and so is the backup
      have tempThere : (files.rename (serviceFile dir.tunDir oldCfg.Name)
          (backupFile dir (dir.tunDir ++ "/.staging") oldCfg.Name)
          (tempFile dir (dir.tunDir ++ "/.staging") newCfg.Name)).isSome := by
        have differ := (serviceFiles_regular dir unmarshal).temp_ne_backup
          (p := dir.place) newCfg.Name oldCfg.Name
        rw [temp_eq, backup_eq] at differ
        rwa [Files.rename_of_ne _ (serviceFile_ne_temp dir _ _ _).symm differ]
      refine renameNew_agrees faults _ tempThere ?_ _ _ ?_
      · rw [restore_exec]
        · exact ⟨rfl, rfl⟩
        · rwa [Files.rename_target]
      · intro files'
        rw [ignoring_exec]
        exact ⟨rfl, rfl⟩
    | some text =>
      rw [fault] at renamed
      rw [Action.bind_error _ renamed, Action.bind_error _ (attempt_error fault files)]
      exact ⟨rfl, rfl⟩
  · simp only [found]
    exact renameNew_agrees faults files there (x := pure false) (y := pure ()) ⟨rfl, rfl⟩
      (pure false) (pure ()) fun _ => ⟨rfl, rfl⟩

theorem replaceFile_agrees (oldCfg newCfg : Config) :
    Agree (((serviceFiles dir unmarshal).replaceFile dir.place faults oldCfg newCfg).exec files)
      (replaceServiceFile dir faults oldCfg newCfg files) := by
  refine Agree.bind (stageDir_agrees dir faults files) ?_
  intro _ stageDir files₁ _ staged
  obtain rfl := serviceStageDir_ok staged
  refine Agree.bind (writeTemp_agrees dir unmarshal faults files₁ newCfg) ?_
  intro _ temp files₂ _ written
  obtain rfl := writeTempServiceFile_path written
  apply removeTemp_agrees
  exact move_agrees dir unmarshal faults files₂ oldCfg newCfg (writeTempServiceFile_some written)

end service

/-! What the parts of the scripts do. -/

namespace FileScript

variable {faults : FileFaults} {op : FileOp}

theorem perform_ok (fine : faults op = none) (f : Files → Files) (files : Files) :
    (perform faults op f).exec files = (.ok true, f files) := by
  rw [perform, attempt_exec, fine]
  rfl

theorem perform_error {text : String} (failed : faults op = some text) (f : Files → Files)
    (files : Files) :
    (perform faults op f).exec files = (.error (.failed text), files) := by
  rw [perform, attempt_exec, failed]
  rfl

end FileScript

namespace FileKind

variable {κ : Type} {K : FileKind κ} {p : Place} {faults : FileFaults} {files : Files} {cfg : κ}

theorem stageDir_exec (first : faults .mkdir = none) (second : faults .mkdirStage = none) :
    (stageDir faults).exec files = (.ok true, files) := by
  rw [stageDir, Script.exec_bind, Action.bind_ok _ (FileScript.perform_ok first id files)]
  exact FileScript.perform_ok second id files

variable (files) in
theorem stageDir_fails (failed : ¬ (faults .mkdir = none ∧ faults .mkdirStage = none)) :
    ∃ e, (stageDir faults).exec files = (.error e, files) := by
  rw [stageDir, Script.exec_bind]
  cases first : faults .mkdir with
  | some text => exact ⟨_, Action.bind_error _ (FileScript.perform_error first id files)⟩
  | none =>
    rw [Action.bind_ok _ (FileScript.perform_ok first id files)]
    cases second : faults .mkdirStage with
    | some text => exact ⟨_, FileScript.perform_error second id files⟩
    | none => exact absurd ⟨first, second⟩ failed

theorem writeTemp_eq {data : Bytes} (marshalled : K.marshal cfg = .ok data)
    (plain : '/' ∉ (K.name cfg).toList) :
    K.writeTemp p faults cfg = (do
      let _ ← FileScript.perform faults .createTemp (Files.write (K.temp p (K.name cfg)) [])
      let _ ← FileScript.perform faults .write (Files.write (K.temp p (K.name cfg)) data)
      FileScript.perform faults .closeTemp id) := by
  rw [writeTemp, marshalled]
  exact if_neg plain

theorem writeTemp_exec {data : Bytes} (marshalled : K.marshal cfg = .ok data)
    (plain : '/' ∉ (K.name cfg).toList) (createTemp : faults .createTemp = none)
    (write : faults .write = none) (closeTemp : faults .closeTemp = none) :
    (K.writeTemp p faults cfg).exec files =
      (.ok true, (files.write (K.temp p (K.name cfg)) []).write (K.temp p (K.name cfg)) data) := by
  rw [writeTemp_eq marshalled plain, Script.exec_bind, Action.bind_ok _ (FileScript.perform_ok
    createTemp _ files), Script.exec_bind, Action.bind_ok _ (FileScript.perform_ok write _ _)]
  exact FileScript.perform_ok closeTemp id _

variable (p files) in
theorem writeTemp_fails
    (failed : ¬
      ((∃ data, K.marshal cfg = .ok data) ∧ '/' ∉ (K.name cfg).toList ∧ faults .createTemp = none)) :
    ∃ e, (K.writeTemp p faults cfg).exec files = (.error e, files) := by
  cases marshalled : K.marshal cfg with
  | error e =>
    rw [writeTemp, marshalled]
    exact ⟨e, rfl⟩
  | ok data =>
    by_cases plain : '/' ∈ (K.name cfg).toList
    · rw [writeTemp, marshalled]
      show ∃ e, Script.exec (if '/' ∈ (K.name cfg).toList then _ else _) files = _
      rw [if_pos plain]
      exact ⟨_, rfl⟩
    · rw [writeTemp_eq marshalled plain, Script.exec_bind]
      cases createTemp : faults .createTemp with
      | some text => exact ⟨_, Action.bind_error _ (FileScript.perform_error createTemp _ files)⟩
      | none => exact absurd ⟨⟨data, marshalled⟩, plain, createTemp⟩ failed

variable (p files) in
/-- A file that cannot be written or closed stays. -/
theorem writeTemp_stays {data : Bytes} (marshalled : K.marshal cfg = .ok data)
    (plain : '/' ∉ (K.name cfg).toList) (createTemp : faults .createTemp = none)
    (failed : ¬ (faults .write = none ∧ faults .closeTemp = none)) :
    ∃ e files', (K.writeTemp p faults cfg).exec files = (.error e, files') ∧
      (files' (K.temp p (K.name cfg))).isSome := by
  rw [writeTemp_eq marshalled plain, Script.exec_bind,
    Action.bind_ok _ (FileScript.perform_ok createTemp _ files), Script.exec_bind]
  cases write : faults .write with
  | some text =>
    refine ⟨_, _, Action.bind_error _ (FileScript.perform_error write _ _), ?_⟩
    rw [Files.write_self]
    rfl
  | none =>
    rw [Action.bind_ok _ (FileScript.perform_ok write _ _)]
    cases closeTemp : faults .closeTemp with
    | some text =>
      refine ⟨_, _, FileScript.perform_error closeTemp _ _, ?_⟩
      rw [Files.write_self]
      rfl
    | none => exact absurd ⟨write, closeTemp⟩ failed

end FileKind

end Gotun.Tun
