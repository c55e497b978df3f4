import Gotun.Lib.System
import Gotun.Lib.Table
import Gotun.Tun.ConfigFiles

/-! `server/service`: the manager of the built-in services. Each instance is run by a goroutine of
its own, which takes the lock of the instance but not that of the manager. `Manager.Run` adds the
configurations that it loads one by one. -/

namespace Gotun.Builtin

open Gotun.Lib
open Gotun.Tun (FileKind FileFaults FileScript Files Place)

structure Config where
  UUID : String
  Name : String
  ServiceType : String
  Disabled : Bool
  /-- Nanoseconds since the zero time. -/
  CreatedAt : Int
  Listen : String
  ListenPort : Int
  TCPTimeout : Int
  UDPTimeout : Int
  Username : String
  Password : String
  deriving DecidableEq, Repr

inductive Kind where
  | echo
  | httpProxy
  | socks5
  | socks5X
  | disabled
  deriving DecidableEq, Repr

/-- An instance. -/
structure Service where
  id : Nat
  cfg : Config
  kind : Kind
  deriving DecidableEq, Repr

def NewService (cfg : Config) : Except Err Kind :=
  match cfg.ServiceType with
  | "echo" => .ok .echo
  | "http_proxy" => .ok .httpProxy
  | "socks5_server" => .ok .socks5
  | "socks5x_server" => .ok .socks5X
  | other => .error (.failed ("invalid service type: " ++ other))

def prepareManagedService (cfg : Config) : Except Err (Nat → Service) :=
  if cfg.Disabled then .ok fun id => ⟨id, { cfg with Disabled := true }, .disabled⟩
  else (NewService cfg).map fun kind id => ⟨id, cfg, kind⟩

def Service.Status (i : Service) : String := if i.kind = .disabled then "disabled" else "running"

/-- `started` are the instances whose `srv` is not nil, `bound` those that listen. The goroutine of
an instance of `http_proxy` lasts until its `ListenAndServe` listens or has failed. -/
structure Manager where
  services : Table String Service
  files : Files
  next : Nat
  goroutines : List Service
  started : Nat → Bool
  bound : Nat → Bool

/-- The directory, and `json.Marshal` and `json.Unmarshal`. -/
structure Site where
  dir : String
  marshal : Config → Except Err Bytes
  unmarshal : Bytes → Except Err Config

/-- What a `Close` of an instance with a `srv` does. -/
structure Closing where
  released : Bool
  err : Option String
  deriving DecidableEq, Repr

/-- What an operation meets: the file operations that fail, the parts of fresh file names, what the
`Close` of the old instance and that of the new one do, the time, a new UUID, and the order of the
map. -/
structure Env where
  faults : FileFaults
  random : String
  stamp : String
  closing : Closing
  closingNew : Closing
  now : Int
  uuid : String
  order : List String

def SERVICE_CONFIG_SUFFIX : String := ".service"

def Site.serviceFiles (site : Site) : FileKind Config where
  suffix := SERVICE_CONFIG_SUFFIX
  tempSuffix := ".service.tmp"
  backupSuffix := ".service.bak"
  alreadyExist := "service already exist"
  name := Config.Name
  marshal := site.marshal
  unmarshal := site.unmarshal
  stored := id

theorem serviceFiles_regular (site : Site) : site.serviceFiles.Regular where
  dotted := by show SERVICE_CONFIG_SUFFIX.toList.head? = _; decide
  plain := by
    show '.' ∉ SERVICE_CONFIG_SUFFIX.toList.tail ∧ '/' ∉ SERVICE_CONFIG_SUFFIX.toList.tail; decide
  temp := by
    show SERVICE_CONFIG_SUFFIX.toList.getLast? ≠ ".service.tmp".toList.getLast? ∧
      ".service.tmp" ≠ ""; decide
  backup := by
    show SERVICE_CONFIG_SUFFIX.toList.getLast? ≠ ".service.bak".toList.getLast? ∧
      ".service.bak" ≠ ""; decide
  staged := by show ".service.tmp".toList.getLast? ≠ ".service.bak".toList.getLast?; decide

def place (site : Site) (env : Env) : Place := ⟨site.dir, env.random, env.stamp⟩

/-! The goroutines. -/

/-- How `Run` ends. `http_proxy` waits for no more than 200 ms, after which its `ListenAndServe` may
be still to listen. -/
inductive Bind where
  | failed
  | bound
  | late
  deriving DecidableEq, Repr

/-- An operation whose new instance has been started, with its file still to be written. -/
inductive Begun where
  | adding (new : Service) (createFile : Bool)
  | replacing (oldName : String) (old : Service) (newName : String) (new : Service)
  deriving DecidableEq, Repr

def Begun.new : Begun → Service
  | .adding new _ => new
  | .replacing _ _ _ new => new

namespace Manager

def without (m : Manager) (i : Service) : Manager :=
  { m with goroutines := m.goroutines.filter (·.id ≠ i.id) }

/-- `srv` is set when the instance listens, or is thought to. -/
def ran (m : Manager) (i : Service) (b : Bind) : Manager :=
  if i.kind = .disabled then m.without i
  else match b with
    | .failed => m.without i
    | .bound =>
      { m.without i with
        started := Function.update m.started i.id true, bound := Function.update m.bound i.id true }
    | .late => { m with started := Function.update m.started i.id true }

/-- The goroutine of an instance comes to an end, or the wait of its `Run` does. -/
def run (m : Manager) (id : Nat) (b : Bind) : Option Manager :=
  match m.goroutines.find? (·.id = id) with
  | none => none
  | some i => if b = .late ∧ (i.kind ≠ .httpProxy ∨ m.started i.id) then none else some (m.ran i b)

/-! The operations. -/

variable (site : Site) (env : Env)

def normalizeConfig (config : Config) : Config :=
  { config with
    CreatedAt := if config.CreatedAt = 0 then env.now else config.CreatedAt
    UUID := if config.UUID = "" then env.uuid else config.UUID }

def prepare (cfg : Config) : Action Manager Service := fun m =>
  match prepareManagedService cfg with
  | .error e => (.error e, m)
  | .ok make => (.ok (make m.next), { m with next := m.next + 1 })

def runPreparedService (i : Service) : Action Manager Unit :=
  Action.modify fun m => { m with goroutines := m.goroutines ++ [i] }

/-- Nothing is closed before `Run` has set `srv`. -/
def Close (closing : Closing) (i : Service) : Action Manager Unit := fun m =>
  if i.kind = .disabled ∨ m.started i.id = false then (.ok (), m)
  else (closing.err.elim (.ok ()) fun text => .error (.failed text),
    if closing.released then { m with bound := Function.update m.bound i.id false } else m)

def onFiles (x : FileScript Bool) : Action Manager Unit :=
  fun m => ((x.exec m.files).1.map fun _ => (), { m with files := (x.exec m.files).2 })

def set (name : String) (i : Option Service) : Action Manager Unit :=
  Action.modify fun m => { m with services := Function.update m.services name i }

def getServiceByUUIDLocked (m : Manager) (uuid : String) : Option (String × Service) :=
  m.services.find (fun i => i.cfg.UUID = uuid) env.order

/-- `AddService` up to its file. -/
def startAdd (config : Config) (createFile : Bool) : Action Manager Begun :=
  let config := normalizeConfig env config
  Action.choose fun m =>
    if (m.services config.Name).isSome then Action.fail (.failed "name already exist")
    else do
      let new ← prepare config
      runPreparedService new
      pure (.adding new createFile)

/-- The part of a replacement between its checks and its file. -/
def startReplace (oldName : String) (old : Service) (newName : String)
    (newCfg : Config) : Action Manager Begun := do
  let new ← prepare newCfg
  Close env.closing old
  runPreparedService new
  pure (.replacing oldName old newName new)

/-- The file, and the map. A new instance without a file is closed again, and the error of that is
ignored. -/
def finish : Begun → Action Manager Unit
  | .adding new createFile => do
    if createFile then
      (onFiles (site.serviceFiles.createFile (place site env) env.faults new.cfg)).handle fun e => do
        (Close env.closingNew new).handle fun _ => pure ()
        Action.fail e
    else pure ()
    set new.cfg.Name (some new)
  | .replacing oldName old newName new => do
    (onFiles (site.serviceFiles.replaceFile (place site env) env.faults old.cfg new.cfg)).handle
      fun e => do
      (Close env.closingNew new).handle fun _ => pure ()
      Action.fail e
    set oldName none
    set newName (some new)

/-- `ReplaceServiceByUUID` up to its file. -/
def startReplaceByUUID (config : Config) : Action Manager Begun :=
  Action.choose fun m => match m.getServiceByUUIDLocked env config.UUID with
    | none => Action.fail (.failed "uuid not exist")
    | some (oldName, old) =>
      let config :=
        { normalizeConfig env config with UUID := old.cfg.UUID, CreatedAt := old.cfg.CreatedAt }
      if config.Name ≠ oldName ∧ (m.services config.Name).isSome then
        Action.fail (.failed "name already exist")
      else startReplace env oldName old config.Name config

/-- `SetServiceDisabled` up to its file, if there is anything to do. -/
def startSetDisabled (name : String) (disabled : Bool) : Action Manager (Option Begun) :=
  Action.choose fun m => match m.services name with
    | none => Action.fail (.failed "service not exist")
    | some current =>
      if current.cfg.Disabled = disabled then pure none
      else do
        let task ← startReplace env name current name { current.cfg with Disabled := disabled }
        pure (some task)

/-- The file goes first. -/
def RemoveService (name : String) : Action Manager Unit := do
  onFiles (site.serviceFiles.deleteFile (place site env) env.faults name)
  Action.choose fun m => match m.services name with
    | none => pure ()
    | some i => do
      Close env.closing i
      set name none

def CreateFileOnly (config : Config) : Action Manager Unit :=
  let config := normalizeConfig env config
  Action.choose fun m =>
    if (m.services config.Name).isSome then Action.fail (.failed "name already exist")
    else onFiles (site.serviceFiles.createFile (place site env) env.faults config)

end Manager

inductive Operation where
  | AddService (config : Config) (createFile : Bool)
  | RemoveService (name : String)
  | ReplaceServiceByUUID (config : Config)
  | SetServiceDisabled (name : String) (disabled : Bool)
  | CreateFileOnly (config : Config)
  deriving DecidableEq, Repr

namespace Operation

open Manager (startAdd startReplaceByUUID startSetDisabled finish)

variable (site : Site) (env : Env)

/-- An operation up to its file, or the whole of it. -/
def start : Operation → Action Manager (Option Begun)
  | .AddService config createFile => do
    let task ← startAdd env config createFile
    pure (some task)
  | .RemoveService name => do
    Manager.RemoveService site env name
    pure none
  | .ReplaceServiceByUUID config => do
    let task ← startReplaceByUUID env config
    pure (some task)
  | .SetServiceDisabled name disabled => startSetDisabled env name disabled
  | .CreateFileOnly config => do
    Manager.CreateFileOnly site env config
    pure none

/-- What goroutines do in the meantime. -/
def meanwhile (m : Manager) (runs : List (Nat × Bind)) : Manager :=
  runs.foldl (fun m r => (m.run r.1 r.2).getD m) m

/-- The whole operation. -/
def exec (runs : List (Nat × Bind)) (operation : Operation) : Action Manager Unit := do
  match ← operation.start site env with
  | none => pure ()
  | some task => do
    Action.modify fun m => meanwhile m runs
    finish site env task

end Operation

/-- The manager, and the operation that holds its lock. -/
structure Locked where
  manager : Manager
  busy : Option Begun

inductive Event where
  | start (env : Env) (operation : Operation)
  | finish (env : Env)
  | run (id : Nat) (b : Bind)

namespace Locked

variable (site : Site)

def step (s : Locked) : Event → Option Locked
  | .start env operation => match s.busy with
    | some _ => none
    | none =>
      some ⟨(operation.start site env s.manager).2,
        (operation.start site env s.manager).1.toOption.bind fun task => task⟩
  | .finish env => match s.busy with
    | none => none
    | some task => some ⟨(Manager.finish site env task s.manager).2, none⟩
  | .run id b => (s.manager.run id b).map fun manager => ⟨manager, s.busy⟩

def new : Manager := ⟨fun _ => none, fun _ => none, 0, [], fun _ => false, fun _ => false⟩

/-- `NewManager` over any directory. -/
def system : System Locked Event where
  start s := ∃ files, s = ⟨{ new with files }, none⟩
  step := step site

end Locked
end Gotun.Builtin
