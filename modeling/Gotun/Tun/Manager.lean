import Gotun.Lib.System
import Gotun.Tun.ServiceFiles

/-! `tun/manager.go`: the registry of services. Services are built from their configuration by
`tun/service.go`; to run one is to bind its listeners, one after the other. -/

namespace Gotun.Tun

open Gotun.Lib

/-! Building a service. -/

inductive Protocol where
  | TCP
  | TcpMux
  | QUIC
  | KCP
  | KcpMux
  | KCPX
  | KCPXMux
  | UDP
  | Socks5X
  deriving DecidableEq, Repr

def toProtocol : String → Except Err Protocol
  | "tcp" => .ok .TCP
  | "tcp_mux" | "tcpmux" => .ok .TcpMux
  | "quic" => .ok .QUIC
  | "kcp" => .ok .KCP
  | "kcp_mux" | "kcpmux" => .ok .KcpMux
  | "kcpx" => .ok .KCPX
  | "kcpx_mux" => .ok .KCPXMux
  | "udp" => .ok .UDP
  | "socks5x" => .ok .Socks5X
  | _ => .error (.failed "unknown protocol")

def parseProtocol (s : String) : Except Err (Protocol × String) :=
  match (s.toList.splitOn '@').map String.ofList with
  | [protocol, addr] => (toProtocol protocol).map fun proto => (proto, addr)
  | _ => .error (.failed "invalid listen protocol")

inductive Network where
  | tcp
  | udp
  deriving DecidableEq, Repr

/-- What an input binds when it runs. -/
structure Listener where
  network : Network
  addr : String
  deriving DecidableEq, Repr

def Protocol.network : Protocol → Network
  | .TCP | .TcpMux | .Socks5X => .tcp
  | _ => .udp

/-- The parsing of JSON and of keys: the error of a protocol's configuration, the `MuxConn` of
an `Extend`, and the error of `NewCryptoHelperWithConfig`. -/
structure Parsers where
  protoCfg : Protocol → String → Option Err
  muxConn : String → Int
  crypto : Config → Option Err

section build

variable (p : Parsers)

def orFail (failure : Option Err) : Except Err Unit := failure.elim (.ok ()) .error

def newInput (input config : String) : Except Err Listener := do
  let (proto, addr) ← parseProtocol input
  orFail (p.protoCfg proto config)
  pure ⟨proto.network, addr⟩

/-- Whether the output keeps a pool of connections, and of which size. -/
structure Output where
  pooled : Bool
  poolNum : Int
  deriving DecidableEq, Repr

def Output.CheckCfg (o : Output) : Except Err Unit :=
  if o.poolNum ≤ 0 ∧ o.pooled then .error (.failed "stream模式下，预连接数muxConn不可为0")
  else if 0 < o.poolNum ∧ ¬ o.pooled then .error (.failed "非stream模式下，预连接数muxConn值无用，不可大于0")
  else .ok ()

def NewOutput (output extendStr : String) : Except Err Output := do
  let (proto, _) ← parseProtocol output
  let pooled ← match proto with
    | .TCP | .KCP | .KCPX | .UDP => Except.ok false
    | .TcpMux | .QUIC | .KcpMux | .KCPXMux => Except.ok true
    | .Socks5X => Except.error (.failed "unknown protocol")
  let o : Output := ⟨pooled, p.muxConn extendStr⟩
  o.CheckCfg
  pure o

inductive Kind where
  | server (input : Listener)
  | frpc
  | frps (input worker : Listener)
  | disabled
  deriving DecidableEq, Repr

def NewServer (cfg : Config) : Except Err Kind := do
  let input ← newInput p cfg.Input cfg.InProtoCfg
  let _ ← NewOutput p cfg.Output cfg.OutExtend
  orFail (p.crypto cfg)
  pure (.server input)

def NewFrpc (cfg : Config) : Except Err Kind := do
  let _ ← NewOutput p cfg.Input cfg.InExtend
  let _ ← NewOutput p cfg.Output cfg.OutExtend
  orFail (p.crypto cfg)
  pure .frpc

def NewFrps (cfg : Config) : Except Err Kind := do
  let input ← newInput p cfg.Input cfg.InProtoCfg
  let worker ← newInput p cfg.Output cfg.OutProtoCfg
  orFail (p.crypto cfg)
  pure (.frps input worker)

def NewService (cfg : Config) : Except Err Kind :=
  match cfg.Mode with
  | "" | "default" => NewServer p cfg
  | "frpc" => NewFrpc p cfg
  | "frps" => NewFrps p cfg
  | mode => .error (.failed ("invalid mode: " ++ mode))

end build

/-- The listeners of a service, in the order in which its `Run` binds them. -/
def Kind.listeners : Kind → List Listener
  | .server input => [input]
  | .frpc => []
  | .frps input worker => [input, worker]
  | .disabled => []

/-- An instance; no two have the same `id`. -/
structure Service where
  id : Nat
  cfg : Config
  kind : Kind
  deriving DecidableEq, Repr

/-! The manager. -/

/-- `held` are the listeners of the services, each with the instance that bound it, and `taken`
those of other processes and of the routes. -/
structure Manager where
  services : String → Option Service
  held : List (Nat × Listener)
  taken : List Listener
  files : Files
  next : Nat

/-- What does not change while the manager runs; two conflicting listeners cannot both be bound. -/
structure Host where
  parsers : Parsers
  dir : Directory
  conflicts : Listener → Listener → Bool
  symmetric : ∀ a b, conflicts a b = conflicts b a

/-- What goes wrong during an operation: the binds of the new service by their place in its
`Run`, the file system, and the binds of the old service in a rollback. -/
structure Faults where
  bind : Nat → Option String
  file : FileFaults
  rollback : Nat → Option String

namespace Manager

variable (h : Host)

def bindable (m : Manager) (l : Listener) : Bool :=
  m.held.all (fun owned => !h.conflicts l owned.2) && m.taken.all (fun other => !h.conflicts l other)

def listen (id : Nat) (fault : Option String) (l : Listener) : Action Manager Unit := fun m =>
  match fault with
  | some text => (.error (.failed text), m)
  | none =>
    if m.bindable h l then (.ok (), { m with held := m.held ++ [(id, l)] })
    else (.error (.failed ("listen " ++ l.addr ++ ": bind: address already in use")), m)

/-- `Run`: a bind that fails ends it, and those before it stay. -/
def runListeners (id : Nat) : List Listener → (Nat → Option String) → Action Manager Unit
  | [], _ => pure ()
  | l :: rest, faults => do
    listen h id (faults 0) l
    runListeners id rest fun k => faults (k + 1)

def Run (s : Service) (faults : Nat → Option String) : Action Manager Unit :=
  runListeners h s.id s.kind.listeners faults

def Close (s : Service) : Action Manager Unit :=
  Action.modify fun m => { m with held := m.held.filter fun owned => owned.1 ≠ s.id }

def onFiles (x : Action Files α) : Action Manager α :=
  fun m => ((x m.files).1, { m with files := (x m.files).2 })

def setService (name : String) (s : Option Service) : Action Manager Unit :=
  Action.modify fun m => { m with services := Function.update m.services name s }

def newInstance (cfg : Config) (kind : Kind) : Action Manager Service :=
  fun m => (.ok ⟨m.next, cfg, kind⟩, { m with next := m.next + 1 })

def NewDisabledService (cfg : Config) : Action Manager Service :=
  newInstance { cfg with Disabled := true } .disabled

def prepareManagedService (cfg : Config) : Action Manager Service :=
  if cfg.Disabled then NewDisabledService cfg
  else do
    let kind ← Action.lift (NewService h.parsers cfg)
    newInstance cfg kind

/-- The start of a service whose `Run` returns before `runStartWaitTimeout`. -/
def runPreparedService (s : Service) (faults : Nat → Option String) : Action Manager Unit :=
  Run h s faults

/-- The zero time is the one that a configuration without a time has. -/
def normalizeConfig (now : Int) (uuid : String) (cfg : Config) : Config :=
  { cfg with
    CreatedAt := if cfg.CreatedAt = 0 then now else cfg.CreatedAt
    UUID := if cfg.UUID = "" then uuid else cfg.UUID }

def errorText : Err → String
  | .eof => "EOF"
  | .unexpectedEOF => "unexpected EOF"
  | .failed text => text

def rollbackFailed (cause rollbackErr : Err) : Err :=
  .failed (errorText cause ++ "; rollback failed: " ++ errorText rollbackErr)

def restoreService (faults : Nat → Option String) (name : String)
    (cfg : Config) : Action Manager Unit := do
  let s ← prepareManagedService h cfg
  runPreparedService h s faults
  setService name (some s)

/-- A service that cannot be brought back is dropped from the registry. -/
def rollbackReplaceLocked (faults : Nat → Option String) (oldName : String) (oldCfg : Config)
    (cause : Err) :
    Action Manager Unit := do
  (restoreService h faults oldName oldCfg).handle fun rollbackErr => do
    setService oldName none
    Action.fail (rollbackFailed cause rollbackErr)
  Action.fail cause

/-- The file of a service that was just started; without it the service is closed again. -/
def persistService (faults : Faults) (s : Service) (config : Config)
    (createFile : Bool) : Action Manager Unit :=
  if createFile then
    (onFiles (createServiceFile h.dir faults.file config)).handle fun e => do
      Close s
      Action.fail e
  else pure ()

def AddService (faults : Faults) (now : Int) (uuid : String) (config : Config) (createFile : Bool) :
    Action Manager Unit :=
  let config := normalizeConfig now uuid config
  Action.choose fun m =>
    if (m.services config.Name).isSome then Action.fail (.failed "name already exist")
    else do
      let s ← prepareManagedService h config
      runPreparedService h s faults.bind
      persistService h faults s config createFile
      setService config.Name (some s)

/-- The body that `ReplaceServiceByUUID` and `SetServiceDisabled` share. -/
def replaceLocked (faults : Faults) (oldName : String) (old : Service) (newName : String)
    (newCfg : Config) :
    Action Manager Unit := do
  let newService ← prepareManagedService h newCfg
  Close old
  (runPreparedService h newService faults.bind).handle fun e =>
    rollbackReplaceLocked h faults.rollback oldName old.cfg e
  (onFiles (replaceServiceFile h.dir faults.file old.cfg newCfg)).handle fun e => do
    Close newService
    rollbackReplaceLocked h faults.rollback oldName old.cfg e
  setService oldName none
  setService newName (some newService)

/-- The map of services is ranged over in any order. -/
def getServiceByUUIDLocked (order : List String) (uuid : String)
    (m : Manager) : Option (String × Service) :=
  order.findSome? fun name => ((m.services name).filter (·.cfg.UUID = uuid)).map fun s => (name, s)

def ReplaceServiceByUUID (faults : Faults) (order : List String) (now : Int) (uuid : String)
    (config : Config) :
    Action Manager Unit :=
  Action.choose fun m => match getServiceByUUIDLocked order config.UUID m with
    | none => Action.fail (.failed "uuid not exist")
    | some (oldName, oldService) =>
      let config := { normalizeConfig now uuid config with
        UUID := oldService.cfg.UUID, CreatedAt := oldService.cfg.CreatedAt }
      if config.Name ≠ oldName ∧ (m.services config.Name).isSome then
        Action.fail (.failed "name already exist")
      else replaceLocked h faults oldName oldService config.Name config

def SetServiceDisabled (faults : Faults) (name : String) (disabled : Bool) : Action Manager Unit :=
  Action.choose fun m => match m.services name with
    | none => Action.fail (.failed "tun not exist")
    | some current =>
      if current.cfg.Disabled = disabled then pure ()
      else replaceLocked h faults name current name { current.cfg with Disabled := disabled }

def removeLocked (name : String) : Action Manager Unit :=
  Action.choose fun m => match m.services name with
    | none => pure ()
    | some s => do
      Close s
      setService name none

/-- The file goes first, and is gone even when no service has the name. -/
def RemoveService (faults : Faults) (name : String) : Action Manager Unit := do
  onFiles (deleteServiceFile h.dir faults.file name)
  removeLocked name

end Manager

end Gotun.Tun
