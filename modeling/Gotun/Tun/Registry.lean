import Gotun.Lib.Table
import Gotun.Tun.ConfigFiles
import Gotun.Tun.ManagerRuns

/-! `tun/manager.go` and `tun/route.go`: the tunnels and the routes of a manager, with the background
work of each. The operations on tunnels and on routes have the same middle parts, which are defined
once for both. -/

namespace Gotun.Tun

open Gotun.Lib

/-- The background work of an instance: a `Run` that is still going on after `runStartWaitTimeout`,
the loops that its `Run` has started, and the control loop of a frpc. -/
inductive Task where
  | run
  | watch
  | control
  deriving DecidableEq, Repr

/-- What the `Run` of an instance does. -/
structure Plan where
  /-- A loop is started before anything is bound. -/
  early : Bool
  /-- The connections of its outputs come first, however long they take. -/
  waits : Bool
  listeners : List Listener
  /-- Loops are started when everything is bound. -/
  loops : Bool
  /-- So is a control loop. -/
  control : Bool
  deriving DecidableEq, Repr

/-- `routeService`, with the listener of its mode. -/
structure RouteService where
  id : Nat
  cfg : Route.RouteConfig
  listener : Listener
  deriving DecidableEq, Repr

/-- The listeners of the tunnels and of the routes are those that the manager holds. -/
structure Registry where
  manager : Manager
  routes : String → Option RouteService
  tasks : List (Nat × Task)

/-- What does not change while the manager runs. -/
structure Site where
  host : Host
  lib : Route.Libraries
  unmarshal : Bytes → Except Err Config
  marshalRoute : Route.RouteConfig → Except Err Bytes
  unmarshalRoute : Bytes → Except Err Route.RouteConfig

/-- What an operation meets: the calls that fail, whether its new service and that of its rollback
run on after `runStartWaitTimeout`, the frpcs whose control loop has looked at `exit` before `Close`
sets it and stores its connection after `Close` has looked for one, the time, a new UUID, and the
orders of the two maps. -/
structure Env where
  faults : Faults
  late : Bool
  lateRollback : Bool
  missed : Nat → Bool
  now : Int
  uuid : String
  order : List String
  routeOrder : List String

/-- One of the two maps, and how its entries are made. -/
structure Shelf (κ ι : Type) where
  entries : Registry → Table String ι
  put : String → Option ι → Registry → Registry
  id : ι → Nat
  cfg : ι → κ
  plan : ι → Plan
  build : κ → Except Err (Nat → ι)
  files : FileKind κ

namespace Shelf

variable {κ ι : Type} (site : Site) (S : Shelf κ ι)

def onManager (x : Action Manager α) : Action Registry α :=
  fun r => ((x r.manager).1, { r with manager := (x r.manager).2 })

def onFiles (x : FileScript Bool) : Action Registry Unit :=
  onManager fun m => ((x.exec m.files).1.map fun _ => (), { m with files := (x.exec m.files).2 })

def spawn (wanted : Bool) (id : Nat) (task : Task) : Action Registry Unit :=
  Action.modify fun r => { r with tasks := r.tasks ++ if wanted then [(id, task)] else [] }

def set (name : String) (i : Option ι) : Action Registry Unit := Action.modify (S.put name i)

/-- A new instance, if its configuration can be used. -/
def prepare (cfg : κ) : Action Registry ι := fun r =>
  match S.build cfg with
  | .error e => (.error e, r)
  | .ok make => (.ok (make r.manager.next), { r with manager := r.manager.issued })

theorem prepare_ok {S : Shelf κ ι} {cfg : κ} {make : Nat → ι} (built : S.build cfg = .ok make)
    (r : Registry) :
    S.prepare cfg r = (.ok (make r.manager.next), { r with manager := r.manager.issued }) := by
  rw [prepare, built]

theorem prepare_error {S : Shelf κ ι} {cfg : κ} {e : Err} (refused : S.build cfg = .error e)
    (r : Registry) :
    S.prepare cfg r = (.error e, r) := by
  rw [prepare, refused]

/-- `runPreparedService`. A `Run` that waits too long is left to itself, as if it had succeeded. -/
def runPrepared (late : Bool) (i : ι) (faults : Nat → Option String) : Action Registry Unit := do
  spawn (S.plan i).early (S.id i) .watch
  if late && (S.plan i).waits then spawn true (S.id i) .run
  else do
    onManager (Manager.runListeners site.host (S.id i) (S.plan i).listeners faults)
    spawn (S.plan i).loops (S.id i) .watch
    spawn (S.plan i).control (S.id i) .control

/-- Whether `Close` ends a task. A `Run` that is still going on is not ended, nor is a control loop
that `Close` has missed. -/
def ends (missed : Nat → Bool) (id : Nat) (task : Nat × Task) : Bool :=
  task = (id, .watch) || task = (id, .control) && !missed id

/-- The listeners and the loops of an instance end. -/
def close (missed : Nat → Bool) (i : ι) : Action Registry Unit :=
  Action.modify fun r =>
    { r with
      manager := r.manager.closed (S.id i)
      tasks := r.tasks.filter fun task => !ends missed (S.id i) task }

def restore (env : Env) (name : String) (cfg : κ) : Action Registry Unit := do
  let i ← S.prepare cfg
  S.runPrepared site env.lateRollback i env.faults.rollback
  S.set name (some i)

/-- `rollbackReplaceLocked` and `rollbackRouteLocked`. -/
def rollback (env : Env) (oldName : String) (oldCfg : κ) (cause : Err) : Action Registry Unit := do
  (S.restore site env oldName oldCfg).handle fun rollbackErr => do
    S.set oldName none
    Action.fail (Manager.rollbackFailed cause rollbackErr)
  Action.fail cause

/-- The part of a replacement that comes after its checks. -/
def replaceLocked (env : Env) (oldName : String) (old : ι) (newName : String)
    (newCfg : κ) : Action Registry Unit := do
  let i ← S.prepare newCfg
  S.close env.missed old
  (S.runPrepared site env.late i env.faults.bind).handle fun e =>
    S.rollback site env oldName (S.cfg old) e
  (onFiles (S.files.replaceFile site.host.dir.place env.faults.file (S.cfg old) newCfg)).handle
    fun e => do
    S.close env.missed i
    S.rollback site env oldName (S.cfg old) e
  S.set oldName none
  S.set newName (some i)

/-- The file of an instance that was just started; without it the instance is closed again. -/
def persist (env : Env) (i : ι) (cfg : κ) (createFile : Bool) : Action Registry Unit :=
  if createFile then
    (onFiles (S.files.createFile site.host.dir.place env.faults.file cfg)).handle fun e => do
      S.close env.missed i
      Action.fail e
  else pure ()

/-- The part of an addition that comes after its checks. -/
def addLocked (env : Env) (cfg : κ) (createFile : Bool) : Action Registry Unit := do
  let i ← S.prepare cfg
  S.runPrepared site env.late i env.faults.bind
  S.persist site env i cfg createFile
  S.set (S.files.name cfg) (some i)

/-- `RemoveService` and `RemoveRoute`: the file goes first. -/
def remove (env : Env) (name : String) : Action Registry Unit := do
  onFiles (S.files.deleteFile site.host.dir.place env.faults.file name)
  Action.choose fun r => match S.entries r name with
    | none => pure ()
    | some i => do
      S.close env.missed i
      S.set name none

/-- The map is ranged over in any order. -/
def find (uuidOf : κ → String) (order : List String) (uuid : String)
    (r : Registry) : Option (String × ι) :=
  Table.find (S.entries r) (fun i => uuidOf (S.cfg i) = uuid) order

/-- The configurations of the entries. -/
def configs (r : Registry) : Table String κ := fun name => (S.entries r name).map S.cfg

end Shelf

/-! The two maps. -/

/-- Whether an output keeps a pool of connections, all of which its `Run` waits for. -/
def pooled (p : Parsers) (output extendStr : String) : Bool :=
  (NewOutput p output extendStr).toOption.any Output.pooled

def servicePlan (site : Site) (s : Service) : Plan where
  early := false
  waits := match s.kind with
    | .server _ => pooled site.host.parsers s.cfg.Output s.cfg.OutExtend
    | .frpc =>
      pooled site.host.parsers s.cfg.Input s.cfg.InExtend ||
        pooled site.host.parsers s.cfg.Output s.cfg.OutExtend
    | .frps _ _ | .disabled => false
  listeners := s.kind.listeners
  -- the probes over the output
  loops := match s.kind with
    | .server _ | .frpc => site.lib.frameHeaderEnable s.cfg.OutExtend
    | .frps _ _ | .disabled => false
  control := match s.kind with
    | .frpc => true
    | .server _ | .frps _ _ | .disabled => false

def buildService (site : Site) (cfg : Config) : Except Err (Nat → Service) :=
  if cfg.Disabled then .ok fun id => ⟨id, { cfg with Disabled := true }, .disabled⟩
  else (NewService site.host.parsers cfg).map fun kind id => ⟨id, cfg, kind⟩

def Site.services (site : Site) : Shelf Config Service where
  entries r := r.manager.services
  put name s r := { r with manager := r.manager.withService name s }
  id := Service.id
  cfg := Service.cfg
  plan := servicePlan site
  build := buildService site
  files := serviceFiles site.host.dir site.unmarshal

theorem services_entries (site : Site) (r : Registry) :
    site.services.entries r = r.manager.services := rfl

/-- A route without a quality monitor is watched from the start, also when it is disabled. -/
def routePlan (s : RouteService) : Plan where
  early := !s.cfg.usesFullPathProbe
  waits := false
  listeners := if s.cfg.Disabled then [] else [s.listener]
  loops := !s.cfg.Disabled && s.cfg.usesFullPathProbe
  control := false

/-- `buildOutputMode`, and the `net.Listen` of the input mode. -/
def routeListener (site : Site) (cfg : Route.RouteConfig) : Except Err Listener :=
  if cfg.Mode = Route.RouteModeOutput then newInput site.host.parsers cfg.Listen cfg.InProtoCfg
  else .ok ⟨.tcp, cfg.Listen⟩

def newRouteService (site : Site) (cfg : Route.RouteConfig) : Except Err (Nat → RouteService) := do
  let cfg ← cfg.validateBasic site.lib
  let listener ← routeListener site cfg
  pure fun id => ⟨id, cfg, listener⟩

def Site.routes (site : Site) : Shelf Route.RouteConfig RouteService where
  entries := Registry.routes
  put name s r := { r with routes := Function.update r.routes name s }
  id := RouteService.id
  cfg := RouteService.cfg
  plan := routePlan
  build := newRouteService site
  files := routeFiles site.marshalRoute site.unmarshalRoute

namespace Registry

variable (site : Site) (env : Env)

/-! The operations. -/

def AddService (config : Config) (createFile : Bool) : Action Registry Unit :=
  let config := Manager.normalizeConfig env.now env.uuid config
  Action.choose fun r =>
    if (site.services.entries r config.Name).isSome then Action.fail (.failed "name already exist")
    else site.services.addLocked site env config createFile

def ReplaceServiceByUUID (config : Config) : Action Registry Unit :=
  Action.choose fun r => match site.services.find Config.UUID env.order config.UUID r with
    | none => Action.fail (.failed "uuid not exist")
    | some (oldName, old) =>
      let config := { Manager.normalizeConfig env.now env.uuid config with
        UUID := old.cfg.UUID, CreatedAt := old.cfg.CreatedAt }
      if config.Name ≠ oldName ∧ (site.services.entries r config.Name).isSome then
        Action.fail (.failed "name already exist")
      else site.services.replaceLocked site env oldName old config.Name config

def SetServiceDisabled (name : String) (disabled : Bool) : Action Registry Unit :=
  Action.choose fun r => match site.services.entries r name with
    | none => Action.fail (.failed "tun not exist")
    | some current =>
      if current.cfg.Disabled = disabled then pure ()
      else site.services.replaceLocked site env name current name
        { current.cfg with Disabled := disabled }

def RemoveService (name : String) : Action Registry Unit := site.services.remove site env name

/-- A member that is repeated, or that cannot be probed over the full path. -/
def legacyMembers (configs : String → Option Config) : List String → List String → Bool
  | _, [] => false
  | seen, name :: rest =>
    if name ∈ seen then true
    else if (configs name).any fun cfg => !(Route.routeQualityProxy site.lib cfg).toBool then true
    else legacyMembers configs (name :: seen) rest

/-- Only a route that is loaded falls back to the probes of single hops. -/
def withProbeMode (configs : String → Option Config) (cfg : Route.RouteConfig)
    (createFile : Bool) : Route.RouteConfig :=
  if !createFile ∧ cfg.Mode = Route.RouteModeInput ∧ (cfg.Policy = "" ∨ cfg.Policy = "priority") ∧
      (cfg.ProbeMode = "" ∨ cfg.ProbeMode = Route.RouteProbeLegacyFrame) then
    { cfg with ProbeMode :=
        if legacyMembers site configs [] cfg.Members then Route.RouteProbeLegacyFrame
        else Route.RouteProbeFullPath }
  else cfg

/-- The checks of a route beside the tunnels and the routes that there are. -/
def validateRouteLocked (r : Registry) (cfg : Route.RouteConfig)
    (excludeUUID : String) : Except Err Route.RouteConfig :=
  Route.validateRouteLocked site.lib (site.services.configs r)
    (site.routes.configs r) env.routeOrder cfg excludeUUID

/-- A route without a UUID or a time is given one. -/
def withIdentity (cfg : Route.RouteConfig) : Route.RouteConfig :=
  { cfg with
    UUID := if cfg.UUID = "" then env.uuid else cfg.UUID
    CreatedAt := if cfg.CreatedAt = 0 then env.now else cfg.CreatedAt }

def AddRoute (cfg : Route.RouteConfig) (createFile : Bool) : Action Registry Unit :=
  Action.choose fun r =>
    let cfg := withProbeMode site (site.services.configs r) cfg createFile
    if createFile ∧ cfg.ProbeMode = Route.RouteProbeLegacyFrame then
      Action.fail (.failed "新建入口必须使用完整链路探测")
    else do
      let cfg ← Action.lift (validateRouteLocked site env r (withIdentity env cfg) "")
      site.routes.addLocked site env cfg createFile

/-- An edited route keeps its identity, and in the input mode it is probed over the full path. -/
def editedRoute (cfg old : Route.RouteConfig) : Route.RouteConfig :=
  { cfg with
    UUID := old.UUID
    CreatedAt := old.CreatedAt
    ProbeMode := if cfg.Mode = Route.RouteModeInput then Route.RouteProbeFullPath else cfg.ProbeMode }

def ReplaceRouteByUUID (cfg : Route.RouteConfig) : Action Registry Unit :=
  Action.choose fun r => match site.routes.find Route.RouteConfig.UUID env.routeOrder cfg.UUID r with
    | none => Action.fail (.failed "uuid not exist")
    | some (oldName, old) => do
      let cfg ← Action.lift (validateRouteLocked site env r (editedRoute cfg old.cfg) old.cfg.UUID)
      site.routes.replaceLocked site env oldName old cfg.Name cfg

def SetRouteDisabled (name : String) (disabled : Bool) : Action Registry Unit :=
  Action.choose fun r => match site.routes.entries r name with
    | none => Action.fail (.failed "route not exist")
    | some current =>
      if current.cfg.Disabled = disabled then pure ()
      else do
        let cfg := { current.cfg with Disabled := disabled }
        let cfg ← Action.lift (validateRouteLocked site env r cfg cfg.UUID)
        site.routes.replaceLocked site env name current name cfg

def RemoveRoute (name : String) : Action Registry Unit := site.routes.remove site env name

/-- `RemoveServiceByUUID`: the lookup, and then the removal by name. -/
def RemoveServiceByUUID (uuid : String) : Action Registry Unit :=
  Action.choose fun r => match site.services.find Config.UUID env.order uuid r with
    | none => Action.fail (.failed "uuid not exist")
    | some (_, s) => RemoveService site env s.cfg.Name

def RemoveRouteByUUID (uuid : String) : Action Registry Unit :=
  Action.choose fun r => match site.routes.find Route.RouteConfig.UUID env.routeOrder uuid r with
    | none => Action.fail (.failed "uuid not exist")
    | some (_, s) => RemoveRoute site env s.cfg.Name

end Registry

/-! On the tunnels, with no `Run` that is late, the operations do what those of the manager do. -/

section project

variable {site : Site}

/-- The same result, and the same manager after it. -/
def Projects (x : Action Registry α) (y : Action Manager α) : Prop :=
  ∀ r, (x r).1 = (y r.manager).1 ∧ (x r).2.manager = (y r.manager).2

theorem Projects.bind {x : Action Registry α} {y : Action Manager α} {f : α → Action Registry β}
    {g : α → Action Manager β} (first : Projects x y) (rest : ∀ a, Projects (f a) (g a)) :
    Projects (x >>= f) (y >>= g) := by
  intro r
  obtain ⟨result, manager⟩ := first r
  rcases ran : x r with ⟨e | a, r'⟩ <;> rcases ran' : y r.manager with ⟨e' | a', m'⟩ <;>
    rw [ran, ran'] at result manager
  · rw [Action.bind_error _ ran, Action.bind_error _ ran']
    cases result
    exact ⟨rfl, manager⟩
  · contradiction
  · contradiction
  · rw [Action.bind_ok _ ran, Action.bind_ok _ ran']
    cases result
    cases manager
    exact rest a r'

theorem Projects.handle {x : Action Registry α} {y : Action Manager α} {f : Err → Action Registry α}
    {g : Err → Action Manager α} (first : Projects x y) (rest : ∀ e, Projects (f e) (g e)) :
    Projects (x.handle f) (y.handle g) := by
  intro r
  obtain ⟨result, manager⟩ := first r
  rcases ran : x r with ⟨e | a, r'⟩ <;> rcases ran' : y r.manager with ⟨e' | a', m'⟩ <;>
    rw [ran, ran'] at result manager
  · rw [Action.handle_error _ ran, Action.handle_error _ ran']
    cases result
    cases manager
    exact rest e r'
  · contradiction
  · contradiction
  · rw [Action.handle_ok _ ran, Action.handle_ok _ ran']
    exact ⟨result, manager⟩

theorem Projects.choose {f : Registry → Action Registry α} {g : Manager → Action Manager α}
    (each : ∀ r, Projects (f r) (g r.manager)) : Projects (Action.choose f) (Action.choose g) :=
  fun r => each r r

theorem Projects.fail (e : Err) : Projects (Action.fail e : Action Registry α) (Action.fail e) :=
  fun _ => ⟨rfl, rfl⟩

theorem Projects.pure (a : α) : Projects (pure a : Action Registry α) (pure a) := fun _ => ⟨rfl, rfl⟩

theorem projects_prepare (cfg : Config) :
    Projects (site.services.prepare cfg) (Manager.prepareManagedService site.host cfg) := by
  intro r
  unfold Manager.prepareManagedService
  by_cases disabled : cfg.Disabled = true
  · have built : site.services.build cfg =
        .ok fun id => ⟨id, { cfg with Disabled := true }, .disabled⟩ :=
      if_pos disabled
    rw [Shelf.prepare_ok built, if_pos disabled]
    exact ⟨rfl, rfl⟩
  · have built : site.services.build cfg = (NewService site.host.parsers cfg).map fun kind id =>
        ⟨id, cfg, kind⟩ :=
      if_neg disabled
    rw [if_neg disabled]
    cases made : NewService site.host.parsers cfg with
    | error e =>
      rw [made] at built
      rw [Shelf.prepare_error built]
      exact ⟨rfl, rfl⟩
    | ok kind =>
      rw [made] at built
      rw [Shelf.prepare_ok built]
      exact ⟨rfl, rfl⟩

theorem Projects.spawn_before {x : Action Registry α} {y : Action Manager α} (rest : Projects x y)
    (wanted : Bool) (id : Nat) (task : Task) :
    Projects (Shelf.spawn wanted id task >>= fun _ => x) y := fun _ => rest _

/-- What comes after `x` touches the tasks only. -/
theorem Projects.before {x tail : Action Registry Unit} {y : Action Manager Unit} (first : Projects x y)
    (aside : Projects tail (Pure.pure ())) : Projects (x >>= fun _ => tail) y := by
  intro r
  obtain ⟨result, manager⟩ := first r
  rcases ran : x r with ⟨e | ⟨⟩, r'⟩
  · rw [Action.bind_error _ ran]
    rw [ran] at result manager
    exact ⟨result, manager⟩
  · rw [Action.bind_ok _ ran]
    rw [ran] at result manager
    obtain ⟨result', manager'⟩ := aside r'
    exact ⟨result'.trans result, manager'.trans manager⟩

theorem projects_onManager (x : Action Manager α) : Projects (Shelf.onManager x) x := fun _ => ⟨rfl, rfl⟩

theorem projects_run (s : Service) (faults : Nat → Option String) :
    Projects (site.services.runPrepared site false s faults)
      (Manager.runPreparedService site.host s faults) :=
  ((projects_onManager _).before fun _ => ⟨rfl, rfl⟩).spawn_before _ _ _

theorem projects_close (missed : Nat → Bool) (s : Service) :
    Projects (site.services.close missed s) (Manager.Close s) := fun _ => ⟨rfl, rfl⟩

theorem projects_set (name : String) (s : Option Service) :
    Projects (site.services.set name s) (Manager.setService name s) := fun _ => ⟨rfl, rfl⟩

theorem projects_files {x : FileScript Bool} {y : Action Files Unit}
    (agree : ∀ files, Agree (x.exec files) (y files)) :
    Projects (Shelf.onFiles x) (Manager.onFiles y) := by
  intro r
  obtain ⟨result, files⟩ := agree r.manager.files
  refine ⟨?_, ?_⟩
  · show ((x.exec r.manager.files).1.map fun _ => ()) = (y r.manager.files).1
    rw [result]
    cases (y r.manager.files).1 <;> rfl
  · show { r.manager with files := (x.exec r.manager.files).2 } =
      { r.manager with files := (y r.manager.files).2 }
    rw [files]

variable (env : Env)

theorem projects_rollback (inTime : env.lateRollback = false) (oldName : String) (oldCfg : Config)
    (cause : Err) :
    Projects (site.services.rollback site env oldName oldCfg cause)
      (Manager.rollbackReplaceLocked site.host env.faults.rollback oldName oldCfg cause) := by
  refine .bind (.handle (.bind (projects_prepare oldCfg) ?_) ?_) fun _ => .fail cause
  · intro s
    rw [inTime]
    exact .bind (projects_run s _) fun _ => projects_set oldName (some s)
  · exact fun e => .bind (projects_set oldName none) fun _ => .fail _

theorem projects_replaceLocked (inTime : env.late = false ∧ env.lateRollback = false)
    (oldName : String) (old : Service) (newName : String) (newCfg : Config) :
    Projects (site.services.replaceLocked site env oldName old newName newCfg)
      (Manager.replaceLocked site.host env.faults oldName old newName newCfg) := by
  refine .bind (projects_prepare newCfg) fun s => .bind (projects_close env.missed old) fun _ =>
    .bind (.handle ?_ ?_) fun _ =>
    .bind (.handle ?_ ?_) fun _ => .bind (projects_set oldName none) fun _ =>
      projects_set newName (some s)
  · rw [inTime.1]
    exact projects_run s _
  · exact projects_rollback env inTime.2 oldName old.cfg
  · exact projects_files fun files => replaceFile_agrees _ _ _ files old.cfg newCfg
  · exact fun e => .bind (projects_close env.missed s) fun _ =>
      projects_rollback env inTime.2 oldName old.cfg e

theorem projects_addService (inTime : env.late = false) (config : Config) (createFile : Bool) :
    Projects (Registry.AddService site env config createFile)
      (Manager.AddService site.host env.faults env.now env.uuid config createFile) := by
  unfold Registry.AddService Manager.AddService
  apply Projects.choose
  intro r
  by_cases taken : (site.services.entries r
    (Manager.normalizeConfig env.now env.uuid config).Name).isSome = true
  · rw [if_pos taken, if_pos (show (r.manager.services _).isSome = true from taken)]
    exact .fail _
  · rw [if_neg taken, if_neg (show ¬ (r.manager.services _).isSome = true from taken)]
    refine .bind (projects_prepare _) fun s => .bind ?_ fun _ => ?_
    · rw [inTime]
      exact projects_run s _
    · cases createFile with
      | false => exact .bind (.pure ()) fun _ => projects_set _ _
      | true =>
        refine .bind (.handle (projects_files fun files => createFile_agrees _ _ _ files _) ?_)
          fun _ => projects_set _ _
        exact fun e => .bind (projects_close env.missed s) fun _ => .fail e

theorem projects_setServiceDisabled (inTime : env.late = false ∧ env.lateRollback = false)
    (name : String) (disabled : Bool) :
    Projects (Registry.SetServiceDisabled site env name disabled)
      (Manager.SetServiceDisabled site.host env.faults name disabled) := by
  unfold Registry.SetServiceDisabled Manager.SetServiceDisabled
  apply Projects.choose
  intro r
  rw [services_entries]
  cases r.manager.services name with
  | none => exact .fail _
  | some current =>
    by_cases same : current.cfg.Disabled = disabled
    · simp only [if_pos same]
      exact .pure ()
    · simp only [if_neg same]
      exact projects_replaceLocked env inTime name current name _

theorem projects_replaceServiceByUUID (inTime : env.late = false ∧ env.lateRollback = false)
    (config : Config) :
    Projects (Registry.ReplaceServiceByUUID site env config)
      (Manager.ReplaceServiceByUUID site.host env.faults env.order env.now env.uuid config) := by
  unfold Registry.ReplaceServiceByUUID Manager.ReplaceServiceByUUID
  apply Projects.choose
  intro r
  show Projects (match Manager.getServiceByUUIDLocked env.order config.UUID r.manager with
    | none => _
    | some (oldName, old) => _) _
  cases Manager.getServiceByUUIDLocked env.order config.UUID r.manager with
  | none => exact .fail _
  | some found =>
    obtain ⟨oldName, old⟩ := found
    dsimp only
    rw [services_entries]
    split_ifs with taken
    · exact .fail _
    · exact projects_replaceLocked env inTime oldName old _ _

theorem projects_removeService (name : String) :
    Projects (Registry.RemoveService site env name)
      (Manager.RemoveService site.host env.faults name) := by
  refine .bind (projects_files fun files => deleteFile_agrees _ _ _ files name) fun _ => ?_
  apply Projects.choose
  intro r
  rw [services_entries]
  cases r.manager.services name with
  | none => exact .pure ()
  | some s => exact .bind (projects_close env.missed s) fun _ => projects_set name none

end project

end Gotun.Tun
