import Gotun.Tun.Restorable

/-! Restarts along every run of operations of `tun/manager.go` that succeed. -/

namespace Gotun.Tun
namespace Registry

open Gotun.Lib

def succeed (site : Site) (r : Registry) (e : Op × Env) : Option Registry :=
  match apply site e.2 e.1 r with
  | (.ok (), r') => some r'
  | (.error _, _) => none

/-- An operation that fails is no event. The directory is empty at first. -/
def successes (site : Site) : System Registry (Op × Env) where
  start r := ∃ taken, r = empty taken fun _ => none
  step := succeed site

/-- What is added is saved. -/
def Saved : Op → Prop
  | .addService _ createFile | .addRoute _ createFile => createFile = true
  | .replaceService _ | .setServiceDisabled .. | .removeService _ | .removeServiceByUUID _
  | .replaceRoute _
  | .setRouteDisabled .. | .removeRoute _ | .removeRouteByUUID _ => True

/-- A new UUID is not empty, the time is not the zero time, and the maps are ranged over completely. -/
structure Sane (site : Site) (r : Registry) (env : Env) : Prop where
  uuid : env.uuid ≠ ""
  now : env.now ≠ 0
  ranges : Ranges site r env

/-- The members of a route pass beside these tunnels. -/
def Passes (site : Site) (tunnels : Table String Config) (cfg : Route.RouteConfig) : Prop :=
  (∃ warnings, Route.checkRouteMembers site.lib tunnels cfg [] [] cfg.Members = .ok warnings) ∧
    (cfg.Mode = Route.RouteModeInput → Route.checkProtocols tunnels none cfg.Members = .ok ())

section lasts

variable (site : Site) (r : Registry) (env : Env)

/-- No listener of the tunnel is in the way of an instance that has not bound its own, or whose own
is late. -/
def TunnelUnhindered (cfg : Config) (replaced : Option (Bool × String)) : Prop :=
  Unhindered site env r (site.services.waits cfg) (site.services.listeners cfg) (true, cfg.Name) replaced

def RouteUnhindered (cfg : Route.RouteConfig) (replaced : Option (Bool × String)) : Prop :=
  Unhindered site env r (site.routes.waits cfg) (site.routes.listeners cfg) (false, cfg.Name) replaced

/-- What `ReplaceServiceByUUID` replaces the tunnel with. -/
def replacement (config : Config) (old : Service) : Config :=
  { Manager.normalizeConfig env.now env.uuid config with
    UUID := old.cfg.UUID, CreatedAt := old.cfg.CreatedAt }

/-- No tunnel takes the name of a route or leaves one with members that do not pass. No file is left
where it was not seen, and no route takes the address of another one with its UUID. -/
def Lasts : Op → Prop
  | .addService config _ => site.routes.configs r config.Name = none ∧
      TunnelUnhindered site r env (Manager.normalizeConfig env.now env.uuid config) none
  | .replaceService config =>
    ∀ oldName old, site.services.find Config.UUID env.order config.UUID r = some (oldName, old) →
      site.routes.configs r config.Name = none ∧ (env.faults.file .stat = none ∨ config.Name = oldName) ∧
        (∀ name route, site.routes.configs r name = some route →
          Passes site ((site.services.configs r).move oldName config.Name
            (replacement env config old)) route) ∧
        TunnelUnhindered site r env (replacement env config old) (some (true, oldName))
  | .setServiceDisabled name disabled => ∀ current, site.services.entries r name = some current →
      current.cfg.Disabled ≠ disabled →
        TunnelUnhindered site r env { current.cfg with Disabled := disabled } (some (true, name))
  | .removeService name => ∀ key route, site.routes.configs r key = some route → name ∉ route.Members
  | .removeServiceByUUID uuid =>
    ∀ name s, site.services.find Config.UUID env.order uuid r = some (name, s) →
      ∀ key route, site.routes.configs r key = some route → s.cfg.Name ∉ route.Members
  | .addRoute cfg _ => RouteUnhindered site r env (withIdentity env cfg) none
  | .replaceRoute cfg =>
    ∀ oldName old, site.routes.find Route.RouteConfig.UUID env.routeOrder cfg.UUID r =
      some (oldName, old) →
      (env.faults.file .stat = none ∨ cfg.Name = oldName) ∧
        (∀ name other, site.routes.configs r name = some other → name ≠ oldName → name ≠ cfg.Name →
          other.UUID = old.cfg.UUID → other.Listen ≠ cfg.Listen) ∧
        RouteUnhindered site r env (editedRoute cfg old.cfg) (some (false, oldName))
  | .setRouteDisabled name disabled => ∀ current, site.routes.entries r name = some current →
      current.cfg.Disabled ≠ disabled →
        RouteUnhindered site r env { current.cfg with Disabled := disabled } (some (false, name))
  | .removeRoute _ | .removeRouteByUUID _ => True

/-- What is asked of the operations and of their surroundings. -/
def Ordinary (e : Op × Env) : Prop := Sane site r e.2 ∧ Saved e.1

def Lasting (e : Op × Env) : Prop := Ordinary site r e ∧ Lasts site r e.2 e.1

end lasts

variable {site : Site} {env : Env} {r r' : Registry}

theorem owners_empty (taken : List Listener) (files : Files) :
    site.owners (Registry.empty taken files) = fun _ => none := by
  funext ⟨side, name⟩
  cases side <;> rfl

theorem Restorable.empty (taken : List Listener) :
    Restorable site (Registry.empty taken fun _ => none) where
  services _ _ found := nomatch found
  routes _ _ found := nomatch found
  contents := .empty
  tunnels _ _ found := nomatch found
  reloads _ _ found := nomatch found
  listens _ _ _ _ found := nomatch found
  spread := by
    rw [owners_empty]
    exact .empty

theorem of_succeed {e : Op × Env} (next : succeed site r e = some r') :
    apply site e.2 e.1 r = (.ok (), r') := by
  unfold succeed at next
  rcases ran : apply site e.2 e.1 r with ⟨e | ⟨⟩, t⟩
  · rw [ran] at next
    cases next
  · rw [ran] at next
    cases next
    rfl

/-- The locked part of an addition that has succeeded. -/
theorem addService_ran {config : Config} {createFile : Bool}
    (ran : AddService site env config createFile r = (.ok (), r')) :
    site.services.configs r config.Name = none ∧
      site.services.addLocked site env
        (Manager.normalizeConfig env.now env.uuid config) createFile r = (.ok (), r') := by
  rw [AddService, Action.choose_apply] at ran
  split_ifs at ran with taken
  · cases ran
  refine ⟨?_, ran⟩
  rw [Bool.not_eq_true, Option.isSome_eq_false_iff, Option.isNone_iff_eq_none] at taken
  exact Option.map_eq_none_iff.mpr taken

theorem addRoute_ran {cfg : Route.RouteConfig} (ran : AddRoute site env cfg true r = (.ok (), r')) :
    cfg.ProbeMode ≠ Route.RouteProbeLegacyFrame ∧
      ∃ cfg', Validated site env r (withIdentity env cfg) "" cfg' ∧
      site.routes.addLocked site env cfg' true r = (.ok (), r') := by
  have given : withProbeMode site (site.services.configs r) cfg true = cfg := if_neg (by simp)
  rw [AddRoute, Action.choose_apply, given] at ran
  split_ifs at ran with legacy
  · cases ran
  obtain ⟨cfg', valid, ran⟩ := of_checked ran
  exact ⟨fun old => legacy ⟨rfl, old⟩, cfg', of_validateRouteLocked valid, ran⟩

/-! What a restart cannot do without. -/

/-- Every member of a route is registered. -/
def Membered (site : Site) (r : Registry) : Prop :=
  ∀ name cfg, site.routes.configs r name = some cfg → ∀ m ∈ cfg.Members,
    (site.services.configs r m).isSome

theorem Validated.members_known {given cfg : Route.RouteConfig} {excludeUUID : String}
    (valid : Validated site env r given excludeUUID cfg) :
    ∀ m ∈ cfg.Members, (site.services.configs r m).isSome := by
  obtain ⟨warnings, members, rfl⟩ := valid.members
  exact Route.checkRouteMembers_known members

/-- The addition of a route, whether it succeeds or not. -/
theorem Membered.addRoute (membered : Membered site r) (cfg : Route.RouteConfig) (createFile : Bool) :
    Membered site (AddRoute site env cfg createFile r).2 := by
  have effect : RouteEffect site env r (.addRoute cfg createFile) (AddRoute site env cfg createFile r).2
      (AddRoute site env cfg createFile r).1 := addRoute_effect cfg createFile
  generalize (AddRoute site env cfg createFile r).1 = result at effect
  generalize (AddRoute site env cfg createFile r).2 = r' at effect ⊢
  cases effect with
  | failed left =>
    rcases left with same | ⟨name, gone⟩
    · rw [Membered, same.configs, same.beside]
      exact membered
    · rw [Membered, gone.configs, gone.beside]
      exact fun key other found => membered key other (Table.of_drop found).2
  | kept same => exact same ▸ membered
  | added createFile cfg' asked leaves _ _ =>
    obtain ⟨_, _, _, valid⟩ := validated_of_added asked
    rw [Membered, leaves.configs, leaves.beside]
    intro key other found
    rcases Table.of_put found with ⟨_, rfl⟩ | ⟨_, old⟩
    · exact valid.members_known
    · exact membered key other old
  | replaced _ _ _ _ asked => exact asked.elim
  | removed _ asked => exact asked.elim

theorem Membered.loadRoutes {envs : Nat → Env} {cfgs : List Route.RouteConfig}
    (membered : Membered site r)
    (ran : loadRoutes site envs cfgs r = (.ok (), r')) : Membered site r' := by
  induction cfgs generalizing r envs with
  | nil =>
    cases ran
    exact membered
  | cons v rest ih =>
    rw [loadRoutes_cons] at ran
    obtain ⟨⟨⟩, r₁, first, ran⟩ := Action.of_bind_ok ran
    refine ih ?_ ran
    have added : Membered site (AddRoute site (envs 0) v false r).2 := membered.addRoute v false
    rcases tried : AddRoute site (envs 0) v false r with ⟨e | ⟨⟩, t⟩
    · rw [Action.handle_error _ tried] at first
      cases first
      rw [tried] at added
      exact added
    · rw [Action.handle_ok _ tried] at first
      cases first
      rw [tried] at added
      exact added

theorem loadServices_routes {envs : Nat → Env} {cfgs : List Config}
    (ran : loadServices site envs cfgs r = (.ok (), r')) :
    site.routes.configs r' = site.routes.configs r := by
  induction cfgs generalizing r envs with
  | nil =>
    cases ran
    rfl
  | cons v rest ih =>
    obtain ⟨⟨⟩, r₁, added, ran⟩ := Action.of_bind_ok ran
    have leaves :=
      Shelf.addLocked_leaves (services_lawful site) (routes_lawful site) (services_beside site)
      (services_plain site) (services_settled site _) (addService_ran added).2
    exact (ih ran).trans leaves.1.beside

/-- What is restored has its members. -/
theorem Restored.membered (restored : Restored site r) : Membered site r := by
  obtain ⟨entries, lists⟩ := restored.listed
  let quiet : Nat → Env := fun _ => calm [] []
  obtain ⟨f, ran, tunnels, routes⟩ :=
    restored.loaded entries quiet quiet lists (fun _ _ => rfl) fun _ _ => rfl
  obtain ⟨cfgs, f₁, loads, ran⟩ := Action.of_bind_ok ran
  obtain ⟨⟨⟩, f₂, services, ran⟩ := Action.of_bind_ok ran
  obtain ⟨routeCfgs, f₃, loads', ran⟩ := Action.of_bind_ok ran
  have start : f₁ = Registry.empty [] r.manager.files := (Prod.mk.inj loads).2.symm
  have same : f₃ = f₂ := (Prod.mk.inj loads').2.symm
  have none_ : Membered site f₃ := by
    intro name cfg found
    rw [same, loadServices_routes services, start] at found
    cases found
  rw [Membered, ← tunnels, ← routes]
  exact none_.loadRoutes ran

/-! What the operations keep. -/

theorem full_ne_legacy : Route.RouteProbeFullPath ≠ Route.RouteProbeLegacyFrame := by decide

section steps

variable (restorable : Restorable site r)

include restorable

theorem Restorable.addService (sane : Sane site r env) {config : Config} {createFile : Bool}
    (saved : Saved (.addService config createFile))
    (lasts : Lasts site r env (.addService config createFile))
    (ran : AddService site env config createFile r = (.ok (), r')) : Restorable site r' := by
  obtain rfl : createFile = true := saved
  obtain ⟨absent, ran⟩ := addService_ran ran
  refine restorable.tunnelAdded (Manager.normalizeConfig env.now env.uuid config) lasts.1 absent
    ⟨?_, ?_⟩ lasts.2 ran
  · show (if config.UUID = "" then env.uuid else config.UUID) ≠ ""
    split_ifs with given
    · exact sane.uuid
    · exact given
  · show (if config.CreatedAt = 0 then env.now else config.CreatedAt) ≠ 0
    split_ifs with given
    · exact sane.now
    · exact given

theorem Restorable.replaceService {config : Config} (lasts : Lasts site r env (.replaceService config))
    (ran : ReplaceServiceByUUID site env config r = (.ok (), r')) : Restorable site r' := by
  rw [ReplaceServiceByUUID, Action.choose_apply] at ran
  cases found : site.services.find Config.UUID env.order config.UUID r with
  | none =>
    rw [found] at ran
    cases ran
  | some entry =>
    obtain ⟨oldName, old⟩ := entry
    rw [found] at ran
    dsimp only at ran
    split_ifs at ran with taken
    · cases ran
    obtain ⟨free, seen, passes, unhindered⟩ := lasts oldName old found
    have present := (of_find found).1
    obtain ⟨uuid, created, _⟩ := restorable.tunnels _ _ (configs_of_entries present)
    refine restorable.tunnelReplaced (replacement env config old) present ⟨uuid, created⟩ seen
      (fun name route there => ?_) unhindered ran
    have reloads := restorable.reloads name route there
    obtain ⟨⟨warnings, members⟩, protocols⟩ := passes name route there
    obtain rfl := Route.checkRouteMembers_silent reloads.probes members
    have ne : route.Name ≠ config.Name := by
      intro same
      rw [restorable.routes name route there] at same
      rw [← same, there] at free
      cases free
    refine { reloads with noTunnel := ?_, members := members, protocols := protocols }
    exact (Function.update_of_ne ne ..).trans (Table.drop_none reloads.noTunnel)

theorem Restorable.setServiceDisabled {name : String} {disabled : Bool}
    (lasts : Lasts site r env (.setServiceDisabled name disabled))
    (ran : SetServiceDisabled site env name disabled r = (.ok (), r')) : Restorable site r' := by
  rw [SetServiceDisabled, Action.choose_apply] at ran
  cases present : site.services.entries r name with
  | none =>
    rw [present] at ran
    cases ran
  | some current =>
    rw [present] at ran
    dsimp only at ran
    split_ifs at ran with same
    · cases ran
      exact restorable
    have found := configs_of_entries present
    obtain ⟨uuid, created, _⟩ := restorable.tunnels _ _ found
    obtain rfl : current.cfg.Name = name := restorable.services _ _ found
    refine restorable.tunnelReplaced { current.cfg with Disabled := disabled } present
      ⟨uuid, created⟩ (.inr rfl) (fun key route there => ?_) (lasts current present same) ran
    have reloads := restorable.reloads key route there
    refine reloads.other ?_ fun m _ => ?_
    · have ne : route.Name ≠ current.cfg.Name := by
        intro clash
        have noTunnel := reloads.noTunnel
        rw [clash, found] at noTunnel
        cases noTunnel
      exact (Function.update_of_ne ne ..).trans (Table.drop_none reloads.noTunnel)
    · by_cases here : m = current.cfg.Name
      · rw [here, found, Table.move, Table.put, Function.update_self]
        rfl
      · rw [Table.move, Table.put, Table.drop, Function.update_of_ne here, Function.update_of_ne here]

theorem Restorable.removeServiceByUUID {uuid : String}
    (lasts : Lasts site r env (.removeServiceByUUID uuid))
    (ran : RemoveServiceByUUID site env uuid r = (.ok (), r')) : Restorable site r' := by
  rw [RemoveServiceByUUID, Action.choose_apply] at ran
  cases found : site.services.find Config.UUID env.order uuid r with
  | none =>
    rw [found] at ran
    cases ran
  | some entry =>
    rw [found] at ran
    exact restorable.tunnelRemoved (lasts entry.1 entry.2 found) ran

theorem Restorable.addRoute (sane : Sane site r env) {cfg : Route.RouteConfig} {createFile : Bool}
    (saved : Saved (.addRoute cfg createFile)) (lasts : Lasts site r env (.addRoute cfg createFile))
    (ran : AddRoute site env cfg createFile r = (.ok (), r')) : Restorable site r' := by
  obtain rfl : createFile = true := saved
  obtain ⟨new, cfg', valid, ran⟩ := addRoute_ran ran
  refine restorable.routeAdded valid ⟨?_, ?_⟩ (fun _ => new) sane.ranges.2 lasts ran
  · show (if cfg.UUID = "" then env.uuid else cfg.UUID) ≠ ""
    split_ifs with given
    · exact sane.uuid
    · exact given
  · show (if cfg.CreatedAt = 0 then env.now else cfg.CreatedAt) ≠ 0
    split_ifs with given
    · exact sane.now
    · exact given

theorem Restorable.replaceRoute (sane : Sane site r env) {cfg : Route.RouteConfig}
    (lasts : Lasts site r env (.replaceRoute cfg))
    (ran : ReplaceRouteByUUID site env cfg r = (.ok (), r')) : Restorable site r' := by
  rw [ReplaceRouteByUUID, Action.choose_apply] at ran
  cases found : site.routes.find Route.RouteConfig.UUID env.routeOrder cfg.UUID r with
  | none =>
    rw [found] at ran
    cases ran
  | some entry =>
    obtain ⟨oldName, old⟩ := entry
    rw [found] at ran
    obtain ⟨cfg', valid, ran⟩ := of_checked ran
    obtain ⟨seen, others, unhindered⟩ := lasts oldName old found
    have present := (of_find found).1
    have reloads := restorable.reloads _ _ (configs_of_entries present)
    have valid := of_validateRouteLocked valid
    have named : cfg'.Name = cfg.Name := valid.name
    have listen : cfg'.Listen = cfg.Listen := valid.listen_eq
    have new : cfg.Mode = Route.RouteModeInput →
        (editedRoute cfg old.cfg).ProbeMode ≠ Route.RouteProbeLegacyFrame := by
      intro input
      rw [editedRoute, if_pos input]
      exact full_ne_legacy
    rw [← named] at seen others
    refine restorable.routeReplaced present valid rfl reloads.identity new seen ?_ ?_ ran
    · refine (restorable.listens.drop oldName).put fun name other there ne => ?_
      obtain ⟨ne', there⟩ := Table.of_drop there
      by_cases same : other.UUID = old.cfg.UUID
      · rw [listen]
        exact others name other there ne' ne same
      · exact valid.listens sane.ranges.2 there same
    · rw [named]
      exact unhindered

theorem Restorable.setRouteDisabled {name : String} {disabled : Bool}
    (lasts : Lasts site r env (.setRouteDisabled name disabled))
    (ran : SetRouteDisabled site env name disabled r = (.ok (), r')) : Restorable site r' := by
  rw [SetRouteDisabled, Action.choose_apply] at ran
  cases present : site.routes.entries r name with
  | none =>
    rw [present] at ran
    cases ran
  | some current =>
    rw [present] at ran
    dsimp only at ran
    split_ifs at ran with same
    · cases ran
      exact restorable
    obtain ⟨cfg', valid, ran⟩ := of_checked ran
    have found := configs_of_entries present
    have reloads := restorable.reloads _ _ found
    obtain rfl : current.cfg.Name = name := restorable.routes _ _ found
    have valid := of_validateRouteLocked valid
    have new : current.cfg.Mode = Route.RouteModeInput →
        current.cfg.ProbeMode ≠ Route.RouteProbeLegacyFrame :=
      fun input => (reloads.probes input).trans_ne full_ne_legacy
    have kept : cfg'.Listen = current.cfg.Listen := valid.listen_eq
    exact restorable.routeReplaced present valid valid.name reloads.identity new (.inr rfl)
      (restorable.listens.move found kept) (lasts current present same) ran

theorem Restorable.removeRouteByUUID {uuid : String}
    (ran : RemoveRouteByUUID site env uuid r = (.ok (), r')) :
    Restorable site r' := by
  rw [RemoveRouteByUUID, Action.choose_apply] at ran
  cases found : site.routes.find Route.RouteConfig.UUID env.routeOrder uuid r with
  | none =>
    rw [found] at ran
    cases ran
  | some entry =>
    rw [found] at ran
    exact restorable.routeRemoved ran

theorem Restorable.step (sane : Sane site r env) {op : Op} (saved : Saved op)
    (lasts : Lasts site r env op)
    (ran : apply site env op r = (.ok (), r')) : Restorable site r' := by
  cases op with
  | addService config createFile => exact restorable.addService sane saved lasts ran
  | replaceService config => exact restorable.replaceService lasts ran
  | setServiceDisabled name disabled => exact restorable.setServiceDisabled lasts ran
  | removeService name => exact restorable.tunnelRemoved lasts ran
  | removeServiceByUUID uuid => exact restorable.removeServiceByUUID lasts ran
  | addRoute cfg createFile => exact restorable.addRoute sane saved lasts ran
  | replaceRoute cfg => exact restorable.replaceRoute sane lasts ran
  | setRouteDisabled name disabled => exact restorable.setRouteDisabled lasts ran
  | removeRoute name => exact restorable.routeRemoved ran
  | removeRouteByUUID uuid => exact restorable.removeRouteByUUID ran

end steps

/-- A restart after every run whose operations all last. -/
theorem restored_of_run (readable : Readable site) {events : List (Op × Env)}
    (run : (successes site).Run (Lasting site) events r) : Restored site r := by
  have restorable : Restorable site r := by
    apply run.invariant (Restorable site)
    · rintro _ ⟨taken, rfl⟩
      exact .empty taken
    · rintro s e s' restorable ⟨⟨sane, saved⟩, lasts⟩ next
      exact restorable.step sane saved lasts (of_succeed next)
  exact restorable.restored readable

/-! A tunnel and a route over it. -/

open Calls (webSite)

theorem webSite_readable : Readable webSite where
  services _ _ marshalled := unmarshalOf_marshalOf webTable_distinct marshalled
  routes cfg data marshalled := by
    have stored : marshalOf (fun r => { r with ProbeWarnings := [] }) routeTable cfg = .ok data :=
      marshalled
    exact unmarshalOf_marshalOf routeTable_distinct stored

def nothing : Registry := empty [] fun _ => none

def withTunnel : Registry := (AddService webSite (calm [] []) (web "7002") true nothing).2

def withRoute : Registry := (AddRoute webSite (calm ["web"] []) (routeOut ["web"]) true withTunnel).2

theorem step_of_ran {site : Site} {r r' : Registry} (e : Op × Env)
    (ran : apply site e.2 e.1 r = (.ok (), r')) :
    (successes site).step r e = some r' := by
  show succeed site r e = some r'
  rw [succeed, ran]

theorem ran_of_result {x : Action Registry Unit} {r : Registry} (ok : (x r).1 = .ok ()) :
    x r = (.ok (), (x r).2) := Prod.ext ok rfl

theorem tunnel_ran :
    AddService webSite (calm [] []) (web "7002") true nothing = (.ok (), withTunnel) := by
  rw [withTunnel]
  exact ran_of_result (by decide +kernel)

theorem route_ran :
    AddRoute webSite (calm ["web"] []) (routeOut ["web"]) true withTunnel =
      (.ok (), withRoute) := by
  rw [withRoute]
  exact ran_of_result (by decide +kernel)

theorem withTunnel_leaves : webSite.services.Leaves webSite.routes nothing withTunnel
    ((webSite.services.configs nothing).put "web" (Manager.normalizeConfig 1 "5b1e" (web "7002"))) := by
  have added := (addService_ran tunnel_ran).2
  exact (Shelf.addLocked_leaves (services_lawful webSite) (routes_lawful webSite)
    (services_beside webSite) (services_plain webSite) (services_settled webSite _) added).1

theorem nothing_sane : Sane webSite nothing (calm [] []) where
  uuid := by decide
  now := by decide
  ranges := ⟨fun _ _ found => (nomatch found), fun _ _ found => (nomatch found)⟩

theorem withTunnel_sane : Sane webSite withTunnel (calm ["web"] []) where
  uuid := by decide
  now := by decide
  ranges := by
    refine ⟨fun name cfg found => ?_, fun name cfg found => ?_⟩
    · rw [withTunnel_leaves.configs] at found
      rcases Table.of_put found with ⟨rfl, _⟩ | ⟨_, old⟩
      · exact List.mem_singleton_self _
      · exact nomatch old
    · rw [withTunnel_leaves.beside] at found
      exact nomatch found

theorem web_listens :
    webSite.services.listeners (Manager.normalizeConfig 1 "5b1e" (web "7002")) =
      [⟨.tcp, "127.0.0.1:7001"⟩] := by
  decide +kernel

theorem withTunnel_held : withTunnel.manager.held = [(0, ⟨.tcp, "127.0.0.1:7001"⟩)] := by decide +kernel

theorem withTunnel_owners {key : Bool × String} {owner : Nat × List Listener}
    (found : webSite.owners withTunnel key = some owner) :
    owner = (0, [⟨.tcp, "127.0.0.1:7001"⟩]) := by
  have renewed := Shelf.addLocked_ok (services_lawful webSite) (routes_lawful webSite)
    (services_beside webSite) (services_aside webSite) (services_numbered webSite)
    (services_steady webSite) (services_settled webSite _) (addService_ran tunnel_ran).2
  have before : Table.join (webSite.services.owners nothing)
      (webSite.routes.owners nothing) = fun _ => none :=
    owners_empty [] fun _ => none
  rw [owners_services renewed.owners renewed.beside, before] at found
  rcases Table.of_put found with ⟨_, rfl⟩ | ⟨_, old⟩
  · rw [← web_listens]
    rfl
  · exact nomatch old

/-- The tunnel has bound what it listens on, and nothing is late. -/
theorem withTunnel_unhindered (needs : List Listener) (key : Bool × String) :
    Unhindered webSite (calm ["web"] []) withTunnel false needs key none := by
  rintro other owner found _ _ (late | ⟨l, member, unbound⟩)
  · exact absurd late (by decide)
  · obtain rfl := withTunnel_owners found
    rw [withTunnel_held, List.mem_singleton.mp member] at unbound
    exact absurd (List.mem_singleton_self _) unbound


theorem tunnel_next :
    (successes webSite).step nothing (.addService (web "7002") true, calm [] []) =
      some withTunnel :=
  step_of_ran _ tunnel_ran

theorem route_next :
    (successes webSite).step withTunnel (.addRoute (routeOut ["web"]) true, calm ["web"] []) =
      some withRoute :=
  step_of_ran _ route_ran

theorem nothing_unhindered :
    TunnelUnhindered webSite nothing (calm [] [])
      (Manager.normalizeConfig 1 "5b1e" (web "7002")) none := by
  intro other owner found
  rw [nothing, owners_empty] at found
  exact nomatch found

theorem withTunnel_beside :
    RouteUnhindered webSite withTunnel (calm ["web"] [])
      (withIdentity (calm ["web"] []) (routeOut ["web"])) none := by
  rw [RouteUnhindered, routes_waits]
  exact withTunnel_unhindered _ _

theorem tunnel_lasting : Lasting webSite nothing (.addService (web "7002") true, calm [] []) :=
  ⟨⟨nothing_sane, rfl⟩, rfl, nothing_unhindered⟩

theorem route_lasting :
    Lasting webSite withTunnel (.addRoute (routeOut ["web"]) true, calm ["web"] []) :=
  ⟨⟨withTunnel_sane, rfl⟩, withTunnel_beside⟩

theorem tunnel_run :
    (successes webSite).Run (Lasting webSite)
      ([] ++ [(.addService (web "7002") true, calm [] [])]) withTunnel :=
  .step (.start ⟨[], rfl⟩) tunnel_lasting tunnel_next

theorem both_run : (successes webSite).Run (Lasting webSite)
    ([] ++ [(.addService (web "7002") true, calm [] [])] ++
      [(.addRoute (routeOut ["web"]) true, calm ["web"] [])]) withRoute :=
  .step tunnel_run route_lasting route_next

theorem both_there :
    (withRoute.manager.services "web").isSome = true ∧ (withRoute.routes "out").isSome = true := by
  decide +kernel

/-- After both, a restart brings back both. -/
theorem web_restored : ∃ events r, (successes webSite).Run (Lasting webSite) events r ∧
    ((r.manager.services "web").isSome = true ∧ (r.routes "out").isSome = true) ∧ Restored webSite r :=
  ⟨_, withRoute, both_run, both_there, restored_of_run webSite_readable both_run⟩

def withoutTunnel : Registry := (RemoveService webSite (calm ["web"] ["out"]) "web" withRoute).2

theorem removal_ran :
    RemoveService webSite (calm ["web"] ["out"]) "web" withRoute = (.ok (), withoutTunnel) := by
  rw [withoutTunnel]
  exact ran_of_result (by decide +kernel)

theorem removal_next :
    (successes webSite).step withRoute (.removeService "web", calm ["web"] ["out"]) =
      some withoutTunnel :=
  step_of_ran _ removal_ran

theorem withRoute_sane : Sane webSite withRoute (calm ["web"] ["out"]) where
  uuid := by decide
  now := by decide
  ranges := by
    obtain ⟨_, cfg', valid, added⟩ := addRoute_ran route_ran
    have leaves := (Shelf.addLocked_leaves (routes_lawful webSite) (services_lawful webSite)
      (routes_beside webSite) (routes_plain webSite) (routes_settled valid.again) added).1
    refine ⟨fun name cfg found => ?_, fun name cfg found => ?_⟩
    · rw [leaves.beside] at found
      exact withTunnel_sane.ranges.1 name cfg found
    · rw [leaves.configs] at found
      rcases Table.of_put found with ⟨rfl, _⟩ | ⟨_, old⟩
      · exact List.mem_singleton.mpr valid.name
      · rw [withTunnel_leaves.beside] at old
        exact nomatch old

theorem removal_ordinary :
    Ordinary webSite withRoute (.removeService "web", calm ["web"] ["out"]) :=
  ⟨withRoute_sane, trivial⟩

theorem removal_run : (successes webSite).Run (Ordinary webSite)
    ([] ++ [(.addService (web "7002") true, calm [] [])] ++
      [(.addRoute (routeOut ["web"]) true, calm ["web"] [])] ++
      [(.removeService "web", calm ["web"] ["out"])]) withoutTunnel :=
  .step (both_run.mono fun _ _ lasting => lasting.1) removal_ordinary removal_next

/-- The route is still registered, and its member is not. -/
theorem member_gone : ((withoutTunnel.routes "out").map fun s => s.cfg.Members) = some ["web"] ∧
    (withoutTunnel.manager.services "web").isNone = true := by
  decide +kernel

/-- A route whose member is not registered. -/
theorem not_membered {name m : String} {members : List String}
    (listed : ((r.routes name).map fun s => s.cfg.Members) = some members) (member : m ∈ members)
    (gone : (r.manager.services m).isNone = true) : ¬ Membered site r := by
  intro membered
  obtain ⟨s, present, rfl⟩ := Option.map_eq_some_iff.mp listed
  have known := membered name s.cfg (configs_of_entries (S := site.routes) present) m member
  have absent : site.services.configs r m = none :=
    Option.map_eq_none_iff.mpr (Option.isNone_iff_eq_none.mp gone)
  rw [absent] at known
  cases known

/-- When the tunnel is removed, the route stays registered, and a restart loses it. -/
theorem route_lost :
    ¬ ∀ site, Readable site → ∀ events r, (successes site).Run (Ordinary site) events r →
      Restored site r := by
  intro claimed
  have restored : Restored webSite withoutTunnel :=
    claimed webSite webSite_readable _ withoutTunnel removal_run
  exact not_membered member_gone.1 (List.mem_singleton_self _) member_gone.2 restored.membered

end Registry

end Gotun.Tun
