import Gotun.Tun.RegistryRuns

/-! The names and the UUIDs of the tunnels and the routes, along every run of the registry. -/

namespace Gotun.Tun
namespace Registry

open Gotun.Lib

variable {site : Site} {env : Env} {r r' : Registry} {op : Op} {result : Except Err Unit}

/-- The defaults do not touch what identifies a route. -/
theorem normalize_name (cfg : Route.RouteConfig) : cfg.normalize.Name = cfg.Name := by
  simp only [Route.RouteConfig.normalize, Route.RouteConfig.withModes]
  split_ifs <;> rfl

theorem normalize_uuid (cfg : Route.RouteConfig) : cfg.normalize.UUID = cfg.UUID := by
  simp only [Route.RouteConfig.normalize, Route.RouteConfig.withModes]
  split_ifs <;> rfl

theorem withProbeMode_uuid (configs : String → Option Config) (cfg : Route.RouteConfig)
    (createFile : Bool) :
    (withProbeMode site configs cfg createFile).UUID = cfg.UUID := by
  unfold withProbeMode
  split_ifs <;> rfl

section validated

variable {cfg cfg' : Route.RouteConfig} {excludeUUID : String}

theorem Validated.name (valid : Validated site env r cfg excludeUUID cfg') : cfg'.Name = cfg.Name := by
  obtain ⟨warnings, _, rfl⟩ := valid.members
  exact normalize_name cfg

theorem Validated.uuid (valid : Validated site env r cfg excludeUUID cfg') : cfg'.UUID = cfg.UUID := by
  obtain ⟨warnings, _, rfl⟩ := valid.members
  exact normalize_uuid cfg

theorem Validated.free (valid : Validated site env r cfg excludeUUID cfg') :
    site.services.configs r cfg'.Name = none := by
  rw [valid.name, ← normalize_name]
  exact valid.noTunnel

end validated

/-- Each entry is under its name, and each route has its defaults. -/
structure Keyed (site : Site) (r : Registry) : Prop where
  services : (site.services.configs r).Named Config.Name
  routes : (site.routes.configs r).Named Route.RouteConfig.Name
  checked : ∀ name cfg, site.routes.configs r name = some cfg → cfg.validateBasic site.lib = .ok cfg

theorem Keyed.routesChecked (keyed : Keyed site r) : RoutesChecked site r := by
  intro name s present
  apply keyed.checked name
  rw [Shelf.configs, present]
  rfl

theorem configs_of_entries {κ ι : Type} {S : Shelf κ ι} {name : String} {i : ι}
    (present : S.entries r name = some i) :
    S.configs r name = some (S.cfg i) := by
  rw [Shelf.configs, present, Option.map_some]

theorem Keyed.empty (taken : List Listener) (files : Files) :
    Keyed site (Registry.empty taken files) where
  services _ _ found := nomatch found
  routes _ _ found := nomatch found
  checked _ _ found := nomatch found

theorem Keyed.tunnels (keyed : Keyed site r)
    (effect : TunnelEffect site env r op r' result) : Keyed site r' := by
  have others : site.routes.configs r' = site.routes.configs r →
    (site.services.configs r').Named Config.Name →
      Keyed site r' := by
    intro same named
    exact ⟨named, same ▸ keyed.routes, same ▸ keyed.checked⟩
  cases effect with
  | failed left =>
    rcases left with same | ⟨name, gone⟩
    · exact others same.beside (same.configs ▸ keyed.services)
    · exact others gone.beside (gone.configs ▸ keyed.services.drop name)
  | kept same => exact same ▸ keyed
  | added createFile cfg asked leaves _ _ =>
    exact others leaves.beside (leaves.configs ▸ keyed.services.put rfl)
  | replaced oldName old newName cfg asked present leaves _ _ =>
    refine others leaves.beside (leaves.configs ▸ keyed.services.move oldName ?_)
    cases op with
    | replaceService config => exact asked.2.2.1.symm
    | setServiceDisabled name disabled =>
      obtain ⟨rfl, rfl, rfl⟩ := asked
      exact keyed.services _ old.cfg (configs_of_entries present)
    | _ => exact asked.elim
  | removed name _ leaves _ => exact others leaves.beside (leaves.configs ▸ keyed.services.drop name)

/-- What a route that is put in place of another was checked as. -/
theorem validated_of_asked {oldName newName : String} {old : RouteService} {cfg : Route.RouteConfig}
    (asked : AsksRouteFor site env r op oldName old newName cfg) :
    ∃ given, Validated site env r given old.cfg.UUID cfg ∧ given.UUID = old.cfg.UUID ∧
      (newName = cfg.Name ∨ newName = oldName ∧ given.Name = old.cfg.Name) := by
  cases op with
  | replaceRoute edited =>
    obtain ⟨_, valid, named⟩ := asked
    exact ⟨_, of_validateRouteLocked valid, rfl, .inl named⟩
  | setRouteDisabled name disabled =>
    obtain ⟨rfl, rfl, valid⟩ := asked
    exact ⟨_, of_validateRouteLocked valid, rfl, .inr ⟨rfl, rfl⟩⟩
  | _ => exact asked.elim

theorem validated_of_added {createFile : Bool} {cfg : Route.RouteConfig}
    (asked : AsksRoute site env r op createFile cfg) :
    ∃ given file, op = .addRoute given file ∧
      Validated site env r
        (withIdentity env (withProbeMode site (site.services.configs r) given file)) "" cfg := by
  cases op with
  | addRoute given file =>
    obtain ⟨_, valid, _⟩ := asked
    exact ⟨given, file, rfl, of_validateRouteLocked valid⟩
  | _ => exact asked.elim

theorem Keyed.routes_step (keyed : Keyed site r)
    (effect : RouteEffect site env r op r' result) : Keyed site r' := by
  have others : ∀ {map}, site.services.configs r' = site.services.configs r →
    site.routes.configs r' = map →
      map.Named Route.RouteConfig.Name →
        (∀ name cfg, map name = some cfg → cfg.validateBasic site.lib = .ok cfg) →
      Keyed site r' := by
    rintro _ same rfl named checked
    exact ⟨same ▸ keyed.services, named, checked⟩
  have dropped : ∀ {name key cfg}, (site.routes.configs r).drop name key = some cfg →
      cfg.validateBasic site.lib = .ok cfg :=
    fun found => keyed.checked _ _ (Table.of_drop found).2
  cases effect with
  | failed left =>
    rcases left with same | ⟨name, gone⟩
    · exact others same.beside same.configs keyed.routes keyed.checked
    · exact others gone.beside gone.configs (keyed.routes.drop name) fun _ _ => dropped
  | kept same => exact same ▸ keyed
  | added createFile cfg asked leaves _ _ =>
    obtain ⟨given, file, _, valid⟩ := validated_of_added asked
    refine others leaves.beside leaves.configs (keyed.routes.put rfl) ?_
    intro key c found
    rcases Table.of_put found with ⟨_, rfl⟩ | ⟨_, old⟩
    · exact valid.again
    · exact keyed.checked _ _ old
  | replaced oldName old newName cfg asked present leaves _ _ =>
    obtain ⟨given, valid, _, named⟩ := validated_of_asked asked
    have own : cfg.Name = newName := by
      rcases named with named | ⟨rfl, same⟩
      · exact named.symm
      · rw [valid.name, same]
        exact keyed.routes _ old.cfg (configs_of_entries present)
    refine others leaves.beside leaves.configs (keyed.routes.move oldName own) ?_
    intro key c found
    rcases Table.of_move found with ⟨_, rfl⟩ | ⟨_, _, old⟩
    · exact valid.again
    · exact keyed.checked _ _ old
  | removed name _ leaves _ =>
    exact others leaves.beside leaves.configs (keyed.routes.drop name) fun _ _ => dropped

theorem Keyed.apply (keyed : Keyed site r) (env : Env) (op : Op) :
    Keyed site (apply site env op r).2 := by
  rcases apply_effect env keyed.routesChecked op with tunnel | route
  · exact keyed.tunnels tunnel
  · exact keyed.routes_step route

theorem keyed_of_run {allowed : Registry → Op × Env → Prop} {events : List (Op × Env)}
    (run : (system site).Run allowed events r) : Keyed site r := by
  apply run.invariant (Keyed site)
  · rintro _ ⟨taken, files, rfl⟩
    exact Keyed.empty taken files
  · rintro _ e _ keyed _ next
    cases next
    exact keyed.apply e.2 e.1

/-! Names. -/

/-- No name is at once that of a tunnel and of a route. -/
def Disjoint (site : Site) (r : Registry) : Prop :=
  (site.services.configs r).Apart (site.routes.configs r)

/-- A tunnel is not added or renamed under the name of a route. -/
def TunnelNameFree (site : Site) (r : Registry) : Op → Prop
  | .addService config _ => site.routes.configs r config.Name = none
  | .replaceService config => site.routes.configs r config.Name = none
  | _ => True

theorem Disjoint.tunnels (disjoint : Disjoint site r) (free : TunnelNameFree site r op)
    (effect : TunnelEffect site env r op r' result) : Disjoint site r' := by
  have others : ∀ {map}, site.services.Leaves site.routes r r' map →
      map.Apart (site.routes.configs r) → Disjoint site r' := by
    intro map leaves apart
    rw [Disjoint, leaves.configs, leaves.beside]
    exact apart
  cases effect with
  | failed left =>
    rcases left with same | ⟨name, gone⟩
    · exact others same disjoint
    · exact others gone (disjoint.drop name)
  | kept same => exact same ▸ disjoint
  | added createFile cfg asked leaves _ _ =>
    cases op with
    | addService config file =>
      obtain ⟨_, rfl, _⟩ := asked
      exact others leaves (disjoint.put free)
    | _ => exact asked.elim
  | replaced oldName old newName cfg asked present leaves _ _ =>
    refine others leaves (disjoint.move oldName ?_)
    cases op with
    | replaceService config =>
      obtain ⟨_, rfl, rfl, _⟩ := asked
      exact free
    | setServiceDisabled name disabled =>
      obtain ⟨rfl, rfl, _⟩ := asked
      refine (disjoint newName).resolve_left ?_
      rw [configs_of_entries present]
      simp
    | _ => exact asked.elim
  | removed name _ leaves _ => exact others leaves (disjoint.drop name)

/-- The checks of a route keep it off the names of tunnels. -/
theorem Disjoint.routes (disjoint : Disjoint site r)
    (effect : RouteEffect site env r op r' result) : Disjoint site r' := by
  have others : ∀ {map}, site.routes.Leaves site.services r r' map →
      map.Apart (site.services.configs r) → Disjoint site r' := by
    intro map leaves apart
    rw [Disjoint, leaves.configs, leaves.beside]
    exact apart.symm
  cases effect with
  | failed left =>
    rcases left with same | ⟨name, gone⟩
    · exact others same disjoint.symm
    · exact others gone (disjoint.symm.drop name)
  | kept same => exact same ▸ disjoint
  | added createFile cfg asked leaves _ _ =>
    obtain ⟨given, file, _, valid⟩ := validated_of_added asked
    exact others leaves (disjoint.symm.put valid.free)
  | replaced oldName old newName cfg asked present leaves _ _ =>
    obtain ⟨given, valid, _, named⟩ := validated_of_asked asked
    refine others leaves (disjoint.symm.move oldName ?_)
    rcases named with rfl | ⟨rfl, _⟩
    · exact valid.free
    · refine (disjoint newName).resolve_right ?_
      rw [configs_of_entries present]
      simp
  | removed name _ leaves _ => exact others leaves (disjoint.symm.drop name)

/-- The names along every run whose tunnels keep off the names of the routes. -/
theorem names_of_run {events : List (Op × Env)}
    (run : (system site).Run (fun r e => TunnelNameFree site r e.1) events r) :
    (∀ key s, r.manager.services key = some s → s.cfg.Name = key) ∧
      (∀ key s, r.routes key = some s → s.cfg.Name = key) ∧
      ∀ name, r.manager.services name = none ∨ r.routes name = none := by
  have keyed := keyed_of_run run
  have disjoint : Keyed site r ∧ Disjoint site r := by
    apply run.invariant fun r => Keyed site r ∧ Disjoint site r
    · rintro _ ⟨taken, files, rfl⟩
      exact ⟨Keyed.empty taken files, fun _ => .inl rfl⟩
    · rintro s e _ ⟨keyed, disjoint⟩ free next
      cases next
      refine ⟨keyed.apply e.2 e.1, ?_⟩
      rcases apply_effect e.2 keyed.routesChecked e.1 with tunnel | route
      · exact disjoint.tunnels free tunnel
      · exact disjoint.routes route
  refine ⟨?_, ?_, ?_⟩
  · intro key s present
    exact keyed.services key s.cfg (configs_of_entries (S := site.services) present)
  · intro key s present
    exact keyed.routes key s.cfg (configs_of_entries (S := site.routes) present)
  · intro name
    have apart := disjoint.2 name
    simpa [Shelf.configs, Site.services, Site.routes] using apart

/-! UUIDs. -/

/-- A tunnel or a route is not added with a UUID that another of its kind has. -/
def UUIDFree (site : Site) (env : Env) (r : Registry) : Op → Prop
  | .addService config _ => ∀ key cfg, site.services.configs r key = some cfg →
      cfg.UUID ≠ (Manager.normalizeConfig env.now env.uuid config).UUID
  | .addRoute cfg _ =>
    ∀ key other, site.routes.configs r key = some other → other.UUID ≠ (withIdentity env cfg).UUID
  | _ => True

/-- The UUIDs tell the entries of each map apart. -/
structure Identified (site : Site) (r : Registry) : Prop where
  services : (site.services.configs r).Unique Config.UUID
  routes : (site.routes.configs r).Unique Route.RouteConfig.UUID

theorem Identified.empty (taken : List Listener) (files : Files) :
    Identified site (Registry.empty taken files) where
  services _ _ _ _ found := nomatch found
  routes _ _ _ _ found := nomatch found

theorem Identified.tunnels (identified : Identified site r) (free : UUIDFree site env r op)
    (effect : TunnelEffect site env r op r' result) : Identified site r' := by
  have others : ∀ {map}, site.services.Leaves site.routes r r' map → map.Unique Config.UUID →
      Identified site r' := by
    intro map leaves unique
    exact ⟨leaves.configs ▸ unique, leaves.beside ▸ identified.routes⟩
  cases effect with
  | failed left =>
    rcases left with same | ⟨name, gone⟩
    · exact others same identified.services
    · exact others gone (identified.services.drop name)
  | kept same => exact same ▸ identified
  | added createFile cfg asked leaves _ _ =>
    apply others leaves
    apply identified.services.put
    intro key other found _
    cases op with
    | addService config file =>
      obtain ⟨_, rfl, _⟩ := asked
      exact free key other found
    | _ => exact asked.elim
  | replaced oldName old newName cfg asked present leaves _ _ =>
    apply others leaves
    apply identified.services.move (configs_of_entries present)
    cases op with
    | replaceService config =>
      obtain ⟨_, rfl, _⟩ := asked
      rfl
    | setServiceDisabled name disabled =>
      obtain ⟨_, _, rfl⟩ := asked
      rfl
    | _ => exact asked.elim
  | removed name _ leaves _ => exact others leaves (identified.services.drop name)

theorem Identified.routes_step (identified : Identified site r) (free : UUIDFree site env r op)
    (effect : RouteEffect site env r op r' result) : Identified site r' := by
  have others : ∀ {map}, site.routes.Leaves site.services r r' map → map.Unique Route.RouteConfig.UUID →
      Identified site r' := by
    intro map leaves unique
    exact ⟨leaves.beside ▸ identified.services, leaves.configs ▸ unique⟩
  cases effect with
  | failed left =>
    rcases left with same | ⟨name, gone⟩
    · exact others same identified.routes
    · exact others gone (identified.routes.drop name)
  | kept same => exact same ▸ identified
  | added createFile cfg asked leaves _ _ =>
    obtain ⟨given, file, rfl, valid⟩ := validated_of_added asked
    apply others leaves
    apply identified.routes.put
    intro key other found _
    have uuid : cfg.UUID = (withIdentity env given).UUID := by
      rw [valid.uuid]
      simp only [withIdentity, withProbeMode_uuid]
    rw [uuid]
    exact free key other found
  | replaced oldName old newName cfg asked present leaves _ _ =>
    obtain ⟨given, valid, same, _⟩ := validated_of_asked asked
    apply others leaves
    apply identified.routes.move (configs_of_entries present)
    exact valid.uuid.trans same
  | removed name _ leaves _ => exact others leaves (identified.routes.drop name)

theorem identified_of_run {events : List (Op × Env)}
    (run : (system site).Run (fun r e => UUIDFree site e.2 r e.1) events r) : Identified site r := by
  have both : Keyed site r ∧ Identified site r := by
    apply run.invariant fun r => Keyed site r ∧ Identified site r
    · rintro _ ⟨taken, files, rfl⟩
      exact ⟨Keyed.empty taken files, Identified.empty taken files⟩
    · rintro s e _ ⟨keyed, identified⟩ free next
      cases next
      refine ⟨keyed.apply e.2 e.1, ?_⟩
      rcases apply_effect e.2 keyed.routesChecked e.1 with tunnel | route
      · exact identified.tunnels free tunnel
      · exact identified.routes_step free route
  exact both.2

/-- With unique UUIDs, the order in which the map is ranged over does not matter. -/
theorem find_order {κ ι : Type} {S : Shelf κ ι} {uuidOf : κ → String}
    (unique : (S.configs r).Unique uuidOf) {order order' : List String}
    (covers : (S.configs r).Covers order) (covers' : (S.configs r).Covers order') (uuid : String) :
    S.find uuidOf order uuid r = S.find uuidOf order' uuid r := by
  have covered : ∀ {order}, (S.configs r).Covers order → Table.Covers (S.entries r) order :=
    fun covers key i present => covers key (S.cfg i) (configs_of_entries present)
  apply Table.find_eq (covered covers) (covered covers')
  intro key key' i i' present present' fits fits'
  apply unique key key' _ _ (configs_of_entries present) (configs_of_entries present')
  exact (of_decide_eq_true fits).trans (of_decide_eq_true fits').symm

/-- The UUIDs along every run that adds nothing with a UUID in use, and what is found by them. -/
theorem uuids_of_run {events : List (Op × Env)}
    (run : (system site).Run (fun r e => UUIDFree site e.2 r e.1) events r) :
    (∀ key key' s s', r.manager.services key = some s → r.manager.services key' = some s' →
      s.cfg.UUID = s'.cfg.UUID →
      key = key') ∧
    (∀ key key' s s', r.routes key = some s → r.routes key' = some s' →
      s.cfg.UUID = s'.cfg.UUID → key = key') ∧
    ∀ env env', Ranges site r env → Ranges site r env' → ∀ uuid,
      site.services.find Config.UUID env.order uuid r =
        site.services.find Config.UUID env'.order uuid r ∧
      site.routes.find Route.RouteConfig.UUID env.routeOrder uuid r =
        site.routes.find Route.RouteConfig.UUID env'.routeOrder uuid r := by
  have identified := identified_of_run run
  refine ⟨?_, ?_, ?_⟩
  · intro key key' s s' present present' same
    exact identified.services key key' s.cfg s'.cfg (configs_of_entries (S := site.services) present)
      (configs_of_entries (S := site.services) present') same
  · intro key key' s s' present present' same
    exact identified.routes key key' s.cfg s'.cfg (configs_of_entries (S := site.routes) present)
      (configs_of_entries (S := site.routes) present') same
  · intro env env' ranges ranges' uuid
    exact ⟨find_order identified.services ranges.1 ranges'.1 uuid,
      find_order identified.routes ranges.2 ranges'.2 uuid⟩

/-! A manager on one host. -/

/-- No call fails and nothing is late. -/
def calm (order routeOrder : List String) : Env where
  faults := ⟨fun _ => none, fun _ => none, fun _ => none⟩
  late := false
  lateRollback := false
  missed _ := false
  now := 1
  uuid := "5b1e"
  order := order
  routeOrder := routeOrder

def localSite : Site where
  host := Manager.loopback
  lib := ⟨fun _ => none, fun _ => false, fun addr => .ok (addr, ""), fun _ => false,
    fun _ => .error .eof⟩
  unmarshal _ := .error .eof
  marshalRoute _ := .ok []
  unmarshalRoute _ := .error .eof

def tunnelOf (uuid name port : String) : Config :=
  ⟨uuid, name, false, "", "tcp@127.0.0.1:" ++ port, "", "", "", "", "tcp@127.0.0.1:1", "", "", "", "", 1⟩

def routeOf (uuid name port member : String) : Route.RouteConfig :=
  ⟨uuid, name, false, "output", "tcp@127.0.0.1:" ++ port, "", [member], "priority",
    ⟨"", "", 0, 0, 0, 0, 0, 0⟩, "", [], 1⟩

/-- A tunnel, a route over it, and another tunnel. -/
def namesGiven (name : String) : List (Op × Env) :=
  [(.addService (tunnelOf "1" "web" "7001") true, calm [] []),
   (.addRoute (routeOf "2" "out" "7002" "web") true, calm ["web"] []),
   (.addService (tunnelOf "3" name "7003") true, calm ["web"] ["out"])]

instance (op : Op) : Decidable (TunnelNameFree site r op) :=
  match op with
  | .addService config _ => inferInstanceAs (Decidable (site.routes.configs r config.Name = none))
  | .replaceService config => inferInstanceAs (Decidable (site.routes.configs r config.Name = none))
  | .setServiceDisabled .. | .removeService .. | .removeServiceByUUID .. | .addRoute ..
  | .replaceRoute ..
  | .setRouteDisabled .. | .removeRoute .. | .removeRouteByUUID .. => isTrue trivial

theorem localSite_starts : (system localSite).start (empty [] fun _ => none) := ⟨[], _, rfl⟩

/-- The other tunnel has a name of its own. -/
theorem names_apart :
    ∃ r, (system localSite).Run (fun r e => TunnelNameFree localSite r e.1) (namesGiven "alt") r ∧
    (r.manager.services "alt").isSome ∧ (r.routes "out").isSome ∧
    (∀ key s, r.manager.services key = some s → s.cfg.Name = key) ∧
      (∀ key s, r.routes key = some s → s.cfg.Name = key) ∧
    ∀ name, r.manager.services name = none ∨ r.routes name = none := by
  have played :
    ((system localSite).play (fun r e => decide (TunnelNameFree localSite r e.1)) (namesGiven "alt")
      (empty [] fun _ => none)).any
        (fun r => (r.manager.services "alt").isSome && (r.routes "out").isSome) = true := by
    decide +kernel
  obtain ⟨r, run, seen⟩ := System.Run.of_play localSite_starts played
  obtain ⟨tunnel, route⟩ := Bool.and_eq_true_iff.mp seen
  have allowed := run.mono fun _ _ ok => of_decide_eq_true ok
  exact ⟨r, allowed, tunnel, route, names_of_run allowed⟩

/-- The other tunnel is given the name of the route, and is added all the same. -/
theorem name_shared : ¬ ∀ events r, (system localSite).Run (fun _ _ => True) events r →
    ∀ name, r.manager.services name = none ∨ r.routes name = none := by
  intro claimed
  have played :
    ((system localSite).play (fun _ _ => true) (namesGiven "out") (empty [] fun _ => none)).any
      (fun r => (r.manager.services "out").isSome && (r.routes "out").isSome) = true := by
    decide +kernel
  obtain ⟨r, run, seen⟩ := System.Run.of_play localSite_starts played
  obtain ⟨tunnel, route⟩ := Bool.and_eq_true_iff.mp seen
  rcases claimed _ r (run.mono fun _ _ _ => trivial) "out" with absent | absent
  · rw [absent] at tunnel
    exact Bool.false_ne_true tunnel
  · rw [absent] at route
    exact Bool.false_ne_true route

/-- Two tunnels. -/
def uuidsGiven (uuid : String) : List (Op × Env) :=
  [(.addService (tunnelOf "1" "web" "7001") true, calm [] []),
   (.addService (tunnelOf uuid "alt" "7002") true, calm ["web"] [])]

/-- Only the tunnel that is added can be new. -/
theorem of_added {config cfg : Config} {createFile : Bool} {key : String}
    (effect : TunnelEffect site env r (.addService config createFile) r' result)
    (found : site.services.configs r' key = some cfg) :
    cfg = Manager.normalizeConfig env.now env.uuid config ∨ site.services.configs r key = some cfg := by
  cases effect with
  | failed left =>
    rcases left with same | ⟨name, gone⟩
    · exact .inr (same.configs ▸ found)
    · rw [gone.configs] at found
      exact .inr (Table.of_drop found).2
  | kept same => exact .inr (same ▸ found)
  | added createFile cfg asked leaves _ _ =>
    rw [leaves.configs] at found
    rcases Table.of_put found with ⟨_, rfl⟩ | ⟨_, old⟩
    · exact .inl asked.2.1
    · exact .inr old
  | replaced _ _ _ _ asked => exact asked.elim
  | removed _ asked => exact asked.elim

def afterFirst : Registry :=
  (apply localSite (calm [] []) (.addService (tunnelOf "1" "web" "7001") true)
    (empty [] fun _ => none)).2

theorem afterFirst_effect : TunnelEffect localSite (calm [] []) (empty [] fun _ => none)
    (.addService (tunnelOf "1" "web" "7001") true) afterFirst
      (AddService localSite (calm [] []) (tunnelOf "1" "web" "7001")
      true (empty [] fun _ => none)).1 :=
  addService_effect (tunnelOf "1" "web" "7001") true

def afterSecond : Registry :=
  (apply localSite (calm ["web"] []) (.addService (tunnelOf "2" "alt" "7002") true) afterFirst).2

/-- Each of the two tunnels has a UUID of its own. -/
theorem uuids_apart :
    ∃ r, (system localSite).Run (fun r e => UUIDFree localSite e.2 r e.1) (uuidsGiven "2") r ∧
    (r.manager.services "web").isSome ∧ (r.manager.services "alt").isSome ∧
    (∀ key key' s s', r.manager.services key = some s → r.manager.services key' = some s' →
      s.cfg.UUID = s'.cfg.UUID →
      key = key') ∧
    (∀ key key' s s', r.routes key = some s → r.routes key' = some s' →
      s.cfg.UUID = s'.cfg.UUID → key = key') ∧
    ∀ env env', Ranges localSite r env → Ranges localSite r env' → ∀ uuid,
      localSite.services.find Config.UUID env.order uuid r =
        localSite.services.find Config.UUID env'.order uuid r ∧
      localSite.routes.find Route.RouteConfig.UUID env.routeOrder uuid r =
        localSite.routes.find Route.RouteConfig.UUID env'.routeOrder uuid r := by
  have begins : (system localSite).Run (fun r e => UUIDFree localSite e.2 r e.1) []
      (empty [] fun _ => none) :=
    .start localSite_starts
  have none_yet : UUIDFree localSite (calm [] []) (empty [] fun _ => none)
      (.addService (tunnelOf "1" "web" "7001") true) :=
    fun _ _ found => nomatch found
  have other : UUIDFree localSite (calm ["web"] []) afterFirst
      (.addService (tunnelOf "2" "alt" "7002") true) := by
    intro key cfg found
    rcases of_added afterFirst_effect found with rfl | before
    · decide
    · exact nomatch before
  have first : (system localSite).Run (fun r e => UUIDFree localSite e.2 r e.1)
      [(.addService (tunnelOf "1" "web" "7001") true, calm [] [])] afterFirst := begins.step none_yet rfl
  have second : (system localSite).Run (fun r e => UUIDFree localSite e.2 r e.1)
      (uuidsGiven "2") afterSecond :=
    first.step other rfl
  exact ⟨afterSecond, second, by decide +kernel, by decide +kernel, uuids_of_run second⟩

/-- The two tunnels carry the same UUID, and both are added. -/
theorem uuid_shared : ¬ ∀ events r, (system localSite).Run (fun _ _ => True) events r →
    ∀ key key' s s', r.manager.services key = some s → r.manager.services key' = some s' →
      s.cfg.UUID = s'.cfg.UUID →
      key = key' := by
  intro claimed
  have played : ((system localSite).play (fun _ _ => true) (uuidsGiven "1") (empty [] fun _ => none)).any
      (fun r => (r.manager.services "web").any (fun s => s.cfg.UUID = "1") &&
        (r.manager.services "alt").any fun s => s.cfg.UUID = "1") = true := by
    decide +kernel
  obtain ⟨r, run, seen⟩ := System.Run.of_play localSite_starts played
  clear played
  obtain ⟨first, second⟩ := Bool.and_eq_true_iff.mp seen
  obtain ⟨s, present, uuid⟩ := (Option.any_eq_true _ _).mp first
  obtain ⟨s', present', uuid'⟩ := (Option.any_eq_true _ _).mp second
  have same := claimed _ r (run.mono fun _ _ _ => trivial) "web" "alt" s s' present present'
    ((of_decide_eq_true uuid).trans (of_decide_eq_true uuid').symm)
  exact absurd same (by decide)

end Registry
end Gotun.Tun
