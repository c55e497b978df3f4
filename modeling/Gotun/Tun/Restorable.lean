import Gotun.Tun.Restart

/-! What the checks of a route see of its members, and which operations of `tun/manager.go` leave a
directory that can be loaded. -/

namespace Gotun.Tun

open Gotun.Lib

/-! The checks of a route. -/

namespace Route

variable {lib : Libraries} {services services' : Table String Config} {r : RouteConfig}
  {members : List String}

/-- What the checks look at of a member. -/
def seen (lib : Libraries) (cfg : Config) : Except Err (String × InProtoSocks5X) × Except Err Protocol :=
  (routeQualityProxy lib cfg, memberInputProto cfg)

/-- The members look the same. -/
def SameMembers (lib : Libraries) (services services' : Table String Config)
    (members : List String) : Prop :=
  ∀ m ∈ members, (services' m).map (seen lib) = (services m).map (seen lib)

theorem SameMembers.of_eq (same : ∀ m ∈ members, services' m = services m) :
    SameMembers lib services services' members :=
  fun m member => congrArg _ (same m member)

theorem SameMembers.cons {m : String} (same : SameMembers lib services services' (m :: members)) :
    (services' m).map (seen lib) = (services m).map (seen lib) ∧
      SameMembers lib services services' members :=
  List.forall_mem_cons.mp same

theorem checkRouteMembers_same (same : SameMembers lib services services' members)
    (before warnings : List String) :
    checkRouteMembers lib services' r before warnings members =
      checkRouteMembers lib services r before warnings members := by
  induction members generalizing before warnings with
  | nil => rfl
  | cons m rest ih =>
    obtain ⟨first, others⟩ := same.cons
    rw [checkRouteMembers, checkRouteMembers]
    cases here : services m with
    | none =>
      rw [here, Option.map_none, Option.map_eq_none_iff] at first
      rw [first]
    | some cfg =>
      rw [here, Option.map_some, Option.map_eq_some_iff] at first
      obtain ⟨cfg', there, alike⟩ := first
      have proxy : routeQualityProxy lib cfg' = routeQualityProxy lib cfg := (Prod.mk.inj alike).1
      rw [there]
      simp only [proxy, ih others]

theorem checkProtocols_same (same : SameMembers lib services services' members)
    (want : Option Protocol) :
    checkProtocols services' want members = checkProtocols services want members := by
  induction members generalizing want with
  | nil => rfl
  | cons m rest ih =>
    obtain ⟨first, others⟩ := same.cons
    have proto : (services' m).elim (.error (.failed "")) memberInputProto =
        (services m).elim (.error (.failed "")) memberInputProto := by
      cases here : services m with
      | none =>
        rw [here, Option.map_none, Option.map_eq_none_iff] at first
        rw [first]
      | some cfg =>
        rw [here, Option.map_some, Option.map_eq_some_iff] at first
        obtain ⟨cfg', there, alike⟩ := first
        rw [there]
        exact (Prod.mk.inj alike).2
    rw [checkProtocols, checkProtocols, proto]
    simp only [ih others]

/-- Members that pass are registered. -/
theorem checkRouteMembers_known {before warnings warnings' : List String}
    (ok : checkRouteMembers lib services r before warnings members = .ok warnings') :
    ∀ m ∈ members, (services m).isSome := by
  induction members generalizing before warnings with
  | nil => exact fun m member => absurd member List.not_mem_nil
  | cons m rest ih =>
    rw [checkRouteMembers] at ok
    cases here : services m with
    | none =>
      rw [here] at ok
      cases ok
    | some cfg =>
      refine List.forall_mem_cons.mpr ⟨by rw [here]; rfl, ?_⟩
      rw [here] at ok
      dsimp only at ok
      by_cases input : r.Mode ≠ RouteModeInput
      · rw [if_pos input] at ok
        exact ih ok
      · rw [if_neg input] at ok
        cases proxy : routeQualityProxy lib cfg with
        | ok _ =>
          rw [proxy] at ok
          exact ih ok
        | error e =>
          rw [proxy] at ok
          dsimp only at ok
          split_ifs at ok
          · exact ih ok
          · exact ih ok

/-- The probes of the full path give no warnings. -/
theorem checkRouteMembers_silent (full : r.Mode = RouteModeInput → r.ProbeMode = RouteProbeFullPath)
    {before warnings warnings' : List String}
    (ok : checkRouteMembers lib services r before warnings members = .ok warnings') :
    warnings' = warnings := by
  induction members generalizing before with
  | nil => exact (Except.ok.inj ok).symm
  | cons m rest ih =>
    rw [checkRouteMembers] at ok
    cases here : services m with
    | none =>
      rw [here] at ok
      cases ok
    | some cfg =>
      rw [here] at ok
      dsimp only at ok
      by_cases input : r.Mode = RouteModeInput
      · have fresh : ¬ (r.ProbeMode = RouteProbeLegacyFrame ∧ m ∈ before) := by
          rw [full input]
          exact fun both => absurd both.1 (by decide)
        have probed : r.usesFullPathProbe = true := decide_eq_true ⟨input, full input⟩
        rw [if_neg (not_not_intro input), if_neg fresh] at ok
        cases proxy : routeQualityProxy lib cfg with
        | ok _ =>
          rw [proxy] at ok
          exact ih ok
        | error e =>
          rw [proxy] at ok
          dsimp only at ok
          rw [if_pos probed] at ok
          cases ok
      · rw [if_pos input] at ok
        exact ih ok

/-- The warnings of a configuration do not matter to the checks. -/
theorem checkRouteMembers_warnings (given before warnings : List String) :
    checkRouteMembers lib services { r with ProbeWarnings := given } before warnings members =
      checkRouteMembers lib services r before warnings members := by
  induction members generalizing before warnings with
  | nil => rfl
  | cons m rest ih =>
    rw [checkRouteMembers, checkRouteMembers]
    simp only [ih]
    rfl

theorem of_listenTaken {routes : Table String RouteConfig} {order : List String}
    {excludeUUID listen : String} (free : listenTaken routes order excludeUUID listen = none)
    (covers : routes.Covers order) {name : String} {other : RouteConfig}
    (found : routes name = some other)
    (differs : other.UUID ≠ excludeUUID) : other.Listen ≠ listen := by
  intro same
  refine List.find?_eq_none.mp free name (covers name other found) ?_
  rw [found]
  exact decide_eq_true ⟨differs, same⟩

/-- A probe mode that passes is the one of the full path, none, or in the input mode that of single
hops. -/
theorem RouteConfig.checkModes_probe (ok : r.checkModes = .ok ()) :
    r.ProbeMode = "" ∨ r.usesFullPathProbe = true ∨ r.Mode = RouteModeInput ∧
      r.ProbeMode = RouteProbeLegacyFrame := by
  by_contra other
  have invalid : r.ProbeMode ≠ "" ∧ ¬ r.usesFullPathProbe = true ∧
      ¬ (r.Mode = RouteModeInput ∧ r.Policy = "priority" ∧ r.ProbeMode = RouteProbeLegacyFrame) :=
    ⟨fun none_ => other (.inl none_), fun full => other (.inr (.inl full)),
      fun old => other (.inr (.inr ⟨old.1, old.2.2⟩))⟩
  unfold RouteConfig.checkModes at ok
  rw [if_pos invalid] at ok
  simp only [bind, Except.bind, throw, throwThe, MonadExceptOf.throw] at ok
  split_ifs at ok

theorem RouteConfig.normalize_probe
    (input : r.normalize.Mode = RouteModeInput) : r.normalize.ProbeMode ≠ "" := by
  simp only [RouteConfig.normalize, RouteConfig.withModes] at input ⊢
  split_ifs <;> simp_all [RouteProbeFullPath]

theorem RouteConfig.normalize_legacy_of (old : r.normalize.ProbeMode = RouteProbeLegacyFrame) :
    r.ProbeMode = RouteProbeLegacyFrame := by
  simp only [RouteConfig.normalize, RouteConfig.withModes] at old
  split_ifs at old <;> simp_all [RouteProbeFullPath, RouteProbeLegacyFrame]

theorem RouteConfig.normalize_input_of
    (input : r.normalize.Mode = RouteModeInput) : r.Mode = RouteModeInput := by
  simp only [RouteConfig.normalize, RouteConfig.withModes, orDefault] at input
  split_ifs at input <;> simp_all [RouteModeInput, RouteModeOutput]

theorem RouteConfig.normalize_listen (r : RouteConfig) : r.normalize.Listen = r.Listen := by
  simp only [RouteConfig.normalize, RouteConfig.withModes]
  split_ifs <;> rfl

theorem RouteConfig.normalize_created (r : RouteConfig) : r.normalize.CreatedAt = r.CreatedAt := by
  simp only [RouteConfig.normalize, RouteConfig.withModes]
  split_ifs <;> rfl

end Route

namespace Registry

variable {site : Site} {env : Env} {r : Registry} {given cfg : Route.RouteConfig} {excludeUUID : String}

/-- A route that has passed, with no probes of single hops, passes again. -/
theorem Validated.reloads (valid : Validated site env r given excludeUUID cfg)
    (identity : given.UUID ≠ "" ∧ given.CreatedAt ≠ 0)
    (new : given.Mode = Route.RouteModeInput → given.ProbeMode ≠ Route.RouteProbeLegacyFrame)
    (built : ∃ make, site.routes.build cfg = .ok make) :
    Reloads site (site.services.configs r) cfg := by
  have free := valid.free
  have again := valid.again
  have named := valid.uuid
  obtain ⟨modes, _⟩ := Route.RouteConfig.check_iff.mp (Route.RouteConfig.of_validateBasic valid.basic).2
  have full : given.normalize.Mode = Route.RouteModeInput →
      given.normalize.ProbeMode = Route.RouteProbeFullPath := by
    intro input
    rcases Route.RouteConfig.checkModes_probe modes with none_ | full | old
    · exact absurd none_ (Route.RouteConfig.normalize_probe input)
    · exact (of_decide_eq_true full : _ ∧ _).2
    · exact absurd (Route.RouteConfig.normalize_legacy_of old.2)
        (new (Route.RouteConfig.normalize_input_of input))
  have protocols := valid.protocols
  obtain ⟨warnings, members, rfl⟩ := valid.members
  obtain rfl := Route.checkRouteMembers_silent full members
  refine ⟨⟨?_, ?_⟩, built, again, full, rfl, free, ?_, protocols⟩
  · rw [named]
    exact identity.1
  · show given.normalize.CreatedAt ≠ 0
    rw [Route.RouteConfig.normalize_created]
    exact identity.2
  · exact (Route.checkRouteMembers_warnings _ _ _).trans members

theorem Reloads.members_known {tunnels : Table String Config} (reloads : Reloads site tunnels cfg) :
    ∀ m ∈ cfg.Members, (tunnels m).isSome := Route.checkRouteMembers_known reloads.members

/-- Other tunnels will do if the members look the same. -/
theorem Reloads.other {tunnels tunnels' : Table String Config} (reloads : Reloads site tunnels cfg)
    (noTunnel : tunnels' cfg.Name = none)
    (same : Route.SameMembers site.lib tunnels tunnels' cfg.Members) :
    Reloads site tunnels' cfg :=
  { reloads with
    noTunnel := noTunnel
    members := (Route.checkRouteMembers_same same _ _).trans reloads.members
    protocols := fun input => (Route.checkProtocols_same same _).trans (reloads.protocols input) }

end Registry

/-! What an operation leaves if it succeeds. -/

namespace Shelf

variable {κ ι κ' ι' : Type} {S : Shelf κ ι} {T : Shelf κ' ι'} {site : Site} {env : Env}
  {r r' : Registry} {cfg : κ} (lawful : S.Lawful) (lawful' : T.Lawful) (beside : S.Beside T)
  (plain : S.Plain)

include lawful lawful' beside plain

theorem addLocked_leaves (settled : S.Settled cfg) {createFile : Bool}
    (ran : S.addLocked site env cfg createFile r = (.ok (), r')) :
    S.Leaves T r r' ((S.configs r).put (S.files.name cfg) cfg) ∧ (∃ make, S.build cfg = .ok make) ∧
      (createFile = true → Wrote (S.files.createFile site.host.dir.place env.faults.file cfg) r r') := by
  rcases addLocked_effect lawful lawful' beside plain site env settled createFile r with
    ⟨e, _, failed, _⟩ | ⟨_, added, leaves⟩
  · rw [failed] at ran
    cases ran
  · rw [added] at ran
    cases ran
    exact leaves

theorem replaceLocked_leaves {oldName newName : String} {old : ι}
    (present : S.entries r oldName = some old) (settledOld : S.Settled (S.cfg old))
    (settled : S.Settled cfg)
    (ran : S.replaceLocked site env oldName old newName cfg r = (.ok (), r')) :
    S.Leaves T r r' ((S.configs r).move oldName newName cfg) ∧ (∃ make, S.build cfg = .ok make) ∧
      Wrote (S.files.replaceFile site.host.dir.place env.faults.file (S.cfg old) cfg) r r' := by
  rcases replaceLocked_effect lawful lawful' beside plain site env present settledOld
    settled newName with
    ⟨e, _, failed, _⟩ | ⟨_, replaced, leaves⟩
  · rw [failed] at ran
    cases ran
  · rw [replaced] at ran
    cases ran
    exact leaves

theorem remove_leaves {name : String} (ran : S.remove site env name r = (.ok (), r')) :
    S.Leaves T r r' ((S.configs r).drop name) ∧
      Wrote (S.files.deleteFile site.host.dir.place env.faults.file name) r r' := by
  rcases remove_effect lawful lawful' beside plain site env name r with
    ⟨e, _, failed, _⟩ | ⟨_, removed, leaves⟩
  · rw [failed] at ran
    cases ran
  · rw [removed] at ran
    cases ran
    exact leaves

end Shelf

namespace Registry

variable {site : Site} {env : Env} {r r' : Registry}

theorem owners_services {before : Table String (Nat × List Listener)} {name : String}
    {entry : Option (Nat × List Listener)}
    (own : site.services.owners r' = Function.update before name entry)
    (same : site.routes.owners r' = site.routes.owners r) :
    site.owners r' = Function.update (Table.join before (site.routes.owners r)) (true, name) entry := by
  rw [Site.owners, own, same, Table.join_update_left]

theorem owners_routes {before : Table String (Nat × List Listener)} {name : String}
    {entry : Option (Nat × List Listener)}
    (own : site.routes.owners r' = Function.update before name entry)
    (same : site.services.owners r' = site.services.owners r) :
    site.owners r' = Function.update (Table.join (site.services.owners r) before)
      (false, name) entry := by
  rw [Site.owners, own, same, Table.join_update_right]

theorem owners_of_service {name : String} {s : Service}
    (present : site.services.entries r name = some s) :
    site.owners r (true, name) = some (s.id, site.services.listeners s.cfg) := by
  show (site.services.entries r name).map _ = _
  rw [present]
  rfl

theorem owners_of_route {name : String} {s : RouteService}
    (present : site.routes.entries r name = some s) :
    site.owners r (false, name) = some (s.id, site.routes.listeners s.cfg) := by
  show (site.routes.entries r name).map _ = _
  rw [present]
  rfl

/-! Tunnels. -/

section tunnels

variable (cfg : Config) (restorable : Restorable site r)

include restorable

theorem Restorable.tunnelAdded (free : site.routes.configs r cfg.Name = none)
    (absent : site.services.configs r cfg.Name = none)
    (identity : cfg.UUID ≠ "" ∧ cfg.CreatedAt ≠ 0)
    (unhindered : Unhindered site env r (site.services.waits cfg) (site.services.listeners cfg)
      (true, cfg.Name) none)
    (ran : site.services.addLocked site env cfg true r = (.ok (), r')) : Restorable site r' := by
  obtain ⟨leaves, built, wrote⟩ :=
    Shelf.addLocked_leaves (services_lawful site) (routes_lawful site) (services_beside site)
    (services_plain site) (services_settled site cfg) ran
  have renewed := Shelf.addLocked_ok (services_lawful site) (routes_lawful site) (services_beside site)
    (services_aside site) (services_numbered site) (services_steady site) (services_settled site cfg) ran
  have map : site.services.configs r' = (site.services.configs r).put cfg.Name cfg := leaves.configs
  obtain ⟨b, written⟩ := wrote rfl
  constructor
  · rw [map]
    exact restorable.services.put rfl
  · rw [leaves.beside]
    exact restorable.routes
  · rw [map, leaves.beside]
    exact restorable.contents.created (serviceFiles_regular _ _) (routeFiles_regular _ _)
      (routes_files site).other written
  · intro name tunnel found
    rw [map] at found
    rcases Table.of_put found with ⟨_, rfl⟩ | ⟨_, old⟩
    · exact ⟨identity.1, identity.2, built⟩
    · exact restorable.tunnels name tunnel old
  · intro name route found
    rw [leaves.beside] at found
    have reloads := restorable.reloads name route found
    have own := restorable.routes name route found
    rw [map]
    refine reloads.other ?_ (.of_eq fun m member => ?_)
    · have ne : route.Name ≠ cfg.Name := by
        intro same
        rw [own] at same
        rw [← same, found] at free
        cases free
      rw [Table.put, Function.update_of_ne ne]
      exact reloads.noTunnel
    · have ne : m ≠ cfg.Name := by
        rintro rfl
        have known := reloads.members_known _ member
        rw [absent] at known
        cases known
      exact Function.update_of_ne ne ..
  · rw [leaves.beside]
    exact restorable.listens
  · rw [owners_services renewed.owners renewed.beside, renewed.next]
    exact spread_added (services_narrow site) restorable.spread renewed.opened unhindered

theorem Restorable.tunnelReplaced {oldName : String} {old : Service}
    (present : site.services.entries r oldName = some old)
    (identity : cfg.UUID ≠ "" ∧ cfg.CreatedAt ≠ 0)
    (seen : env.faults.file .stat = none ∨ cfg.Name = oldName)
    (reloads : ∀ name route, site.routes.configs r name = some route →
      Reloads site ((site.services.configs r).move oldName cfg.Name cfg) route)
    (unhindered : Unhindered site env r (site.services.waits cfg) (site.services.listeners cfg)
      (true, cfg.Name) (some (true, oldName)))
    (ran : site.services.replaceLocked site env oldName old cfg.Name cfg r = (.ok (), r')) :
    Restorable site r' := by
  obtain ⟨leaves, built, wrote⟩ := Shelf.replaceLocked_leaves (services_lawful site) (routes_lawful site)
    (services_beside site) (services_plain site) present (services_settled site _)
      (services_settled site cfg) ran
  have renewed := Shelf.replaceLocked_ok (services_lawful site) (routes_lawful site)
    (services_beside site) (services_aside site) (services_numbered site) (services_steady site)
    (services_settled site cfg) ran
  obtain ⟨b, written⟩ := wrote
  have own : old.cfg.Name = oldName := restorable.services _ _ (configs_of_entries present)
  have seen : env.faults.file .stat = none ∨ cfg.Name = old.cfg.Name := by
    rw [own]
    exact seen
  constructor
  · rw [leaves.configs]
    exact restorable.services.move oldName rfl
  · rw [leaves.beside]
    exact restorable.routes
  · rw [leaves.configs, leaves.beside, ← own]
    exact restorable.contents.replaced (serviceFiles_regular _ _) (routeFiles_regular _ _)
      (routes_files site).other seen written
  · intro name tunnel found
    rw [leaves.configs] at found
    rcases Table.of_move found with ⟨_, rfl⟩ | ⟨_, _, old⟩
    · exact ⟨identity.1, identity.2, built⟩
    · exact restorable.tunnels name tunnel old
  · intro name route found
    rw [leaves.beside] at found
    rw [leaves.configs]
    exact reloads name route found
  · rw [leaves.beside]
    exact restorable.listens
  · have dropped : ((site.services.owners r).drop oldName).join (site.routes.owners r) =
        ((site.services.owners r).join (site.routes.owners r)).drop (true, oldName) :=
      Table.join_update_left oldName none
    rw [owners_services renewed.owners renewed.beside, renewed.next, dropped]
    exact spread_replaced (services_narrow site) restorable.spread
      (owners_of_service present) renewed.opened unhindered

theorem Restorable.tunnelRemoved {name : String}
    (unused : ∀ key route, site.routes.configs r key = some route → name ∉ route.Members)
    (ran : site.services.remove site env name r = (.ok (), r')) : Restorable site r' := by
  obtain ⟨leaves, b, written⟩ := Shelf.remove_leaves (services_lawful site) (routes_lawful site)
    (services_beside site) (services_plain site) ran
  obtain ⟨owners, same, next⟩ := Shelf.remove_ok (services_lawful site) (routes_lawful site)
    (services_beside site) (services_aside site) ran
  constructor
  · rw [leaves.configs]
    exact restorable.services.drop name
  · rw [leaves.beside]
    exact restorable.routes
  · rw [leaves.configs, leaves.beside]
    exact restorable.contents.deleted (routes_files site).other written
  · intro key tunnel found
    rw [leaves.configs] at found
    exact restorable.tunnels key tunnel (Table.of_drop found).2
  · intro key route found
    rw [leaves.beside] at found
    rw [leaves.configs]
    have reloads := restorable.reloads key route found
    refine reloads.other (Table.drop_none reloads.noTunnel) (.of_eq fun m member => ?_)
    have ne : m ≠ name := by
      rintro rfl
      exact unused key route found member
    exact Function.update_of_ne ne ..
  · rw [leaves.beside]
    exact restorable.listens
  · rw [owners_services owners same, next]
    exact restorable.spread.drop (true, name)

end tunnels

/-! Routes. -/

section routes

variable {given cfg : Route.RouteConfig} {excludeUUID : String}

theorem routes_waits (cfg : Route.RouteConfig) : site.routes.waits cfg = false := by
  unfold Shelf.waits
  cases site.routes.build cfg with
  | error e => rfl
  | ok make => rfl

/-- A route listens on what its checked configuration says. -/
theorem routes_listeners {checked : Route.RouteConfig}
    (ok : given.validateBasic site.lib = .ok checked) :
    site.routes.listeners given = match routeListener site checked with
      | .ok listener => if checked.Disabled then [] else [listener]
      | .error _ => [] := by
  have built : site.routes.build given = (routeListener site checked).map fun listener id =>
      ⟨id, checked, listener⟩ := by
    show newRouteService site given = _
    unfold newRouteService
    rw [ok]
    show (routeListener site checked >>= fun listener => pure fun id =>
      (⟨id, checked, listener⟩ : RouteService)) = _
    cases routeListener site checked <;> rfl
  rw [Shelf.listeners, built]
  cases routeListener site checked <;> rfl

/-- The checks do not change it. -/
theorem Validated.listeners (valid : Validated site env r given excludeUUID cfg) :
    site.routes.listeners cfg = site.routes.listeners given := by
  have again := valid.again
  have basic := valid.basic
  obtain ⟨warnings, _, same⟩ := valid.members
  generalize given.normalize = checked at same basic
  rw [routes_listeners again, routes_listeners basic, same]
  rfl

theorem Validated.listen_eq
    (valid : Validated site env r given excludeUUID cfg) : cfg.Listen = given.Listen := by
  obtain ⟨warnings, _, rfl⟩ := valid.members
  exact Route.RouteConfig.normalize_listen given

theorem Validated.listens (valid : Validated site env r given excludeUUID cfg)
    (covers : (site.routes.configs r).Covers env.routeOrder) {name : String}
    {other : Route.RouteConfig} (found : site.routes.configs r name = some other)
    (differs : other.UUID ≠ excludeUUID) : other.Listen ≠ cfg.Listen := by
  have free := valid.listen
  obtain ⟨warnings, _, same⟩ := valid.members
  rw [same]
  exact Route.of_listenTaken free covers found differs

variable (restorable : Restorable site r)

include restorable

theorem Restorable.routeAdded (valid : Validated site env r given "" cfg)
    (identity : given.UUID ≠ "" ∧ given.CreatedAt ≠ 0)
    (new : given.Mode = Route.RouteModeInput → given.ProbeMode ≠ Route.RouteProbeLegacyFrame)
    (covers : (site.routes.configs r).Covers env.routeOrder)
    (unhindered : Unhindered site env r (site.routes.waits given) (site.routes.listeners given)
      (false, given.Name) none)
    (ran : site.routes.addLocked site env cfg true r = (.ok (), r')) : Restorable site r' := by
  obtain ⟨leaves, built, wrote⟩ := Shelf.addLocked_leaves (routes_lawful site)
    (services_lawful site) (routes_beside site) (routes_plain site) (routes_settled valid.again) ran
  have renewed := Shelf.addLocked_ok (routes_lawful site) (services_lawful site) (routes_beside site)
    (routes_aside site) (routes_numbered site) (routes_steady site) (routes_settled valid.again) ran
  have map : site.routes.configs r' = (site.routes.configs r).put cfg.Name cfg := leaves.configs
  obtain ⟨b, written⟩ := wrote rfl
  have unhindered : Unhindered site env r (site.routes.waits cfg) (site.routes.listeners cfg)
      (false, cfg.Name) none := by
    rw [routes_waits, valid.listeners, valid.name]
    rwa [routes_waits] at unhindered
  constructor
  · rw [leaves.beside]
    exact restorable.services
  · rw [map]
    exact restorable.routes.put rfl
  · rw [map, leaves.beside]
    exact (restorable.contents.symm.created (routeFiles_regular _ _) (serviceFiles_regular _ _)
      (services_files site).other written).symm
  · rw [leaves.beside]
    exact restorable.tunnels
  · intro name route found
    rw [leaves.beside]
    rw [map] at found
    rcases Table.of_put found with ⟨_, rfl⟩ | ⟨_, old⟩
    · exact valid.reloads identity new built
    · exact restorable.reloads name route old
  · rw [map]
    apply restorable.listens.put
    exact fun other route found _ => valid.listens covers found
      (restorable.reloads other route found).identity.1
  · rw [owners_routes renewed.owners renewed.beside, renewed.next]
    exact spread_added (routes_narrow site) restorable.spread renewed.opened unhindered

theorem Restorable.routeReplaced {oldName newName : String} {old : RouteService}
    (present : site.routes.entries r oldName = some old)
    (valid : Validated site env r given old.cfg.UUID cfg) (own : cfg.Name = newName)
    (identity : given.UUID ≠ "" ∧ given.CreatedAt ≠ 0)
    (new : given.Mode = Route.RouteModeInput → given.ProbeMode ≠ Route.RouteProbeLegacyFrame)
    (seen : env.faults.file .stat = none ∨ newName = oldName)
    (listens : ((site.routes.configs r).move oldName newName cfg).Unique Route.RouteConfig.Listen)
    (unhindered : Unhindered site env r (site.routes.waits given) (site.routes.listeners given)
      (false, newName) (some (false, oldName)))
    (ran : site.routes.replaceLocked site env oldName old newName cfg r = (.ok (), r')) :
    Restorable site r' := by
  have settled := routes_settled valid.again
  have oldSettled := routes_settled (restorable.reloads _ _ (configs_of_entries present)).checked
  obtain ⟨leaves, built, b, written⟩ := Shelf.replaceLocked_leaves (routes_lawful site)
    (services_lawful site) (routes_beside site) (routes_plain site) present oldSettled settled ran
  have renewed := Shelf.replaceLocked_ok (routes_lawful site) (services_lawful site) (routes_beside site)
    (routes_aside site) (routes_numbered site) (routes_steady site) settled ran
  have oldOwn : old.cfg.Name = oldName := restorable.routes _ _ (configs_of_entries present)
  have seen : env.faults.file .stat = none ∨ cfg.Name = old.cfg.Name := by
    rw [own, oldOwn]
    exact seen
  have unhindered :
    Unhindered site env r (site.routes.waits cfg) (site.routes.listeners cfg) (false, newName)
      (some (false, oldName)) := by
    rw [routes_waits, valid.listeners]
    rwa [routes_waits] at unhindered
  constructor
  · rw [leaves.beside]
    exact restorable.services
  · rw [leaves.configs]
    exact restorable.routes.move oldName own
  · rw [leaves.configs, leaves.beside, ← oldOwn, ← own]
    exact (restorable.contents.symm.replaced (routeFiles_regular _ _) (serviceFiles_regular _ _)
      (services_files site).other seen written).symm
  · rw [leaves.beside]
    exact restorable.tunnels
  · intro name route found
    rw [leaves.beside]
    rw [leaves.configs] at found
    rcases Table.of_move found with ⟨_, rfl⟩ | ⟨_, _, old⟩
    · exact valid.reloads identity new built
    · exact restorable.reloads name route old
  · rw [leaves.configs]
    exact listens
  · have dropped : (site.services.owners r).join ((site.routes.owners r).drop oldName) =
        ((site.services.owners r).join (site.routes.owners r)).drop (false, oldName) :=
      Table.join_update_right oldName none
    rw [owners_routes renewed.owners renewed.beside, renewed.next, dropped]
    exact spread_replaced (routes_narrow site) restorable.spread
      (owners_of_route present) renewed.opened unhindered

theorem Restorable.routeRemoved {name : String}
    (ran : site.routes.remove site env name r = (.ok (), r')) :
    Restorable site r' := by
  obtain ⟨leaves, b, written⟩ := Shelf.remove_leaves (routes_lawful site) (services_lawful site)
    (routes_beside site) (routes_plain site) ran
  obtain ⟨owners, same, next⟩ := Shelf.remove_ok (routes_lawful site) (services_lawful site)
    (routes_beside site) (routes_aside site) ran
  constructor
  · rw [leaves.beside]
    exact restorable.services
  · rw [leaves.configs]
    exact restorable.routes.drop name
  · rw [leaves.configs, leaves.beside]
    exact (restorable.contents.symm.deleted (services_files site).other written).symm
  · rw [leaves.beside]
    exact restorable.tunnels
  · intro key route found
    rw [leaves.configs] at found
    rw [leaves.beside]
    exact restorable.reloads key route (Table.of_drop found).2
  · rw [leaves.configs]
    exact restorable.listens.drop name
  · rw [owners_routes owners same, next]
    exact restorable.spread.drop (false, name)

end routes

end Registry

end Gotun.Tun
