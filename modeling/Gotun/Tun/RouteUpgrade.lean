import Gotun.Tun.Identity

/-! How `AddRoute` of `tun/manager.go` loads a route that was saved before the probes of the full path:
which probe mode it ends with, and when it is refused. -/

namespace Gotun.Tun

open Gotun.Lib

namespace Route

variable {lib : Libraries} {r : RouteConfig}

/-! The checks one by one. -/

theorem RouteConfig.check_iff : r.check lib = .ok () ↔ r.checkModes = .ok () ∧
    (r.usesFullPathProbe = true → r.Quality.validate lib = .ok ()) ∧ r.Members ≠ [] ∧
    checkMembers r.usesFullPathProbe [] r.Members = .ok () ∧
      checkListen lib r.Mode r.Listen = .ok () := by
  unfold RouteConfig.check
  rcases r.checkModes with e | ⟨⟩
  · simp [bind, Except.bind]
  by_cases full : r.usesFullPathProbe = true
  · rcases r.Quality.validate lib with e | ⟨⟩
    · simp [full, bind, Except.bind]
    · by_cases empty : r.Members = []
      · simp [full, empty, bind, Except.bind, throw, throwThe, MonadExceptOf.throw]
      · rcases checkMembers r.usesFullPathProbe [] r.Members with e | ⟨⟩ <;>
          simp [full, empty, bind, Except.bind]
  · by_cases empty : r.Members = []
    · simp [full, empty, bind, Except.bind, throw, throwThe, MonadExceptOf.throw]
    · rcases checkMembers r.usesFullPathProbe [] r.Members with e | ⟨⟩ <;>
        simp [full, empty, bind, Except.bind]

theorem RouteConfig.checkModes_iff (input : r.Mode = RouteModeInput) (policy : r.Policy = "priority")
    (probe : r.ProbeMode = RouteProbeFullPath ∨ r.ProbeMode = RouteProbeLegacyFrame) :
    r.checkModes = .ok () ↔ blank r.Name = false := by
  unfold RouteConfig.checkModes
  by_cases named : blank r.Name = true
  · simp [named, bind, Except.bind, throw, throwThe, MonadExceptOf.throw]
  · rcases probe with probe | probe <;>
      simp [named, input, policy, probe, RouteConfig.usesFullPathProbe, RouteModeInput,
        RouteModeOutput, RouteProbeFullPath, RouteProbeLegacyFrame, pure, Except.pure]

theorem RouteConfig.normalize_full (input : r.Mode = RouteModeInput)
    (probe : r.ProbeMode = RouteProbeFullPath) :
    r.normalize =
      { r with Policy := orDefault "" "priority" r.Policy, Quality := r.Quality.normalize } := by
  cases r
  subst input probe
  rfl

theorem RouteConfig.normalize_legacy (input : r.Mode = RouteModeInput)
    (probe : r.ProbeMode = RouteProbeLegacyFrame) :
    r.normalize = { r with Policy := orDefault "" "priority" r.Policy } := by
  cases r
  subst input probe
  rfl

/-- Members that are distinct and not blank pass. -/
theorem checkMembers_of {fullPath : Bool} {seen members : List String}
    (named : ∀ m ∈ members, blank m = false)
    (distinct : fullPath = true → members.Nodup ∧ ∀ m ∈ members, m ∉ seen) :
    checkMembers fullPath seen members = .ok () := by
  induction members generalizing seen with
  | nil => rfl
  | cons m rest ih =>
    obtain ⟨first, others⟩ := List.forall_mem_cons.mp named
    have fresh : ¬ (fullPath = true ∧ m ∈ seen) :=
      fun ⟨full, before⟩ => (distinct full).2 m List.mem_cons_self before
    rw [checkMembers, if_neg (by simp [first]), if_neg fresh]
    refine ih others fun full => ?_
    obtain ⟨nodup, unseen⟩ := distinct full
    obtain ⟨absent, nodup⟩ := List.nodup_cons.mp nodup
    refine ⟨nodup, fun other member => List.not_mem_cons_of_ne_of_not_mem ?_
      (unseen other (List.mem_cons_of_mem m member))⟩
    rintro rfl
    exact absent member

/-- Members that can all be probed give no warning. -/
theorem checkRouteMembers_of {services : String → Option Config} (full : r.usesFullPathProbe = true)
    {members : List String}
    (accepted : ∀ m ∈ members, ∃ cfg, services m = some cfg ∧
      (routeQualityProxy lib cfg).toBool = true)
    (seen warnings : List String) :
    checkRouteMembers lib services r seen warnings members = .ok warnings := by
  obtain ⟨input, probe⟩ : r.Mode = RouteModeInput ∧ r.ProbeMode = RouteProbeFullPath :=
    of_decide_eq_true full
  induction members generalizing seen with
  | nil => rfl
  | cons m rest ih =>
    obtain ⟨⟨cfg, registered, proxy⟩, others⟩ := List.forall_mem_cons.mp accepted
    have fresh : ¬ (r.ProbeMode = RouteProbeLegacyFrame ∧ m ∈ seen) := by
      rw [probe]
      exact fun ⟨same, _⟩ => absurd same (by decide)
    rw [checkRouteMembers, registered]
    dsimp only
    rw [if_neg (not_not_intro input), if_neg fresh]
    cases ran : routeQualityProxy lib cfg with
    | error e =>
      rw [ran] at proxy
      contradiction
    | ok _ => exact ih others (m :: seen)

end Route

namespace Registry

variable (site : Site) (env : Env) (r : Registry)

/-- The check of a configuration that `AddRoute` loads. -/
def loadRoute (cfg : Route.RouteConfig) : Except Err Route.RouteConfig :=
  validateRouteLocked site env r
    (withIdentity env (withProbeMode site (site.services.configs r) cfg false)) ""

/-- The check of the same configuration with the probes of single hops. -/
def loadLegacy (cfg : Route.RouteConfig) : Except Err Route.RouteConfig :=
  validateRouteLocked site env r
    (withIdentity env { cfg with ProbeMode := Route.RouteProbeLegacyFrame }) ""

/-- Loading goes on with what the check returns. -/
theorem AddRoute_load (cfg : Route.RouteConfig) : AddRoute site env cfg false r =
    (Action.lift (loadRoute site env r cfg) >>= fun cfg => site.routes.addLocked site env cfg false)
      r := by
  rw [AddRoute, Action.choose_apply]
  simp only [Bool.false_eq_true, false_and, if_false]
  rfl

/-- A configuration that says nothing of the full path. -/
def Old (cfg : Route.RouteConfig) : Prop :=
  (cfg.Policy = "" ∨ cfg.Policy = "priority") ∧
    (cfg.ProbeMode = "" ∨ cfg.ProbeMode = Route.RouteProbeLegacyFrame)

/-- The members are distinct, and each that is registered can be probed over the full path. -/
def Suited (members : List String) : Prop :=
  members.Nodup ∧ ∀ m ∈ members, ∀ cfg, site.services.configs r m = some cfg →
    (Route.routeQualityProxy site.lib cfg).toBool = true

section load

variable {site env r} {cfg cfg' : Route.RouteConfig}

theorem legacyMembers_iff (seen members : List String) :
    legacyMembers site (site.services.configs r) seen members = false ↔
    Suited site r members ∧ ∀ m ∈ members, m ∉ seen := by
  induction members generalizing seen with
  | nil => simp [legacyMembers, Suited]
  | cons m rest ih =>
    rw [legacyMembers]
    by_cases before : m ∈ seen
    · rw [if_pos before]
      simp [before]
    rw [if_neg before]
    by_cases refused : ((site.services.configs r m).any fun cfg =>
      !(Route.routeQualityProxy site.lib cfg).toBool) = true
    · rw [if_pos refused]
      obtain ⟨cfg, registered, fails⟩ := (Option.any_eq_true _ _).mp refused
      have unsuited : ¬ Suited site r (m :: rest) := by
        intro suited
        rw [suited.2 m List.mem_cons_self cfg registered] at fails
        contradiction
      simp [unsuited]
    · rw [if_neg refused, ih]
      have accepted : ∀ cfg, site.services.configs r m = some cfg →
          (Route.routeQualityProxy site.lib cfg).toBool = true := by
        intro cfg registered
        rw [registered, Option.any_some] at refused
        simpa using refused
      constructor
      · rintro ⟨⟨nodup, proxies⟩, unseen⟩
        refine ⟨⟨List.nodup_cons.mpr ⟨fun member => unseen m member List.mem_cons_self, nodup⟩, ?_⟩, ?_⟩
        · exact List.forall_mem_cons.mpr ⟨accepted, proxies⟩
        · exact List.forall_mem_cons.mpr
            ⟨before, fun other member => List.not_mem_of_not_mem_cons (unseen other member)⟩
      · rintro ⟨⟨nodup, proxies⟩, unseen⟩
        obtain ⟨absent, nodup⟩ := List.nodup_cons.mp nodup
        refine ⟨⟨nodup, (List.forall_mem_cons.mp proxies).2⟩,
          fun other member => List.not_mem_cons_of_ne_of_not_mem ?_ ?_⟩
        · rintro rfl
          exact absent member
        · exact unseen other (List.mem_cons_of_mem m member)

theorem withProbeMode_suited (input : cfg.Mode = Route.RouteModeInput) (old : Old cfg)
    (suited : Suited site r cfg.Members) :
    withProbeMode site (site.services.configs r) cfg false =
      { cfg with ProbeMode := Route.RouteProbeFullPath } := by
  have fits := (legacyMembers_iff [] cfg.Members).mpr ⟨suited, fun _ _ => List.not_mem_nil⟩
  rw [withProbeMode, if_pos ⟨rfl, input, old.1, old.2⟩, fits]
  rfl

theorem withProbeMode_unsuited (input : cfg.Mode = Route.RouteModeInput) (old : Old cfg)
    (unsuited : ¬ Suited site r cfg.Members) :
    withProbeMode site (site.services.configs r) cfg false =
      { cfg with ProbeMode := Route.RouteProbeLegacyFrame } := by
  have legacy : legacyMembers site (site.services.configs r) [] cfg.Members = true := by
    by_contra fits
    exact unsuited ((legacyMembers_iff [] cfg.Members).mp (Bool.eq_false_iff.mpr fits)).1
  rw [withProbeMode, if_pos ⟨rfl, input, old.1, old.2⟩, legacy]
  rfl

theorem Old.policy (old : Old cfg) : Route.orDefault "" "priority" cfg.Policy = "priority" := by
  rcases old.1 with policy | policy <;> rw [policy] <;> rfl

/-- What the checks of a route look at besides its probes and its quality settings. -/
structure Fitting (site : Site) (env : Env) (r : Registry) (cfg : Route.RouteConfig) : Prop where
  named : Route.blank cfg.Name = false
  some_member : cfg.Members ≠ []
  members : ∀ m ∈ cfg.Members, Route.blank m = false
  listens : Route.checkListen site.lib Route.RouteModeInput cfg.Listen = .ok ()
  unnamed : (site.routes.configs r cfg.Name).any (fun other => other.UUID ≠ "") = false
  noTunnel : site.services.configs r cfg.Name = none
  protocols : Route.checkProtocols (site.services.configs r) none cfg.Members = .ok ()
  listen : Route.listenTaken (site.routes.configs r) env.routeOrder "" cfg.Listen = none

/-- A route that passes as an old one fits. -/
theorem fitting_of_legacy (input : cfg.Mode = Route.RouteModeInput) (old : Old cfg)
    (ok : loadLegacy site env r cfg = .ok cfg') : Fitting site env r cfg := by
  have valid := of_validateRouteLocked ok
  have same := Route.RouteConfig.normalize_legacy
    (r := withIdentity env { cfg with ProbeMode := Route.RouteProbeLegacyFrame }) input rfl
  obtain ⟨modes, _, some_member, members, listens⟩ := Route.RouteConfig.check_iff.mp
    (Route.RouteConfig.of_validateBasic valid.basic).2
  have unnamed := valid.unnamed
  have noTunnel := valid.noTunnel
  have protocols := valid.protocols
  have listen := valid.listen
  rw [same] at modes some_member members listens unnamed noTunnel protocols listen
  have named := (Route.RouteConfig.checkModes_iff (by exact input) (by exact old.policy)
    (by exact .inr rfl)).mp modes
  have listens : Route.checkListen site.lib cfg.Mode cfg.Listen = .ok () := listens
  rw [input] at listens
  exact ⟨named, some_member, (Route.checkMembers_ok members).1, listens, unnamed, noTunnel,
    protocols input, listen⟩

/-- The checks one after the other. -/
theorem validateRouteLocked_of {given checked : Route.RouteConfig} {excludeUUID : String}
    {warnings : List String} (basic : given.validateBasic site.lib = .ok checked)
    (unnamed : (site.routes.configs r checked.Name).any (fun other => other.UUID ≠ excludeUUID) =
      false)
    (noTunnel : site.services.configs r checked.Name = none)
    (members : Route.checkRouteMembers site.lib (site.services.configs r) checked []
      [] checked.Members = .ok warnings)
    (protocols : checked.Mode = Route.RouteModeInput →
      Route.checkProtocols (site.services.configs r) none checked.Members = .ok ())
    (listen : Route.listenTaken (site.routes.configs r) env.routeOrder excludeUUID checked.Listen =
      none) :
    validateRouteLocked site env r given excludeUUID =
      .ok { checked with ProbeWarnings := warnings } := by
  have tunnel : ¬ (site.services.configs r checked.Name).isSome = true := by
    rw [noTunnel]
    exact Bool.false_ne_true
  simp only [validateRouteLocked, Route.validateRouteLocked, basic, bind, Except.bind, pure,
    Except.pure, unnamed, Bool.false_eq_true, if_false, if_neg tunnel, members, listen]
  split_ifs with input
  · rw [protocols input]
  · rfl

theorem loadRoute_suited (input : cfg.Mode = Route.RouteModeInput) (old : Old cfg)
    (suited : Suited site r cfg.Members)
    (registered : ∀ m ∈ cfg.Members, (site.services.configs r m).isSome)
    (fitting : Fitting site env r cfg)
    (quality : cfg.Quality.normalize.validate site.lib = .ok ()) : ∃ cfg',
      loadRoute site env r cfg = .ok cfg' := by
  let given := withIdentity env { cfg with ProbeMode := Route.RouteProbeFullPath }
  have same := Route.RouteConfig.normalize_full (r := given) input rfl
  have full : given.normalize.usesFullPathProbe = true := by
    rw [same]
    exact decide_eq_true ⟨input, rfl⟩
  have checked : given.normalize.check site.lib = .ok () := by
    rw [Route.RouteConfig.check_iff, full, same]
    refine ⟨?_, fun _ => quality, fitting.some_member, ?_, ?_⟩
    · rw [Route.RouteConfig.checkModes_iff (by exact input) (by exact old.policy) (by exact .inl rfl)]
      exact fitting.named
    · exact Route.checkMembers_of fitting.members fun _ => ⟨suited.1, fun _ _ => List.not_mem_nil⟩
    · show Route.checkListen site.lib cfg.Mode cfg.Listen = .ok ()
      rw [input]
      exact fitting.listens
  have basic : given.validateBasic site.lib = .ok given.normalize := by
    simp only [Route.RouteConfig.validateBasic, checked]
    rfl
  have members : Route.checkRouteMembers site.lib (site.services.configs r) given.normalize []
    [] given.normalize.Members =
      .ok [] := by
    refine Route.checkRouteMembers_of full (fun m member => ?_) [] []
    rw [same] at member
    obtain ⟨cfg, there⟩ := Option.isSome_iff_exists.mp (registered m member)
    exact ⟨cfg, there, suited.2 m member cfg there⟩
  refine ⟨{ given.normalize with ProbeWarnings := [] }, ?_⟩
  rw [loadRoute, withProbeMode_suited input old suited]
  apply validateRouteLocked_of basic
  · rw [same]
    exact fitting.unnamed
  · rw [same]
    exact fitting.noTunnel
  · exact members
  · rw [same]
    exact fun _ => fitting.protocols
  · rw [same]
    exact fitting.listen

theorem withProbeMode_name (configs : String → Option Config) (createFile : Bool) :
    (withProbeMode site configs cfg createFile).Name = cfg.Name := by
  unfold withProbeMode
  split_ifs <;> rfl

variable (site r) in
theorem withProbeMode_full (probe : cfg.ProbeMode = Route.RouteProbeFullPath) :
    withProbeMode site (site.services.configs r) cfg false = cfg := by
  refine if_neg fun ⟨_, _, _, other⟩ => ?_
  rw [probe] at other
  exact absurd other (by decide)

/-- A route that was loaded has the configuration that the check returned. -/
theorem of_loaded {r' : Registry} (loaded : AddRoute site env cfg false r = (.ok (), r')) :
    ∃ cfg' s, loadRoute site env r cfg = .ok cfg' ∧ r'.routes cfg.Name = some s ∧ s.cfg = cfg' := by
  rw [AddRoute_load] at loaded
  cases checked : loadRoute site env r cfg with
  | error e =>
    rw [Action.bind_error _ (by rw [checked]; exact Action.lift_apply _ r)] at loaded
    cases loaded
  | ok cfg' =>
    have valid := of_validateRouteLocked checked
    have named : cfg'.Name = cfg.Name := valid.name.trans (withProbeMode_name _ _)
    rw [Action.bind_ok _ (by rw [checked]; exact Action.lift_apply _ r)] at loaded
    rcases Shelf.addLocked_effect (routes_lawful site) (services_lawful site)
      (routes_beside site) (routes_plain site) site env (routes_settled valid.again) false r with
      ⟨e, _, failed, _⟩ | ⟨_, added, leaves, _⟩
    · rw [failed] at loaded
      cases loaded
    · rw [added] at loaded
      cases loaded
      have there : site.routes.configs r' cfg'.Name = some cfg' := by
        rw [leaves.configs]
        exact Function.update_self ..
      obtain ⟨s, present, same⟩ := Option.map_eq_some_iff.mp there
      exact ⟨cfg', s, rfl, named ▸ present, same⟩

theorem loadRoute_full (input : cfg.Mode = Route.RouteModeInput)
    (full : withProbeMode site (site.services.configs r) cfg false =
      { cfg with ProbeMode := Route.RouteProbeFullPath })
    (ok : loadRoute site env r cfg = .ok cfg') :
    cfg'.ProbeMode = Route.RouteProbeFullPath ∧ cfg.Quality.normalize.validate site.lib = .ok () := by
  rw [loadRoute, full] at ok
  have valid := of_validateRouteLocked ok
  have same := Route.RouteConfig.normalize_full
    (r := withIdentity env { cfg with ProbeMode := Route.RouteProbeFullPath }) input rfl
  obtain ⟨_, quality, _⟩ :=
    Route.RouteConfig.check_iff.mp (Route.RouteConfig.of_validateBasic valid.basic).2
  obtain ⟨warnings, _, rfl⟩ := valid.members
  rw [same] at quality ⊢
  exact ⟨rfl, quality (decide_eq_true ⟨input, rfl⟩)⟩

theorem loadLegacy_mode (input : cfg.Mode = Route.RouteModeInput)
    (ok : loadLegacy site env r cfg = .ok cfg') :
    cfg'.ProbeMode = Route.RouteProbeLegacyFrame := by
  have valid := of_validateRouteLocked ok
  have same := Route.RouteConfig.normalize_legacy
    (r := withIdentity env { cfg with ProbeMode := Route.RouteProbeLegacyFrame }) input rfl
  obtain ⟨warnings, _, rfl⟩ := valid.members
  rw [same]
  rfl

end load

/-- What becomes of a route of the input mode that is loaded. -/
structure LoadedSafely (cfg : Route.RouteConfig) : Prop where
  kept : cfg.ProbeMode = Route.RouteProbeFullPath → ∀ r', AddRoute site env cfg false r = (.ok (), r') →
    ∃ s, r'.routes cfg.Name = some s ∧ s.cfg.ProbeMode = Route.RouteProbeFullPath
  chosen : Old cfg → ∀ r', AddRoute site env cfg false r = (.ok (), r') →
    ∃ s, r'.routes cfg.Name = some s ∧
    (Suited site r cfg.Members → s.cfg.ProbeMode = Route.RouteProbeFullPath) ∧
    (¬ Suited site r cfg.Members → s.cfg.ProbeMode = Route.RouteProbeLegacyFrame)
  loadable : Old cfg → (∃ e, loadRoute site env r cfg = .error e) →
    ∃ e, loadLegacy site env r cfg = .error e

/-- Where a route is upgraded, its quality settings are valid, or it would be refused anyway. -/
def UpgradeFits (cfg : Route.RouteConfig) : Prop :=
  Old cfg → Suited site r cfg.Members →
    cfg.Quality.normalize.validate site.lib = .ok () ∨ ∃ e, loadLegacy site env r cfg = .error e

/-- The upgrade looks at the members only, and not at the quality settings that it makes count. -/
theorem loadedSafely_iff {cfg : Route.RouteConfig} (input : cfg.Mode = Route.RouteModeInput)
    (registered : ∀ m ∈ cfg.Members, (site.services.configs r m).isSome) :
    LoadedSafely site env r cfg ↔ UpgradeFits site env r cfg := by
  constructor
  · intro safe old suited
    cases loaded : loadRoute site env r cfg with
    | error e => exact .inr (safe.loadable old ⟨e, loaded⟩)
    | ok cfg' => exact .inl (loadRoute_full input (withProbeMode_suited input old suited) loaded).2
  · intro fits
    refine ⟨fun probe r' loaded => ?_, fun old r' loaded => ?_, fun old refused => ?_⟩
    · obtain ⟨cfg', s, checked, present, rfl⟩ := of_loaded loaded
      have full := (withProbeMode_full site r probe).trans
        (by rw [← probe] : cfg = { cfg with ProbeMode := Route.RouteProbeFullPath })
      exact ⟨s, present, (loadRoute_full input full checked).1⟩
    · obtain ⟨cfg', s, checked, present, rfl⟩ := of_loaded loaded
      refine ⟨s, present, fun suited => ?_, fun unsuited => ?_⟩
      · exact (loadRoute_full input (withProbeMode_suited input old suited) checked).1
      · rw [loadRoute, withProbeMode_unsuited input old unsuited] at checked
        exact loadLegacy_mode input checked
    · obtain ⟨e, refused⟩ := refused
      by_cases suited : Suited site r cfg.Members
      · rcases fits old suited with quality | legacy
        · cases legacy : loadLegacy site env r cfg with
          | error e' => exact ⟨e', rfl⟩
          | ok cfg' =>
            obtain ⟨cfg'', ok⟩ := loadRoute_suited input old suited registered
              (fitting_of_legacy input old legacy) quality
            rw [ok] at refused
            cases refused
        · exact legacy
      · rw [loadRoute, withProbeMode_unsuited input old suited] at refused
        exact ⟨e, refused⟩

/-- A host that parses every URL as an address of HTTPS, and a tunnel that can be probed. -/
def probedSite : Site :=
  { localSite with lib := { localSite.lib with
      parseURL := fun _ => some ⟨"https", "probe", false, "", ""⟩
      splitHostPort := fun _ => .ok ("127.0.0.1", "1080") } }

def probedTunnel : Config := { tunnelOf "1" "web" "1080" with Input := "socks5x@127.0.0.1:1080" }

def probedRegistry : Registry :=
  probedSite.services.put "web" (some ⟨0, probedTunnel, .disabled⟩) (empty [] fun _ => none)

/-- A route that was saved before there were probes of the full path. -/
def oldRoute (interval : Int) : Route.RouteConfig :=
  ⟨"2", "in", false, Route.RouteModeInput, "127.0.0.1:7001", "", ["web"], "",
    ⟨"", "", 0, 0, 0, interval, 0, 0⟩, "", [], 1⟩

theorem oldRoute_registered (interval : Int) :
    ∀ m ∈ (oldRoute interval).Members, (probedSite.services.configs probedRegistry m).isSome := by
  intro m member
  rw [List.mem_singleton.mp member]
  rfl

/-- With the defaults, it is upgraded. -/
theorem oldRoute_safe :
    (∃ cfg, loadRoute probedSite (calm ["web"] []) probedRegistry (oldRoute 0) = .ok cfg ∧
      cfg.ProbeMode = Route.RouteProbeFullPath) ∧
    LoadedSafely probedSite (calm ["web"] []) probedRegistry (oldRoute 0) := by
  have checked : (loadRoute probedSite (calm ["web"] []) probedRegistry (oldRoute 0)).toOption.any
      (fun cfg => cfg.ProbeMode = Route.RouteProbeFullPath) = true := by
    decide +kernel
  have valid : ((oldRoute 0).Quality.normalize.validate probedSite.lib).toBool = true := by
    decide +kernel
  refine ⟨?_, (loadedSafely_iff _ _ _ rfl (oldRoute_registered 0)).mpr fun _ _ => .inl ?_⟩
  · obtain ⟨cfg, ok, full⟩ := (Option.any_eq_true _ _).mp checked
    refine ⟨cfg, ?_, of_decide_eq_true full⟩
    cases loaded : loadRoute probedSite (calm ["web"] []) probedRegistry (oldRoute 0) with
    | error e =>
      rw [loaded] at ok
      cases ok
    | ok cfg' =>
      rw [loaded] at ok
      cases ok
      rfl
  · cases ran : (oldRoute 0).Quality.normalize.validate probedSite.lib with
    | error e =>
      rw [ran] at valid
      cases valid
    | ok _ => rfl

/-- With an interval of five seconds, which only the probes of the full path refuse, it is not loaded. -/
theorem oldRoute_lost : ¬ LoadedSafely probedSite (calm ["web"] []) probedRegistry (oldRoute 5) := by
  intro safe
  have refused :
    (loadRoute probedSite (calm ["web"] []) probedRegistry (oldRoute 5)).toBool = false := by
    decide +kernel
  have legacy :
    (loadLegacy probedSite (calm ["web"] []) probedRegistry (oldRoute 5)).toBool = true := by
    decide +kernel
  cases loaded : loadRoute probedSite (calm ["web"] []) probedRegistry (oldRoute 5) with
  | ok _ =>
    rw [loaded] at refused
    cases refused
  | error e =>
    obtain ⟨e', failed⟩ := safe.loadable ⟨.inl rfl, .inl rfl⟩ ⟨e, loaded⟩
    rw [failed] at legacy
    cases legacy

end Registry

end Gotun.Tun
