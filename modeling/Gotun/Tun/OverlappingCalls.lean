import Gotun.Tun.FileAgreement

/-! The files and the maps along every run of calls that overlap. -/

namespace Gotun.Tun

open Gotun.Lib

theorem tun_ne {a b suffix : String} (some_ : suffix ≠ "")
    (differ : TUN_CONFIG_SUFFIX.toList.getLast? ≠ suffix.toList.getLast?) :
    a ++ TUN_CONFIG_SUFFIX ≠ b ++ suffix := FileKind.append_ne (by decide) some_ differ

theorem route_ne {a b suffix : String} (some_ : suffix ≠ "")
    (differ : ROUTE_CONFIG_SUFFIX.toList.getLast? ≠ suffix.toList.getLast?) :
    a ++ ROUTE_CONFIG_SUFFIX ≠ b ++ suffix :=
  FileKind.append_ne (by decide) some_ differ

theorem services_files (site : Site) : site.services.files.Beside site.routes.files where
  regular := serviceFiles_regular _ _
  other _ _ := by
    show _ ++ TUN_CONFIG_SUFFIX ≠ _ ++ ROUTE_CONFIG_SUFFIX; exact tun_ne (by decide) (by decide)
  temp _ _ := by show _ ++ ROUTE_CONFIG_SUFFIX ≠ _ ++ ".tmp"; exact route_ne (by decide) (by decide)
  backup _ _ := by show _ ++ ROUTE_CONFIG_SUFFIX ≠ _ ++ ".bak"; exact route_ne (by decide) (by decide)

theorem routes_files (site : Site) : site.routes.files.Beside site.services.files where
  regular := routeFiles_regular _ _
  other _ _ := by
    show _ ++ ROUTE_CONFIG_SUFFIX ≠ _ ++ TUN_CONFIG_SUFFIX; exact route_ne (by decide) (by decide)
  temp _ _ := by show _ ++ TUN_CONFIG_SUFFIX ≠ _ ++ ".route.tmp"; exact tun_ne (by decide) (by decide)
  backup _ _ := by show _ ++ TUN_CONFIG_SUFFIX ≠ _ ++ ".route.bak"; exact tun_ne (by decide) (by decide)

namespace Registry

variable {site : Site} {env : Env} {r r' : Registry} {op : Op}

/-- A change of one of the two maps. -/
abbrev AnyChange := Change Config Service ⊕ Change Route.RouteConfig RouteService

def Fits (site : Site) : AnyChange → Prop
  | .inl change => change.Fits site.services
  | .inr change => change.Fits site.routes

theorem of_checked {κ α : Type} {result : Except Err κ} {f : κ → Action Registry α} {a : α}
    (ran : (Action.lift result >>= f) r = (.ok a, r')) :
    ∃ cfg, result = .ok cfg ∧ f cfg r = (.ok a, r') := by
  obtain ⟨cfg, r₁, checked, ran⟩ := Action.of_bind_ok ran
  cases checked
  exact ⟨cfg, rfl, ran⟩

/-- A section that starts leaves the maps and the files as they are, and what it saves fits them. -/
theorem start_fits (named : (site.services.configs r).Named Config.Name)
    (named' : (site.routes.configs r).Named Route.RouteConfig.Name) {change : Option AnyChange}
    (ran : start site env op r = (.ok change, r')) :
    SameStore r r' ∧ ∀ made, change = some made → Fits site made := by
  have one : ∀ made, SameStore r r' → Fits site made → change = some made →
      SameStore r r' ∧ ∀ made, change = some made → Fits site made := by
    rintro made same fits rfl
    exact ⟨same, fun _ here => Option.some.inj here ▸ fits⟩
  have nothing : (pure none : Action Registry (Option AnyChange)) r = (.ok change, r') →
      SameStore r r' ∧ ∀ made, change = some made → Fits site made := by
    intro kept
    cases kept
    exact ⟨.refl r, fun _ found => nomatch found⟩
  cases op with
  | addService config createFile =>
    rw [start, Action.choose_apply] at ran
    split_ifs at ran
    · cases ran
    · obtain ⟨made, r₁, started, ⟨⟩⟩ := Action.of_bind_ok ran
      obtain ⟨same, fits⟩ := Shelf.addStart_ok (services_settled site _) started
      exact one (.inl made) same fits rfl
  | replaceService config =>
    rw [start, Action.choose_apply] at ran
    cases found : site.services.find Config.UUID env.order config.UUID r with
    | none =>
      rw [found] at ran
      cases ran
    | some entry =>
      rw [found] at ran
      dsimp only at ran
      split_ifs at ran
      · cases ran
      · obtain ⟨made, r₁, started, ⟨⟩⟩ := Action.of_bind_ok ran
        have oldOwn := named _ _ (configs_of_entries (of_find found).1)
        obtain ⟨same, fits⟩ := Shelf.replaceStart_ok (services_settled site _) rfl oldOwn started
        exact one (.inl made) same fits rfl
  | setServiceDisabled name disabled =>
    rw [start, Action.choose_apply] at ran
    cases present : site.services.entries r name with
    | none =>
      rw [present] at ran
      cases ran
    | some current =>
      rw [present] at ran
      dsimp only at ran
      split_ifs at ran
      · exact nothing ran
      · obtain ⟨made, r₁, started, ⟨⟩⟩ := Action.of_bind_ok ran
        have oldOwn := named _ _ (configs_of_entries present)
        have own : site.services.files.name { current.cfg with Disabled := disabled } = name := oldOwn
        obtain ⟨same, fits⟩ := Shelf.replaceStart_ok (services_settled site _) own oldOwn started
        exact one (.inl made) same fits rfl
  | addRoute cfg createFile =>
    rw [start, Action.choose_apply] at ran
    split_ifs at ran
    · cases ran
    · obtain ⟨cfg', valid, ran⟩ := of_checked ran
      obtain ⟨made, r₁, started, ⟨⟩⟩ := Action.of_bind_ok ran
      obtain ⟨same, fits⟩ :=
        Shelf.addStart_ok (routes_settled (of_validateRouteLocked valid).again) started
      exact one (.inr made) same fits rfl
  | replaceRoute cfg =>
    rw [start, Action.choose_apply] at ran
    cases found : site.routes.find Route.RouteConfig.UUID env.routeOrder cfg.UUID r with
    | none =>
      rw [found] at ran
      cases ran
    | some entry =>
      rw [found] at ran
      obtain ⟨cfg', valid, ran⟩ := of_checked ran
      obtain ⟨made, r₁, started, ⟨⟩⟩ := Action.of_bind_ok ran
      have oldOwn := named' _ _ (configs_of_entries (of_find found).1)
      obtain ⟨same, fits⟩ := Shelf.replaceStart_ok
        (routes_settled (of_validateRouteLocked valid).again) rfl oldOwn started
      exact one (.inr made) same fits rfl
  | setRouteDisabled name disabled =>
    rw [start, Action.choose_apply] at ran
    cases present : site.routes.entries r name with
    | none =>
      rw [present] at ran
      cases ran
    | some current =>
      rw [present] at ran
      dsimp only at ran
      split_ifs at ran
      · exact nothing ran
      · obtain ⟨cfg', valid, ran⟩ := of_checked ran
        obtain ⟨made, r₁, started, ⟨⟩⟩ := Action.of_bind_ok ran
        have oldOwn := named' _ _ (configs_of_entries present)
        have own : cfg'.Name = name := (of_validateRouteLocked valid).name.trans oldOwn
        obtain ⟨same, fits⟩ := Shelf.replaceStart_ok
          (routes_settled (of_validateRouteLocked valid).again) own oldOwn started
        exact one (.inr made) same fits rfl
  | removeService _ => exact nothing ran
  | removeServiceByUUID _ => exact nothing ran
  | removeRoute _ => exact nothing ran
  | removeRouteByUUID _ => exact nothing ran

def fileScript (site : Site) (env : Env) : AnyChange → FileScript Bool
  | .inl change => site.services.fileScript site env change
  | .inr change => site.routes.fileScript site env change

def finish (site : Site) (env : Env) : AnyChange → Except Err Bool → Action Registry Unit
  | .inl change => site.services.finish site env change
  | .inr change => site.routes.finish site env change

/-- Every file is that of an entry of its map, and every entry has its file. -/
structure Filed (site : Site) (r : Registry) : Prop where
  services : site.services.files.Stores site.host.dir.place r.manager.files (site.services.configs r)
  routes : site.routes.files.Stores site.host.dir.place r.manager.files (site.routes.configs r)

end Registry

/-- A call that holds the lock and is at its calls on the files. -/
structure Saving where
  env : Env
  change : Registry.AnyChange
  rest : FileScript Bool

/-- The manager and the calls that are under way: the one that saves, and the removals that have deleted
their file, by name. Whether a call has reported an error is kept. -/
structure Calls where
  registry : Registry
  saving : Option Saving
  services : List String
  routes : List String
  failed : Bool

/-- What a call does next: up to its first call on the files, one such call or what comes after
the last one, the file of a removal, and its section. -/
inductive CallStep where
  | save (op : Op) (env : Env)
  | file
  | deleteServiceFile (name : String) (faults : FileFaults)
  | removeService (name : String) (missed : Nat → Bool)
  | deleteRouteFile (name : String) (faults : FileFaults)
  | removeRoute (name : String) (missed : Nat → Bool)

namespace Calls

variable (site : Site)

def ended (c : Calls) (result : Except Err Unit × Registry) : Calls :=
  { c with registry := result.2, saving := none, failed := c.failed || !result.1.toBool }

/-- What deleting a file leaves, with the removal under way if it succeeds. -/
def deleted (c : Calls) (under : Calls) : Except Err Bool × Files → Calls
  | (.ok _, files) => { under with registry := c.registry.withFiles files }
  | (.error _, files) => { c with registry := c.registry.withFiles files, failed := true }

def step (c : Calls) : CallStep → Option Calls
  | .save op env =>
    if Registry.Saves op = true ∧ c.saving.isNone = true then
      match Registry.start site env op c.registry with
      | (.ok (some change), r) =>
        some { c with registry := r, saving := some ⟨env, change, Registry.fileScript site env change⟩ }
      | (.ok none, r) => some (c.ended (.ok (), r))
      | (.error e, r) => some (c.ended (.error e, r))
    else none
  | .file => c.saving.map fun s => match s.rest with
    | .call _ run next =>
      let (answer, files) := run c.registry.manager.files
      { c with registry := c.registry.withFiles files, saving := some { s with rest := next answer } }
    | .done result => c.ended (Registry.finish site s.env s.change result c.registry)
  | .deleteServiceFile name faults =>
    some (c.deleted { c with services := name :: c.services }
      ((site.services.files.deleteFile site.host.dir.place faults name).exec c.registry.manager.files))
  | .removeService name missed =>
    if c.saving.isNone = true ∧ name ∈ c.services then
      some { c.ended (site.services.removeLocked missed name c.registry) with
        services := c.services.erase name }
    else none
  | .deleteRouteFile name faults =>
    some (c.deleted { c with routes := name :: c.routes }
      ((site.routes.files.deleteFile site.host.dir.place faults name).exec c.registry.manager.files))
  | .removeRoute name missed =>
    if c.saving.isNone = true ∧ name ∈ c.routes then
      some { c.ended (site.routes.removeLocked missed name c.registry) with
        routes := c.routes.erase name }
    else none

/-- No call is under way, and the files are those of the maps. -/
def system : System Calls CallStep where
  start c := c.saving = none ∧ c.services = [] ∧ c.routes = [] ∧ c.failed = false ∧
    (site.services.configs c.registry).Named Config.Name ∧
      (site.routes.configs c.registry).Named Route.RouteConfig.Name ∧
    c.registry.Filed site
  step := step site

/-- The next call on the files. -/
def nextCall (s : Saving) : Option FileOp :=
  match s.rest with
  | .call op _ _ => some op
  | .done _ => none

def FairCall (c : Calls) (s : Saving) (op : FileOp) : Prop :=
  match s.change with
  | .inl change =>
    site.services.files.Fair site.host.dir.place s.env.faults.file change.oldName change.name op
      (c.registry.manager.files, c.services, c.routes)
  | .inr change =>
    site.routes.files.Fair site.host.dir.place s.env.faults.file change.oldName change.name op
      (c.registry.manager.files, c.routes, c.services)

/-- No file is moved into the place of one that a removal has deleted before it comes to the map, and
an old file is seen if another one takes its entry. -/
def Fair (c : Calls) : CallStep → Prop
  | .file => ∀ s ∈ c.saving, ∀ op ∈ nextCall s, FairCall site c s op
  | .save .. | .deleteServiceFile .. | .removeService .. | .deleteRouteFile .. | .removeRoute .. => True

/-- The section that is at its calls on the files will leave the files of its change. -/
def Sound (c : Calls) (s : Saving) : Prop :=
  match s.change with
  | .inl change =>
    site.services.Sound site.routes site s.env c.registry change s.rest (c.services, c.routes)
  | .inr change =>
    site.routes.Sound site.services site s.env c.registry change s.rest (c.routes, c.services)

structure Inv (c : Calls) : Prop where
  services : (site.services.configs c.registry).Named Config.Name
  routes : (site.routes.configs c.registry).Named Route.RouteConfig.Name
  free : c.saving = none → site.services.Agreed site.routes site c.registry (c.services, c.routes)
  saving : ∀ s, c.saving = some s → Sound site c s

variable {site} {c c' : Calls}

/-! With nothing in between, a call is its operation. -/

variable (site) in
theorem files_whole (c : Calls) (env : Env) (change : Registry.AnyChange) (x : FileScript Bool)
    (r : Registry) :
    ∃ n, (system site).play (fun _ _ => true) (List.replicate n .file)
      { c with registry := r, saving := some ⟨env, change, x⟩ } =
      some (c.ended (Registry.finish site env change (x.exec r.manager.files).1
        (r.withFiles (x.exec r.manager.files).2))) := by
  induction x generalizing r with
  | done result => exact ⟨1, rfl⟩
  | call label run next ih =>
    obtain ⟨n, rest⟩ := ih (run r.manager.files).1 (r.withFiles (run r.manager.files).2)
    exact ⟨n + 1, rest⟩

theorem save_whole {op : Op} {env : Env} (saves : Registry.Saves op = true) (free : c.saving = none) :
    ∃ n, (system site).play (fun _ _ => true) (.save op env :: List.replicate n .file) c =
      some (c.ended (Registry.apply site env op c.registry)) := by
  rw [Registry.start_complete saves]
  have ready : Registry.Saves op = true ∧ c.saving.isNone = true :=
    ⟨saves, Option.isNone_iff_eq_none.mpr free⟩
  have step : (system site).step c (.save op env) = Calls.step site c (.save op env) := rfl
  rw [Calls.step, if_pos ready] at step
  rcases started : Registry.start site env op c.registry with ⟨e | _ | made, r⟩
  · rw [started] at step
    refine ⟨0, ?_⟩
    rw [Action.bind_error _ started, System.play, if_pos rfl, step]
    rfl
  · rw [started] at step
    refine ⟨0, ?_⟩
    rw [Action.bind_ok _ started, System.play, if_pos rfl, step]
    rfl
  · rw [started] at step
    obtain ⟨n, rest⟩ := files_whole site c env made (Registry.fileScript site env made) r
    refine ⟨n, ?_⟩
    rw [Action.bind_ok _ started, System.play, if_pos rfl, step, Option.bind_some]
    refine rest.trans ?_
    cases made <;> rfl

theorem remove_whole {κ ι : Type} {S : Shelf κ ι} {env : Env} {name : String}
    (first second : CallStep) {under : Calls} (free : c.saving = none)
    (deletes : (system site).step c first = some (c.deleted under
      ((S.files.deleteFile site.host.dir.place env.faults.file name).exec c.registry.manager.files)))
    (removes : ∀ r, (system site).step { under with registry := r } second =
      some (c.ended (S.removeLocked env.missed name r))) :
    ∃ calls, (system site).play (fun _ _ => true) calls c =
      some (c.ended (S.remove site env name c.registry)) := by
  rw [Shelf.remove_eq]
  rcases wrote : (S.files.deleteFile site.host.dir.place env.faults.file name).exec
    c.registry.manager.files with ⟨e | b, files⟩
  · refine ⟨[first], ?_⟩
    rw [Action.bind_error _ (Shelf.onFiles_error wrote), System.play, if_pos rfl, deletes, wrote,
      Calls.ended, ← free]
    show some _ = some _
    rw [Calls.deleted]
    simp [Except.toBool]
  · refine ⟨[first, second], ?_⟩
    rw [Action.bind_ok _ (Shelf.onFiles_ok wrote), System.play, if_pos rfl, deletes, wrote,
      Option.bind_some, System.play, if_pos rfl]
    exact (congrArg (Option.bind · _) (removes _)).trans rfl

theorem removeService_whole {env : Env} (name : String) (free : c.saving = none) :
    ∃ calls, (system site).play (fun _ _ => true) calls c =
      some (c.ended (Registry.RemoveService site env name c.registry)) := by
  refine remove_whole (.deleteServiceFile name env.faults.file)
    (.removeService name env.missed) free rfl fun r => ?_
  have ready : c.saving.isNone = true ∧ name ∈ name :: c.services :=
    ⟨Option.isNone_iff_eq_none.mpr free, List.mem_cons_self⟩
  refine (if_pos ready).trans (congrArg some ?_)
  dsimp only [ended]
  rw [List.erase_cons_head]

theorem removeRoute_whole {env : Env} (name : String) (free : c.saving = none) :
    ∃ calls, (system site).play (fun _ _ => true) calls c =
      some (c.ended (Registry.RemoveRoute site env name c.registry)) := by
  refine remove_whole (.deleteRouteFile name env.faults.file)
    (.removeRoute name env.missed) free rfl fun r => ?_
  have ready : c.saving.isNone = true ∧ name ∈ name :: c.routes :=
    ⟨Option.isNone_iff_eq_none.mpr free, List.mem_cons_self⟩
  refine (if_pos ready).trans (congrArg some ?_)
  dsimp only [ended]
  rw [List.erase_cons_head]

/-! What holds along the runs. -/

theorem Inv.start (begins : (system site).start c) : Inv site c := by
  obtain ⟨free, noService, noRoute, _, services, routes, filed⟩ := begins
  refine ⟨services, routes, fun _ => ?_, fun s found => ?_⟩
  · rw [noService, noRoute]
    exact ⟨filed.services, filed.routes⟩
  · rw [free] at found
    contradiction

/-- A change of the tunnels has been made. -/
theorem Inv.of_services {r : Registry} {map : Table String Config} {services routes : List String}
    {failed : Bool} (inv : Inv site c) (leaves : site.services.Leaves site.routes c.registry r map)
    (named : map.Named Config.Name)
    (agreed : site.services.Agreed site.routes site r (services, routes)) :
    Inv site ⟨r, none, services, routes, failed⟩ where
  services := by
    show (site.services.configs r).Named Config.Name
    rw [leaves.configs]
    exact named
  routes := by
    show (site.routes.configs r).Named Route.RouteConfig.Name
    rw [leaves.beside]
    exact inv.routes
  free _ := agreed
  saving _ found := nomatch found

theorem Inv.of_routes {r : Registry} {map : Table String Route.RouteConfig}
    {services routes : List String} {failed : Bool} (inv : Inv site c)
    (leaves : site.routes.Leaves site.services c.registry r map)
    (named : map.Named Route.RouteConfig.Name)
    (agreed : site.routes.Agreed site.services site r (routes, services)) :
    Inv site ⟨r, none, services, routes, failed⟩ where
  services := by
    show (site.services.configs r).Named Config.Name
    rw [leaves.beside]
    exact inv.services
  routes := by
    show (site.routes.configs r).Named Route.RouteConfig.Name
    rw [leaves.configs]
    exact named
  free _ := agreed.swap
  saving _ found := nomatch found

theorem named_after {κ ι : Type} {change : Change κ ι} {map : Table String κ} {name : κ → String}
    (named : map.Named name) (own : name change.cfg = change.name) : (change.after map).Named name := by
  unfold Change.after
  cases change.old with
  | none => exact named.put own
  | some entry => exact named.move entry.1 own

theorem Inv.save (inv : Inv site c) {op : Op} {env : Env} (free : c.saving = none)
    {change : Option Registry.AnyChange} {r : Registry}
    (ran : Registry.start site env op c.registry = (.ok change, r)) :
    Inv site { c with
      registry := r
      saving := change.map fun made => ⟨env, made, Registry.fileScript site env made⟩ } := by
  obtain ⟨same, fits⟩ := Registry.start_fits inv.services inv.routes ran
  have agreed := (inv.free free).same (services_lawful site) (routes_lawful site) same
  have services := Shelf.configs_same (services_lawful site) same.maps
  have routes := Shelf.configs_same (routes_lawful site) same.maps
  refine ⟨?_, ?_, fun _ => agreed, ?_⟩
  · show (site.services.configs r).Named Config.Name
    rw [services]
    exact inv.services
  · show (site.routes.configs r).Named Route.RouteConfig.Name
    rw [routes]
    exact inv.routes
  · intro s found
    obtain ⟨made, rfl, rfl⟩ := Option.map_eq_some_iff.mp found
    cases made with
    | inl made => exact agreed.sound (services_files site) (fits _ rfl)
    | inr made => exact agreed.swap.sound (routes_files site) (fits _ rfl)

/-- Files that are deleted while a section may be at its calls. -/
theorem Inv.deletes (inv : Inv site c) {files : Files} {services routes : List String}
    (step : FileKind.Deletes site.services.files site.routes.files site.host.dir.place
      (c.registry.manager.files, c.services, c.routes) (files, services, routes)) :
    Inv site { c with
      registry := c.registry.withFiles files, services := services, routes := routes } where
  services := inv.services
  routes := inv.routes
  free free :=
    (inv.free free).deletes (services_lawful site) (routes_lawful site) (services_files site) step
  saving s found := by
    have sound := inv.saving s found
    unfold Sound at sound ⊢
    cases made : s.change with
    | inl change =>
      rw [made] at sound
      exact sound.deletes (services_lawful site) (routes_lawful site) step
    | inr change =>
      rw [made] at sound
      exact sound.deletes (routes_lawful site) (services_lawful site) step.swap

/-- A call on the files. -/
theorem Inv.call (inv : Inv site c) {s : Saving} (saving : c.saving = some s) {op : FileOp}
    {run : Files → Except Err Bool × Files} {next : Except Err Bool → FileScript Bool}
    (rest : s.rest = .call op run next) (fair : Fair site c .file) :
    Inv site { c with registry := c.registry.withFiles (run c.registry.manager.files).2,
                      saving := some { s with rest := next (run c.registry.manager.files).1 } } where
  services := inv.services
  routes := inv.routes
  free free := nomatch free
  saving s' found := by
    cases found
    have sound := inv.saving s saving
    have ok : FairCall site c s op := fair s saving op (by rw [nextCall, rest]; rfl)
    obtain ⟨env, change, x⟩ := s
    unfold Sound at sound ⊢
    unfold FairCall at ok
    dsimp only at rest sound ok ⊢
    subst rest
    cases change with
    | inl change => exact sound.call (services_lawful site) (routes_lawful site) ok
    | inr change => exact sound.call (routes_lawful site) (services_lawful site) ok

/-- What comes after the last call. -/
theorem Inv.finish (inv : Inv site c) {s : Saving} (saving : c.saving = some s)
    {result : Except Err Bool} (rest : s.rest = .done result) :
    (c.ended (Registry.finish site s.env s.change result c.registry)).failed = true ∨
      Inv site (c.ended (Registry.finish site s.env s.change result c.registry)) := by
  have sound := inv.saving s saving
  obtain ⟨env, change, x⟩ := s
  unfold Sound at sound
  dsimp only at rest sound ⊢
  subst rest
  cases result with
  | error e =>
    left
    cases change with
    | inl change =>
      obtain ⟨e', r', failed⟩ := Shelf.finish_fails site.services site env change e c.registry
      rw [Registry.finish, failed]
      exact Bool.or_true _
    | inr change =>
      obtain ⟨e', r', failed⟩ := Shelf.finish_fails site.routes site env change e c.registry
      rw [Registry.finish, failed]
      exact Bool.or_true _
  | ok b =>
    right
    cases change with
    | inl change =>
      obtain ⟨r', ran, leaves, agreed⟩ :=
        sound.finish (services_lawful site) (services_beside site) (services_plain site)
      rw [Registry.finish, ran]
      exact inv.of_services leaves (named_after inv.services sound.fits.own) agreed
    | inr change =>
      obtain ⟨r', ran, leaves, agreed⟩ :=
        sound.finish (routes_lawful site) (routes_beside site) (routes_plain site)
      rw [Registry.finish, ran]
      exact inv.of_routes leaves (named_after inv.routes sound.fits.own) agreed

theorem deleted_cases {under : Calls} {result : Except Err Bool × Files}
    (done : ∀ b files, result = (.ok b, files) →
      Inv site { under with registry := c.registry.withFiles files }) :
    (c.deleted under result).failed = true ∨ Inv site (c.deleted under result) := by
  rcases result with ⟨e | b, files⟩
  · exact .inl rfl
  · exact .inr (done b files rfl)

/-- One step, whatever it is, keeps the invariant or reports an error. -/
theorem Inv.step (inv : Inv site c) {call : CallStep} (fair : Fair site c call)
    (next : (system site).step c call = some c') :
    c'.failed = true ∨ Inv site c' := by
  change Calls.step site c call = some c' at next
  cases call with
  | save op env =>
    rw [Calls.step] at next
    split_ifs at next with ready
    have free := Option.isNone_iff_eq_none.mp ready.2
    rcases ran : Registry.start site env op c.registry with ⟨e | _ | made, r⟩
    · rw [ran] at next
      cases next
      exact .inl (Bool.or_true _)
    · rw [ran] at next
      cases next
      obtain ⟨services, routes, agreed, _⟩ := inv.save free ran
      exact .inr ⟨services, routes, fun _ => agreed rfl, fun _ found => nomatch found⟩
    · rw [ran] at next
      cases next
      exact .inr (inv.save free ran)
  | file =>
    obtain ⟨s, saving, rfl⟩ := Option.map_eq_some_iff.mp next
    cases rest : s.rest with
    | done result => exact inv.finish saving rest
    | call op run next => exact .inr (inv.call saving rest fair)
  | deleteServiceFile name faults =>
    cases next
    refine deleted_cases fun b files ran => ?_
    rw [FileKind.deleteFile_removes ran]
    exact inv.deletes (.own _ _ _ name)
  | deleteRouteFile name faults =>
    cases next
    refine deleted_cases fun b files ran => ?_
    rw [FileKind.deleteFile_removes ran]
    exact inv.deletes (.other _ _ _ name)
  | removeService name missed =>
    rw [Calls.step] at next
    split_ifs at next with ready
    cases next
    have agreed := inv.free (Option.isNone_iff_eq_none.mp ready.1)
    obtain ⟨r', ran, leaves, after⟩ := agreed.removed (services_lawful site) (routes_lawful site)
      (services_beside site) (services_plain site) missed ready.2
    rw [ran]
    exact .inr (inv.of_services leaves (inv.services.drop name) after)
  | removeRoute name missed =>
    rw [Calls.step] at next
    split_ifs at next with ready
    cases next
    have agreed := (inv.free (Option.isNone_iff_eq_none.mp ready.1)).swap
    obtain ⟨r', ran, leaves, after⟩ := agreed.removed (routes_lawful site) (services_lawful site)
      (routes_beside site) (routes_plain site) missed ready.2
    rw [ran]
    exact .inr (inv.of_routes leaves (inv.routes.drop name) after)

/-- An error that has been reported stays so. -/
theorem failed_step {call : CallStep} (failed : c.failed = true)
    (next : (system site).step c call = some c') : c'.failed = true := by
  change Calls.step site c call = some c' at next
  have ended : ∀ result, (c.ended result).failed = true := by
    intro result
    show (c.failed || _) = true
    rw [failed]
    rfl
  cases call with
  | save op env =>
    rw [Calls.step] at next
    split_ifs at next
    split at next
    · cases next
      exact failed
    · cases next
      exact ended _
    · cases next
      exact ended _
  | file =>
    obtain ⟨s, _, rfl⟩ := Option.map_eq_some_iff.mp next
    cases s.rest with
    | done result => exact ended _
    | call op run next => exact failed
  | deleteServiceFile name faults =>
    cases next
    rcases (site.services.files.deleteFile site.host.dir.place faults name).exec
      c.registry.manager.files with ⟨e | b, files⟩
    · rfl
    · exact failed
  | deleteRouteFile name faults =>
    cases next
    rcases (site.routes.files.deleteFile site.host.dir.place faults name).exec
      c.registry.manager.files with ⟨e | b, files⟩
    · rfl
    · exact failed
  | removeService name missed =>
    rw [Calls.step] at next
    split_ifs at next
    cases next
    exact ended _
  | removeRoute name missed =>
    rw [Calls.step] at next
    split_ifs at next
    cases next
    exact ended _

/-- In every run whose calls on the files are fair and in which no call reports an error, the files are
those of the maps whenever all calls have returned. -/
theorem filed_of_run {events : List CallStep} (run : (system site).Run (Fair site) events c)
    (returned : c.saving = none) (removed : c.services = [] ∧ c.routes = [])
    (fine : c.failed = false) : c.registry.Filed site := by
  have held : c.failed = true ∨ Inv site c := by
    apply run.invariant fun c => c.failed = true ∨ Inv site c
    · exact fun _ begins => .inr (Inv.start begins)
    · rintro _ call _ (failed | inv) fair next
      · exact .inl (failed_step failed next)
      · exact inv.step fair next
  rcases held with failed | inv
  · rw [fine] at failed
    contradiction
  · have agreed := inv.free returned
    rw [removed.1, removed.2] at agreed
    exact ⟨agreed.own, agreed.other⟩

/-! A tunnel and its removal. -/

instance {κ : Type} (K : FileKind κ) (p : Place) (faults : FileFaults) (oldName newName : String)
    (op : FileOp) (s : Shared) :
    Decidable (K.Fair p faults oldName newName op s) := inferInstanceAs (Decidable (_ ∧ _))

instance (c : Calls) (s : Saving) (op : FileOp) : Decidable (FairCall site c s op) :=
  match made : s.change with
  | .inl change =>
    decidable_of_iff
      (site.services.files.Fair site.host.dir.place s.env.faults.file change.oldName change.name op
      (c.registry.manager.files, c.services, c.routes)) (by rw [FairCall, made])
  | .inr change =>
    decidable_of_iff
      (site.routes.files.Fair site.host.dir.place s.env.faults.file change.oldName change.name op
      (c.registry.manager.files, c.routes, c.services)) (by rw [FairCall, made])

instance (c : Calls) (call : CallStep) : Decidable (Fair site c call) :=
  match call with
  | .file => inferInstanceAs (Decidable (∀ s ∈ c.saving, ∀ op ∈ nextCall s, FairCall site c s op))
  | .save .. | .deleteServiceFile .. | .removeService .. | .deleteRouteFile .. | .removeRoute .. =>
    isTrue trivial

def webSite : Site where
  host := { Manager.loopback with dir := webDir }
  lib := Registry.localSite.lib
  unmarshal := unmarshalOf webTable
  marshalRoute := marshalRouteOut
  unmarshalRoute := unmarshalOf routeTable

def begun : Calls := ⟨Registry.empty [] fun _ => none, none, [], [], false⟩

theorem begun_starts : (system webSite).start begun :=
  ⟨rfl, rfl, rfl, rfl, (Registry.Keyed.empty [] _).services, (Registry.Keyed.empty [] _).routes,
    ⟨FileKind.Stores.empty, FileKind.Stores.empty⟩⟩

/-- The web tunnel is added. -/
def added : List CallStep :=
  .save (.addService (web "7002") true) (Registry.calm [] []) :: List.replicate 9 .file

/-- It is removed again when its file is in place, and then another one of its name is added. -/
def removedLate : List CallStep :=
  added.take 8 ++
    [.deleteServiceFile "web" fun _ => none, .file, .file, .removeService "web" fun _ => false] ++
    .save (.addService (web "7003") true) (Registry.calm [] []) :: List.replicate 9 .file

/-- It is replaced when a removal has deleted its file. -/
def replacedMeanwhile : List CallStep :=
  added ++ [.deleteServiceFile "web" fun _ => none,
    .save (.replaceService (web "7003")) (Registry.calm ["web"] [])] ++
    List.replicate 9 .file ++ [.removeService "web" fun _ => false]

def quiet (c : Calls) : Bool := c.saving.isNone && c.services.isEmpty && c.routes.isEmpty && !c.failed

theorem quiet_iff :
    quiet c = true ↔ c.saving = none ∧ (c.services = [] ∧ c.routes = []) ∧ c.failed = false := by
  simp only [quiet, Bool.and_eq_true, Option.isNone_iff_eq_none, List.isEmpty_iff,
    Bool.not_eq_true', and_assoc]

/-- A removal that comes between has its file and its entry. -/
theorem web_filed : ∃ c, (system webSite).Run (Fair webSite) removedLate c ∧ quiet c = true ∧
    (c.registry.manager.services "web").isSome ∧ c.registry.Filed webSite := by
  have played :
    ((system webSite).play (fun c call => decide (Fair webSite c call)) removedLate begun).any
      (fun c => quiet c && (c.registry.manager.services "web").isSome) = true := by
    decide +kernel
  obtain ⟨c, run, seen⟩ := System.Run.of_play begun_starts played
  obtain ⟨returned, there⟩ := Bool.and_eq_true_iff.mp seen
  obtain ⟨free, removed, fine⟩ := quiet_iff.mp returned
  have fair := run.mono fun _ _ ok => of_decide_eq_true ok
  exact ⟨c, fair, returned, there, filed_of_run fair free removed fine⟩

/-- The new file stays when the removal drops the entry, and is loaded at the next start. -/
theorem web_left : ¬ ∀ events c, (system webSite).Run (fun _ _ => True) events c → c.saving = none →
    (c.services = [] ∧ c.routes = []) → c.failed = false → c.registry.Filed webSite := by
  intro claimed
  have played : ((system webSite).play (fun _ _ => true) replacedMeanwhile begun).any
      (fun c => quiet c && ((c.registry.manager.files
        (webSite.services.files.file webSite.host.dir.place "web")).isSome &&
        (c.registry.manager.services "web").isNone)) = true := by
    decide +kernel
  obtain ⟨c, run, seen⟩ := System.Run.of_play begun_starts played
  obtain ⟨returned, seen⟩ := Bool.and_eq_true_iff.mp seen
  obtain ⟨there, gone⟩ := Bool.and_eq_true_iff.mp seen
  obtain ⟨free, removed, fine⟩ := quiet_iff.mp returned
  have filed := claimed _ c (run.mono fun _ _ _ => trivial) free removed fine
  have absent : webSite.services.configs c.registry "web" = none := by
    rw [Shelf.configs, Option.map_eq_none_iff]
    exact Option.isNone_iff_eq_none.mp gone
  have none_ := filed.services.absent "web" (by decide) absent
  rw [none_] at there
  exact Bool.false_ne_true there

end Calls

end Gotun.Tun
