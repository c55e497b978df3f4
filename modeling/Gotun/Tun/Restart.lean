import Gotun.Tun.OverlappingCalls
import Gotun.Tun.Placement
import Gotun.Tun.RouteUpgrade
import Mathlib.Data.Finset.Dedup
import Mathlib.Data.Set.Finite.Basic

/-! `Manager.Run` of `tun/manager.go` on a directory that another manager has left: when it registers the
same tunnels and the same routes. -/

namespace Gotun.Tun

open Gotun.Lib

namespace FileKind

variable {κ κ' : Type} {K : FileKind κ} {K' : FileKind κ'} {p : Place} {files files' : Files}
  {map : Table String κ} {map' : Table String κ'} {entries : List String} {faults : FileFaults}
  {b : Bool}

theorem map_filterMap {α β γ : Type} {l : List α} {f : α → Option β} {g : α → γ} {h : β → γ}
    (each : ∀ a ∈ l, ∃ b, f a = some b ∧ g a = h b) : l.map g = (l.filterMap f).map h := by
  induction l with
  | nil => rfl
  | cons a rest ih =>
    obtain ⟨⟨b, found, same⟩, later⟩ := List.forall_mem_cons.mp each
    rw [List.filterMap_cons_some found, List.map_cons, List.map_cons, same, ih later]

/-- What is loaded is what is stored, in some order. -/
theorem Stores.loads (stores : K.Stores p files map) (regular : K.Regular)
    (lists : Lists p files entries) (named : map.Named K.name)
    (readable : ∀ name cfg data, map name = some cfg → K.marshal cfg = .ok data →
      K.unmarshal data = .ok cfg) :
    ∃ cfgs, K.loadAllFile p files entries = .ok cfgs ∧ (cfgs.map K.name).Nodup ∧
      ∀ cfg, cfg ∈ cfgs ↔ map (K.name cfg) = some cfg := by
  have each : ∀ name ∈ K.names entries, ∃ cfg, map name = some cfg ∧
      K.cfgOf p files name = some cfg := by
    intro name member
    obtain ⟨plain, there⟩ := (regular.mem_names lists name).mp member
    cases found : map name with
    | none =>
      rw [stores.absent name plain found] at there
      cases there
    | some cfg =>
      obtain ⟨data, marshalled, stored⟩ := stores.present name cfg found
      refine ⟨cfg, rfl, ?_⟩
      rw [cfgOf, stored, Option.bind_some, readable name cfg data found marshalled]
      rfl
  refine ⟨(K.names entries).filterMap map, ?_, ?_, ?_⟩
  · rw [regular.loadAllFile_iff lists.plain]
    exact map_filterMap each
  · have names : (K.names entries).map id = ((K.names entries).filterMap map).map K.name := by
      apply map_filterMap
      intro name member
      obtain ⟨cfg, found, _⟩ := each name member
      exact ⟨cfg, found, (named name cfg found).symm⟩
    rw [← names, List.map_id]
    exact regular.names_nodup lists
  · intro cfg
    rw [List.mem_filterMap]
    constructor
    · rintro ⟨name, _, found⟩
      rw [named name cfg found]
      exact found
    · intro found
      refine ⟨K.name cfg, (regular.mem_names lists _).mpr ⟨stores.plain _ _ found, ?_⟩, found⟩
      obtain ⟨data, _, stored⟩ := stores.present _ _ found
      rw [stored]
      rfl

/-- The entries that there are. -/
def here (p : Place) (files : Files) : Set String :=
  {entry | '/' ∉ entry.toList ∧ (files (p.tunDir ++ "/" ++ entry)).isSome}

theorem exists_lists (finite : (here p files).Finite) : ∃ entries, Lists p files entries :=
  ⟨finite.toFinset.toList, finite.toFinset.nodup_toList,
    fun entry => by rw [Finset.mem_toList, finite.mem_toFinset]; rfl⟩

/-- The files are those of the two maps, and there are finitely many. -/
structure Contents (K : FileKind κ) (K' : FileKind κ') (p : Place) (files : Files) (map : Table String κ)
    (map' : Table String κ') : Prop where
  stores : K.Stores p files map
  beside : K'.Stores p files map'
  finite : (here p files).Finite

theorem Contents.empty : Contents K K' p (fun _ => none) (fun _ => none) fun _ => none where
  stores := .empty
  beside := .empty
  finite := by
    apply Set.finite_empty.subset
    rintro entry ⟨_, some_⟩
    cases some_

theorem Contents.symm (contents : Contents K K' p files map map') : Contents K' K p files map' map :=
  ⟨contents.beside, contents.stores, contents.finite⟩

theorem here_same (same : SameEntries p files files') : here p files' = here p files := by
  ext entry
  exact and_congr_right fun plain => by rw [same entry plain]

theorem here_remove (path : String) : here p (files.remove path) ⊆ here p files := by
  rintro entry ⟨plain, some_⟩
  refine ⟨plain, ?_⟩
  by_cases gone : p.tunDir ++ "/" ++ entry = path
  · rw [gone, Files.remove_self] at some_
    cases some_
  · rwa [Files.remove_of_ne _ gone] at some_

theorem here_write (name : String) (data : Bytes) :
    here p (files.write (K.file p name) data) ⊆ insert (name ++ K.suffix) (here p files) := by
  rintro entry ⟨plain, some_⟩
  by_cases new : entry = name ++ K.suffix
  · exact .inl new
  · have other : p.tunDir ++ "/" ++ entry ≠ K.file p name := by
      rw [← file_eq (K := K) rfl]
      exact fun same => new (path_inj same)
    rw [Files.write_of_ne _ _ other] at some_
    exact .inr ⟨plain, some_⟩

theorem Contents.congr (contents : Contents K K' p files map map') (regular : K.Regular)
    (regular' : K'.Regular) (same : SameEntries p files files') :
    Contents K K' p files' map map' where
  stores := contents.stores.congr regular same
  beside := contents.beside.congr regular' same
  finite := here_same same ▸ contents.finite

theorem Contents.write (contents : Contents K K' p files map map') (other : K'.Other K) {cfg : κ}
    {data : Bytes} {name : String} (plain : '/' ∉ name.toList)
    (marshalled : K.marshal cfg = .ok data) :
    Contents K K' p (files.write (K.file p name) data) (map.put name cfg) map' where
  stores := contents.stores.write plain marshalled
  beside := contents.beside.beside_write other
  finite := (contents.finite.insert _).subset (here_write name data)

theorem Contents.remove (contents : Contents K K' p files map map') (other : K'.Other K)
    (name : String) :
    Contents K K' p (files.remove (K.file p name)) (map.drop name) map' where
  stores := contents.stores.remove name
  beside := contents.beside.beside_remove other
  finite := contents.finite.subset (here_remove _)

theorem Contents.created (contents : Contents K K' p files map map') (regular : K.Regular)
    (regular' : K'.Regular) (other : K'.Other K) {cfg : κ}
    (ran : (K.createFile p faults cfg).exec files = (.ok b, files')) :
    Contents K K' p files' (map.put (K.name cfg) cfg) map' := by
  obtain ⟨data, marshalled, plain, same⟩ := createFile_writes ran
  exact (contents.write other plain marshalled).congr regular regular' same

theorem Contents.replaced (contents : Contents K K' p files map map') (regular : K.Regular)
    (regular' : K'.Regular) (other : K'.Other K) {oldCfg newCfg : κ}
    (seen : faults .stat = none ∨ K.name newCfg = K.name oldCfg)
    (ran : (K.replaceFile p faults oldCfg newCfg).exec files = (.ok b, files')) :
    Contents K K' p files' (map.move (K.name oldCfg) (K.name newCfg) newCfg) map' := by
  obtain ⟨data, marshalled, plain, same⟩ := replaceFile_writes regular seen ran
  exact ((contents.remove other _).write other plain marshalled).congr regular regular' same

theorem Contents.deleted (contents : Contents K K' p files map map') (other : K'.Other K)
    {name : String} (ran : (K.deleteFile p faults name).exec files = (.ok b, files')) :
    Contents K K' p files' (map.drop name) map' := by
  rw [deleteFile_removes ran]
  exact contents.remove other name

end FileKind

namespace Registry

variable (site : Site)

/-! `Run`. -/

def loadServices : (Nat → Env) → List Config → Action Registry Unit
  | _, [] => pure ()
  | envs, v :: rest => do
    AddService site (envs 0) v false
    loadServices (fun k => envs (k + 1)) rest

/-- A route that cannot be added does not stop the others. -/
def loadRoutes : (Nat → Env) → List Route.RouteConfig → Action Registry Unit
  | _, [] => pure ()
  | envs, v :: rest => do
    (AddRoute site (envs 0) v false).handle fun _ => pure ()
    loadRoutes (fun k => envs (k + 1)) rest

theorem loadRoutes_cons (envs : Nat → Env) (v : Route.RouteConfig) (rest : List Route.RouteConfig) :
    loadRoutes site envs (v :: rest) =
      (AddRoute site (envs 0) v false).handle (fun _ => pure ()) >>= fun _ =>
      loadRoutes site (fun k => envs (k + 1)) rest := by
  rfl

def loadAll {κ : Type} (K : FileKind κ) (entries : List String) : Action Registry (List κ) :=
  fun r => (K.loadAllFile site.host.dir.place r.manager.files entries, r)

/-- The entries are those of the directory, in the order in which they are read. -/
def Run (envs envs' : Nat → Env) (entries : List String) : Action Registry Unit := do
  let cfgs ← loadAll site site.services.files entries
  loadServices site envs cfgs
  let routeCfgs ← loadAll site site.routes.files entries
  loadRoutes site envs' routeCfgs

end Registry

/-! What is added while a manager loads. -/

namespace Shelf

variable {κ ι κ' ι' : Type} {S : Shelf κ ι} {T : Shelf κ' ι'} {site : Site} {env : Env}
  {f : Registry} {cfg : κ}

/-- How the entries are set leaves the listeners of others alone. -/
def Outside (S : Shelf κ ι) : Prop := ∀ name i r, (S.put name i r).manager.taken = r.manager.taken

/-- An instance that is run, and what it has bound. -/
theorem runPrepared_loads (late : Bool) {i : ι} {faults : Nat → Option String}
    (fits : Manager.Fits site.host f.manager (S.plan i).listeners faults) :
    ∃ f', S.runPrepared site late i faults f = (.ok (), f') ∧ f'.manager.taken = f.manager.taken ∧
      ∀ owned ∈ f'.manager.held, owned ∈ f.manager.held ∨ owned.2 ∈ (S.plan i).listeners := by
  by_cases runs_on : (late && (S.plan i).waits) = true
  · rw [runPrepared_late runs_on]
    exact ⟨_, rfl, rfl, fun owned member => .inl member⟩
  · rw [runPrepared_fits (Bool.eq_false_iff.mpr runs_on) fits]
    refine ⟨_, rfl, rfl, fun owned member => ?_⟩
    rcases List.mem_append.mp member with old | new
    · exact .inl old
    · obtain ⟨l, there, rfl⟩ := List.mem_map.mp new
      exact .inr there

theorem addLocked_loads (lawful : S.Lawful) (lawful' : T.Lawful) (beside : S.Beside T)
    (aside : S.Aside) (outside : S.Outside) (steady : S.Steady) (plain : S.Plain)
    (settled : S.Settled cfg) (built : ∃ make, S.build cfg = .ok make)
    (fits : Manager.Fits site.host f.manager (S.listeners cfg) env.faults.bind) :
    ∃ f', S.addLocked site env cfg false f = (.ok (), f') ∧
      S.Leaves T f f' ((S.configs f).put (S.files.name cfg) cfg) ∧
      f'.manager.files = f.manager.files ∧ f'.manager.taken = f.manager.taken ∧
      ∀ owned ∈ f'.manager.held, owned ∈ f.manager.held ∨ owned.2 ∈ S.listeners cfg := by
  obtain ⟨make, built⟩ := built
  rw [← steady.listeners built f.manager.next] at fits
  have fits : Manager.Fits site.host { f with manager := f.manager.issued }.manager
      (S.plan (make f.manager.next)).listeners env.faults.bind := Manager.fits_issued.mpr fits
  obtain ⟨f₁, ran, taken, held⟩ := runPrepared_loads env.late fits
  have same := runPrepared_store S site env.late (make f.manager.next) env.faults.bind _ (issued_store f)
  rw [ran] at same
  refine ⟨S.put (S.files.name cfg) (some (make f.manager.next)) f₁, ?_, ⟨?_, ?_⟩, ?_, ?_, ?_⟩
  · rw [addLocked, Action.bind_ok _ (prepare_ok built f), Action.bind_ok _ ran]
    rfl
  · rw [configs_put lawful, configs_same lawful same.maps, Option.map_some, settled make built]
    rfl
  · rw [configs_beside beside, configs_same lawful' same.maps]
  · exact (plain _ _ _).trans same.files
  · exact (outside _ _ _).trans taken
  · intro owned member
    rw [(aside _ _ _).1] at member
    rw [← steady.listeners built f.manager.next]
    exact held owned member

theorem owners_of_configs {name : String} (found : S.configs f name = some cfg) :
    ∃ id, S.owners f name = some (id, S.listeners cfg) := by
  obtain ⟨i, present, rfl⟩ := Option.map_eq_some_iff.mp found
  refine ⟨S.id i, ?_⟩
  rw [owners, present, Option.map_some]

end Shelf

namespace Registry

variable {site : Site} {env : Env} {r f : Registry} {cfg : Route.RouteConfig}
  {loaded : List (Bool × String)}

/-- What the loading of a route relies on, besides the other routes. -/
structure Reloads (site : Site) (tunnels : Table String Config) (cfg : Route.RouteConfig) : Prop where
  identity : cfg.UUID ≠ "" ∧ cfg.CreatedAt ≠ 0
  built : ∃ make, site.routes.build cfg = .ok make
  checked : cfg.validateBasic site.lib = .ok cfg
  probes : cfg.Mode = Route.RouteModeInput → cfg.ProbeMode = Route.RouteProbeFullPath
  noWarnings : cfg.ProbeWarnings = []
  noTunnel : tunnels cfg.Name = none
  members : Route.checkRouteMembers site.lib tunnels cfg [] [] cfg.Members = .ok []
  protocols : cfg.Mode = Route.RouteModeInput → Route.checkProtocols tunnels none cfg.Members = .ok ()

/-- The files are those of the two maps, and each of them can be loaded beside the others. -/
structure Restorable (site : Site) (r : Registry) : Prop where
  services : (site.services.configs r).Named Config.Name
  routes : (site.routes.configs r).Named Route.RouteConfig.Name
  contents : FileKind.Contents site.services.files site.routes.files site.host.dir.place r.manager.files
    (site.services.configs r) (site.routes.configs r)
  tunnels : ∀ name cfg, site.services.configs r name = some cfg →
    cfg.UUID ≠ "" ∧ cfg.CreatedAt ≠ 0 ∧ ∃ make, site.services.build cfg = .ok make
  reloads : ∀ name cfg, site.routes.configs r name = some cfg →
    Reloads site (site.services.configs r) cfg
  listens : (site.routes.configs r).Unique Route.RouteConfig.Listen
  spread : Table.Spread site.host.conflicts (site.owners r) r.manager.next

/-- A manager that has loaded some of what another had registered. -/
structure Loading (site : Site) (r f : Registry) (loaded : List (Bool × String)) : Prop where
  services : ∀ name, site.services.configs f name =
    if (true, name) ∈ loaded then site.services.configs r name else none
  routes : ∀ name, site.routes.configs f name =
    if (false, name) ∈ loaded then site.routes.configs r name else none
  held : ∀ owned ∈ f.manager.held, ∃ key ∈ loaded, ∃ owner,
    site.owners r key = some owner ∧ owned.2 ∈ owner.2
  taken : f.manager.taken = []
  files : f.manager.files = r.manager.files

theorem Loading.start (site : Site) (r : Registry) : Loading site r (empty [] r.manager.files) [] where
  services _ := rfl
  routes _ := rfl
  held _ member := absurd member List.not_mem_nil
  taken := rfl
  files := rfl

/-- What is loaded next can be bound. -/
theorem Loading.fits (loading : Loading site r f loaded)
    (spread : Table.Spread site.host.conflicts (site.owners r) r.manager.next) {key : Bool × String}
    {owner : Nat × List Listener} (present : site.owners r key = some owner) (next : key ∉ loaded)
    {faults : Nat → Option String} (fine : ∀ k, faults k = none) :
    Manager.Fits site.host f.manager owner.2 faults where
  fine k _ := fine k
  free l member := by
    rw [Manager.bindable_iff, loading.taken]
    refine ⟨fun owned held => ?_, fun _ there => absurd there List.not_mem_nil⟩
    obtain ⟨key', before, owner', present', there⟩ := loading.held owned held
    exact spread.clear key key' owner owner' present present'
      (fun same => next (same ▸ before)) l member owned.2 there
  apart := spread.own key owner present

theorem owners_true {name : String} {tunnel : Config}
    (found : site.services.configs r name = some tunnel) :
    ∃ id, site.owners r (true, name) = some (id, site.services.listeners tunnel) :=
  Shelf.owners_of_configs found

theorem owners_false {name : String} (found : site.routes.configs r name = some cfg) :
    ∃ id, site.owners r (false, name) = some (id, site.routes.listeners cfg) :=
  Shelf.owners_of_configs found

theorem services_outside (site : Site) : site.services.Outside := fun _ _ _ => rfl

theorem routes_outside (site : Site) : site.routes.Outside := fun _ _ _ => rfl

theorem held_loaded {f' : Registry} {key : Bool × String} {owner : Nat × List Listener}
    (loading : Loading site r f loaded) (present : site.owners r key = some owner)
    (held : ∀ owned ∈ f'.manager.held, owned ∈ f.manager.held ∨ owned.2 ∈ owner.2) :
    ∀ owned ∈ f'.manager.held, ∃ key' ∈ key :: loaded, ∃ owner', site.owners r key' = some owner' ∧
      owned.2 ∈ owner'.2 := by
  intro owned member
  rcases held owned member with old | new
  · obtain ⟨key', before, owner', present', there⟩ := loading.held owned old
    exact ⟨key', List.mem_cons_of_mem _ before, owner', present', there⟩
  · exact ⟨key, List.mem_cons_self, owner, present, new⟩

/-- A tunnel is loaded. -/
theorem Loading.service (loading : Loading site r f loaded) (restorable : Restorable site r)
    {tunnel : Config} (found : site.services.configs r tunnel.Name = some tunnel)
    (next : (true, tunnel.Name) ∉ loaded) (fine : ∀ k, env.faults.bind k = none) :
    ∃ f', AddService site env tunnel false f = (.ok (), f') ∧
      Loading site r f' ((true, tunnel.Name) :: loaded) := by
  obtain ⟨uuid, created, built⟩ := restorable.tunnels _ _ found
  obtain ⟨id, present⟩ := owners_true found
  have fits := loading.fits restorable.spread present next fine
  obtain ⟨f', ran, leaves, files, taken, held⟩ := Shelf.addLocked_loads (services_lawful site)
    (routes_lawful site) (services_beside site) (services_aside site) (services_outside site)
    (services_steady site) (services_plain site) (services_settled site tunnel) built fits
  have same : Manager.normalizeConfig env.now env.uuid tunnel = tunnel := by
    rw [Manager.normalizeConfig, if_neg created, if_neg uuid]
  have absent : (site.services.entries f tunnel.Name).isSome = false := by
    have none_ := loading.services tunnel.Name
    rw [if_neg next, Shelf.configs, Option.map_eq_none_iff] at none_
    rw [none_]
    rfl
  refine ⟨f', ?_, ?_, ?_, held_loaded loading present held, taken.trans loading.taken,
    files.trans loading.files⟩
  · rw [AddService, same, Action.choose_apply, absent]
    exact ran
  · intro name
    have put : site.services.configs f' = (site.services.configs f).put tunnel.Name tunnel :=
      leaves.configs
    rw [put]
    by_cases here : name = tunnel.Name
    · rw [here, if_pos List.mem_cons_self, found]
      exact Function.update_self ..
    · have apart : (true, name) ≠ (true, tunnel.Name) := fun same => here (Prod.mk.inj same).2
      rw [Table.put, Function.update_of_ne here, loading.services]
      simp only [List.mem_cons, apart, false_or]
  · intro name
    rw [leaves.beside, loading.routes]
    simp

theorem listenTaken_none {routes : Table String Route.RouteConfig} {excludeUUID listen : String}
    (others : ∀ name other, routes name = some other → other.Listen ≠ listen) (order : List String) :
    Route.listenTaken routes order excludeUUID listen = none := by
  rw [Route.listenTaken, List.find?_eq_none]
  intro name _ taken
  obtain ⟨other, there, both⟩ := (Option.any_eq_true _ _).mp taken
  exact others name other there (of_decide_eq_true both).2

/-- The checks of a route that was registered, when all the tunnels are loaded. -/
theorem Loading.checks (loading : Loading site r f loaded) (restorable : Restorable site r)
    (tunnels : site.services.configs f = site.services.configs r)
    (found : site.routes.configs r cfg.Name = some cfg) (next : (false, cfg.Name) ∉ loaded) :
    Registry.loadRoute site env f cfg = .ok cfg := by
  have reloads := restorable.reloads _ _ found
  have probed : withProbeMode site (site.services.configs f) cfg false = cfg := by
    by_cases input : cfg.Mode = Route.RouteModeInput
    · exact withProbeMode_full site f (reloads.probes input)
    · exact if_neg fun both => input both.2.1
  have known : withIdentity env cfg = cfg := by
    rw [withIdentity, if_neg reloads.identity.1, if_neg reloads.identity.2]
  have alone : site.routes.configs f cfg.Name = none := by
    rw [loading.routes, if_neg next]
  have same : { cfg with ProbeWarnings := [] } = cfg := by
    rw [← reloads.noWarnings]
  rw [Registry.loadRoute, probed, known]
  refine (validateRouteLocked_of reloads.checked ?_ ?_ ?_ ?_ ?_).trans (congrArg _ same)
  · rw [alone]
    rfl
  · rw [tunnels]
    exact reloads.noTunnel
  · rw [tunnels]
    exact reloads.members
  · rw [tunnels]
    exact reloads.protocols
  · refine listenTaken_none (fun name other there => ?_) _
    rw [loading.routes] at there
    split_ifs at there with before
    intro same
    rw [restorable.listens _ _ _ _ there found same] at before
    exact next before

/-- A route is loaded. -/
theorem Loading.route (loading : Loading site r f loaded) (restorable : Restorable site r)
    (tunnels : site.services.configs f = site.services.configs r)
    (found : site.routes.configs r cfg.Name = some cfg) (next : (false, cfg.Name) ∉ loaded)
    (fine : ∀ k, env.faults.bind k = none) :
    ∃ f', AddRoute site env cfg false f = (.ok (), f') ∧
      Loading site r f' ((false, cfg.Name) :: loaded) := by
  have reloads := restorable.reloads _ _ found
  obtain ⟨id, present⟩ := owners_false found
  have fits := loading.fits restorable.spread present next fine
  obtain ⟨f', ran, leaves, files, taken, held⟩ := Shelf.addLocked_loads (routes_lawful site)
    (services_lawful site) (routes_beside site) (routes_aside site) (routes_outside site)
    (routes_steady site) (routes_plain site) (routes_settled reloads.checked) reloads.built fits
  have checked : Registry.loadRoute site env f cfg = .ok cfg :=
    loading.checks restorable tunnels found next
  refine ⟨f', ?_, ?_, ?_, held_loaded loading present held, taken.trans loading.taken,
    files.trans loading.files⟩
  · rw [AddRoute_load, checked, Action.bind_ok _ (Action.lift_apply (.ok cfg) f)]
    exact ran
  · intro name
    rw [leaves.beside, loading.services]
    simp only [List.mem_cons, Prod.mk.injEq, Bool.true_eq_false, false_and, false_or]
  · intro name
    have put : site.routes.configs f' = (site.routes.configs f).put cfg.Name cfg := leaves.configs
    rw [put]
    by_cases here : name = cfg.Name
    · rw [here, if_pos List.mem_cons_self, found]
      exact Function.update_self ..
    · have apart : (false, name) ≠ (false, cfg.Name) := fun same => here (Prod.mk.inj same).2
      rw [Table.put, Function.update_of_ne here, loading.routes]
      simp only [List.mem_cons, apart, false_or]

/-! All of them. -/

/-- The keys of what is loaded, the last one first. -/
def keys (side : Bool) (names : List String) (loaded : List (Bool × String)) : List (Bool × String) :=
  (names.map fun name => (side, name)).reverse ++ loaded

theorem keys_cons (side : Bool) (name : String) (names : List String) (loaded : List (Bool × String)) :
    keys side names ((side, name) :: loaded) = keys side (name :: names) loaded := by
  rw [keys, keys, List.map_cons, List.reverse_cons, List.append_assoc]
  rfl

theorem mem_keys {side : Bool} {names : List String} {key : Bool × String} :
    key ∈ keys side names loaded ↔ (key.1 = side ∧ key.2 ∈ names) ∨ key ∈ loaded := by
  rw [keys, List.mem_append, List.mem_reverse, List.mem_map]
  constructor
  · rintro (⟨name, member, rfl⟩ | before)
    · exact .inl ⟨rfl, member⟩
    · exact .inr before
  · rintro (⟨rfl, member⟩ | before)
    · exact .inl ⟨key.2, member, rfl⟩
    · exact .inr before

theorem loaded_all {α : Type} {table table' : Table String α} {side : Bool}
    (some_ : ∀ name, table' name = if (side, name) ∈ loaded then table name else none)
    (all : ∀ name, table name ≠ none → (side, name) ∈ loaded) : table' = table := by
  funext name
  rw [some_]
  split_ifs with before
  · rfl
  · by_contra present
    exact before (all name (Ne.symm present))

theorem Loading.loadServices (restorable : Restorable site r) {cfgs : List Config}
    (found : ∀ v ∈ cfgs, site.services.configs r v.Name = some v)
    (distinct : (cfgs.map Config.Name).Nodup) {envs : Nat → Env}
    (fine : ∀ n k, (envs n).faults.bind k = none) (loading : Loading site r f loaded)
    (next : ∀ v ∈ cfgs, (true, v.Name) ∉ loaded) :
    ∃ f', loadServices site envs cfgs f = (.ok (), f') ∧
      Loading site r f' (keys true (cfgs.map Config.Name) loaded) := by
  induction cfgs generalizing f loaded envs with
  | nil => exact ⟨f, rfl, loading⟩
  | cons v rest ih =>
    obtain ⟨first, others⟩ := List.forall_mem_cons.mp found
    obtain ⟨isNext, later⟩ := List.forall_mem_cons.mp next
    obtain ⟨alone, distinct⟩ := List.nodup_cons.mp distinct
    have fineFirst : ∀ k, (envs 0).faults.bind k = none := fine 0
    obtain ⟨f₁, added, loading⟩ := loading.service restorable first isNext fineFirst
    have apart : ∀ v' ∈ rest, (true, v'.Name) ∉ (true, v.Name) :: loaded := by
      intro v' member
      refine List.not_mem_cons_of_ne_of_not_mem (fun same => alone ?_) (later v' member)
      rw [← (Prod.mk.inj same).2]
      exact List.mem_map_of_mem member
    obtain ⟨f', ran, loading⟩ := ih others distinct (fun n => fine (n + 1)) loading apart
    refine ⟨f', ?_, ?_⟩
    · rw [Registry.loadServices, Action.bind_ok _ added]
      exact ran
    · rw [keys_cons] at loading
      exact loading

theorem Loading.loadRoutes (restorable : Restorable site r) {cfgs : List Route.RouteConfig}
    (found : ∀ v ∈ cfgs, site.routes.configs r v.Name = some v)
    (distinct : (cfgs.map Route.RouteConfig.Name).Nodup) {envs : Nat → Env}
    (fine : ∀ n k, (envs n).faults.bind k = none) (loading : Loading site r f loaded)
    (tunnels : ∀ name, site.services.configs r name ≠ none → (true, name) ∈ loaded)
    (next : ∀ v ∈ cfgs, (false, v.Name) ∉ loaded) :
    ∃ f', loadRoutes site envs cfgs f = (.ok (), f') ∧
      Loading site r f' (keys false (cfgs.map Route.RouteConfig.Name) loaded) := by
  induction cfgs generalizing f loaded envs with
  | nil => exact ⟨f, rfl, loading⟩
  | cons v rest ih =>
    obtain ⟨first, others⟩ := List.forall_mem_cons.mp found
    obtain ⟨isNext, later⟩ := List.forall_mem_cons.mp next
    obtain ⟨alone, distinct⟩ := List.nodup_cons.mp distinct
    have all : site.services.configs f = site.services.configs r := loaded_all loading.services tunnels
    have fineFirst : ∀ k, (envs 0).faults.bind k = none := fine 0
    obtain ⟨f₁, added, loading⟩ := loading.route restorable all first isNext fineFirst
    have apart : ∀ v' ∈ rest, (false, v'.Name) ∉ (false, v.Name) :: loaded := by
      intro v' member
      refine List.not_mem_cons_of_ne_of_not_mem (fun same => alone ?_) (later v' member)
      rw [← (Prod.mk.inj same).2]
      exact List.mem_map_of_mem member
    obtain ⟨f', ran, loading⟩ := ih others distinct (fun n => fine (n + 1)) loading
      (fun name present => List.mem_cons_of_mem _ (tunnels name present)) apart
    have handled : (AddRoute site (envs 0) v false).handle (fun _ => pure ()) f = (.ok (), f₁) :=
      Action.handle_ok _ added
    refine ⟨f', ?_, ?_⟩
    · rw [loadRoutes_cons, Action.bind_ok _ handled]
      exact ran
    · rw [keys_cons] at loading
      exact loading

/-- What is written of a configuration is read back. The warnings are not part of the file. -/
structure Readable (site : Site) : Prop where
  services : ∀ cfg data, site.host.dir.marshal cfg = .ok data → site.unmarshal data = .ok cfg
  routes : ∀ cfg data, site.marshalRoute cfg = .ok data →
    site.unmarshalRoute data = .ok { cfg with ProbeWarnings := [] }

/-- A fresh manager that loads the directory registers what this one has registered, if every port
is free. -/
structure Restored (site : Site) (r : Registry) : Prop where
  listed : ∃ entries, FileKind.Lists site.host.dir.place r.manager.files entries
  loaded : ∀ entries envs envs', FileKind.Lists site.host.dir.place r.manager.files entries →
    (∀ n k, (envs n).faults.bind k = none) → (∀ n k, (envs' n).faults.bind k = none) →
      ∃ f, Run site envs envs' entries (empty [] r.manager.files) = (.ok (), f) ∧
        site.services.configs f = site.services.configs r ∧ site.routes.configs f = site.routes.configs r

theorem Restorable.restored (readable : Readable site)
    (restorable : Restorable site r) : Restored site r := by
  refine ⟨FileKind.exists_lists restorable.contents.finite, ?_⟩
  intro entries envs envs' lists fine fine'
  obtain ⟨cfgs, loads, distinct, cfgs_iff⟩ := restorable.contents.stores.loads
    (serviceFiles_regular _ _) lists restorable.services fun _ cfg data _ marshalled =>
    readable.services cfg data marshalled
  obtain ⟨routeCfgs, loads', distinct', routeCfgs_iff⟩ :=
    restorable.contents.beside.loads (routeFiles_regular _ _) lists
    restorable.routes fun name cfg data found marshalled => by
      have same : { cfg with ProbeWarnings := [] } = cfg := by
        rw [← (restorable.reloads name cfg found).noWarnings]
      exact same ▸ readable.routes cfg data marshalled
  obtain ⟨f₁, ran, loading⟩ := (Loading.start site r).loadServices restorable
    (fun v member => (cfgs_iff v).mp member) distinct fine fun _ _ => List.not_mem_nil
  have tunnels : ∀ name, site.services.configs r name ≠ none →
      (true, name) ∈ keys true (cfgs.map Config.Name) [] := by
    intro name present
    obtain ⟨tunnel, found⟩ := Option.ne_none_iff_exists'.mp present
    obtain rfl : tunnel.Name = name := restorable.services name tunnel found
    exact mem_keys.mpr (.inl ⟨rfl, List.mem_map_of_mem ((cfgs_iff tunnel).mpr found)⟩)
  have apart : ∀ v ∈ routeCfgs, (false, v.Name) ∉ keys true (cfgs.map Config.Name) [] := by
    intro v _ before
    rcases mem_keys.mp before with ⟨side, _⟩ | none_
    · exact Bool.false_ne_true side
    · exact absurd none_ List.not_mem_nil
  obtain ⟨f, ran', loading'⟩ := loading.loadRoutes restorable
    (fun v member => (routeCfgs_iff v).mp member) distinct' fine' tunnels apart
  refine ⟨f, ?_, ?_, ?_⟩
  · have first : loadAll site site.services.files entries (empty [] r.manager.files) =
        (.ok cfgs, empty [] r.manager.files) :=
      Prod.ext loads rfl
    have second : loadAll site site.routes.files entries f₁ = (.ok routeCfgs, f₁) := by
      rw [loadAll, loading.files]
      exact Prod.ext loads' rfl
    rw [Run, Action.bind_ok _ first, Action.bind_ok _ ran, Action.bind_ok _ second]
    exact ran'
  · exact loaded_all loading'.services fun name present => mem_keys.mpr (.inr (tunnels name present))
  · refine loaded_all loading'.routes fun name present => ?_
    obtain ⟨cfg, found⟩ := Option.ne_none_iff_exists'.mp present
    obtain rfl : cfg.Name = name := restorable.routes name cfg found
    exact mem_keys.mpr (.inl ⟨rfl, List.mem_map_of_mem ((routeCfgs_iff cfg).mpr found)⟩)

end Registry

end Gotun.Tun
