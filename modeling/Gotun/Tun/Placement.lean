import Gotun.Lib.Owners
import Gotun.Tun.Creation
import Gotun.Tun.Sections

/-! Where the instances of a registry listen, and what the success of an operation says about it. -/

namespace Gotun.Tun

open Gotun.Lib

namespace Shelf

variable {κ ι κ' ι' : Type} {S : Shelf κ ι} {T : Shelf κ' ι'} {site : Site} {env : Env}
  {r r' : Registry} {cfg : κ} {make : Nat → ι} {i : ι} {late : Bool} {faults : Nat → Option String}

/-- What a configuration listens on when it is run. -/
def listeners (S : Shelf κ ι) (cfg : κ) : List Listener :=
  match S.build cfg with
  | .ok make => (S.plan (make 0)).listeners
  | .error _ => []

/-- Its `Run` waits for connections before it listens. -/
def waits (S : Shelf κ ι) (cfg : κ) : Bool :=
  match S.build cfg with
  | .ok make => (S.plan (make 0)).waits
  | .error _ => false

/-- The number of an instance does not matter to what it does. -/
def Steady (S : Shelf κ ι) : Prop :=
  ∀ {cfg make}, S.build cfg = .ok make → ∀ id, S.plan (make id) = S.plan (make 0)

theorem Steady.listeners (steady : S.Steady) (built : S.build cfg = .ok make) (id : Nat) :
    (S.plan (make id)).listeners = S.listeners cfg := by
  rw [Shelf.listeners, built, steady built]

theorem Steady.waits (steady : S.Steady) (built : S.build cfg = .ok make) (id : Nat) :
    (S.plan (make id)).waits = S.waits cfg := by
  rw [Shelf.waits, built, steady built]

/-- The instances by name: their numbers, and what they listen on. -/
def owners (S : Shelf κ ι) (r : Registry) : Table String (Nat × List Listener) :=
  fun name => (S.entries r name).map fun i => (S.id i, S.listeners (S.cfg i))

theorem owners_same (same : S.entries r' = S.entries r) : S.owners r' = S.owners r := by
  unfold owners
  rw [same]

theorem owners_put (lawful : S.Lawful) (name : String) (i : Option ι)
    (r : Registry) : S.owners (S.put name i r) =
    Function.update (S.owners r) name (i.map fun i => (S.id i, S.listeners (S.cfg i))) := by
  funext other
  unfold owners
  rw [lawful.put]
  by_cases here : other = name
  · rw [here, Function.update_self, Function.update_self]
  · rw [Function.update_of_ne here, Function.update_of_ne here]

/-- A new instance is run on a manager: its `Run` is late, or all that it listens on can be bound. -/
def Opened (S : Shelf κ ι) (site : Site) (env : Env) (m : Manager) (cfg : κ) : Prop :=
  (env.late && S.waits cfg) = true ∨ Manager.Fits site.host m (S.listeners cfg) env.faults.bind

/-- The maps are the same, and no instance has been made. -/
structure SameOwners (r r' : Registry) : Prop where
  maps : SameMaps r r'
  next : r'.manager.next = r.manager.next

theorem SameOwners.trans {r'' : Registry} (first : SameOwners r r')
    (second : SameOwners r' r'') : SameOwners r r'' :=
  ⟨first.maps.trans second.maps, second.next.trans first.next⟩

theorem runPrepared_ok (ran : S.runPrepared site late i faults r = (.ok (), r')) :
    ((late && (S.plan i).waits) = true ∨
      Manager.Fits site.host r.manager (S.plan i).listeners faults) ∧ SameOwners r r' := by
  by_cases runs_on : (late && (S.plan i).waits) = true
  · rw [runPrepared_late runs_on] at ran
    cases ran
    exact ⟨.inl runs_on, ⟨rfl, rfl⟩, rfl⟩
  · have inTime := Bool.eq_false_iff.mpr runs_on
    by_cases fits : Manager.Fits site.host r.manager (S.plan i).listeners faults
    · rw [runPrepared_fits inTime fits] at ran
      cases ran
      exact ⟨.inr fits, ⟨rfl, rfl⟩, rfl⟩
    · obtain ⟨e, ls, failed, _⟩ := runPrepared_unfit inTime fits
      rw [failed] at ran
      cases ran

theorem prepared_ok {i : ι} (prepared : S.prepare cfg r = (.ok i, r')) : ∃ make, S.build cfg = .ok make ∧
    i = make r.manager.next ∧ r' = { r with manager := r.manager.issued } := by
  cases built : S.build cfg with
  | error e =>
    rw [prepare_error built] at prepared
    cases prepared
  | ok make =>
    rw [prepare_ok built] at prepared
    cases prepared
    exact ⟨make, rfl, rfl, rfl⟩

theorem onFiles_owners {x : FileScript Bool} (ran : onFiles x r = (.ok (), r')) : SameOwners r r' := by
  rcases done : x.exec r.manager.files with ⟨result, files⟩
  rw [onFiles_eq done] at ran
  obtain ⟨_, rfl⟩ := Prod.mk.inj ran
  exact ⟨⟨rfl, rfl⟩, rfl⟩

section laws

variable (lawful : S.Lawful) (lawful' : T.Lawful) (beside : S.Beside T) (aside : S.Aside)
  (numbered : S.Numbered) (steady : S.Steady)

/-- What has become of the instances: `m` is the manager on which the new one was run. -/
structure Renewed (S : Shelf κ ι) (T : Shelf κ' ι') (site : Site) (env : Env) (r r' : Registry)
    (m : Manager) (name : String) (cfg : κ)
    (before : Table String (Nat × List Listener)) : Prop where
  opened : S.Opened site env m cfg
  owners : S.owners r' = before.put name (r.manager.next, S.listeners cfg)
  beside : T.owners r' = T.owners r
  next : r'.manager.next = r.manager.next + 1

include lawful lawful' beside aside numbered steady in
theorem addLocked_ok (settled : S.Settled cfg) {createFile : Bool}
    (ran : S.addLocked site env cfg createFile r = (.ok (), r')) :
    S.Renewed T site env r r' r.manager (S.files.name cfg) cfg (S.owners r) := by
  obtain ⟨i, r₁, prepared, ran⟩ := Action.of_bind_ok ran
  obtain ⟨⟨⟩, r₂, started, ran⟩ := Action.of_bind_ok ran
  obtain ⟨⟨⟩, r₃, persisted, ran⟩ := Action.of_bind_ok ran
  cases ran
  obtain ⟨make, built, rfl, rfl⟩ := prepared_ok prepared
  obtain ⟨opened, running⟩ := runPrepared_ok started
  have filed : SameOwners r₂ r₃ := by
    unfold persist at persisted
    split_ifs at persisted
    · exact onFiles_owners (of_handle_ok (fun e s => ⟨e, _, rfl⟩) persisted)
    · cases persisted
      exact ⟨.refl r₂, rfl⟩
  have same : SameMaps r r₃ := (running.trans filed).maps
  rw [steady.listeners built, steady.waits built] at opened
  refine ⟨?_, ?_, ?_, ?_⟩
  · rcases opened with late | fits
    · exact .inl late
    · exact .inr (Manager.fits_issued.mp fits)
  · rw [owners_put lawful, owners_same (lawful.same same), Option.map_some, numbered built,
      settled make built]
    rfl
  · exact owners_same ((beside _ _ _).trans (lawful'.same same))
  · exact (aside _ _ _).2.1.trans (running.trans filed).next

include lawful lawful' beside aside numbered steady in
theorem replaceLocked_ok (settled : S.Settled cfg) {oldName newName : String} {old : ι}
    (ran : S.replaceLocked site env oldName old newName cfg r = (.ok (), r')) :
    S.Renewed T site env r r' (r.manager.closed (S.id old)) newName cfg ((S.owners r).drop oldName) := by
  obtain ⟨i, r₁, prepared, ran⟩ := Action.of_bind_ok ran
  obtain ⟨⟨⟩, r₂, closed, ran⟩ := Action.of_bind_ok ran
  cases closed
  obtain ⟨⟨⟩, r₂, handled, ran⟩ := Action.of_bind_ok ran
  obtain ⟨⟨⟩, r₃, saved, ran⟩ := Action.of_bind_ok ran
  cases ran
  obtain ⟨make, built, rfl, rfl⟩ := prepared_ok prepared
  have started := of_handle_ok (fun e => rollback_fails site S env oldName (S.cfg old) e) handled
  obtain ⟨opened, running⟩ := runPrepared_ok started
  have filed := onFiles_owners
    (of_handle_ok (fun e s => rollback_fails site S env oldName (S.cfg old) e _) saved)
  have same : SameMaps r r₃ := (running.trans filed).maps
  rw [steady.listeners built, steady.waits built] at opened
  refine ⟨?_, ?_, ?_, ?_⟩
  · rcases opened with late | fits
    · exact .inl late
    · exact .inr ⟨fits.fine, fits.free, fits.apart⟩
  · show S.owners (S.put newName _ (S.put oldName none r₃)) = _
    rw [owners_put lawful, owners_put lawful, owners_same (lawful.same same), Option.map_some,
      numbered built, settled make built]
    rfl
  · exact owners_same ((beside _ _ _).trans ((beside _ _ _).trans (lawful'.same same)))
  · exact (aside _ _ _).2.1.trans ((aside _ _ _).2.1.trans (running.trans filed).next)

include lawful lawful' beside aside in
theorem remove_ok {name : String} (ran : S.remove site env name r = (.ok (), r')) :
    S.owners r' = (S.owners r).drop name ∧ T.owners r' = T.owners r ∧
      r'.manager.next = r.manager.next := by
  obtain ⟨⟨⟩, r₁, deleted, ran⟩ := Action.of_bind_ok ran
  obtain ⟨same, next⟩ := onFiles_owners deleted
  rw [Action.choose_apply] at ran
  cases present : S.entries r₁ name with
  | none =>
    rw [present] at ran
    cases ran
    have absent : S.owners r name = none := by
      rw [owners, ← lawful.same same, present, Option.map_none]
    rw [Table.drop_absent absent]
    exact ⟨owners_same (lawful.same same), owners_same (lawful'.same same), next⟩
  | some i =>
    rw [present] at ran
    cases ran
    have closed : SameMaps r (S.close env.missed i r₁).2 :=
      same.trans (close_store (S := S) env.missed i r₁ (.refl r₁)).maps
    refine ⟨?_, owners_same ((beside _ _ _).trans (lawful'.same closed)), (aside _ _ _).2.1.trans next⟩
    exact (owners_put lawful name none _).trans
      (congrArg (Table.drop · name) (owners_same (lawful.same closed)))

end laws

/-- A `Run` that waits has at most one listener, or listeners of its own that go together. -/
def Narrow (S : Shelf κ ι) (site : Site) : Prop :=
  ∀ cfg, S.waits cfg = true → (S.listeners cfg).Pairwise fun a b => site.host.conflicts a b = false

theorem Opened.own (narrow : S.Narrow site) {m : Manager} (opened : S.Opened site env m cfg) :
    (S.listeners cfg).Pairwise fun a b => site.host.conflicts a b = false := by
  rcases opened with late | fits
  · exact narrow cfg (Bool.and_eq_true_iff.mp late).2
  · exact fits.apart

/-- What could be bound is not in the way of anything that is bound. -/
theorem Opened.clear {m : Manager} (opened : S.Opened site env m cfg) {owner : Nat × List Listener}
    (bound : ∀ l ∈ owner.2, (owner.1, l) ∈ m.held)
    (late : (env.late && S.waits cfg) = true →
      Table.Clear site.host.conflicts (S.listeners cfg) owner.2) :
    Table.Clear site.host.conflicts (S.listeners cfg) owner.2 := by
  rcases opened with runs_on | fits
  · exact late runs_on
  · intro a here b there
    exact ((Manager.bindable_iff m a).mp (fits.free a here)).1 _ (bound b there)

end Shelf

/-! Both maps. -/

section both

variable (site : Site)

theorem services_steady : site.services.Steady := by
  intro cfg make built id
  change buildService site cfg = .ok make at built
  unfold buildService at built
  split_ifs at built
  · cases built
    rfl
  · cases made : NewService site.host.parsers cfg with
    | error e =>
      rw [made] at built
      cases built
    | ok kind =>
      rw [made] at built
      cases built
      rfl

theorem routes_steady : site.routes.Steady := by
  intro cfg make built id
  change newRouteService site cfg = .ok make at built
  unfold newRouteService at built
  cases checked : cfg.validateBasic site.lib with
  | error e =>
    rw [checked] at built
    cases built
  | ok cfg' =>
    rw [checked] at built
    cases listens : routeListener site cfg' with
    | error e =>
      simp only [bind, Except.bind, listens] at built
      cases built
    | ok listener =>
      simp only [bind, Except.bind, listens, pure, Except.pure] at built
      cases built
      rfl

theorem services_narrow : site.services.Narrow site := by
  intro cfg waits
  unfold Shelf.waits at waits
  unfold Shelf.listeners
  cases built : site.services.build cfg with
  | error e => exact .nil
  | ok make =>
    rw [built] at waits
    change (servicePlan site (make 0)).waits = true at waits
    show (servicePlan site (make 0)).listeners.Pairwise _
    unfold servicePlan at waits ⊢
    dsimp only at waits ⊢
    cases kind : (make 0).kind with
    | server input => exact List.pairwise_singleton _ _
    | frpc => exact .nil
    | disabled => exact .nil
    | frps input worker =>
      rw [kind] at waits
      cases waits

theorem routes_narrow : site.routes.Narrow site := by
  intro cfg waits
  unfold Shelf.waits at waits
  cases built : site.routes.build cfg with
  | error e =>
    rw [built] at waits
    cases waits
  | ok make =>
    rw [built] at waits
    cases waits

/-- The instances of both maps, by the map and the name. -/
def Site.owners (r : Registry) : Table (Bool × String) (Nat × List Listener) :=
  Table.join (site.services.owners r) (site.routes.owners r)

/-- What the new configuration listens on is not in the way of an instance that has not bound its own,
nor of any other if its own `Run` is late. -/
def Unhindered (env : Env) (r : Registry) (waits : Bool) (needs : List Listener) (key : Bool × String)
    (replaced : Option (Bool × String)) : Prop :=
  ∀ other owner, site.owners r other = some owner → other ≠ key → replaced ≠ some other →
    ((env.late && waits) = true ∨ ∃ l ∈ owner.2, (owner.1, l) ∉ r.manager.held) →
      Table.Clear site.host.conflicts needs owner.2

section steps

variable {site} {κ ι κ' ι' : Type} {S : Shelf κ ι} {T : Shelf κ' ι'} {env : Env} {r r' : Registry}
  {cfg : κ} {m : Manager} {key old : Bool × String}

/-- A new instance in a place that no other has, or in that of another that is closed. -/
theorem spread_opened (narrow : S.Narrow site)
    {before : Table (Bool × String) (Nat × List Listener)} {replaced : Option (Bool × String)}
    {next : Nat} (spread : Table.Spread site.host.conflicts before next)
    (opened : S.Opened site env m cfg)
    (others : ∀ other owner, before other = some owner → other ≠ key →
      site.owners r other = some owner ∧ replaced ≠ some other ∧
        ∀ l, (owner.1, l) ∈ r.manager.held → (owner.1, l) ∈ m.held)
    (unhindered : Unhindered site env r (S.waits cfg) (S.listeners cfg) key replaced) :
    Table.Spread site.host.conflicts (before.put key (next, S.listeners cfg)) (next + 1) := by
  apply spread.put site.host.symmetric (opened.own narrow)
  intro other owner found here
  obtain ⟨there, apart, kept⟩ := others other owner found here
  by_cases bound : ∀ l ∈ owner.2, (owner.1, l) ∈ r.manager.held
  · exact opened.clear (fun l member => kept l (bound l member)) fun late =>
      unhindered other owner there here apart (.inl late)
  · push Not at bound
    exact unhindered other owner there here apart (.inr bound)

theorem spread_added (narrow : S.Narrow site)
    (spread : Table.Spread site.host.conflicts (site.owners r) r.manager.next)
    (opened : S.Opened site env r.manager cfg)
    (unhindered : Unhindered site env r (S.waits cfg) (S.listeners cfg) key none) :
    Table.Spread site.host.conflicts ((site.owners r).put key (r.manager.next, S.listeners cfg))
      (r.manager.next + 1) :=
  spread_opened narrow spread opened
    (fun other _ found _ => ⟨found, (Option.some_ne_none other).symm, fun _ member => member⟩)
    unhindered

theorem spread_replaced (narrow : S.Narrow site)
    (spread : Table.Spread site.host.conflicts (site.owners r) r.manager.next)
    {gone : Nat × List Listener} (present : site.owners r old = some gone)
    (opened : S.Opened site env (r.manager.closed gone.1) cfg)
    (unhindered : Unhindered site env r (S.waits cfg) (S.listeners cfg) key (some old)) :
    Table.Spread site.host.conflicts
      (((site.owners r).drop old).put key (r.manager.next, S.listeners cfg))
      (r.manager.next + 1) := by
  refine spread_opened narrow (spread.drop old) opened (fun other owner found _ => ?_) unhindered
  obtain ⟨ne, there⟩ := Table.of_drop found
  refine ⟨there, fun same => ne (Option.some.inj same).symm, fun l member => ?_⟩
  refine List.mem_filter.mpr ⟨member, decide_eq_true fun same => ne ?_⟩
  exact spread.distinct _ _ _ _ there present same

end steps

end both

end Gotun.Tun
