import Gotun.Tun.Registry

/-! What the operations of the registry do to its two maps, and what holds of the maps along every
run: the keys, and the UUIDs. -/

namespace Gotun.Tun

open Gotun.Lib

/-- Neither map has changed. -/
def SameMaps (r r' : Registry) : Prop := r'.manager.services = r.manager.services ∧ r'.routes = r.routes

theorem SameMaps.refl (r : Registry) : SameMaps r r := ⟨rfl, rfl⟩

theorem SameMaps.trans {r r' r'' : Registry} (first : SameMaps r r')
    (second : SameMaps r' r'') : SameMaps r r'' :=
  ⟨second.1.trans first.1, second.2.trans first.2⟩

/-- Nor have the files. -/
structure SameStore (r r' : Registry) : Prop where
  maps : SameMaps r r'
  files : r'.manager.files = r.manager.files

theorem SameStore.refl (r : Registry) : SameStore r r := ⟨.refl r, rfl⟩

theorem SameStore.trans {r r' r'' : Registry} (first : SameStore r r')
    (second : SameStore r' r'') : SameStore r r'' :=
  ⟨first.maps.trans second.maps, second.files.trans first.files⟩

namespace Shelf

variable {κ ι κ' ι' : Type} {S : Shelf κ ι} {T : Shelf κ' ι'} {site : Site} {env : Env}
  {r r' : Registry} {cfg : κ}

/-- The entries are those of one of the two maps, and are set by name. -/
structure Lawful (S : Shelf κ ι) : Prop where
  same : ∀ {r r'}, SameMaps r r' → S.entries r' = S.entries r
  put : ∀ name i r, S.entries (S.put name i r) = Function.update (S.entries r) name i

/-- The other map does not change. -/
def Beside (S : Shelf κ ι) (T : Shelf κ' ι') : Prop :=
  ∀ name i r, T.entries (S.put name i r) = T.entries r

/-- An instance has the configuration it was built from. -/
def Settled (S : Shelf κ ι) (cfg : κ) : Prop :=
  ∀ make, S.build cfg = .ok make → ∀ id, S.cfg (make id) = cfg

/-! What leaves the maps and the files as they are. -/

theorem runListeners_store (h : Host) (id : Nat) (ls : List Listener) (faults : Nat → Option String)
    (r : Registry) :
    SameStore r (onManager (Manager.runListeners h id ls faults) r).2 := by
  unfold onManager
  rcases Manager.runListeners_cases (h := h) id ls faults r.manager with ok | ⟨k, e, _, failed⟩
  · rw [ok]
    exact ⟨⟨rfl, rfl⟩, rfl⟩
  · rw [failed]
    exact ⟨⟨rfl, rfl⟩, rfl⟩

theorem spawn_store (wanted : Bool) (id : Nat) (task : Task) :
    Action.Keeps (SameStore r) (spawn wanted id task) :=
  fun _ same => ⟨same.maps, same.files⟩

variable (site S) in
theorem runPrepared_store (late : Bool) (i : ι) (faults : Nat → Option String) :
    Action.Keeps (SameStore r) (S.runPrepared site late i faults) := by
  unfold runPrepared
  refine (spawn_store _ _ _).bind fun _ => ?_
  split
  · exact spawn_store _ _ _
  · refine Action.Keeps.bind ?_ fun _ =>
      (spawn_store _ _ _).bind fun _ => spawn_store _ _ _
    exact fun r' same => same.trans (runListeners_store _ _ _ _ r')

theorem close_store (missed : Nat → Bool) (i : ι) : Action.Keeps (SameStore r) (S.close missed i) :=
  fun _ same => ⟨same.maps, same.files⟩

theorem issued_store (r : Registry) : SameStore r { r with manager := r.manager.issued } :=
  ⟨⟨rfl, rfl⟩, rfl⟩

/-! What the operations do to the maps. -/

/-- The maps after an operation on one of them: `map` are its configurations, and the other is as it
was. -/
structure Leaves (S : Shelf κ ι) (T : Shelf κ' ι') (r r' : Registry) (map : Table String κ) : Prop where
  configs : S.configs r' = map
  beside : T.configs r' = T.configs r

variable (lawful : S.Lawful) (lawful' : T.Lawful) (beside : S.Beside T)

include lawful in
theorem configs_same (same : SameMaps r r') : S.configs r' = S.configs r := by
  unfold configs
  rw [lawful.same same]

include lawful in
theorem configs_put (name : String) (i : Option ι) (r : Registry) :
    S.configs (S.put name i r) = Function.update (S.configs r) name (i.map S.cfg) := by
  funext other
  unfold configs
  rw [lawful.put]
  by_cases here : other = name
  · rw [here, Function.update_self, Function.update_self]
  · rw [Function.update_of_ne here, Function.update_of_ne here]

include beside in
theorem configs_beside (name : String) (i : Option ι) (r : Registry) :
    T.configs (S.put name i r) = T.configs r := by
  unfold configs
  rw [beside]

include lawful lawful' in
theorem Leaves.of_same (same : SameMaps r r') : S.Leaves T r r' (S.configs r) :=
  ⟨configs_same lawful same, configs_same lawful' same⟩

include lawful in
theorem put_eq (map : String → Option κ) (same : S.configs r = map) (name : String) (i : Option ι) :
    S.configs (S.put name i r) = Function.update map name (i.map S.cfg) := by
  rw [configs_put lawful, same]

variable (site S) in
/-- A run that is prepared succeeds or fails, and changes neither the maps nor the files. -/
theorem runPrepared_cases (late : Bool) (i : ι) (faults : Nat → Option String) (r : Registry) :
    (∃ e r', S.runPrepared site late i faults r = (.error e, r') ∧ SameStore r r') ∨
      ∃ r', S.runPrepared site late i faults r = (.ok (), r') ∧ SameStore r r' := by
  have kept := runPrepared_store S site late i faults r (.refl r)
  rcases ran : S.runPrepared site late i faults r with ⟨e | ⟨⟩, r'⟩
  · rw [ran] at kept
    exact .inl ⟨e, r', rfl, kept⟩
  · rw [ran] at kept
    exact .inr ⟨r', rfl, kept⟩

include lawful lawful' beside in
/-- The old entry is back, or there is none. -/
theorem rollback_effect (site : Site) (env : Env) (settled : S.Settled cfg) (name : String)
    (cause : Err) (r : Registry) :
    ∃ e r', S.rollback site env name cfg cause r = (.error e, r') ∧
      (S.Leaves T r r' ((S.configs r).put name cfg) ∨
        S.Leaves T r r' ((S.configs r).drop name)) := by
  have dropped : ∀ {r'}, SameMaps r r' →
      S.Leaves T r (S.put name none r') ((S.configs r).drop name) := by
    intro r' same
    exact ⟨put_eq lawful _ (configs_same lawful same) name none,
      (configs_beside beside name none r').trans (configs_same lawful' same)⟩
  unfold rollback
  rcases built : S.build cfg with e | make
  · have failed : S.restore site env name cfg r = (.error e, r) := by
      rw [restore, Action.bind_error _ (prepare_error built r)]
    have handled := Action.handle_error (fun rollbackErr => do
      S.set name none
      Action.fail (Manager.rollbackFailed cause rollbackErr)) failed
    refine ⟨Manager.rollbackFailed cause e, S.put name none r, ?_, .inr (dropped (.refl r))⟩
    rw [Action.bind_error _ (handled.trans rfl)]
  · rcases runPrepared_cases S site env.lateRollback (make r.manager.next) env.faults.rollback
      { r with manager := r.manager.issued } with ⟨e, r', ran, kept⟩ | ⟨r', ran, kept⟩
    · have failed : S.restore site env name cfg r = (.error e, r') := by
        rw [restore, Action.bind_ok _ (prepare_ok built r), Action.bind_error _ ran]
      have handled := Action.handle_error (fun rollbackErr => do
        S.set name none
        Action.fail (Manager.rollbackFailed cause rollbackErr)) failed
      refine ⟨Manager.rollbackFailed cause e, S.put name none r', ?_,
        .inr (dropped ((issued_store r).trans kept).maps)⟩
      rw [Action.bind_error _ (handled.trans rfl)]
    · have restored : S.restore site env name cfg r =
          (.ok (), S.put name (some (make r.manager.next)) r') := by
        rw [restore, Action.bind_ok _ (prepare_ok built r), Action.bind_ok _ ran]
        rfl
      have same := ((issued_store r).trans kept).maps
      refine ⟨cause, S.put name (some (make r.manager.next)) r', ?_, .inl ⟨?_, ?_⟩⟩
      · rw [Action.bind_ok _ (Action.handle_ok _ restored)]
        rfl
      · rw [put_eq lawful _ (configs_same lawful same), Option.map_some, settled make built]
        rfl
      · exact (configs_beside beside name _ r').trans (configs_same lawful' same)

/-- The files after a script on them that has succeeded. -/
def Wrote (x : FileScript Bool) (r r' : Registry) : Prop :=
  ∃ b, x.exec r.manager.files = (.ok b, r'.manager.files)

theorem onFiles_cases (x : FileScript Bool) (r : Registry) :
    (∃ e r', onFiles x r = (.error e, r') ∧ SameMaps r r') ∨
      ∃ r', onFiles x r = (.ok (), r') ∧ SameMaps r r' ∧ Wrote x r r' := by
  have result : onFiles x r = ((x.exec r.manager.files).1.map fun _ => (),
      { r with manager := { r.manager with files := (x.exec r.manager.files).2 } }) := rfl
  rcases ran : x.exec r.manager.files with ⟨e | b, files⟩
  · rw [ran] at result
    exact .inl ⟨e, _, result, rfl, rfl⟩
  · rw [ran] at result
    exact .inr ⟨_, result, ⟨rfl, rfl⟩, b, ran⟩

theorem Wrote.after {x : FileScript Bool} {r'' : Registry} (wrote : Wrote x r r')
    (before : r.manager.files = r''.manager.files) :
    Wrote x r'' r' := by
  unfold Wrote at wrote ⊢
  rwa [← before]

/-- How the entries are set leaves the files alone. -/
def Plain (S : Shelf κ ι) : Prop := ∀ name i r, (S.put name i r).manager.files = r.manager.files

variable (plain : S.Plain)

include lawful lawful' beside plain in
/-- An addition that fails changes neither map; one that succeeds adds its entry. -/
theorem addLocked_effect (site : Site) (env : Env) (settled : S.Settled cfg) (createFile : Bool)
    (r : Registry) :
    (∃ e r', S.addLocked site env cfg createFile r = (.error e, r') ∧ SameMaps r r') ∨
      ∃ r', S.addLocked site env cfg createFile r = (.ok (), r') ∧
        S.Leaves T r r' ((S.configs r).put (S.files.name cfg) cfg) ∧ (∃ make, S.build cfg = .ok make) ∧
        (createFile = true →
          Wrote (S.files.createFile site.host.dir.place env.faults.file cfg) r r') := by
  rcases built : S.build cfg with e | make
  · refine .inl ⟨e, r, ?_, .refl r⟩
    rw [addLocked, Action.bind_error _ (prepare_error built r)]
  rcases runPrepared_cases S site env.late (make r.manager.next) env.faults.bind
    { r with manager := r.manager.issued } with
    ⟨e, r₁, ran, kept⟩ | ⟨r₁, ran, kept⟩
  · refine .inl ⟨e, r₁, ?_, ((issued_store r).trans kept).maps⟩
    rw [addLocked, Action.bind_ok _ (prepare_ok built r), Action.bind_error _ ran]
  have before := (issued_store r).trans kept
  have added : ∀ {r₂}, SameMaps r₁ r₂ →
    S.Leaves T r (S.put (S.files.name cfg) (some (make r.manager.next)) r₂)
      ((S.configs r).put (S.files.name cfg) cfg) := by
    intro r₂ same
    refine ⟨?_, (configs_beside beside _ _ r₂).trans (configs_same lawful' (before.maps.trans same))⟩
    rw [put_eq lawful _ (configs_same lawful (before.maps.trans same)), Option.map_some,
      settled make built]
    rfl
  rw [addLocked, Action.bind_ok _ (prepare_ok built r), Action.bind_ok _ ran]
  cases createFile with
  | false =>
    rw [Action.bind_ok _ (show S.persist site env _ cfg false r₁ = (.ok (), r₁) from rfl)]
    exact .inr ⟨_, rfl, added (.refl r₁), ⟨make, rfl⟩, by simp⟩
  | true =>
    rcases onFiles_cases (S.files.createFile site.host.dir.place env.faults.file cfg) r₁ with
      ⟨e, r₂, failed, same⟩ | ⟨r₂, wrote, same, written⟩
    · have handled := Action.handle_error (fun e => do
        S.close env.missed (make r.manager.next)
        (Action.fail e : Action Registry Unit)) failed
      refine .inl ⟨e, _, Action.bind_error _ handled, before.maps.trans ?_⟩
      exact same
    · refine .inr ⟨_, Action.bind_ok _ (Action.handle_ok _ wrote), added same, ⟨make, rfl⟩, fun _ => ?_⟩
      obtain ⟨b, ok⟩ := written.after before.files
      exact ⟨b, by rw [ok]; exact congrArg _ (plain _ _ _).symm⟩

include lawful lawful' in
theorem Leaves.of_rollback {r₁ : Registry} {name : String} (present : S.configs r name = some cfg)
    (same : SameMaps r r₁)
    (after : S.Leaves T r₁ r' ((S.configs r₁).put name cfg) ∨
      S.Leaves T r₁ r' ((S.configs r₁).drop name)) :
    S.Leaves T r r' (S.configs r) ∨ S.Leaves T r r' ((S.configs r).drop name) := by
  rw [configs_same lawful same] at after
  have besides := configs_same lawful' same
  rcases after with back | gone
  · rw [Table.put_self present] at back
    exact .inl ⟨back.configs, back.beside.trans besides⟩
  · exact .inr ⟨gone.configs, gone.beside.trans besides⟩

include lawful lawful' beside plain in
/-- A replacement that fails leaves the old entry or none; one that succeeds leaves the new one. -/
theorem replaceLocked_effect (site : Site) (env : Env) {oldName : String} {old : ι}
    (present : S.entries r oldName = some old) (settledOld : S.Settled (S.cfg old))
    (settled : S.Settled cfg) (newName : String) :
    (∃ e r', S.replaceLocked site env oldName old newName cfg r = (.error e, r') ∧
      (S.Leaves T r r' (S.configs r) ∨ S.Leaves T r r' ((S.configs r).drop oldName))) ∨
    ∃ r', S.replaceLocked site env oldName old newName cfg r = (.ok (), r') ∧
      S.Leaves T r r' ((S.configs r).move oldName newName cfg) ∧
      (∃ make, S.build cfg = .ok make) ∧
      Wrote (S.files.replaceFile site.host.dir.place env.faults.file (S.cfg old) cfg) r r' := by
  have presentCfg : S.configs r oldName = some (S.cfg old) := by
    rw [configs, present, Option.map_some]
  rcases built : S.build cfg with e | make
  · refine .inl ⟨e, r, ?_, .inl (.of_same lawful lawful' (.refl r))⟩
    rw [replaceLocked, Action.bind_error _ (prepare_error built r)]
  have closed :=
    close_store (S := S) env.missed old { r with manager := r.manager.issued } (issued_store r)
  set r₀ := (S.close env.missed old { r with manager := r.manager.issued }).2 with after
  have close : S.close env.missed old { r with manager := r.manager.issued } = (.ok (), r₀) := rfl
  rw [replaceLocked, Action.bind_ok _ (prepare_ok built r), Action.bind_ok _ close]
  clear_value r₀
  rcases runPrepared_cases S site env.late (make r.manager.next) env.faults.bind r₀ with
    ⟨e, r₁, ran, kept⟩ | ⟨r₁, ran, kept⟩
  · obtain ⟨e', r₂, rolled, effect⟩ :=
      rollback_effect lawful lawful' beside site env settledOld oldName e r₁
    refine .inl
      ⟨e', r₂, ?_, Leaves.of_rollback lawful lawful' presentCfg (closed.trans kept).maps effect⟩
    rw [Action.bind_error _ ((Action.handle_error _ ran).trans rolled)]
  have before := closed.trans kept
  rw [Action.bind_ok _ (Action.handle_ok _ ran)]
  rcases onFiles_cases (S.files.replaceFile site.host.dir.place env.faults.file (S.cfg old) cfg) r₁ with
    ⟨e, r₂, failed, same⟩ | ⟨r₂, wrote, same, written⟩
  · have closing : SameMaps r₂ (S.close env.missed (make r.manager.next) r₂).2 :=
      (close_store (S := S) env.missed _ r₂ (.refl r₂)).maps
    obtain ⟨e', r₃, rolled, effect⟩ := rollback_effect lawful lawful' beside site env settledOld
      oldName e (S.close env.missed (make r.manager.next) r₂).2
    refine .inl ⟨e', r₃, ?_,
      Leaves.of_rollback lawful lawful' presentCfg (before.maps.trans (same.trans closing)) effect⟩
    rw [Action.bind_error _ ((Action.handle_error _ failed).trans rolled)]
  · rw [Action.bind_ok _ (Action.handle_ok _ wrote)]
    refine .inr ⟨_, rfl, ⟨?_, ?_⟩, ⟨make, rfl⟩, ?_⟩
    · show S.configs (S.put newName (some (make r.manager.next)) (S.put oldName none r₂)) = _
      rw [configs_put lawful, configs_put lawful, configs_same lawful (before.maps.trans same),
        Option.map_some, settled make built]
      rfl
    · show T.configs (S.put newName (some (make r.manager.next)) (S.put oldName none r₂)) = _
      rw [configs_beside beside, configs_beside beside, configs_same lawful' (before.maps.trans same)]
    · obtain ⟨b, ok⟩ := written.after before.files
      refine ⟨b, ok.trans (congrArg _ ?_)⟩
      show r₂.manager.files =
        (S.put newName (some (make r.manager.next)) (S.put oldName none r₂)).manager.files
      rw [plain, plain]

include lawful lawful' beside plain in
/-- A removal that fails changes neither map. -/
theorem remove_effect (site : Site) (env : Env) (name : String) (r : Registry) :
    (∃ e r', S.remove site env name r = (.error e, r') ∧ SameMaps r r') ∨
      ∃ r', S.remove site env name r = (.ok (), r') ∧ S.Leaves T r r' ((S.configs r).drop name) ∧
        Wrote (S.files.deleteFile site.host.dir.place env.faults.file name) r r' := by
  unfold remove
  rcases onFiles_cases (S.files.deleteFile site.host.dir.place env.faults.file name) r with
    ⟨e, r₁, failed, same⟩ | ⟨r₁, wrote, same, written⟩
  · exact .inl ⟨e, r₁, Action.bind_error _ failed, same⟩
  rw [Action.bind_ok _ wrote]
  dsimp only [Action.choose]
  cases present : S.entries r₁ name with
  | none =>
    have absent : S.configs r name = none := by
      rw [← configs_same lawful same, configs, present, Option.map_none]
    refine .inr ⟨r₁, rfl, ⟨?_, configs_same lawful' same⟩, written⟩
    rw [Table.drop_absent absent]
    exact configs_same lawful same
  | some i =>
    have closing := close_store (S := S) env.missed i r₁ (.refl r₁)
    refine .inr ⟨S.put name none (S.close env.missed i r₁).2, rfl, ⟨?_, ?_⟩, ?_⟩
    · rw [configs_put lawful, configs_same lawful (same.trans closing.maps)]
      rfl
    · rw [configs_beside beside, configs_same lawful' (same.trans closing.maps)]
    · obtain ⟨b, ok⟩ := written
      exact ⟨b, ok.trans (congrArg _ ((plain _ _ _).trans closing.files).symm)⟩

/-- An operation that fails leaves the map as it was, or without one of its entries. -/
def Abandons (S : Shelf κ ι) (T : Shelf κ' ι') (r r' : Registry) : Prop :=
  S.Leaves T r r' (S.configs r) ∨ ∃ name, S.Leaves T r r' ((S.configs r).drop name)

/-- What an operation does: `adds` and `replaces` are what it asks for. -/
inductive Effect (S : Shelf κ ι) (T : Shelf κ' ι') (site : Site) (env : Env)
    (adds : Bool → κ → Prop) (replaces : String → ι → String → κ → Prop) (removes : String → Prop)
    (r r' : Registry) : Except Err Unit → Prop
  | failed {e : Err} (left : S.Abandons T r r') :
      Effect S T site env adds replaces removes r r' (.error e)
  | kept (same : r' = r) : Effect S T site env adds replaces removes r r' (.ok ())
  | added (createFile : Bool) (cfg : κ) (asked : adds createFile cfg)
      (leaves : S.Leaves T r r' ((S.configs r).put (S.files.name cfg) cfg))
      (built : ∃ make, S.build cfg = .ok make)
      (wrote : createFile = true →
        Wrote (S.files.createFile site.host.dir.place env.faults.file cfg) r r') :
      Effect S T site env adds replaces removes r r' (.ok ())
  | replaced (oldName : String) (old : ι) (newName : String) (cfg : κ)
      (asked : replaces oldName old newName cfg)
      (present : S.entries r oldName = some old)
      (leaves : S.Leaves T r r' ((S.configs r).move oldName newName cfg))
      (built : ∃ make, S.build cfg = .ok make)
      (wrote : Wrote (S.files.replaceFile site.host.dir.place env.faults.file (S.cfg old) cfg) r r') :
      Effect S T site env adds replaces removes r r' (.ok ())
  | removed (name : String) (asked : removes name) (leaves : S.Leaves T r r' ((S.configs r).drop name))
      (wrote : Wrote (S.files.deleteFile site.host.dir.place env.faults.file name) r r') :
      Effect S T site env adds replaces removes r r' (.ok ())

section effect

variable {adds : Bool → κ → Prop} {replaces : String → ι → String → κ → Prop} {removes : String → Prop}

include lawful lawful' in
theorem Effect.of_fail (same : SameMaps r r') (e : Err) :
    S.Effect T site env adds replaces removes r r' (.error e) :=
  .failed (.inl (.of_same lawful lawful' same))

include lawful lawful' beside plain in
theorem Effect.of_add (settled : S.Settled cfg) (createFile : Bool) (asked : adds createFile cfg)
    (r : Registry) :
    S.Effect T site env adds replaces removes r (S.addLocked site env cfg createFile r).2
      (S.addLocked site env cfg createFile r).1 := by
  rcases addLocked_effect lawful lawful' beside plain site env settled createFile r with
    ⟨e, r', ran, same⟩ | ⟨r', ran, leaves, built, wrote⟩
  · rw [ran]
    exact .of_fail lawful lawful' same e
  · rw [ran]
    exact .added createFile cfg asked leaves built wrote

include lawful lawful' beside plain in
theorem Effect.of_replace {oldName : String} {old : ι} {newName : String}
    (present : S.entries r oldName = some old) (settledOld : S.Settled (S.cfg old))
    (settled : S.Settled cfg) (asked : replaces oldName old newName cfg) :
    S.Effect T site env adds replaces removes r (S.replaceLocked site env oldName old newName cfg r).2
      (S.replaceLocked site env oldName old newName cfg r).1 := by
  rcases replaceLocked_effect lawful lawful' beside plain site env present settledOld
    settled newName with
    ⟨e, r', ran, same | dropped⟩ | ⟨r', ran, leaves, built, wrote⟩
  · rw [ran]
    exact .failed (.inl same)
  · rw [ran]
    exact .failed (.inr ⟨oldName, dropped⟩)
  · rw [ran]
    exact .replaced oldName old newName cfg asked present leaves built wrote

include lawful lawful' beside plain in
theorem Effect.of_remove (name : String) (asked : removes name) (r : Registry) :
    S.Effect T site env adds replaces removes r (S.remove site env name r).2
      (S.remove site env name r).1 := by
  rcases remove_effect lawful lawful' beside plain site env name r with
    ⟨e, r', ran, same⟩ | ⟨r', ran, leaves, wrote⟩
  · rw [ran]
    exact .of_fail lawful lawful' same e
  · rw [ran]
    exact .removed name asked leaves wrote

end effect

end Shelf

/-! The two maps are such maps. -/

section laws

variable (site : Site)

theorem services_lawful : site.services.Lawful := ⟨fun same => same.1, fun _ _ _ => rfl⟩

theorem routes_lawful : site.routes.Lawful := ⟨fun same => same.2, fun _ _ _ => rfl⟩

theorem services_beside : site.services.Beside site.routes := fun _ _ _ => rfl

theorem routes_beside : site.routes.Beside site.services := fun _ _ _ => rfl

theorem services_plain : site.services.Plain := fun _ _ _ => rfl

theorem routes_plain : site.routes.Plain := fun _ _ _ => rfl

theorem services_settled (cfg : Config) : site.services.Settled cfg := by
  intro make built id
  change buildService site cfg = .ok make at built
  unfold buildService at built
  split_ifs at built with disabled
  · cases built
    show { cfg with Disabled := true } = cfg
    rw [← disabled]
  · cases made : NewService site.host.parsers cfg with
    | error e =>
      rw [made] at built
      contradiction
    | ok kind =>
      rw [made] at built
      cases built
      rfl

variable {site}

/-- A configuration that has its defaults is the one of its service. -/
theorem newRouteService_eq {cfg : Route.RouteConfig} (checked : cfg.validateBasic site.lib = .ok cfg) :
    newRouteService site cfg = (routeListener site cfg).map fun listener id => ⟨id, cfg, listener⟩ := by
  unfold newRouteService
  rw [checked]
  show (routeListener site cfg >>= fun listener => pure fun id =>
    (⟨id, cfg, listener⟩ : RouteService)) = _
  cases routeListener site cfg <;> rfl

theorem routes_settled {cfg : Route.RouteConfig} (checked : cfg.validateBasic site.lib = .ok cfg) :
    site.routes.Settled cfg := by
  intro make built id
  change newRouteService site cfg = .ok make at built
  rw [newRouteService_eq checked] at built
  cases listens : routeListener site cfg with
  | error e =>
    rw [listens] at built
    contradiction
  | ok listener =>
    rw [listens] at built
    cases built
    rfl

end laws

/-! The operations as events. -/

inductive Op where
  | addService (config : Config) (createFile : Bool)
  | replaceService (config : Config)
  | setServiceDisabled (name : String) (disabled : Bool)
  | removeService (name : String)
  | removeServiceByUUID (uuid : String)
  | addRoute (cfg : Route.RouteConfig) (createFile : Bool)
  | replaceRoute (cfg : Route.RouteConfig)
  | setRouteDisabled (name : String) (disabled : Bool)
  | removeRoute (name : String)
  | removeRouteByUUID (uuid : String)
  deriving DecidableEq, Repr

namespace Registry

variable (site : Site)

def apply (env : Env) : Op → Action Registry Unit
  | .addService config createFile => AddService site env config createFile
  | .replaceService config => ReplaceServiceByUUID site env config
  | .setServiceDisabled name disabled => SetServiceDisabled site env name disabled
  | .removeService name => RemoveService site env name
  | .removeServiceByUUID uuid => RemoveServiceByUUID site env uuid
  | .addRoute cfg createFile => AddRoute site env cfg createFile
  | .replaceRoute cfg => ReplaceRouteByUUID site env cfg
  | .setRouteDisabled name disabled => SetRouteDisabled site env name disabled
  | .removeRoute name => RemoveRoute site env name
  | .removeRouteByUUID uuid => RemoveRouteByUUID site env uuid

def empty (taken : List Listener) (files : Files) : Registry :=
  ⟨⟨fun _ => none, [], taken, files, 0⟩, fun _ => none, []⟩

/-- The operations come one after the other, and each fails or not. -/
def system : System Registry (Op × Env) where
  start r := ∃ taken files, r = empty taken files
  step r e := some (apply site e.2 e.1 r).2

/-- The maps are ranged over completely. -/
def Ranges (r : Registry) (env : Env) : Prop :=
  (site.services.configs r).Covers env.order ∧ (site.routes.configs r).Covers env.routeOrder

/-! What each operation asks for. -/

variable (env : Env) (r : Registry)

def AsksTunnel : Op → Bool → Config → Prop
  | .addService config createFile, createFile', cfg => createFile' = createFile ∧
      cfg = Manager.normalizeConfig env.now env.uuid config ∧ site.services.configs r cfg.Name = none
  | _, _, _ => False

def AsksTunnelFor : Op → String → Service → String → Config → Prop
  | .replaceService config, oldName, old, newName, cfg => old.cfg.UUID = config.UUID ∧
      cfg = { Manager.normalizeConfig env.now env.uuid config with
        UUID := old.cfg.UUID, CreatedAt := old.cfg.CreatedAt } ∧
      newName = cfg.Name ∧ (newName = oldName ∨ site.services.configs r newName = none)
  | .setServiceDisabled name disabled, oldName, old, newName, cfg =>
      oldName = name ∧ newName = name ∧ cfg = { old.cfg with Disabled := disabled }
  | _, _, _, _, _ => False

def AsksRoute : Op → Bool → Route.RouteConfig → Prop
  | .addRoute cfg createFile, createFile', cfg' => createFile' = createFile ∧
      validateRouteLocked site env r
        (withIdentity env (withProbeMode site (site.services.configs r) cfg createFile)) "" =
        .ok cfg' ∧
      ¬ (createFile = true ∧ (withProbeMode site (site.services.configs r) cfg createFile).ProbeMode =
        Route.RouteProbeLegacyFrame)
  | _, _, _ => False

def AsksRouteFor : Op → String → RouteService → String → Route.RouteConfig → Prop
  | .replaceRoute cfg, _, old, newName, cfg' => old.cfg.UUID = cfg.UUID ∧
      validateRouteLocked site env r (editedRoute cfg old.cfg) old.cfg.UUID = .ok cfg' ∧
        newName = cfg'.Name
  | .setRouteDisabled name disabled, oldName, old, newName, cfg' => oldName = name ∧ newName = name ∧
      validateRouteLocked site env r { old.cfg with Disabled := disabled } old.cfg.UUID = .ok cfg'
  | _, _, _, _, _ => False

def AsksNoTunnel : Op → String → Prop
  | .removeService name, name' => name' = name
  | .removeServiceByUUID uuid, name' =>
    ∃ key s, site.services.entries r key = some s ∧ s.cfg.UUID = uuid ∧ name' = s.cfg.Name
  | _, _ => False

def AsksNoRoute : Op → String → Prop
  | .removeRoute name, name' => name' = name
  | .removeRouteByUUID uuid, name' =>
    ∃ key s, site.routes.entries r key = some s ∧ s.cfg.UUID = uuid ∧ name' = s.cfg.Name
  | _, _ => False

def TunnelEffect (op : Op) : Registry → Except Err Unit → Prop :=
  site.services.Effect site.routes site env (AsksTunnel site env r op) (AsksTunnelFor site env r op)
    (AsksNoTunnel site r op) r

def RouteEffect (op : Op) : Registry → Except Err Unit → Prop :=
  site.routes.Effect site.services site env (AsksRoute site env r op) (AsksRouteFor site env r op)
    (AsksNoRoute site r op) r

section effects

variable {site env r}

theorem TunnelEffect.of_fail {op : Op} (e : Err) : TunnelEffect site env r op r (.error e) :=
  Shelf.Effect.of_fail (services_lawful site) (routes_lawful site) (.refl r) e

theorem RouteEffect.of_fail {op : Op} (e : Err) : RouteEffect site env r op r (.error e) :=
  Shelf.Effect.of_fail (routes_lawful site) (services_lawful site) (.refl r) e

theorem of_find {κ ι : Type} {S : Shelf κ ι} {uuidOf : κ → String} {order : List String}
    {uuid name : String} {i : ι} (found : S.find uuidOf order uuid r = some (name, i)) :
    S.entries r name = some i ∧ uuidOf (S.cfg i) = uuid := by
  obtain ⟨present, fits⟩ := Table.of_find found
  exact ⟨present, of_decide_eq_true fits⟩

theorem addService_effect (config : Config) (createFile : Bool) :
    TunnelEffect site env r (.addService config createFile) (AddService site env config createFile r).2
      (AddService site env config createFile r).1 := by
  unfold AddService
  dsimp only [Action.choose]
  cases present : site.services.entries r (Manager.normalizeConfig env.now env.uuid config).Name with
  | some s => exact .of_fail _
  | none =>
    refine .of_add (services_lawful site) (routes_lawful site) (services_beside site)
      (services_plain site) (services_settled site _) createFile ⟨rfl, rfl, ?_⟩ r
    rw [Shelf.configs, present, Option.map_none]

theorem replaceService_effect (config : Config) :
    TunnelEffect site env r (.replaceService config) (ReplaceServiceByUUID site env config r).2
      (ReplaceServiceByUUID site env config r).1 := by
  unfold ReplaceServiceByUUID
  dsimp only [Action.choose]
  cases found : site.services.find Config.UUID env.order config.UUID r with
  | none => exact .of_fail _
  | some entry =>
    obtain ⟨oldName, old⟩ := entry
    obtain ⟨present, same⟩ := of_find found
    dsimp only
    split_ifs with taken
    · exact .of_fail _
    · refine .of_replace (services_lawful site) (routes_lawful site) (services_beside site)
        (services_plain site) present (services_settled site _) (services_settled site _)
        ⟨same, rfl, rfl, ?_⟩
      by_cases renames : (Manager.normalizeConfig env.now env.uuid config).Name = oldName
      · exact .inl renames
      · right
        rw [Shelf.configs]
        have free := not_and.mp taken renames
        rw [Bool.not_eq_true, Option.isSome_eq_false_iff, Option.isNone_iff_eq_none] at free
        rw [free, Option.map_none]

theorem setServiceDisabled_effect (name : String) (disabled : Bool) :
    TunnelEffect site env r (.setServiceDisabled name disabled)
      (SetServiceDisabled site env name disabled r).2
      (SetServiceDisabled site env name disabled r).1 := by
  unfold SetServiceDisabled
  dsimp only [Action.choose]
  cases present : site.services.entries r name with
  | none => exact .of_fail _
  | some current =>
    dsimp only
    split_ifs
    · exact .kept rfl
    · exact .of_replace (services_lawful site) (routes_lawful site)
        (services_beside site) (services_plain site) present (services_settled site _)
        (services_settled site _) ⟨rfl, rfl, rfl⟩

theorem removeService_effect (name : String) {op : Op} (asked : AsksNoTunnel site r op name) :
    TunnelEffect site env r op (RemoveService site env name r).2 (RemoveService site env name r).1 :=
  .of_remove (services_lawful site) (routes_lawful site) (services_beside site)
    (services_plain site) name asked r

theorem removeServiceByUUID_effect (uuid : String) :
    TunnelEffect site env r (.removeServiceByUUID uuid) (RemoveServiceByUUID site env uuid r).2
      (RemoveServiceByUUID site env uuid r).1 := by
  unfold RemoveServiceByUUID
  dsimp only [Action.choose]
  cases found : site.services.find Config.UUID env.order uuid r with
  | none => exact .of_fail _
  | some entry =>
    obtain ⟨key, s⟩ := entry
    obtain ⟨present, same⟩ := of_find found
    exact removeService_effect s.cfg.Name ⟨key, s, present, same, rfl⟩

/-- Every registered route has its defaults. -/
def RoutesChecked (site : Site) (r : Registry) : Prop :=
  ∀ name s, site.routes.entries r name = some s → s.cfg.validateBasic site.lib = .ok s.cfg

/-- What a passed check means. -/
structure Validated (site : Site) (env : Env) (r : Registry) (cfg : Route.RouteConfig)
    (excludeUUID : String) (cfg' : Route.RouteConfig) : Prop where
  basic : cfg.validateBasic site.lib = .ok cfg.normalize
  unnamed : (site.routes.configs r cfg.normalize.Name).any (fun other => other.UUID ≠ excludeUUID) =
    false
  noTunnel : site.services.configs r cfg.normalize.Name = none
  members : ∃ warnings, Route.checkRouteMembers site.lib (site.services.configs r) cfg.normalize []
    [] cfg.normalize.Members =
      .ok warnings ∧ cfg' = { cfg.normalize with ProbeWarnings := warnings }
  protocols : cfg.normalize.Mode = Route.RouteModeInput →
    Route.checkProtocols (site.services.configs r) none cfg.normalize.Members = .ok ()
  listen :
    Route.listenTaken (site.routes.configs r) env.routeOrder excludeUUID cfg.normalize.Listen = none

theorem normalize_warnings (cfg : Route.RouteConfig) (warnings : List String) :
    ({ cfg with ProbeWarnings := warnings } : Route.RouteConfig).normalize =
      { cfg.normalize with ProbeWarnings := warnings } := by
  have modes : ({ cfg with ProbeWarnings := warnings } : Route.RouteConfig).withModes =
      { cfg.withModes with ProbeWarnings := warnings } := by
    simp only [Route.RouteConfig.withModes]
    split_ifs <;> rfl
  simp only [Route.RouteConfig.normalize, modes]
  show (if cfg.withModes.usesFullPathProbe = true then _ else _) = _
  split_ifs <;> rfl

/-- The checks do not look at the warnings. -/
theorem validateBasic_warnings {lib : Route.Libraries} {cfg cfg' : Route.RouteConfig}
    (checked : cfg.validateBasic lib = .ok cfg') (warnings : List String) :
    ({ cfg' with ProbeWarnings := warnings } : Route.RouteConfig).validateBasic lib =
      .ok { cfg' with ProbeWarnings := warnings } := by
  obtain ⟨rfl, ok⟩ := Route.RouteConfig.of_validateBasic checked
  have same : ({ cfg.normalize with ProbeWarnings := warnings } : Route.RouteConfig).check lib =
      cfg.normalize.check lib :=
    rfl
  simp only [Route.RouteConfig.validateBasic, normalize_warnings,
    Route.RouteConfig.normalize_normalize, same, ok]
  rfl

theorem of_validateRouteLocked {cfg cfg' : Route.RouteConfig} {excludeUUID : String}
    (ok : validateRouteLocked site env r cfg excludeUUID = .ok cfg') :
    Validated site env r cfg excludeUUID cfg' := by
  unfold validateRouteLocked Route.validateRouteLocked at ok
  cases basic : cfg.validateBasic site.lib with
  | error e =>
    rw [basic] at ok
    cases ok
  | ok checked =>
    rw [basic] at ok
    obtain ⟨rfl, _⟩ := Route.RouteConfig.of_validateBasic basic
    simp only [bind, Except.bind, pure, Except.pure, throw, throwThe, MonadExceptOf.throw] at ok
    split at ok
    · cases ok
    rename_i named
    split at ok
    · cases ok
    rename_i tunnel
    have unnamed : (site.routes.configs r cfg.normalize.Name).any
        (fun other => other.UUID ≠ excludeUUID) = false :=
      Bool.eq_false_iff.mpr named
    have noTunnel : site.services.configs r cfg.normalize.Name = none := by
      rwa [Bool.not_eq_true, Option.isSome_eq_false_iff, Option.isNone_iff_eq_none] at tunnel
    cases members : Route.checkRouteMembers site.lib (site.services.configs r) cfg.normalize []
      [] cfg.normalize.Members with
    | error e =>
      rw [members] at ok
      cases ok
    | ok warnings =>
      rw [members] at ok
      dsimp only at ok
      cases free : Route.listenTaken
        (site.routes.configs r) env.routeOrder excludeUUID cfg.normalize.Listen with
      | some name =>
        rw [free] at ok
        split_ifs at ok
        cases protocols : Route.checkProtocols (site.services.configs r) none cfg.normalize.Members with
        | error e =>
          rw [protocols] at ok
          cases ok
        | ok _ =>
          rw [protocols] at ok
          cases ok
      | none =>
        rw [free] at ok
        split_ifs at ok with input
        · cases protocols : Route.checkProtocols
            (site.services.configs r) none cfg.normalize.Members with
          | error e =>
            rw [protocols] at ok
            cases ok
          | ok _ =>
            rw [protocols] at ok
            exact ⟨basic, unnamed, noTunnel, ⟨warnings, members, (Except.ok.inj ok).symm⟩,
              fun _ => protocols, free⟩
        · exact ⟨basic, unnamed, noTunnel, ⟨warnings, members, (Except.ok.inj ok).symm⟩,
            fun is => absurd is input, free⟩

theorem Validated.again {cfg cfg' : Route.RouteConfig} {excludeUUID : String}
    (valid : Validated site env r cfg excludeUUID cfg') : cfg'.validateBasic site.lib = .ok cfg' := by
  obtain ⟨warnings, _, rfl⟩ := valid.members
  exact validateBasic_warnings valid.basic warnings

theorem addRoute_effect (cfg : Route.RouteConfig) (createFile : Bool) :
    RouteEffect site env r (.addRoute cfg createFile) (AddRoute site env cfg createFile r).2
      (AddRoute site env cfg createFile r).1 := by
  unfold AddRoute
  dsimp only [Action.choose]
  split_ifs with legacy
  · exact .of_fail _
  · cases valid : validateRouteLocked site env r
        (withIdentity env (withProbeMode site (site.services.configs r) cfg createFile)) "" with
    | error e =>
      rw [Action.bind_error _ (Action.lift_apply (.error e) r)]
      exact .of_fail _
    | ok cfg' =>
      rw [Action.bind_ok _ (Action.lift_apply (.ok cfg') r)]
      exact .of_add (routes_lawful site) (services_lawful site) (routes_beside site) (routes_plain site)
        (routes_settled (of_validateRouteLocked valid).again) createFile ⟨rfl, valid, legacy⟩ r

theorem replaceRoute_effect (checked : RoutesChecked site r) (cfg : Route.RouteConfig) :
    RouteEffect site env r (.replaceRoute cfg) (ReplaceRouteByUUID site env cfg r).2
      (ReplaceRouteByUUID site env cfg r).1 := by
  unfold ReplaceRouteByUUID
  dsimp only [Action.choose]
  cases found : site.routes.find Route.RouteConfig.UUID env.routeOrder cfg.UUID r with
  | none => exact .of_fail _
  | some entry =>
    obtain ⟨oldName, old⟩ := entry
    obtain ⟨present, same⟩ := of_find found
    dsimp only
    cases valid : validateRouteLocked site env r (editedRoute cfg old.cfg) old.cfg.UUID with
    | error e =>
      rw [Action.bind_error _ (Action.lift_apply (.error e) r)]
      exact .of_fail _
    | ok cfg' =>
      rw [Action.bind_ok _ (Action.lift_apply (.ok cfg') r)]
      exact .of_replace (routes_lawful site) (services_lawful site) (routes_beside site)
        (routes_plain site) present (routes_settled (checked oldName old present))
        (routes_settled (of_validateRouteLocked valid).again) ⟨same, valid, rfl⟩

theorem setRouteDisabled_effect (checked : RoutesChecked site r) (name : String) (disabled : Bool) :
    RouteEffect site env r (.setRouteDisabled name disabled)
      (SetRouteDisabled site env name disabled r).2
      (SetRouteDisabled site env name disabled r).1 := by
  unfold SetRouteDisabled
  dsimp only [Action.choose]
  cases present : site.routes.entries r name with
  | none => exact .of_fail _
  | some current =>
    dsimp only
    split_ifs
    · exact .kept rfl
    · cases valid : validateRouteLocked site env r
        { current.cfg with Disabled := disabled } current.cfg.UUID with
      | error e =>
        rw [Action.bind_error _ (Action.lift_apply (.error e) r)]
        exact .of_fail _
      | ok cfg' =>
        rw [Action.bind_ok _ (Action.lift_apply (.ok cfg') r)]
        exact .of_replace (routes_lawful site) (services_lawful site) (routes_beside site)
          (routes_plain site) present (routes_settled (checked name current present))
          (routes_settled (of_validateRouteLocked valid).again) ⟨rfl, rfl, valid⟩

theorem removeRoute_effect (name : String) {op : Op} (asked : AsksNoRoute site r op name) :
    RouteEffect site env r op (RemoveRoute site env name r).2 (RemoveRoute site env name r).1 :=
  .of_remove (routes_lawful site) (services_lawful site) (routes_beside site)
    (routes_plain site) name asked r

theorem removeRouteByUUID_effect (uuid : String) :
    RouteEffect site env r (.removeRouteByUUID uuid) (RemoveRouteByUUID site env uuid r).2
      (RemoveRouteByUUID site env uuid r).1 := by
  unfold RemoveRouteByUUID
  dsimp only [Action.choose]
  cases found : site.routes.find Route.RouteConfig.UUID env.routeOrder uuid r with
  | none => exact .of_fail _
  | some entry =>
    obtain ⟨key, s⟩ := entry
    obtain ⟨present, same⟩ := of_find found
    exact removeRoute_effect s.cfg.Name ⟨key, s, present, same, rfl⟩

variable (env) in
/-- Every operation is about the tunnels or about the routes. -/
theorem apply_effect (checked : RoutesChecked site r) (op : Op) :
    TunnelEffect site env r op (apply site env op r).2 (apply site env op r).1 ∨
      RouteEffect site env r op (apply site env op r).2 (apply site env op r).1 := by
  cases op with
  | addService config createFile => exact .inl (addService_effect config createFile)
  | replaceService config => exact .inl (replaceService_effect config)
  | setServiceDisabled name disabled => exact .inl (setServiceDisabled_effect name disabled)
  | removeService name => exact .inl (removeService_effect name rfl)
  | removeServiceByUUID uuid => exact .inl (removeServiceByUUID_effect uuid)
  | addRoute cfg createFile => exact .inr (addRoute_effect cfg createFile)
  | replaceRoute cfg => exact .inr (replaceRoute_effect checked cfg)
  | setRouteDisabled name disabled => exact .inr (setRouteDisabled_effect checked name disabled)
  | removeRoute name => exact .inr (removeRoute_effect name rfl)
  | removeRouteByUUID uuid => exact .inr (removeRouteByUUID_effect uuid)

end effects

end Registry

end Gotun.Tun
