import Gotun.Tun.Identity
import Gotun.Tun.Storage

/-! The operations of `tun/manager.go` as calls that overlap. A locked section is one step apart from
its calls on the files. Between these, removals delete their files, which they do before they take
the lock. -/

namespace Gotun.Tun

open Gotun.Lib

/-- What a locked section saves: an instance and its configuration, and what they replace. -/
structure Change (κ ι : Type) where
  old : Option (String × κ)
  name : String
  cfg : κ
  started : ι

def Registry.withFiles (r : Registry) (files : Files) : Registry :=
  { r with manager := { r.manager with files := files } }

namespace Shelf

variable {κ ι : Type} (site : Site) (S : Shelf κ ι) (env : Env)

/-! The sections of an addition and of a replacement, up to their files and from there on. -/

def addStart (cfg : κ) : Action Registry (Change κ ι) := do
  let i ← S.prepare cfg
  S.runPrepared site env.late i env.faults.bind
  pure ⟨none, S.files.name cfg, cfg, i⟩

def replaceStart (oldName : String) (old : ι) (newName : String) (newCfg : κ) :
    Action Registry (Change κ ι) := do
  let i ← S.prepare newCfg
  S.close env.missed old
  (S.runPrepared site env.late i env.faults.bind).handle fun e =>
    S.rollback site env oldName (S.cfg old) e
  pure ⟨some (oldName, S.cfg old), newName, newCfg, i⟩

def fileScript (change : Change κ ι) : FileScript Bool :=
  match change.old with
  | none => S.files.createFile site.host.dir.place env.faults.file change.cfg
  | some (_, oldCfg) => S.files.replaceFile site.host.dir.place env.faults.file oldCfg change.cfg

def finish (change : Change κ ι) : Except Err Bool → Action Registry Unit
  | .ok _ => do
    match change.old with
    | none => pure ()
    | some (oldName, _) => S.set oldName none
    S.set change.name (some change.started)
  | .error e => do
    S.close env.missed change.started
    match change.old with
    | none => Action.fail e
    | some (oldName, oldCfg) => S.rollback site env oldName oldCfg e

/-- The rest of the section, with nothing in between. -/
def save (change : Change κ ι) : Action Registry Unit := fun r =>
  let written := (S.fileScript site env change).exec r.manager.files
  S.finish site env change written.1 (r.withFiles written.2)

/-- The section of a removal. -/
def removeLocked (missed : Nat → Bool) (name : String) : Action Registry Unit :=
  Action.choose fun r => match S.entries r name with
    | none => pure ()
    | some i => do
      S.close missed i
      S.set name none

theorem remove_eq (name : String) : S.remove site env name =
    onFiles (S.files.deleteFile site.host.dir.place env.faults.file name) >>= fun _ =>
      S.removeLocked env.missed name :=
  rfl

theorem rollback_fails (oldName : String) (oldCfg : κ) (cause : Err) (r : Registry) :
    ∃ e r', S.rollback site env oldName oldCfg cause r = (.error e, r') := by
  unfold rollback
  rcases restored : (S.restore site env oldName oldCfg).handle (fun rollbackErr => do
      S.set oldName none
      Action.fail (Manager.rollbackFailed cause rollbackErr)) r with ⟨e | ⟨⟩, r'⟩
  · exact ⟨e, r', Action.bind_error _ restored⟩
  · exact ⟨cause, r', Action.bind_ok _ restored⟩

/-- A handler that always fails is not what has succeeded. -/
theorem of_handle_ok {r r' : Registry} {x : Action Registry Unit} {f : Err → Action Registry Unit}
    (fails : ∀ e s, ∃ e' s', f e s = (.error e', s'))
    (ran : x.handle f r = (.ok (), r')) : x r = (.ok (), r') := by
  rcases first : x r with ⟨e | ⟨⟩, t⟩
  · obtain ⟨e', s', failed⟩ := fails e t
    rw [Action.handle_error _ first, failed] at ran
    cases ran
  · rw [Action.handle_ok _ first] at ran
    exact ran

section whole

variable {site S env} {r r' : Registry} {files : Files} {x : FileScript Bool} {b : Bool} {e : Err}

theorem onFiles_ok (wrote : x.exec r.manager.files = (.ok b, files)) :
    onFiles x r = (.ok (), r.withFiles files) := by
  show ((x.exec r.manager.files).1.map fun _ => (), r.withFiles (x.exec r.manager.files).2) = _
  rw [wrote]
  rfl

theorem onFiles_error (failed : x.exec r.manager.files = (.error e, files)) :
    onFiles x r = (.error e, r.withFiles files) := by
  show ((x.exec r.manager.files).1.map fun _ => (), r.withFiles (x.exec r.manager.files).2) = _
  rw [failed]
  rfl

theorem save_eq (change : Change κ ι) {result : Except Err Bool}
    (wrote : (S.fileScript site env change).exec r.manager.files = (result, files)) :
    S.save site env change r = S.finish site env change result (r.withFiles files) := by
  rw [save, wrote]

/-- An addition is its two parts. -/
theorem addLocked_eq (cfg : κ) :
    S.addLocked site env cfg true = S.addStart site env cfg >>= S.save site env := by
  funext r
  unfold addLocked addStart
  rcases prepared : S.prepare cfg r with ⟨e | i, r₁⟩
  · rw [Action.bind_error _ prepared, Action.bind_error _ (Action.bind_error _ prepared)]
  rcases ran : S.runPrepared site env.late i env.faults.bind r₁ with ⟨e | ⟨⟩, r₂⟩
  · rw [Action.bind_ok _ prepared, Action.bind_error _ ran,
      Action.bind_error _ ((Action.bind_ok _ prepared).trans (Action.bind_error _ ran))]
  · rw [Action.bind_ok _ prepared, Action.bind_ok _ ran,
      Action.bind_ok _ ((Action.bind_ok _ prepared).trans (Action.bind_ok _ ran))]
    rcases wrote : (S.files.createFile site.host.dir.place env.faults.file cfg).exec
      r₂.manager.files with ⟨e | b, files⟩
    · rw [save_eq ⟨none, S.files.name cfg, cfg, i⟩ wrote]
      exact Action.bind_error _ (Action.handle_error _ (onFiles_error wrote))
    · rw [save_eq ⟨none, S.files.name cfg, cfg, i⟩ wrote]
      exact Action.bind_ok _ (Action.handle_ok _ (onFiles_ok wrote))

/-- So is a replacement. -/
theorem replaceLocked_eq (oldName : String) (old : ι) (newName : String) (cfg : κ) :
    S.replaceLocked site env oldName old newName cfg =
      S.replaceStart site env oldName old newName cfg >>= S.save site env := by
  funext r
  unfold replaceLocked replaceStart
  rcases prepared : S.prepare cfg r with ⟨e | i, r₁⟩
  · rw [Action.bind_error _ prepared, Action.bind_error _ (Action.bind_error _ prepared)]
  have closed : S.close env.missed old r₁ = (.ok (), (S.close env.missed old r₁).2) := rfl
  rw [Action.bind_ok _ prepared, Action.bind_ok _ closed]
  rcases ran : (S.runPrepared site env.late i env.faults.bind).handle
      (fun e => S.rollback site env oldName (S.cfg old) e) (S.close env.missed old r₁).2 with
        ⟨e | ⟨⟩, r₂⟩
  · rw [Action.bind_error _ ran, Action.bind_error _
      ((Action.bind_ok _ prepared).trans ((Action.bind_ok _ closed).trans (Action.bind_error _ ran)))]
  · rw [Action.bind_ok _ ran, Action.bind_ok _
      ((Action.bind_ok _ prepared).trans ((Action.bind_ok _ closed).trans (Action.bind_ok _ ran)))]
    rcases wrote : (S.files.replaceFile site.host.dir.place env.faults.file (S.cfg old) cfg).exec
      r₂.manager.files with
      ⟨e | b, files⟩
    · rw [save_eq ⟨some (oldName, S.cfg old), newName, cfg, i⟩ wrote]
      obtain ⟨e', r₃, failed⟩ := rollback_fails site S env oldName (S.cfg old) e
        (S.close env.missed i (r₂.withFiles files)).2
      have closed : S.close env.missed i (r₂.withFiles files) =
          (.ok (), (S.close env.missed i (r₂.withFiles files)).2) :=
        rfl
      have handled := Action.handle_error (fun e => do
        S.close env.missed i
        S.rollback site env oldName (S.cfg old) e) (onFiles_error wrote)
      rw [Action.bind_ok _ closed, failed] at handled
      rw [Action.bind_error _ handled]
      exact ((Action.bind_ok _ closed).trans failed).symm
    · rw [save_eq ⟨some (oldName, S.cfg old), newName, cfg, i⟩ wrote]
      exact Action.bind_ok _ (Action.handle_ok _ (onFiles_ok wrote))

end whole

end Shelf

namespace Registry

variable (site : Site) (env : Env)

/-- The locked section of an operation up to its calls on the files, if it makes any. -/
def start : Op → Action Registry (Option (Change Config Service ⊕ Change Route.RouteConfig RouteService))
  | .addService config _ =>
    let config := Manager.normalizeConfig env.now env.uuid config
    Action.choose fun r =>
      if (site.services.entries r config.Name).isSome then Action.fail (.failed "name already exist")
      else do
        let change ← site.services.addStart site env config
        pure (some (.inl change))
  | .replaceService config =>
    Action.choose fun r => match site.services.find Config.UUID env.order config.UUID r with
      | none => Action.fail (.failed "uuid not exist")
      | some (oldName, old) =>
        let config := { Manager.normalizeConfig env.now env.uuid config with
          UUID := old.cfg.UUID, CreatedAt := old.cfg.CreatedAt }
        if config.Name ≠ oldName ∧ (site.services.entries r config.Name).isSome then
          Action.fail (.failed "name already exist")
        else do
          let change ← site.services.replaceStart site env oldName old config.Name config
          pure (some (.inl change))
  | .setServiceDisabled name disabled =>
    Action.choose fun r => match site.services.entries r name with
      | none => Action.fail (.failed "tun not exist")
      | some current =>
        if current.cfg.Disabled = disabled then pure none
        else do
          let change ← site.services.replaceStart site env name current name
            { current.cfg with Disabled := disabled }
          pure (some (.inl change))
  | .addRoute cfg createFile =>
    Action.choose fun r =>
      let cfg := withProbeMode site (site.services.configs r) cfg createFile
      if createFile ∧ cfg.ProbeMode = Route.RouteProbeLegacyFrame then
        Action.fail (.failed "新建入口必须使用完整链路探测")
      else do
        let cfg ← Action.lift (validateRouteLocked site env r (withIdentity env cfg) "")
        let change ← site.routes.addStart site env cfg
        pure (some (.inr change))
  | .replaceRoute cfg =>
    Action.choose fun r => match site.routes.find Route.RouteConfig.UUID env.routeOrder cfg.UUID r with
      | none => Action.fail (.failed "uuid not exist")
      | some (oldName, old) => do
        let cfg ← Action.lift (validateRouteLocked site env r (editedRoute cfg old.cfg) old.cfg.UUID)
        let change ← site.routes.replaceStart site env oldName old cfg.Name cfg
        pure (some (.inr change))
  | .setRouteDisabled name disabled =>
    Action.choose fun r => match site.routes.entries r name with
      | none => Action.fail (.failed "route not exist")
      | some current =>
        if current.cfg.Disabled = disabled then pure none
        else do
          let cfg := { current.cfg with Disabled := disabled }
          let cfg ← Action.lift (validateRouteLocked site env r cfg cfg.UUID)
          let change ← site.routes.replaceStart site env name current name cfg
          pure (some (.inr change))
  | .removeService _ | .removeServiceByUUID _ | .removeRoute _ | .removeRouteByUUID _ => pure none

/-- The rest of the section, with nothing in between. -/
def complete :
    Option (Change Config Service ⊕ Change Route.RouteConfig RouteService) → Action Registry Unit
  | none => pure ()
  | some (.inl change) => site.services.save site env change
  | some (.inr change) => site.routes.save site env change

/-- The operations that save a configuration. -/
def Saves : Op → Bool
  | .addService _ createFile | .addRoute _ createFile => createFile
  | .replaceService _ | .setServiceDisabled _ _ | .replaceRoute _ | .setRouteDisabled _ _ => true
  | .removeService _ | .removeServiceByUUID _ | .removeRoute _ | .removeRouteByUUID _ => false

section whole

variable {site env} {r : Registry}

/-- With nothing in between, a call is the operation. -/
theorem start_complete {op : Op} (saves : Saves op = true) :
    apply site env op = start site env op >>= complete site env := by
  funext r
  symm
  cases op with
  | addService config createFile =>
    obtain rfl : createFile = true := saves
    rw [apply, start, AddService, Action.choose_bind, Action.choose_apply]
    split_ifs
    · rfl
    · rw [Action.bind_assoc, Shelf.addLocked_eq]
      refine congrFun (bind_congr fun change => ?_) r
      rfl
  | replaceService config =>
    rw [apply, start, ReplaceServiceByUUID, Action.choose_bind, Action.choose_apply]
    cases site.services.find Config.UUID env.order config.UUID r with
    | none => rfl
    | some found =>
      dsimp only
      split_ifs
      · rfl
      · rw [Action.bind_assoc, Shelf.replaceLocked_eq]
        refine congrFun (bind_congr fun change => ?_) r
        rfl
  | setServiceDisabled name disabled =>
    rw [apply, start, SetServiceDisabled, Action.choose_bind, Action.choose_apply]
    cases site.services.entries r name with
    | none => rfl
    | some current =>
      dsimp only
      split_ifs
      · rfl
      · rw [Action.bind_assoc, Shelf.replaceLocked_eq]
        refine congrFun (bind_congr fun change => ?_) r
        rfl
  | addRoute cfg createFile =>
    obtain rfl : createFile = true := saves
    rw [apply, start, AddRoute, Action.choose_bind, Action.choose_apply]
    dsimp only
    split_ifs
    · rfl
    · cases validateRouteLocked site env r
        (withIdentity env (withProbeMode site (site.services.configs r) cfg true)) "" with
      | error e => rfl
      | ok cfg' =>
        rw [Action.bind_assoc, Action.bind_ok _ (Action.lift_apply (.ok cfg') r),
          Action.bind_ok _ (Action.lift_apply (.ok cfg') r), Action.bind_assoc, Shelf.addLocked_eq]
        refine congrFun (bind_congr fun change => ?_) r
        rfl
  | replaceRoute cfg =>
    rw [apply, start, ReplaceRouteByUUID, Action.choose_bind, Action.choose_apply]
    cases site.routes.find Route.RouteConfig.UUID env.routeOrder cfg.UUID r with
    | none => rfl
    | some found =>
      dsimp only
      cases validateRouteLocked site env r (editedRoute cfg found.2.cfg) found.2.cfg.UUID with
      | error e => rfl
      | ok cfg' =>
        rw [Action.bind_assoc, Action.bind_ok _ (Action.lift_apply (.ok cfg') r), Action.bind_ok _
          (Action.lift_apply (.ok cfg') r), Action.bind_assoc, Shelf.replaceLocked_eq]
        refine congrFun (bind_congr fun change => ?_) r
        rfl
  | setRouteDisabled name disabled =>
    rw [apply, start, SetRouteDisabled, Action.choose_bind, Action.choose_apply]
    cases site.routes.entries r name with
    | none => rfl
    | some current =>
      dsimp only
      split_ifs
      · rfl
      · cases validateRouteLocked site env r
          { current.cfg with Disabled := disabled } current.cfg.UUID with
        | error e => rfl
        | ok cfg' =>
          rw [Action.bind_assoc, Action.bind_ok _ (Action.lift_apply (.ok cfg') r),
            Action.bind_ok _ (Action.lift_apply (.ok cfg') r), Action.bind_assoc, Shelf.replaceLocked_eq]
          refine congrFun (bind_congr fun change => ?_) r
          rfl
  | removeService _ => contradiction
  | removeServiceByUUID _ => contradiction
  | removeRoute _ => contradiction
  | removeRouteByUUID _ => contradiction

end whole

end Registry

end Gotun.Tun
