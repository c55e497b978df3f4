import Gotun.Tun.Identity
import Gotun.Tun.Sections
import Gotun.Tun.SharedFiles

/-! The files and the maps while operations overlap: every call on the files is a step, and so are the
rest of a locked section and the section of a removal. -/

namespace Gotun.Tun

open Gotun.Lib

namespace Change

variable {κ ι : Type}

/-- The map when the change is made. -/
def after (change : Change κ ι) (map : Table String κ) : Table String κ :=
  match change.old with
  | none => map.put change.name change.cfg
  | some (oldName, _) => map.move oldName change.name change.cfg

def oldName (change : Change κ ι) : String :=
  match change.old with
  | none => change.name
  | some (oldName, _) => oldName

/-- The names are those of the configurations, and the instance is that of the new one. -/
structure Fits (S : Shelf κ ι) (change : Change κ ι) : Prop where
  own : S.files.name change.cfg = change.name
  settled : S.cfg change.started = change.cfg
  old : ∀ name cfg, change.old = some (name, cfg) → S.files.name cfg = name

end Change

namespace Shelf

variable {κ ι κ' ι' : Type} {S : Shelf κ ι} {T : Shelf κ' ι'} {site : Site} {env : Env}
  {r r' : Registry} {cfg : κ} {change : Change κ ι} {rest : FileScript Bool}
  {gone gone' : List String × List String}

/-! The sections. -/

theorem runPrepared_same {late : Bool} {i : ι} {faults : Nat → Option String}
    (ran : S.runPrepared site late i faults r = (.ok (), r')) :
    SameStore r r' := by
  have kept := runPrepared_store S site late i faults r (.refl r)
  rwa [ran] at kept

theorem addStart_ok (settled : S.Settled cfg) (ran : S.addStart site env cfg r = (.ok change, r')) :
    SameStore r r' ∧ change.Fits S := by
  obtain ⟨i, r₁, prepared, ran⟩ := Action.of_bind_ok ran
  obtain ⟨⟨⟩, r₂, started, ran⟩ := Action.of_bind_ok ran
  cases ran
  cases built : S.build cfg with
  | error e =>
    rw [prepare_error built] at prepared
    cases prepared
  | ok make =>
    rw [prepare_ok built] at prepared
    cases prepared
    refine ⟨(issued_store r).trans (runPrepared_same started), rfl, settled make built _, ?_⟩
    intro name old found
    cases found

theorem replaceStart_ok {oldName newName : String} {old : ι} (settled : S.Settled cfg)
    (own : S.files.name cfg = newName) (oldOwn : S.files.name (S.cfg old) = oldName)
    (ran : S.replaceStart site env oldName old newName cfg r = (.ok change, r')) :
    SameStore r r' ∧ change.Fits S := by
  obtain ⟨i, r₁, prepared, ran⟩ := Action.of_bind_ok ran
  obtain ⟨⟨⟩, r₂, closed, ran⟩ := Action.of_bind_ok ran
  cases closed
  obtain ⟨⟨⟩, r₂, handled, ran⟩ := Action.of_bind_ok ran
  cases ran
  have started := of_handle_ok (fun e => rollback_fails site S env oldName (S.cfg old) e) handled
  cases built : S.build cfg with
  | error e =>
    rw [prepare_error built] at prepared
    cases prepared
  | ok make =>
    rw [prepare_ok built] at prepared
    cases prepared
    have closing := close_store (S := S) env.missed old _ (issued_store r)
    refine ⟨closing.trans (runPrepared_same started), own, settled make built _, ?_⟩
    intro name oldCfg found
    cases found
    exact oldOwn

theorem withFiles_same (r : Registry) (files : Files) : SameMaps r (r.withFiles files) := ⟨rfl, rfl⟩

section laws

variable (lawful : S.Lawful) (lawful' : T.Lawful) (beside : S.Beside T) (plain : S.Plain)

include lawful beside plain in
theorem finish_ok (fits : change.Fits S) (b : Bool) (r : Registry) :
    ∃ r', S.finish site env change (.ok b) r = (.ok (), r') ∧
      S.Leaves T r r' (change.after (S.configs r)) ∧
      r'.manager.files = r.manager.files := by
  unfold finish Change.after
  cases change.old with
  | none =>
    refine ⟨S.put change.name (some change.started) r, rfl,
      ⟨?_, configs_beside beside _ _ r⟩, plain _ _ _⟩
    rw [configs_put lawful, Option.map_some, fits.settled]
    rfl
  | some entry =>
    refine ⟨S.put change.name (some change.started) (S.put entry.1 none r), rfl, ⟨?_, ?_⟩,
      (plain _ _ _).trans (plain _ _ _)⟩
    · rw [configs_put lawful, configs_put lawful, Option.map_some, fits.settled]
      rfl
    · rw [configs_beside beside, configs_beside beside]

variable (S site env change) in
theorem finish_fails (e : Err) (r : Registry) :
    ∃ e' r', S.finish site env change (.error e) r = (.error e', r') := by
  unfold finish
  cases change.old with
  | none => exact ⟨e, _, rfl⟩
  | some entry => exact rollback_fails site S env entry.1 entry.2 e _

include lawful lawful' beside plain in
theorem removeLocked_ok (missed : Nat → Bool) (name : String) (r : Registry) :
    ∃ r', S.removeLocked missed name r = (.ok (), r') ∧ S.Leaves T r r' ((S.configs r).drop name) ∧
      r'.manager.files = r.manager.files := by
  unfold removeLocked
  rw [Action.choose_apply]
  cases present : S.entries r name with
  | none =>
    have absent : S.configs r name = none := by
      rw [configs, present, Option.map_none]
    rw [Table.drop_absent absent]
    exact ⟨r, rfl, .of_same lawful lawful' (.refl r), rfl⟩
  | some i =>
    have closing := close_store (S := S) missed i r (.refl r)
    refine ⟨S.put name none (S.close missed i r).2, rfl, ⟨?_, ?_⟩, (plain _ _ _).trans closing.files⟩
    · rw [configs_put lawful, configs_same lawful closing.maps]
      rfl
    · rw [configs_beside beside, configs_same lawful' closing.maps]

/-! What the files have to do with the maps, beside the names whose removal is under way. -/

variable (S T site) in
def Agreed (r : Registry) (gone : List String × List String) : Prop :=
  FileKind.Agrees S.files T.files site.host.dir.place (S.configs r) (T.configs r) (r.manager.files, gone)

theorem Agreed.swap (agreed : S.Agreed T site r gone) : T.Agreed S site r gone.swap :=
  FileKind.Agrees.swap agreed

include lawful lawful' in
theorem Agreed.same (agreed : S.Agreed T site r gone)
    (same : SameStore r r') : S.Agreed T site r' gone := by
  rw [Agreed, configs_same lawful same.maps, configs_same lawful' same.maps, same.files]
  exact agreed

include lawful lawful' beside plain in
/-- The removal comes to its map. -/
theorem Agreed.removed (missed : Nat → Bool) (agreed : S.Agreed T site r gone) {name : String}
    (deleted : name ∈ gone.1) :
    ∃ r', S.removeLocked missed name r = (.ok (), r') ∧ S.Leaves T r r' ((S.configs r).drop name) ∧
      S.Agreed T site r' (gone.1.erase name, gone.2) := by
  obtain ⟨r', ran, leaves, files⟩ := removeLocked_ok lawful lawful' beside plain missed name r
  refine ⟨r', ran, leaves, ?_⟩
  rw [Agreed, leaves.configs, leaves.beside, files]
  refine ⟨?_, agreed.other⟩
  rw [Table.drop_without_erase _ deleted]
  exact agreed.own

variable (S T site env r change rest gone) in
/-- A section that has come to its calls on the files makes the change, if these are fair. -/
structure Sound : Prop where
  fits : change.Fits S
  safe : rest.Safe (FileKind.Rely S.files T.files site.host.dir.place)
    (S.files.Fair site.host.dir.place env.faults.file change.oldName change.name)
    (FileKind.Returns
      (FileKind.Agrees S.files T.files site.host.dir.place (change.after (S.configs r)) (T.configs r)))
    (r.manager.files, gone)

variable (files : S.files.Beside T.files)

include files in
theorem Agreed.sound (agreed : S.Agreed T site r gone) (fits : change.Fits S) :
    S.Sound T site env r change (S.fileScript site env change) gone := by
  refine ⟨fits, ?_⟩
  have own := fits.own
  cases found : change.old with
  | none =>
    unfold fileScript Change.oldName Change.after
    rw [found]
    dsimp only
    rw [← own]
    exact FileKind.createFile_meets files change.cfg _ agreed
  | some entry =>
    have oldOwn := fits.old entry.1 entry.2 found
    unfold fileScript Change.oldName Change.after
    rw [found]
    dsimp only
    rw [← own, ← oldOwn]
    exact FileKind.replaceFile_meets files _ agreed

include lawful lawful' in
/-- Only the files have changed. -/
theorem Sound.withFiles {files : Files} (fits : change.Fits S)
    (safe : rest.Safe (FileKind.Rely S.files T.files site.host.dir.place)
      (S.files.Fair site.host.dir.place env.faults.file change.oldName change.name)
      (FileKind.Returns (FileKind.Agrees S.files T.files site.host.dir.place
      (change.after (S.configs r)) (T.configs r))) (files, gone)) :
    S.Sound T site env (r.withFiles files) change rest gone := by
  refine ⟨fits, ?_⟩
  rw [configs_same lawful (withFiles_same r files), configs_same lawful' (withFiles_same r files)]
  exact safe

include lawful lawful' in
theorem Sound.call {label : FileOp} {run : Files → Except Err Bool × Files}
    {next : Except Err Bool → FileScript Bool}
    (sound : S.Sound T site env r change (.call label run next) gone)
    (fair : S.files.Fair site.host.dir.place env.faults.file change.oldName change.name label
      (r.manager.files, gone)) :
    S.Sound T site env
      (r.withFiles (run r.manager.files).2) change (next (run r.manager.files).1) gone :=
  .withFiles lawful lawful' sound.fits (sound.safe _ (FileKind.rely_refl _) fair)

include lawful lawful' in
theorem Sound.deletes {files : Files} (sound : S.Sound T site env r change rest gone)
    (step : FileKind.Deletes S.files T.files site.host.dir.place
      (r.manager.files, gone) (files, gone')) :
    S.Sound T site env (r.withFiles files) change rest gone' :=
  .withFiles lawful lawful' sound.fits
    (sound.safe.mono (fun first later => first.trans later) (.single step))

include files lawful lawful' in
theorem Agreed.deletes {after : Files} (agreed : S.Agreed T site r gone)
    (step : FileKind.Deletes S.files T.files site.host.dir.place
      (r.manager.files, gone) (after, gone')) :
    S.Agreed T site (r.withFiles after) gone' := by
  rw [Agreed, configs_same lawful (withFiles_same r after),
    configs_same lawful' (withFiles_same r after)]
  exact FileKind.Agrees.deletes files.other agreed step

include lawful beside plain in
theorem Sound.finish {b : Bool} (sound : S.Sound T site env r change (.done (.ok b)) gone) :
    ∃ r', S.finish site env change (.ok b) r = (.ok (), r') ∧
      S.Leaves T r r' (change.after (S.configs r)) ∧
      S.Agreed T site r' gone := by
  obtain ⟨r', ran, leaves, files⟩ := finish_ok lawful beside plain sound.fits b r
  refine ⟨r', ran, leaves, ?_⟩
  rw [Agreed, leaves.configs, leaves.beside, files]
  exact sound.safe _ (FileKind.rely_refl _)

end laws

end Shelf

end Gotun.Tun
