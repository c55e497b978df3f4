import Mathlib.Logic.Relation
import Gotun.Tun.Storage

/-! Creating and replacing a file while removals of others delete files. A removal deletes its file
before it takes the lock, and comes to its map later. -/

namespace Gotun.Tun

open Gotun.Lib

/-- The files, and the names whose removal has deleted its file but has not come to its map: those of
one kind, and those of the other. -/
abbrev Shared := Files × List String × List String

namespace FileKind

variable {κ κ' : Type} (K : FileKind κ) (K' : FileKind κ') (p : Place)

inductive Deletes : Shared → Shared → Prop
  | own (files : Files) (gone gone' : List String) (name : String) :
      Deletes (files, gone, gone') (files.remove (K.file p name), name :: gone, gone')
  | other (files : Files) (gone gone' : List String) (name : String) :
      Deletes (files, gone, gone') (files.remove (K'.file p name), gone, name :: gone')

abbrev Rely : Shared → Shared → Prop := Relation.ReflTransGen (Deletes K K' p)

/-- The files are those of the two maps, but for the ones that are already deleted. -/
structure Agrees (map : Table String κ) (map' : Table String κ') (s : Shared) : Prop where
  own : K.Stores p s.1 (map.without s.2.1)
  other : K'.Stores p s.1 (map'.without s.2.2)

/-- The files of the other kind have names of their own. -/
structure Beside : Prop where
  regular : K.Regular
  other : K.Other K'
  temp : ∀ {p : Place} (name name' : String), K'.file p name ≠ K.temp p name'
  backup : ∀ {p : Place} (name name' : String), K'.file p name ≠ K.backup p name'

/-- The old file is seen if it is there, and no file is moved in that a removal has just deleted. -/
def Fair (faults : FileFaults) (oldName newName : String) (op : FileOp) (s : Shared) : Prop :=
  (op = .stat → oldName ≠ newName → faults .stat = none ∨ s.1 (K.file p oldName) = none) ∧
    (op = .renameNew → newName ∉ s.2.1)

variable {K K' p} {map : Table String κ} {map' : Table String κ'} {s t : Shared}
  {faults : FileFaults} {allowed : FileOp → Shared → Prop} {pre : Shared → Prop}
  {post : Except Err Bool → Shared → Prop} {cfg oldCfg newCfg : κ}

theorem Other.symm (other : K.Other K') : K'.Other K := fun name name' => (other name' name).symm

theorem Agrees.swap (agrees : Agrees K K' p map map' s) : Agrees K' K p map' map (s.1, s.2.swap) :=
  ⟨agrees.other, agrees.own⟩

theorem Deletes.swap (step : Deletes K K' p s t) : Deletes K' K p (s.1, s.2.swap) (t.1, t.2.swap) := by
  cases step with
  | own files gone gone' name => exact .other files gone' gone name
  | other files gone gone' name => exact .own files gone' gone name

/-! What the removals do not change. -/

theorem Agrees.deletes (other : K.Other K') (agrees : Agrees K K' p map map' s)
    (step : Deletes K K' p s t) :
    Agrees K K' p map map' t := by
  cases step with
  | own files gone gone' name =>
    refine ⟨?_, agrees.other.beside_remove other.symm⟩
    rw [Table.without_cons]
    exact agrees.own.remove name
  | other files gone gone' name =>
    refine ⟨agrees.own.beside_remove other, ?_⟩
    rw [Table.without_cons]
    exact agrees.other.remove name

/-- What no single removal changes. -/
theorem stable_of_deletes {P : Shared → Prop} (kept : ∀ s t, Deletes K K' p s t → P s → P t) :
    Script.Stable (Rely K K' p) P := by
  intro s t later held
  induction later with
  | refl => exact held
  | tail _ step ih => exact kept _ _ step ih

theorem stable_agrees (other : K.Other K') : Script.Stable (Rely K K' p) (Agrees K K' p map map') :=
  stable_of_deletes fun _ _ step agrees => agrees.deletes other step

theorem stable_temp (beside : K.Beside K') (name : String) (data : Bytes) :
    Script.Stable (Rely K K' p) fun s => s.1 (K.temp p name) = some data := by
  apply stable_of_deletes
  intro s t step there
  cases step with
  | own files gone gone' removed =>
    exact (Files.remove_of_ne _ (beside.regular.file_ne_temp removed name).symm).trans there
  | other files gone gone' removed =>
    exact (Files.remove_of_ne _ (beside.temp removed name).symm).trans there

theorem Agrees.elsewhere {files' : Files} (agrees : Agrees K K' p map map' s)
    (same : ∀ name, files' (K.file p name) = s.1 (K.file p name))
    (same' : ∀ name, files' (K'.file p name) = s.1 (K'.file p name)) :
    Agrees K K' p map map' (files', s.2) :=
  ⟨agrees.own.of_eq fun name _ => same name, agrees.other.of_eq fun name _ => same' name⟩

theorem Agrees.write_temp (beside : K.Beside K') (agrees : Agrees K K' p map map' s) (name : String)
    (data : Bytes) :
    Agrees K K' p map map' (s.1.write (K.temp p name) data, s.2) :=
  agrees.elsewhere (fun other => Files.write_of_ne _ _ (beside.regular.file_ne_temp other name))
    fun other => Files.write_of_ne _ _ (beside.temp other name)

theorem Agrees.remove_temp (beside : K.Beside K') (agrees : Agrees K K' p map map' s) (name : String) :
    Agrees K K' p map map' (s.1.remove (K.temp p name), s.2) :=
  agrees.elsewhere (fun other => Files.remove_of_ne _ (beside.regular.file_ne_temp other name))
    fun other => Files.remove_of_ne _ (beside.temp other name)

theorem Agrees.remove_backup (beside : K.Beside K') (agrees : Agrees K K' p map map' s) (name : String) :
    Agrees K K' p map map' (s.1.remove (K.backup p name), s.2) :=
  agrees.elsewhere (fun other => Files.remove_of_ne _ (beside.regular.file_ne_backup other name))
    fun other => Files.remove_of_ne _ (beside.backup other name)

/-- The file of a name that no removal has deleted is moved into its place. -/
theorem Agrees.move_in (beside : K.Beside K') (agrees : Agrees K K' p map map' s) {data : Bytes}
    (marshalled : K.marshal cfg = .ok data) (plain : '/' ∉ (K.name cfg).toList)
    (there : s.1 (K.temp p (K.name cfg)) = some data) (kept : K.name cfg ∉ s.2.1) :
    Agrees K K' p (map.put (K.name cfg) cfg) map'
      (s.1.rename (K.temp p (K.name cfg)) (K.file p (K.name cfg)), s.2) where
  own := by
    rw [Table.put_without _ _ kept]
    apply (agrees.own.write plain marshalled).of_eq
    intro name _
    dsimp only
    by_cases here : name = K.name cfg
    · rw [here, Files.rename_target, Files.write_self, there]
    · have differ : K.file p name ≠ K.file p (K.name cfg) := fun same => here (file_inj same)
      rw [Files.rename_of_ne _ (beside.regular.file_ne_temp _ _) differ, Files.write_of_ne _ _ differ]
  other :=
    agrees.other.of_eq fun name _ => Files.rename_of_ne _ (beside.temp _ _) (beside.other _ _).symm

/-- A file is moved out of the way. -/
theorem Agrees.move_out (beside : K.Beside K') (agrees : Agrees K K' p map map' s) (name : String) :
    Agrees K K' p (map.drop name) map' (s.1.rename (K.file p name) (K.backup p name), s.2) where
  own := by
    rw [Table.drop_without]
    apply (agrees.own.remove name).of_eq
    intro other _
    dsimp only
    by_cases here : other = name
    · rw [here, Files.rename_source _ (beside.regular.file_ne_backup _ _), Files.remove_self]
    · have differ : K.file p other ≠ K.file p name := fun same => here (file_inj same)
      rw [Files.rename_of_ne _ differ (beside.regular.file_ne_backup _ _), Files.remove_of_ne _ differ]
  other := agrees.other.of_eq fun other _ => Files.rename_of_ne _ (beside.other _ _).symm
    (beside.backup _ _)

/-- A name without a file is a name without an entry that is seen. -/
theorem Agrees.missing (agrees : Agrees K K' p map map' s) {name : String}
    (missing : s.1 (K.file p name) = none) :
    Agrees K K' p (map.drop name) map' s where
  own := by
    have absent : map.without s.2.1 name = none := by
      cases found : map.without s.2.1 name with
      | none => rfl
      | some cfg =>
        obtain ⟨data, _, there⟩ := agrees.own.present name cfg found
        rw [missing] at there
        contradiction
    rw [Table.drop_without, Table.drop_absent absent]
    exact agrees.own
  other := agrees.other

/-! The calls. -/

/-- What a success means. -/
def Returns (P : Shared → Prop) : Except Err Bool → Shared → Prop
  | .ok _, s => P s
  | .error _, _ => True

theorem stable_returns {P : Shared → Prop} {rely : Shared → Shared → Prop}
    (stable : Script.Stable rely P) (result : Except Err Bool) :
    Script.Stable rely (Returns P result) := by
  cases result with
  | ok b => exact stable
  | error e => exact fun _ _ _ _ => trivial

section scripts

variable {rely : Shared → Shared → Prop} {P Q : Shared → Prop} {x y : FileScript Bool}

theorem meets_any (x : FileScript Bool) : Script.Meets rely allowed pre x fun _ _ => True := by
  intro s held
  clear held
  induction x generalizing s with
  | done result => exact fun _ _ => trivial
  | call label run next ih => exact fun _ _ _ => ih _ _

theorem meets_fail (e : Err) : Script.Meets rely allowed pre (.fail e) (Returns Q) :=
  fun _ _ _ _ => trivial

theorem meets_pure (stable : Script.Stable rely P) (b : Bool) :
    Script.Meets rely allowed P (pure b) (Returns P) :=
  fun s held t later => stable s t later held

theorem meets_seq (refl : ∀ s, rely s s) {f : Bool → FileScript Bool}
    (first : Script.Meets rely allowed pre x (Returns P))
    (rest : ∀ b, Script.Meets rely allowed P (f b) (Returns Q)) :
    Script.Meets rely allowed pre (x >>= f) (Returns Q) :=
  first.bind refl rest fun _ _ _ => trivial

/-- A call that fails when the file system does. -/
theorem meets_attempt {op : FileOp} {f : Files → Except Err Bool × Files}
    (stable : Script.Stable rely pre) (stable' : Script.Stable rely Q)
    (step : ∀ s, pre s → allowed op s → Returns Q (f s.1).1 ((f s.1).2, s.2)) :
    Script.Meets rely allowed pre (FileScript.attempt faults op f) (Returns Q) := by
  apply Script.Meets.request stable (stable_returns stable')
  intro s held ok
  cases faults op with
  | none => exact step s held ok
  | some text => trivial

theorem meets_perform {op : FileOp} {f : Files → Files} (stable : Script.Stable rely pre)
    (stable' : Script.Stable rely Q) (step : ∀ s, pre s → Q (f s.1, s.2)) :
    Script.Meets rely allowed pre (FileScript.perform faults op f) (Returns Q) :=
  meets_attempt stable stable' fun s held _ => step s held

theorem meets_rename {op : FileOp} {source target : String} (stable : Script.Stable rely pre)
    (stable' : Script.Stable rely Q)
    (step : ∀ s, pre s → allowed op s → Q (s.1.rename source target, s.2)) :
    Script.Meets rely allowed pre (FileScript.rename faults op source target) (Returns Q) := by
  apply meets_attempt stable stable'
  intro s held ok
  split_ifs
  · exact step s held ok
  · trivial

/-- A call that only looks. -/
theorem meets_stat {path : String} (stable : Script.Stable rely P) :
    Script.Meets rely allowed P (FileScript.isFileExist faults path) (Returns P) :=
  Script.Meets.request stable (stable_returns stable) fun _ held _ => held

/-- A call whose error is ignored keeps what it does not touch. -/
theorem meets_ignoring (refl : ∀ s, rely s s) {op : FileOp} {f : Files → Files}
    (stable : Script.Stable rely P) (step : ∀ s, P s → P (f s.1, s.2)) :
    Script.Meets rely allowed P (FileScript.ignoring (FileScript.perform faults op f)) fun _ => P := by
  have first : Script.Meets rely allowed P (FileScript.perform faults op f) fun _ => P := by
    apply Script.Meets.request stable fun _ => stable
    intro s held _
    cases faults op with
    | none => exact step s held
    | some text => exact held
  exact first.handle refl (fun _ _ held => held) fun _ s held t later => stable s t later held

/-- The temporary file is removed last. -/
theorem meets_defer (refl : ∀ s, rely s s) {op : FileOp} {f : Files → Files}
    (stable : Script.Stable rely P) (first : Script.Meets rely allowed pre x (Returns P))
    (step : ∀ s, P s → P (f s.1, s.2)) :
    Script.Meets rely allowed pre
      (x.defer (FileScript.ignoring (FileScript.perform faults op f))) (Returns P) := by
  refine first.defer refl ?_
  intro result
  cases result with
  | ok b => exact meets_ignoring refl stable step
  | error e => exact meets_any _

end scripts

theorem rely_refl (s : Shared) : Rely K K' p s s := .refl

/-! The two functions. -/

/-- The configuration is in its temporary file. -/
def InTemp (K : FileKind κ) (p : Place) (cfg : κ) (s : Shared) : Prop :=
  ∃ data, K.marshal cfg = .ok data ∧ '/' ∉ (K.name cfg).toList ∧ s.1 (K.temp p (K.name cfg)) = some data

section functions

variable (beside : K.Beside K')

include beside in
theorem stable_inTemp (cfg : κ) : Script.Stable (Rely K K' p) (K.InTemp p cfg) := by
  rintro s t later ⟨data, marshalled, plain, there⟩
  exact ⟨data, marshalled, plain, stable_temp beside (K.name cfg) data s t later there⟩

include beside in
theorem stable_both {P : Shared → Prop} (stable : Script.Stable (Rely K K' p) P) (cfg : κ) :
    Script.Stable (Rely K K' p) fun s => P s ∧ K.InTemp p cfg s :=
  fun s t later held => ⟨stable s t later held.1, stable_inTemp beside cfg s t later held.2⟩

theorem meets_stageDir {P : Shared → Prop} (stable : Script.Stable (Rely K K' p) P) :
    Script.Meets (Rely K K' p) allowed P (stageDir faults) (Returns P) :=
  meets_seq rely_refl (meets_perform stable stable fun _ held => held) fun _ =>
    meets_perform stable stable fun _ held => held

include beside in
theorem meets_writeTemp (cfg : κ) :
    Script.Meets (Rely K K' p) allowed (Agrees K K' p map map') (K.writeTemp p faults cfg)
    (Returns fun s => Agrees K K' p map map' s ∧ K.InTemp p cfg s) := by
  have agreed : Script.Stable (Rely K K' p) (Agrees K K' p map map') := stable_agrees beside.other
  have both := stable_both beside agreed cfg
  cases marshalled : K.marshal cfg with
  | error e =>
    rw [writeTemp, marshalled]
    exact meets_fail e
  | ok data =>
    by_cases plain : '/' ∈ (K.name cfg).toList
    · rw [writeTemp, marshalled]
      show Script.Meets _ _ _ (if '/' ∈ (K.name cfg).toList then _ else _) _
      rw [if_pos plain]
      exact meets_fail _
    · rw [writeTemp_eq marshalled plain]
      refine meets_seq rely_refl
        (meets_perform agreed agreed fun s held => held.write_temp beside _ _) fun _ => ?_
      refine meets_seq rely_refl (meets_perform agreed both fun s held => ?_) fun _ =>
        meets_perform both both fun _ held => held
      exact ⟨held.write_temp beside _ _, data, marshalled, plain, Files.write_self ..⟩

include beside in
/-- A file that is created is that of a new entry. -/
theorem createFile_meets (cfg : κ) :
    Script.Meets (Rely K K' p) (K.Fair p faults (K.name cfg) (K.name cfg)) (Agrees K K' p map map')
      (K.createFile p faults cfg)
      (Returns (Agrees K K' p (map.put (K.name cfg) cfg) map')) := by
  have agreed : ∀ {map : Table String κ}, Script.Stable (Rely K K' p) (Agrees K K' p map map') :=
    stable_agrees beside.other
  refine meets_seq rely_refl (meets_stageDir agreed) fun _ => ?_
  refine meets_seq rely_refl (meets_stat agreed) fun found => ?_
  split_ifs
  · exact meets_fail _
  refine meets_seq rely_refl (meets_writeTemp beside cfg) fun _ => ?_
  refine meets_defer rely_refl agreed ?_ fun s held => held.remove_temp beside _
  apply meets_rename (stable_both beside agreed cfg) agreed
  rintro s ⟨held, data, marshalled, plain, there⟩ ok
  exact held.move_in beside marshalled plain there (ok.2 rfl)

/-- The old file is out of the way, or will be written over. -/
def Cleared (K : FileKind κ) (K' : FileKind κ') (p : Place) (map : Table String κ)
    (map' : Table String κ') (oldCfg newCfg : κ) (s : Shared) : Prop :=
  ∃ map₁, map₁.put (K.name newCfg) newCfg = map.move (K.name oldCfg) (K.name newCfg) newCfg ∧
    Agrees K K' p map₁ map' s

theorem stable_cleared (other : K.Other K') :
    Script.Stable (Rely K K' p) (Cleared K K' p map map' oldCfg newCfg) := by
  rintro s t later ⟨map₁, same, agrees⟩
  exact ⟨map₁, same, stable_agrees other s t later agrees⟩

/-- What is known of the old file when it has been looked for. -/
def Looked (K : FileKind κ) (K' : FileKind κ') (p : Place) (map : Table String κ)
    (map' : Table String κ') (oldCfg newCfg : κ) :
    Except Err Bool → Shared → Prop
  | .ok true, s => Agrees K K' p map map' s ∧ K.InTemp p newCfg s
  | .ok false, s => Cleared K K' p map map' oldCfg newCfg s ∧ K.InTemp p newCfg s
  | .error _, _ => True

include beside in
theorem stable_looked (result : Except Err Bool) :
    Script.Stable (Rely K K' p) (Looked K K' p map map' oldCfg newCfg result) := by
  rcases result with e | ⟨⟨⟩⟩
  · exact fun _ _ _ _ => trivial
  · exact stable_both beside (stable_cleared beside.other) newCfg
  · exact stable_both beside (stable_agrees beside.other) newCfg

include beside in
theorem look_meets : Script.Meets (Rely K K' p) (K.Fair p faults (K.name oldCfg) (K.name newCfg))
    (fun s => Agrees K K' p map map' s ∧ K.InTemp p newCfg s)
      (FileScript.isFileExist faults (K.file p (K.name oldCfg)))
    (Looked K K' p map map' oldCfg newCfg) := by
  apply Script.Meets.request (stable_both beside (stable_agrees beside.other) newCfg)
    (stable_looked beside)
  rintro s ⟨agrees, temp⟩ ok
  dsimp only
  cases found : (faults .stat).isNone && (s.1 (K.file p (K.name oldCfg))).isSome with
  | true => exact ⟨agrees, temp⟩
  | false =>
    refine ⟨?_, temp⟩
    by_cases same : K.name oldCfg = K.name newCfg
    · refine ⟨map, ?_, agrees⟩
      rw [same, Table.move, Table.drop, Table.put, Table.put, Function.update_idem]
    · refine ⟨map.drop (K.name oldCfg), rfl, agrees.missing ?_⟩
      rcases ok.1 rfl same with seen | missing
      · simpa [seen] using found
      · exact missing

include beside in
/-- What is moved aside is the old file, and what is moved in is the new one. -/
theorem move_meets : Script.Meets (Rely K K' p) (K.Fair p faults (K.name oldCfg) (K.name newCfg))
    (fun s => Agrees K K' p map map' s ∧ K.InTemp p newCfg s) (K.move p faults oldCfg newCfg)
    (Returns (Agrees K K' p (map.move (K.name oldCfg) (K.name newCfg) newCfg) map')) := by
  have agreed : ∀ {map : Table String κ}, Script.Stable (Rely K K' p) (Agrees K K' p map map') :=
    stable_agrees beside.other
  have both : Script.Stable (Rely K K' p) fun s => Agrees K K' p map map' s ∧ K.InTemp p newCfg s :=
    stable_both beside agreed newCfg
  have cleared : Script.Stable (Rely K K' p) fun s => Cleared K K' p map map' oldCfg newCfg s ∧
      K.InTemp p newCfg s :=
    stable_both beside (stable_cleared beside.other) newCfg
  have placed : Script.Meets (Rely K K' p) (K.Fair p faults (K.name oldCfg) (K.name newCfg))
      (fun s => Cleared K K' p map map' oldCfg newCfg s ∧ K.InTemp p newCfg s)
      (FileScript.rename faults .renameNew (K.temp p (K.name newCfg)) (K.file p (K.name newCfg)))
      (Returns (Agrees K K' p (map.move (K.name oldCfg) (K.name newCfg) newCfg) map')) := by
    apply meets_rename cleared agreed
    rintro s ⟨⟨map₁, same, agrees⟩, data, marshalled, plain, there⟩ ok
    rw [← same]
    exact agrees.move_in beside marshalled plain there (ok.2 rfl)
  refine (look_meets beside).bind rely_refl ?_ fun _ _ _ => trivial
  intro found
  cases found with
  | true =>
    refine meets_seq rely_refl
      (P := fun s => Cleared K K' p map map' oldCfg newCfg s ∧ K.InTemp p newCfg s) ?_ fun _ => ?_
    · apply meets_rename both cleared
      rintro s ⟨agrees, data, marshalled, plain, there⟩ _
      refine ⟨⟨_, rfl, agrees.move_out beside _⟩, data, marshalled, plain, ?_⟩
      have apart := (beside.regular.file_ne_temp (p := p) (K.name oldCfg) (K.name newCfg)).symm
      exact (Files.rename_of_ne _ apart (beside.regular.temp_ne_backup _ _)).trans there
    · refine meets_seq rely_refl
        (P := Agrees K K' p (map.move (K.name oldCfg) (K.name newCfg) newCfg) map') ?_ fun _ => ?_
      · refine placed.handle rely_refl (fun _ _ held => held) fun e => ?_
        exact (meets_any _).bind rely_refl (fun _ => meets_fail e) fun _ _ _ => trivial
      · exact (meets_ignoring rely_refl agreed fun s held => held.remove_backup beside _).weaken
          (fun _ held => held) fun result s held => by
          cases result <;> first | exact held | trivial
  | false =>
    refine meets_seq rely_refl (meets_pure cleared false) fun _ => ?_
    refine meets_seq rely_refl
      (P := Agrees K K' p (map.move (K.name oldCfg) (K.name newCfg) newCfg) map') ?_ fun _ =>
      meets_pure agreed false
    refine placed.handle rely_refl (fun _ _ held => held) fun e => ?_
    exact (meets_any _).bind rely_refl (fun _ => meets_fail e) fun _ _ _ => trivial

include beside in
theorem replaceFile_meets : Script.Meets (Rely K K' p) (K.Fair p faults (K.name oldCfg) (K.name newCfg))
    (Agrees K K' p map map') (K.replaceFile p faults oldCfg newCfg)
    (Returns (Agrees K K' p (map.move (K.name oldCfg) (K.name newCfg) newCfg) map')) := by
  have agreed : ∀ {map : Table String κ}, Script.Stable (Rely K K' p) (Agrees K K' p map map') :=
    stable_agrees beside.other
  refine meets_seq rely_refl (meets_stageDir agreed) fun _ => ?_
  refine meets_seq rely_refl (meets_writeTemp beside newCfg) fun _ => ?_
  exact meets_defer rely_refl agreed (move_meets beside) fun s held => held.remove_temp beside _

end functions

end FileKind

end Gotun.Tun
