import Gotun.Lib.System
import Mathlib.Tactic.ByContra

/-! Unending executions of a system, weak fairness, and the rule for what a fair execution leads to:
a rank that some party lowers at each of its steps, that it can always lower, and that nobody raises. -/

namespace Gotun.Lib

variable {σ ε : Type} {sys : System σ ε}

/-- At each moment an event happens, or nothing does. -/
structure Execution (sys : System σ ε) where
  state : Nat → σ
  event : Nat → Option ε
  starts : sys.start (state 0)
  happens : ∀ n e, event n = some e → sys.step (state n) e = some (state (n + 1))
  rests : ∀ n, event n = none → state (n + 1) = state n

namespace Execution

/-- One of the events of a party can happen. -/
def Enabled (sys : System σ ε) (mine : ε → Prop) (s : σ) : Prop := ∃ e, mine e ∧ (sys.step s e).isSome

/-- A party that can go on for ever goes on. -/
def Fair (x : Execution sys) (mine : ε → Prop) : Prop :=
  ∀ n, (∀ m, n ≤ m → Enabled sys mine (x.state m)) → ∃ m e, n ≤ m ∧ x.event m = some e ∧ mine e

variable {x : Execution sys}

theorem reachable (x : Execution sys) (n : Nat) : sys.Reachable (x.state n) := by
  induction n with
  | zero => exact ⟨[], .start x.starts⟩
  | succ n ih =>
    cases event : x.event n with
    | none => exact (x.rests n event).symm ▸ ih
    | some e =>
      obtain ⟨events, run⟩ := ih
      exact ⟨events ++ [e], run.step trivial (x.happens n e event)⟩

/-- What every step keeps holds from then on. -/
theorem always {P : σ → Prop} (steps : ∀ s e s', P s → sys.step s e = some s' → P s') {n m : Nat}
    (later : n ≤ m) (now : P (x.state n)) : P (x.state m) := by
  induction later with
  | refl => exact now
  | step _ ih =>
    rename_i k _
    cases event : x.event k with
    | none => exact (x.rests k event).symm ▸ ih
    | some e => exact steps _ e _ ih (x.happens k e event)

/-- What every step keeps until `Q` holds as long as `Q` has not come. -/
theorem holds_until {P Q : σ → Prop}
    (keeps : ∀ s e s', P s → ¬ Q s → sys.step s e = some s' → Q s' ∨ P s') {n m : Nat}
    (later : n ≤ m) (now : P (x.state n)) : P (x.state m) ∨ ∃ k, n ≤ k ∧ k ≤ m ∧ Q (x.state k) := by
  induction later with
  | refl => exact .inl now
  | step before ih =>
    rename_i m
    rcases ih with holds | ⟨k, after, earlier, reached⟩
    · by_cases already : Q (x.state m)
      · exact .inr ⟨m, before, Nat.le_succ m, already⟩
      cases event : x.event m with
      | none => exact .inl ((x.rests m event).symm ▸ holds)
      | some e =>
        rcases keeps _ e _ holds already (x.happens m e event) with reached | holds'
        · exact .inr ⟨m + 1, Nat.le_succ_of_le before, Nat.le_refl _, reached⟩
        · exact .inl holds'
    · exact .inr ⟨k, after, Nat.le_succ_of_le earlier, reached⟩

/-- From `P` the steps of a party lead to `Q`. -/
structure Leads (sys : System σ ε) (mine : ε → Prop) (P Q : σ → Prop) (rank : σ → Nat) : Prop where
  enabled : ∀ s, P s → ¬ Q s → Enabled sys mine s
  lowers : ∀ s e s', P s → ¬ Q s → sys.step s e = some s' → mine e → Q s' ∨ P s' ∧ rank s' < rank s
  keeps : ∀ s e s', P s → ¬ Q s → sys.step s e = some s' → Q s' ∨ P s' ∧ rank s' ≤ rank s

/-- Only the party changes the rank. -/
theorem Leads.of_moves {mine : ε → Prop} {P Q : σ → Prop} {rank : σ → Nat}
    (enabled : ∀ s, P s → ¬ Q s → Enabled sys mine s)
    (moves : ∀ s e s', P s → ¬ Q s → sys.step s e = some s' → Q s' ∨ P s' ∧
      (mine e ∧ rank s' < rank s ∨ ¬ mine e ∧ rank s' = rank s)) : Leads sys mine P Q rank where
  enabled := enabled
  lowers s e s' holds already next own := by
    rcases moves s e s' holds already next with reached | ⟨holds', ⟨_, lower⟩ | ⟨foreign, _⟩⟩
    · exact .inl reached
    · exact .inr ⟨holds', lower⟩
    · exact absurd own foreign
  keeps s e s' holds already next := by
    rcases moves s e s' holds already next with reached | ⟨holds', ⟨_, lower⟩ | ⟨_, same⟩⟩
    · exact .inl reached
    · exact .inr ⟨holds', Nat.le_of_lt lower⟩
    · exact .inr ⟨holds', Nat.le_of_eq same⟩

/-- Until `Q`, `P` holds and the rank does not rise. -/
theorem Leads.meanwhile {mine : ε → Prop} {P Q : σ → Prop} {rank : σ → Nat}
    (leads : Leads sys mine P Q rank) {n m : Nat} (later : n ≤ m) (now : P (x.state n))
    (never : ∀ k, n ≤ k → ¬ Q (x.state k)) :
    P (x.state m) ∧ rank (x.state m) ≤ rank (x.state n) := by
  induction later with
  | refl => exact ⟨now, Nat.le_refl _⟩
  | step before ih =>
    rename_i k
    obtain ⟨holds, low⟩ := ih
    cases event : x.event k with
    | none =>
      rw [x.rests k event]
      exact ⟨holds, low⟩
    | some e =>
      rcases leads.keeps _ e _ holds (never k before) (x.happens k e event) with
        reached | ⟨holds', lower⟩
      · exact absurd reached (never (k + 1) (Nat.le_succ_of_le before))
      · exact ⟨holds', Nat.le_trans lower low⟩

theorem Leads.eventually {mine : ε → Prop} {P Q : σ → Prop} {rank : σ → Nat}
    (leads : Leads sys mine P Q rank) (fair : x.Fair mine) {n : Nat}
    (now : P (x.state n)) : ∃ m, n ≤ m ∧ Q (x.state m) := by
  induction bound : rank (x.state n) using Nat.strongRecOn generalizing n with
  | ind bound' ih =>
    by_contra unreached
    have never (k : Nat) (later : n ≤ k) : ¬ Q (x.state k) :=
      fun reached => unreached ⟨k, later, reached⟩
    obtain ⟨m, e, later, event, own⟩ := fair n fun m later =>
      leads.enabled _ (leads.meanwhile later now never).1 (never m later)
    obtain ⟨holds, low⟩ := leads.meanwhile later now never
    rcases leads.lowers _ e _ holds (never m later) (x.happens m e event) own with
      reached | ⟨holds', lower⟩
    · exact never (m + 1) (Nat.le_succ_of_le later) reached
    · obtain ⟨k, after, reached⟩ :=
        ih (rank (x.state (m + 1))) (bound ▸ Nat.lt_of_lt_of_le lower low) holds' rfl
      exact never k (Nat.le_trans (Nat.le_succ_of_le later) after) reached

/-- A party that can go on again and again goes on. -/
def StronglyFair (x : Execution sys) (mine : ε → Prop) : Prop :=
  ∀ n, (∀ m, n ≤ m → ∃ k, m ≤ k ∧ Enabled sys mine (x.state k)) → ∃ m e, n ≤ m ∧
    x.event m = some e ∧ mine e

/-- From `P`, a party that again and again can lead to `Q` does so, when nobody leaves `P` before. -/
theorem StronglyFair.eventually {mine : ε → Prop} {P Q : σ → Prop} (fair : x.StronglyFair mine)
    (keeps : ∀ s e s', P s → ¬ Q s → sys.step s e = some s' → Q s' ∨ P s')
    (leads : ∀ s e s', P s → ¬ Q s → sys.step s e = some s' → mine e → Q s')
    (again : ∀ m, P (x.state m) → ∃ k, m ≤ k ∧ (Q (x.state k) ∨ Enabled sys mine (x.state k)))
    {n : Nat} (now : P (x.state n)) :
    ∃ m, n ≤ m ∧ Q (x.state m) := by
  by_contra unreached
  have never (k : Nat) (later : n ≤ k) : ¬ Q (x.state k) := fun reached => unreached ⟨k, later, reached⟩
  have meanwhile (m : Nat) (later : n ≤ m) : P (x.state m) := by
    rcases x.holds_until keeps later now with holds | ⟨k, after, _, reached⟩
    · exact holds
    · exact absurd reached (never k after)
  obtain ⟨m, e, later, event, own⟩ := fair n fun m later => by
    obtain ⟨k, after, reached | enabled⟩ := again m (meanwhile m later)
    · exact absurd reached (never k (Nat.le_trans later after))
    · exact ⟨k, after, enabled⟩
  exact never (m + 1) (Nat.le_succ_of_le later)
    (leads _ e _ (meanwhile m later) (never m later) (x.happens m e event) own)

/-- Events that can all happen, and then nothing for ever. -/
def ofEvents (sys : System σ ε) (s : σ) (begins : sys.start s) (events : List ε)
    (played : (sys.play (fun _ _ => true) events s).isSome) : Execution sys where
  state n := (sys.play (fun _ _ => true) (events.take n) s).getD s
  event n := events[n]?
  starts := begins
  happens n e event := by
    obtain ⟨inside, rfl⟩ := List.getElem?_eq_some_iff.mp event
    obtain ⟨last, played⟩ := Option.isSome_iff_exists.mp played
    rw [← List.take_append_drop (n + 1) events] at played
    obtain ⟨s', before, _⟩ := System.play_split played
    rw [List.take_add_one, List.getElem?_eq_getElem inside] at before ⊢
    obtain ⟨s'', before', after⟩ := System.play_split before
    rw [before, before', Option.getD_some, Option.getD_some]
    rw [Option.toList_some, System.play, if_pos rfl] at after
    obtain ⟨t, next, rest⟩ := Option.bind_eq_some_iff.mp after
    rw [next, ← Option.some.inj rest]
  rests n event := by
    have outside := List.getElem?_eq_none_iff.mp event
    rw [List.take_of_length_le outside, List.take_of_length_le (Nat.le_succ_of_le outside)]

theorem ofEvents_last {s last : σ} {begins : sys.start s} {events : List ε}
    (played : sys.play (fun _ _ => true) events s = some last) {n : Nat} (after : events.length ≤ n) :
    (ofEvents sys s begins events (Option.isSome_of_eq_some played)).state n = last := by
  simp only [ofEvents]
  rw [List.take_of_length_le after, played, Option.getD_some]

/-- Such an execution is fair to a party that can do nothing at its end. -/
theorem stronglyFair_ofEvents {s last : σ} {begins : sys.start s} {events : List ε} {mine : ε → Prop}
    (played : sys.play (fun _ _ => true) events s = some last) (still : ¬ Enabled sys mine last) :
    (ofEvents sys s begins events (Option.isSome_of_eq_some played)).StronglyFair mine := by
  intro n again
  obtain ⟨k, later, enabled⟩ := again (n + events.length) (Nat.le_add_right ..)
  exact absurd (ofEvents_last played (Nat.le_trans (Nat.le_add_left ..) later) ▸ enabled) still

theorem StronglyFair.fair {mine : ε → Prop} (fair : x.StronglyFair mine) : x.Fair mine :=
  fun n forever => fair n fun m later => ⟨m, Nat.le_refl m, forever m later⟩

theorem fair_ofEvents {s last : σ} {begins : sys.start s} {events : List ε} {mine : ε → Prop}
    (played : sys.play (fun _ _ => true) events s = some last) (still : ¬ Enabled sys mine last) :
    (ofEvents sys s begins events (Option.isSome_of_eq_some played)).Fair mine :=
  (stronglyFair_ofEvents played still).fair

/-! Executions in which the same events happen round after round. -/

section rounds

variable (sys) (round : List ε) (s : σ)

/-- The state before the event of each moment. -/
def roundState : Nat → σ
  | 0 => s
  | n + 1 => (round[n % round.length]?.bind (sys.step (roundState n))).getD (roundState n)

variable {sys round s} {I : σ → Prop}

/-- As far as the round can happen, it does. -/
theorem roundState_play {k i : Nat} {last : σ} (inside : i ≤ round.length)
    (played : sys.play (fun _ _ => true) round (roundState sys round s (k * round.length)) = some last) :
    sys.play (fun _ _ => true) (round.take i) (roundState sys round s (k * round.length)) =
      some (roundState sys round s (k * round.length + i)) := by
  induction i with
  | zero => rfl
  | succ i ih =>
    have before := ih (Nat.le_of_succ_le inside)
    have here : round[i]? = some round[i] := List.getElem?_eq_getElem inside
    have split : sys.play (fun _ _ => true) (round.take (i + 1) ++ round.drop (i + 1))
      (roundState sys round s (k * round.length)) =
        some last := by
      rw [List.take_append_drop]
      exact played
    obtain ⟨t, first, _⟩ := System.play_split split
    rw [List.take_add_one, here] at first ⊢
    obtain ⟨u, before', after⟩ := System.play_split first
    rw [before] at before'
    obtain rfl := Option.some.inj before'
    rw [first]
    rw [Option.toList_some, System.play, if_pos rfl] at after
    obtain ⟨v, next, rest⟩ := Option.bind_eq_some_iff.mp after
    obtain rfl : v = t := Option.some.inj rest
    rw [← Nat.add_assoc, roundState, Nat.mul_add_mod_of_lt inside, here, Option.bind_some,
      next, Option.getD_some]

theorem roundState_keeps (now : I s)
    (again : ∀ s, I s → ∃ s', sys.play (fun _ _ => true) round s = some s' ∧ I s') (k : Nat) :
    I (roundState sys round s (k * round.length)) := by
  induction k with
  | zero => rwa [Nat.zero_mul]
  | succ k ih =>
    obtain ⟨s', played, holds⟩ := again _ ih
    have last := roundState_play (Nat.le_refl _) played
    rw [List.take_length, played] at last
    rwa [Nat.succ_mul, ← Option.some.inj last]

/-- What grows in every round grows without bound. -/
theorem roundState_grows {f : σ → Nat} (now : I s)
    (again : ∀ s, I s → ∃ s', sys.play (fun _ _ => true) round s = some s' ∧ I s' ∧ f s < f s')
    (k : Nat) :
    k ≤ f (roundState sys round s (k * round.length)) := by
  have keeps : ∀ s, I s → ∃ s', sys.play (fun _ _ => true) round s = some s' ∧ I s' := fun s holds =>
    (again s holds).imp fun _ ⟨played, holds', _⟩ => ⟨played, holds'⟩
  induction k with
  | zero => exact Nat.zero_le _
  | succ k ih =>
    obtain ⟨s', played, _, grown⟩ := again _ (roundState_keeps now keeps k)
    have last := roundState_play (Nat.le_refl _) played
    rw [List.take_length, played] at last
    rw [Nat.succ_mul, ← Option.some.inj last]
    exact Nat.lt_of_le_of_lt ih grown

/-- Rounds that can go on for ever. -/
def ofRounds (begins : sys.start s) (some_ : round ≠ []) (now : I s)
    (again : ∀ s, I s → ∃ s', sys.play (fun _ _ => true) round s = some s' ∧ I s') : Execution sys where
  state := roundState sys round s
  event n := round[n % round.length]?
  starts := begins
  happens n e event := by
    have inside : n % round.length < round.length := Nat.mod_lt _ (List.length_pos_iff.mpr some_)
    have place : n / round.length * round.length + n % round.length = n := Nat.div_add_mod' ..
    obtain ⟨last, played, _⟩ := again _ (roundState_keeps now again (n / round.length))
    have before := roundState_play (Nat.le_of_lt inside) played
    have after := roundState_play inside played
    rw [List.take_add_one, event] at after
    obtain ⟨t, before', step⟩ := System.play_split after
    rw [before, place] at before'
    obtain rfl := Option.some.inj before'
    rw [Option.toList_some, System.play, if_pos rfl, Nat.add_succ, place] at step
    obtain ⟨v, next, rest⟩ := Option.bind_eq_some_iff.mp step
    rw [next]
    exact rest
  rests n event := by
    have inside : n % round.length < round.length := Nat.mod_lt _ (List.length_pos_iff.mpr some_)
    exact absurd (List.getElem?_eq_none_iff.mp event) (Nat.not_le_of_lt inside)

/-- A party that has its turn in every round is treated fairly. -/
theorem stronglyFair_ofRounds {begins : sys.start s} {some_ : round ≠ []} {now : I s}
    {again : ∀ s, I s → ∃ s', sys.play (fun _ _ => true) round s = some s' ∧ I s'} {mine : ε → Prop}
    {e : ε} (member : e ∈ round) (own : mine e) :
    (ofRounds begins some_ now again).StronglyFair mine := by
  intro n _
  obtain ⟨i, inside, here⟩ := List.mem_iff_getElem.mp member
  refine ⟨n * round.length + i, e, ?_, ?_, own⟩
  · exact Nat.le_add_right_of_le (Nat.le_mul_of_pos_right n (Nat.zero_lt_of_lt inside))
  · change round[(n * round.length + i) % round.length]? = some e
    rw [Nat.mul_add_mod_of_lt inside, List.getElem?_eq_getElem inside, here]

end rounds

end Execution

end Gotun.Lib
