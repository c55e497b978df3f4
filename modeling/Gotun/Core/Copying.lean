import Gotun.Core.Pipe

/-! One direction of a pipe between any source and any destination: which reads the copy loop
makes, what it hands on, what it counts and when it reports success. -/

namespace Gotun.Core
open Gotun.Lib

variable {σ τ : Type}

/-- One read, and the write of what it brought. A read without bytes is followed by no write. -/
structure Round (σ τ : Type) where
  read : ReadRes σ
  write : Option (WriteRes τ)

def round (D : Stream τ) (S : Stream σ) (dst : τ) (src : σ) : Round σ τ :=
  let r := S.read SocketBufSize src
  ⟨r, if r.data = [] then none else some (D.write r.data dst)⟩

namespace Round

def dst (r : Round σ τ) (before : τ) : τ := r.write.elim before WriteRes.next

/-- The count of the write, where a write of this buffer can have such a count. -/
def count (r : Round σ τ) : Int :=
  match r.write with
  | none => 0
  | some w => if 0 ≤ w.n ∧ w.n ≤ r.read.data.length then w.n else 0

/-- The write, if there was one, took its whole buffer without an error. -/
def Whole (r : Round σ τ) : Prop := ∀ w ∈ r.write, w.n = r.read.data.length ∧ w.err = none

def GoesOn (r : Round σ τ) : Prop := r.read.err = none ∧ r.Whole

theorem count_le (r : Round σ τ) : r.count ≤ r.read.data.length := by
  rw [count]
  cases r.write with
  | none => exact Int.natCast_nonneg _
  | some w =>
    dsimp only
    split_ifs with valid
    · exact valid.2
    · exact Int.natCast_nonneg _

end Round

/-- The first `n` rounds, whatever comes of them. -/
def rounds (D : Stream τ) (S : Stream σ) : Nat → τ → σ → List (Round σ τ)
  | 0, _, _ => []
  | n + 1, dst, src =>
      let r := round D S dst src
      r :: rounds D S n (r.dst dst) r.read.next

/-- The bytes that the rounds read. -/
def bytesRead (rs : List (Round σ τ)) : Bytes := rs.flatMap fun r => r.read.data

/-- The buffers that the rounds hand to `dst.Write`: a read without bytes brings none. -/
def handedOn (rs : List (Round σ τ)) : List Bytes := (rs.map fun r => r.read.data).filter (· ≠ [])

/-- What writing the buffers one after another makes of a destination. -/
def writeEach (D : Stream τ) (buffers : List Bytes) (dst : τ) : τ :=
  buffers.foldl (fun d b => (D.write b d).next) dst

/-- What a round adds to the result of the loop. -/
def CopyRes.after (c : CopyRes σ τ) (r : Round σ τ) : CopyRes σ τ :=
  { c with
    written := c.written + r.count, passed := c.passed ++ if r.read.data = [] then [] else [r.read.data]
    src := r.read.next, dst := r.dst c.dst }

theorem after_passed (c : CopyRes σ τ) (r : Round σ τ) :
    (c.after r).passed.flatten = c.passed.flatten ++ r.read.data := by
  rw [CopyRes.after, List.flatten_append]
  split_ifs with empty
  · rw [empty, List.flatten_nil]
  · rw [List.flatten_singleton]

theorem writeResult_fst (nr : Nat) (nw : Int) (ew : Option Err) :
    (writeResult nr nw ew).1 = if 0 ≤ nw ∧ nw ≤ nr then nw else 0 := by
  rw [writeResult]
  split_ifs <;> first | rfl | omega

/-- A write result lets the loop go on where it is the whole buffer without an error. -/
theorem writeResult_fine (nr : Nat) (nw : Int) (ew : Option Err) :
    (writeResult nr nw ew).2 = none ∧ (nr : Int) = (writeResult nr nw ew).1 ↔ nw = nr ∧ ew = none := by
  rw [writeResult]
  split_ifs with invalid
  · constructor
    · rintro ⟨fine, _⟩
      exact absurd fine (by simp)
    · rintro ⟨whole, _⟩
      omega
  · constructor
    · rintro ⟨fine, whole⟩
      exact ⟨whole.symm, fine⟩
    · rintro ⟨whole, fine⟩
      exact ⟨fine, whole.symm⟩

theorem readEnd_none (er : Err) : readEnd er = none ↔ er = .eof := by
  rw [readEnd]
  split_ifs with ended
  · simp [ended]
  · simp [ended]

/-- One turn of the loop. It goes on with the next turn after a read without an error whose bytes
were all written; any other turn is the last one. -/
theorem copyLoop_succ (D : Stream τ) (S : Stream σ) (fuel : Nat) (c : CopyRes σ τ) :
    let r := round D S c.dst c.src
    (r.GoesOn → copyLoop D S (fuel + 1) c = copyLoop D S fuel (c.after r)) ∧
      (¬ r.GoesOn → ∃ err, copyLoop D S (fuel + 1) c = { c.after r with err := err } ∧
        (err = none ↔ r.read.err = some .eof ∧ r.Whole)) := by
  rcases result : S.read SocketBufSize c.src with ⟨data, er, next⟩
  by_cases empty : data = []
  · have turn : round D S c.dst c.src = ⟨⟨data, er, next⟩, none⟩ := by
      rw [round, result]
      simp only [empty, if_true]
    have whole : (Round.mk ⟨data, er, next⟩ none : Round σ τ).Whole := by
      intro w found
      exact absurd found (by simp)
    have added : c.after ⟨⟨data, er, next⟩, none⟩ = { c with src := next } := by
      simp [CopyRes.after, empty, Round.count, Round.dst]
    rw [turn]
    simp only [copyLoop, result, empty, List.length_nil, lt_irrefl, if_false]
    rw [← empty, added]
    cases er with
    | none => exact ⟨fun _ => rfl, fun stops => absurd ⟨rfl, whole⟩ stops⟩
    | some e =>
      refine ⟨fun goes => absurd goes.1 (by simp), fun _ => ⟨readEnd e, rfl, ?_⟩⟩
      rw [readEnd_none]
      constructor
      · rintro rfl
        exact ⟨rfl, whole⟩
      · rintro ⟨ended, _⟩
        exact Option.some.inj ended
  · rcases wrote : D.write data c.dst with ⟨n, ew, after⟩
    have turn : round D S c.dst c.src = ⟨⟨data, er, next⟩, some ⟨n, ew, after⟩⟩ := by
      rw [round, result]
      simp only [empty, if_false, wrote]
    have whole : (Round.mk ⟨data, er, next⟩ (some ⟨n, ew, after⟩)).Whole ↔
        n = data.length ∧ ew = none := by
      simp [Round.Whole]
    have added : c.after ⟨⟨data, er, next⟩, some ⟨n, ew, after⟩⟩ = { c with
        written := c.written + (writeResult data.length n ew).1, passed := c.passed ++ [data],
          src := next, dst := after } := by
      simp [CopyRes.after, empty, Round.count, Round.dst, writeResult_fst]
    rw [turn]
    dsimp only [Round.GoesOn]
    rw [whole, added]
    have fine := writeResult_fine data.length n ew
    simp only [copyLoop, result, if_pos (List.length_pos_iff.mpr empty), wrote]
    rcases valid : writeResult data.length n ew with ⟨nw, ew'⟩
    rw [valid] at fine
    dsimp only at fine ⊢
    cases ew' with
    | some e =>
      have bad : ¬ (n = data.length ∧ ew = none) := fun ok => absurd (fine.mpr ok).1 (by simp)
      exact ⟨fun goes => absurd goes.2 bad, fun _ => ⟨some e, rfl, by simp [bad]⟩⟩
    | none =>
      dsimp only
      by_cases short : (data.length : Int) = nw
      · have ok : n = data.length ∧ ew = none := fine.mp ⟨rfl, short⟩
        rw [if_neg (not_not.mpr short)]
        cases er with
        | none => exact ⟨fun _ => rfl, fun stops => absurd ⟨rfl, ok⟩ stops⟩
        | some e =>
          refine ⟨fun goes => absurd goes.1 (by simp), fun _ => ⟨readEnd e, rfl, ?_⟩⟩
          rw [readEnd_none]
          constructor
          · rintro rfl
            exact ⟨rfl, ok⟩
          · rintro ⟨ended, _⟩
            exact Option.some.inj ended
      · have bad : ¬ (n = data.length ∧ ew = none) := fun ok => short (fine.mpr ok).2
        rw [if_pos short]
        exact ⟨fun goes => absurd goes.2 bad,
          fun _ => ⟨some (.failed "short write"), rfl, by simp [bad]⟩⟩

/-- The loop makes rounds up to the first one that does not go on, and its result is what they add
up to. -/
theorem copyLoop_rounds (D : Stream τ) (S : Stream σ) (fuel : Nat) (c : CopyRes σ τ)
    (enough : S.rank c.src < fuel) :
    ∃ before last, rounds D S (before.length + 1) c.dst c.src = before ++ [last] ∧
      (∀ r ∈ before, r.GoesOn) ∧
      ¬ last.GoesOn ∧ ∃ err, copyLoop D S fuel c =
        { (before ++ [last]).foldl CopyRes.after c with err := err } ∧
        (err = none ↔ last.read.err = some .eof ∧ last.Whole) := by
  induction fuel generalizing c with
  | zero => exact absurd enough (Nat.not_lt_zero _)
  | succ fuel ih =>
    obtain ⟨goes, stops⟩ := copyLoop_succ D S fuel c
    by_cases on : (round D S c.dst c.src).GoesOn
    · have lower := S.read_rank_lt SocketBufSize c.src (by decide) (Or.inl on.1)
      obtain ⟨before, last, made, each, final, err, result, success⟩ :=
        ih (c.after (round D S c.dst c.src)) (Nat.lt_of_lt_of_le lower (Nat.le_of_lt_succ enough))
      refine ⟨round D S c.dst c.src :: before, last, ?_, List.forall_mem_cons.mpr ⟨on, each⟩,
        final, err, ?_, success⟩
      · rw [List.length_cons, rounds, List.cons_append, ← made]
        rfl
      · rw [goes on, result]
        rfl
    · obtain ⟨err, result, success⟩ := stops on
      exact ⟨[], _, rfl, by simp, on, err, result, success⟩

/-- A round hands on what it read, and leaves `dst` as the write of that leaves it. -/
theorem after_round (D : Stream τ) (S : Stream σ) (c : CopyRes σ τ) :
    let r := round D S c.dst c.src
    (c.after r).passed = c.passed ++ handedOn [r] ∧
      (c.after r).dst = writeEach D (handedOn [r]) c.dst := by
  rcases result : S.read SocketBufSize c.src with ⟨data, er, next⟩
  by_cases empty : data = []
  · simp [round, result, empty, CopyRes.after, handedOn, writeEach, Round.dst]
  · simp [round, result, empty, CopyRes.after, handedOn, writeEach, Round.dst]

theorem handedOn_cons (r : Round σ τ) (rs : List (Round σ τ)) :
    handedOn (r :: rs) = handedOn [r] ++ handedOn rs := by
  rw [handedOn, List.map_cons, ← List.singleton_append, List.filter_append]
  rfl

/-- After any rounds `dst` is what the buffers handed on so far make of it, written in this order. -/
theorem foldl_after_dst (D : Stream τ) (S : Stream σ) (n : Nat) (c : CopyRes σ τ) :
    let rs := rounds D S n c.dst c.src
    (rs.foldl CopyRes.after c).passed = c.passed ++ handedOn rs ∧
      (rs.foldl CopyRes.after c).dst = writeEach D (handedOn rs) c.dst := by
  induction n generalizing c with
  | zero => exact ⟨(List.append_nil _).symm, rfl⟩
  | succ n ih =>
    obtain ⟨one, left⟩ := after_round D S c
    obtain ⟨rest, final⟩ := ih (c.after (round D S c.dst c.src))
    dsimp only [rounds] at one left rest final ⊢
    rw [List.foldl_cons, handedOn_cons]
    constructor
    · rw [← List.append_assoc, ← one]
      exact rest
    · rw [writeEach, List.foldl_append, ← writeEach, ← writeEach, ← left]
      exact final

theorem foldl_after_passed (rs : List (Round σ τ)) (c : CopyRes σ τ) :
    (rs.foldl CopyRes.after c).passed.flatten = c.passed.flatten ++ bytesRead rs := by
  induction rs generalizing c with
  | nil => exact (List.append_nil _).symm
  | cons r rs ih =>
    rw [List.foldl_cons, ih, after_passed, List.append_assoc, bytesRead, bytesRead,
      List.flatMap_cons]

theorem foldl_after_written (rs : List (Round σ τ)) (c : CopyRes σ τ) :
    (rs.foldl CopyRes.after c).written = c.written + (rs.map Round.count).sum := by
  induction rs generalizing c with
  | nil => exact (add_zero _).symm
  | cons r rs ih =>
    rw [List.foldl_cons, ih, List.map_cons, List.sum_cons, ← add_assoc]
    rfl

theorem counts_le (rs : List (Round σ τ)) : (rs.map Round.count).sum ≤ (bytesRead rs).length := by
  induction rs with
  | nil => exact le_rfl
  | cons r rs ih =>
    have first := r.count_le
    rw [List.map_cons, List.sum_cons, bytesRead, List.flatMap_cons, List.length_append, Nat.cast_add]
    exact add_le_add first ih

/-- Copying is exact, whatever the reads of `src` and the writes of `dst` return: `before` and
`last` are the rounds up to the stop. The loop hands on all they read, piece by piece, and `dst` ends
as these writes leave it; it succeeds only at a proper end with every byte written, and counts no
more than it read. -/
theorem unidirectionalStream_exact (D : Stream τ) (S : Stream σ) (dst : τ) (src : σ) :
    ∃ before last, rounds D S (before.length + 1) dst src = before ++ [last] ∧
      (∀ r ∈ before, r.GoesOn) ∧ ¬ last.GoesOn ∧
      (unidirectionalStream D S dst src).src = last.read.next ∧
      (unidirectionalStream D S dst src).passed = handedOn (before ++ [last]) ∧
      (unidirectionalStream D S dst src).passed.flatten = bytesRead (before ++ [last]) ∧
      (unidirectionalStream D S dst src).dst = writeEach D (handedOn (before ++ [last])) dst ∧
      ((unidirectionalStream D S dst src).err = none ↔
        last.read.err = some .eof ∧ ∀ r ∈ before ++ [last], r.Whole) ∧
      (unidirectionalStream D S dst src).written = ((before ++ [last]).map Round.count).sum ∧
      (unidirectionalStream D S dst src).written ≤ (bytesRead (before ++ [last])).length := by
  obtain ⟨before, last, made, each, final, err, result, success⟩ :=
    copyLoop_rounds D S (S.rank src + 1) ⟨0, none, [], src, dst⟩ (Nat.lt_succ_self _)
  have written : (unidirectionalStream D S dst src).written =
      ((before ++ [last]).map Round.count).sum := by
    rw [unidirectionalStream, result]
    exact (foldl_after_written _ _).trans (zero_add _)
  have wrote := foldl_after_dst D S (before.length + 1) ⟨0, none, [], src, dst⟩
  rw [made] at wrote
  refine ⟨before, last, made, each, final, ?_, ?_, ?_, ?_, ?_, written, written.trans_le (counts_le _)⟩
  · rw [unidirectionalStream, result, List.foldl_append]
    rfl
  · rw [unidirectionalStream, result]
    exact wrote.1
  · rw [unidirectionalStream, result]
    exact foldl_after_passed _ _
  · rw [unidirectionalStream, result]
    exact wrote.2
  · rw [unidirectionalStream, result]
    refine success.trans (and_congr_right fun _ => ?_)
    constructor
    · intro whole r found
      rcases List.mem_append.mp found with earlier | later
      · exact (each r earlier).2
      · rw [List.mem_singleton.mp later]
        exact whole
    · intro whole
      exact whole last (List.mem_append_right _ (List.mem_singleton_self _))

end Gotun.Core
