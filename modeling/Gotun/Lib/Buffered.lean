import Gotun.Lib.Codec
import Mathlib.Tactic.Ring

/-! Streams that fetch one block at a time from the stream below and keep what a caller's
buffer could not take. If the fetch computes a pure decoder of the bytes below, the
buffered stream delivers the concatenation of the decoded blocks, whatever sizes it is
read with. -/

namespace Gotun.Lib

variable {σ : Type}

structure Buffered (σ : Type) where
  base : σ
  rest : Bytes
  deriving DecidableEq, Repr

namespace Buffered

def read (fetch : Action σ Bytes) (n : Nat) (b : Buffered σ) : ReadRes (Buffered σ) :=
  if b.rest ≠ [] then ⟨b.rest.take n, none, { b with rest := b.rest.drop n }⟩
  else
    match fetch b.base with
    | (.error e, base) => ⟨[], some e, { b with base }⟩
    | (.ok data, base) => ⟨data.take n, none, { b with base, rest := data.drop n }⟩

def write (write : Bytes → σ → WriteRes σ) (bytes : Bytes) (b : Buffered σ) : WriteRes (Buffered σ) :=
  let w := write bytes b.base
  ⟨w.n, w.err, { b with base := w.next }⟩

/-- What makes buffering a stream again: each block costs rank below and has a bounded size. -/
structure Source (σ : Type) where
  fetch : Action σ Bytes
  write : Bytes → σ → WriteRes σ
  rank : σ → Nat
  limit : Nat
  fetch_rank_le : ∀ s, rank (fetch s).2 ≤ rank s
  fetch_ok : ∀ s t data, fetch s = (.ok data, t) → rank t < rank s ∧ data.length ≤ limit
  write_rank : ∀ bytes s, rank (write bytes s).next ≤ rank s

theorem read_rest (fetch : Action σ Bytes) (n : Nat) (b : Buffered σ) (some_rest : b.rest ≠ []) :
    read fetch n b = ⟨b.rest.take n, none, { b with rest := b.rest.drop n }⟩ := by
  rw [read, if_pos some_rest]

theorem read_ok {fetch : Action σ Bytes} {b : Buffered σ} {data : Bytes} {t : σ} (n : Nat)
    (empty : b.rest = []) (ok : fetch b.base = (.ok data, t)) :
    read fetch n b = ⟨data.take n, none, ⟨t, data.drop n⟩⟩ := by
  rw [read, if_neg (not_not.mpr empty), ok]

theorem read_error {fetch : Action σ Bytes} {b : Buffered σ} {e : Err} {t : σ} (n : Nat)
    (empty : b.rest = []) (failed : fetch b.base = (.error e, t)) :
    read fetch n b = ⟨[], some e, ⟨t, []⟩⟩ := by
  rw [read, if_neg (not_not.mpr empty), failed, empty]

private theorem weigh_lt {rank rank' limit kept : Nat} (lower : rank' < rank) (small : kept ≤ limit) :
    rank' * (limit + 1) + kept < rank * (limit + 1) := by
  calc
    _ < rank' * (limit + 1) + (limit + 1) := by omega
    _ = (rank' + 1) * (limit + 1) := by ring
    _ ≤ rank * (limit + 1) := Nat.mul_le_mul_right _ lower

/-- The rank of a buffered stream: blocks first, then buffered bytes. -/
def rank (source : Source σ) (b : Buffered σ) : Nat :=
  source.rank b.base * (source.limit + 1) + b.rest.length

theorem read_rank (source : Source σ) (n : Nat) (b : Buffered σ) :
    rank source (read source.fetch n b).next ≤ rank source b ∧
      (0 < n → ((read source.fetch n b).err = none ∨ (read source.fetch n b).data ≠ []) →
        rank source (read source.fetch n b).next < rank source b) := by
  by_cases empty : b.rest = []
  · rcases result : source.fetch b.base with ⟨e | data, t⟩
    · have bound := source.fetch_rank_le b.base
      rw [result] at bound
      simp only [read_error n empty result, rank, List.length_nil]
      exact ⟨Nat.add_le_add (Nat.mul_le_mul_right _ bound) (Nat.zero_le _), by simp⟩
    · obtain ⟨lower, small⟩ := source.fetch_ok _ _ _ result
      have kept : (data.drop n).length ≤ source.limit := (List.length_drop ▸ Nat.sub_le _ _).trans small
      have weight := weigh_lt lower kept
      simp only [read_ok n empty result, rank, empty, List.length_nil]
      exact ⟨weight.le, fun _ _ => weight⟩
  · have some_rest := List.length_pos_iff.mpr empty
    simp only [read_rest _ n b empty, rank, List.length_drop]
    omega

theorem read_length (fetch : Action σ Bytes) (n : Nat) (b : Buffered σ) :
    (read fetch n b).data.length ≤ n := by
  unfold read
  split_ifs
  · exact List.length_take_le n _
  · split
    · exact Nat.zero_le n
    · exact List.length_take_le n _

def stream (source : Source σ) : Stream (Buffered σ) where
  read := read source.fetch
  write := write source.write
  rank := rank source
  read_length := read_length source.fetch
  read_rank_le n b := (read_rank source n b).1
  read_rank_lt n b := (read_rank source n b).2
  write_rank bytes b := Nat.add_le_add (Nat.mul_le_mul_right _ (source.write_rank bytes b.base)) le_rfl

end Buffered

namespace Buffered

variable {Holds : σ → Bytes → Prop}

/-- The fetch computes the decoder on the bytes that the state still holds. -/
structure Fetches (source : Source σ) (D : Decoder Bytes) (Holds : σ → Bytes → Prop) : Prop where
  some_block : ∀ {s w block rest}, Holds s w → D.decode w = some (block, rest) →
    ∃ t, source.fetch s = (.ok block, t) ∧ Holds t rest
  no_block : ∀ {s w}, Holds s w → D.decode w = none → ∃ e t, source.fetch s = (.error e, t)
  write : ∀ {s w} (bytes : Bytes), Holds s w → Holds (source.write bytes s).next w

/-- What a buffered state still holds: the rest of a block and the blocks below. -/
def HoldsBlocks (D : Decoder Bytes) (Holds : σ → Bytes → Prop) (b : Buffered σ) (v : Bytes) : Prop :=
  ∃ w, Holds b.base w ∧ v = b.rest ++ D.plain w

theorem Fetches.delivers {source : Source σ} {D : Decoder Bytes} (fetches : Fetches source D Holds) :
    Delivers (stream source) (HoldsBlocks D Holds) where
  read {b v} n wanted held := by
    obtain ⟨w, below, rfl⟩ := held
    show ∃ rest, _ = (read source.fetch n b).data ++ rest ∧ _
    by_cases empty : b.rest = []
    · rcases found : D.decode w with _ | ⟨block, rest⟩
      · obtain ⟨e, t, failed⟩ := fetches.no_block below found
        refine ⟨[], ?_⟩
        simp [stream, read_error n empty failed, empty, D.plain_none found]
      · obtain ⟨t, ok, left⟩ := fetches.some_block below found
        refine ⟨block.drop n ++ D.plain rest, ?_⟩
        simp only [stream, read_ok n empty ok, empty, D.plain_some found, List.nil_append]
        refine ⟨?_, fun _ => ⟨rest, left, rfl⟩, by simp⟩
        rw [← List.append_assoc, List.take_append_drop]
    · refine ⟨b.rest.drop n ++ D.plain w, ?_⟩
      simp only [stream, read_rest _ n b empty]
      refine ⟨?_, fun _ => ⟨w, below, rfl⟩, by simp⟩
      rw [← List.append_assoc, List.take_append_drop]
  write {b v} bytes held := by
    obtain ⟨w, below, rfl⟩ := held
    exact ⟨w, fetches.write bytes below, rfl⟩

/-- When a failed fetch leaves a state in `End`, so does a failed read. -/
theorem Fetches.ends {source : Source σ} {D : Decoder Bytes} {End : σ → Prop}
    (fetches : Fetches source D Holds)
    (ended : ∀ {s w e t}, Holds s w → D.decode w = none → source.fetch s = (.error e, t) → End t) :
    Ends (stream source) (HoldsBlocks D Holds) (fun b => b.rest = [] ∧ End b.base) where
  toDelivers := fetches.delivers
  ended {b v} n wanted held failed := by
    obtain ⟨w, below, rfl⟩ := held
    by_cases empty : b.rest = []
    · rcases found : D.decode w with _ | ⟨block, rest⟩
      · obtain ⟨e, t, stuck⟩ := fetches.no_block below found
        simp only [stream, read_error n empty stuck]
        exact ⟨trivial, ended below found stuck⟩
      · obtain ⟨t, ok, left⟩ := fetches.some_block below found
        simp [stream, read_ok n empty ok] at failed
    · simp [stream, read_rest _ n b empty] at failed

/-- When a failed fetch leaves nothing below, the buffered stream drains too. -/
theorem Fetches.drains {source : Source σ} {D : Decoder Bytes} (fetches : Fetches source D Holds)
    (exhausted : ∀ {s w e t}, Holds s w → D.decode w = none →
      source.fetch s = (.error e, t) → Holds t []) :
    Drains (stream source) (HoldsBlocks D Holds) where
  toDelivers := fetches.delivers
  ended n wanted held failed := by
    have ended := (fetches.ends exhausted).ended n wanted held failed
    exact ⟨[], ended.2, by simp [ended.1]⟩

/-- What is held, of `start` bytes in all. The bytes fetched so far decode to those read and those
kept, whatever comes after them. -/
def HoldsSince (D : Decoder Bytes) (Holds : σ → Bytes → Prop) (start : Bytes) (b : Buffered σ)
    (v : Bytes) : Prop :=
  ∃ taken w, start = taken ++ w ∧ Holds b.base w ∧ v = b.rest ++ D.plain w ∧
    ∃ done, ∀ more, D.plain (taken ++ more) = done ++ (b.rest ++ D.plain more)

theorem Fetches.since {source : Source σ} {D : Decoder Bytes} (fetches : Fetches source D Holds)
    (local_ : D.Local) (start : Bytes) : Delivers (stream source) (HoldsSince D Holds start) where
  read {b v} n wanted held := by
    obtain ⟨taken, w, whole, below, rfl, done, decodes⟩ := held
    by_cases empty : b.rest = []
    · rcases found : D.decode w with _ | ⟨block, rest⟩
      · obtain ⟨e, t, failed⟩ := fetches.no_block below found
        refine ⟨[], ?_⟩
        simp [stream, read_error n empty failed, empty, D.plain_none found]
      · obtain ⟨t, ok, left⟩ := fetches.some_block below found
        obtain ⟨own, rfl, alone⟩ := local_ found
        refine ⟨block.drop n ++ D.plain rest, ?_⟩
        simp only [stream, read_ok n empty ok, empty, D.plain_some found, List.nil_append]
        refine ⟨?_, fun _ =>
          ⟨taken ++ own, rest, ?_, left, rfl, done ++ block.take n, fun more => ?_⟩, by simp⟩
        · rw [← List.append_assoc, List.take_append_drop]
        · rw [whole, List.append_assoc]
        · rw [List.append_assoc, decodes, empty, List.nil_append, D.plain_some (alone more),
            List.append_assoc, ← List.append_assoc (block.take n), List.take_append_drop]
    · refine ⟨b.rest.drop n ++ D.plain w, ?_⟩
      simp only [stream, read_rest _ n b empty]
      refine ⟨?_, fun _ => ⟨taken, w, whole, below, rfl, done ++ b.rest.take n, fun more => ?_⟩, by simp⟩
      · rw [← List.append_assoc, List.take_append_drop]
      · rw [decodes, List.append_assoc, ← List.append_assoc (b.rest.take n), List.take_append_drop]
  write {b v} bytes held := by
    obtain ⟨taken, w, whole, below, rfl, decodes⟩ := held
    exact ⟨taken, w, whole, fetches.write bytes below, rfl, decodes⟩

/-- A block that is read first. Until all of it has been read, nothing behind it has been fetched. -/
inductive HoldsFirst (D : Decoder Bytes) (Holds : σ → Bytes → Prop) (block tail : Bytes)
    (b : Buffered σ) : Bytes → Prop
  | unread {w : Bytes} (empty : b.rest = []) (below : Holds b.base w)
      (found : D.decode w = some (block, tail)) :
      HoldsFirst D Holds block tail b (block ++ D.plain tail)
  | reading (k : Nat) (kept : b.rest = block.drop k) (below : Holds b.base tail) :
      HoldsFirst D Holds block tail b (block.drop k ++ D.plain tail)
  | later {v : Bytes} (held : HoldsBlocks D Holds b v) (shorter : v.length < (D.plain tail).length) :
      HoldsFirst D Holds block tail b v

theorem HoldsFirst.read {source : Source σ} {D : Decoder Bytes} {block tail v : Bytes}
    {b : Buffered σ} (fetches : Fetches source D Holds) (nonempty : ∀ m ∈ D.blocks tail, m ≠ [])
    (n : Nat) (wanted : 0 < n) (held : HoldsFirst D Holds block tail b v) :
    ∃ rest, v = ((stream source).read n b).data ++ rest ∧
      (((stream source).read n b).err = none ∨ ((stream source).read n b).data ≠ [] →
        HoldsFirst D Holds block tail ((stream source).read n b).next rest) ∧
      (((stream source).read n b).err ≠ none → rest = []) := by
  cases held with
  | unread empty below found =>
    obtain ⟨t, ok, left⟩ := fetches.some_block below found
    refine ⟨block.drop n ++ D.plain tail, ?_⟩
    simp only [stream, read_ok n empty ok]
    refine ⟨?_, fun _ => .reading n rfl left, by simp⟩
    rw [← List.append_assoc, List.take_append_drop]
  | reading k kept below =>
    by_cases empty : b.rest = []
    · have blocks : HoldsBlocks D Holds b (D.plain tail) := ⟨tail, below, by rw [empty, List.nil_append]⟩
      obtain ⟨rest, split, live, last⟩ := fetches.delivers.read n wanted blocks
      refine ⟨rest, by rw [← kept, empty, List.nil_append, split], fun more => ?_, last⟩
      have held := live more
      refine .later held ?_
      rw [split, List.length_append]
      rcases found : D.decode tail with _ | ⟨next, left⟩
      · obtain ⟨e, t, failed⟩ := fetches.no_block below found
        simp [stream, read_error n empty failed] at more
      · obtain ⟨t, ok, _⟩ := fetches.some_block below found
        have some_bytes : next ≠ [] :=
          nonempty next (by rw [D.blocks_some found]; exact List.mem_cons_self)
        have data : ((stream source).read n b).data = next.take n := by
          simp only [stream, read_ok n empty ok]
        rw [data, List.length_take]
        have := List.length_pos_iff.mpr some_bytes
        omega
    · refine ⟨block.drop (k + n) ++ D.plain tail, ?_⟩
      simp only [stream, read_rest _ n b empty]
      refine ⟨?_, fun _ => .reading (k + n) (by rw [kept, List.drop_drop]) below, by simp⟩
      rw [kept, ← List.drop_drop, ← List.append_assoc, List.take_append_drop]
  | later held shorter =>
    obtain ⟨rest, split, live, last⟩ := fetches.delivers.read n wanted held
    refine ⟨rest, split, fun more => .later (live more) (lt_of_le_of_lt ?_ shorter), last⟩
    rw [split, List.length_append]
    omega

theorem Fetches.first {source : Source σ} {D : Decoder Bytes} {block tail : Bytes}
    (fetches : Fetches source D Holds) (nonempty : ∀ m ∈ D.blocks tail, m ≠ []) :
    Delivers (stream source) (HoldsFirst D Holds block tail) where
  read n wanted held := held.read fetches nonempty n wanted
  write bytes held := by
    cases held with
    | unread empty below found => exact .unread empty (fetches.write bytes below) found
    | reading k kept below => exact .reading k kept (fetches.write bytes below)
    | later held shorter => exact .later (fetches.delivers.write bytes held) shorter

/-- When exactly the first block has been read, the rest is still below. -/
theorem HoldsFirst.done {D : Decoder Bytes} {block tail : Bytes} {b : Buffered σ}
    (some_bytes : block ≠ []) (held : HoldsFirst D Holds block tail b (D.plain tail)) :
    b.rest = [] ∧ Holds b.base tail := by
  generalize same : D.plain tail = v at held
  cases held with
  | unread empty below found => exact absurd (List.self_eq_append_left.mp same) some_bytes
  | reading k kept below => exact ⟨kept.trans (List.self_eq_append_left.mp same), below⟩
  | later held shorter => exact absurd shorter (by rw [same]; omega)

end Buffered

end Gotun.Lib
