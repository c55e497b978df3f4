import Gotun.Lib.Buffered

/-! Streams whose reads stay within one message, and streams that take each write as one. A buffer
that is smaller than a message cuts it into pieces. -/

namespace Gotun.Lib

variable {σ : Type}

/-- What reads of `n` bytes make of a message. -/
def pieces (n : Nat) (m : Bytes) : List Bytes :=
  if n = 0 ∨ m.length ≤ n then [m] else m.take n :: pieces n (m.drop n)
termination_by m.length
decreasing_by
  rw [List.length_drop]
  omega

theorem pieces_whole {n : Nat} {m : Bytes} (small : m.length ≤ n) : pieces n m = [m] := by
  rw [pieces, if_pos (Or.inr small)]

theorem pieces_cut {n : Nat} {m : Bytes} (some_room : 0 < n) (large : n < m.length) :
    pieces n m = m.take n :: pieces n (m.drop n) := by
  rw [pieces, if_neg (by omega)]

theorem mem_pieces {n : Nat} {m p : Bytes} (some_room : 0 < n) (some_bytes : m ≠ [])
    (member : p ∈ pieces n m) :
    p ≠ [] ∧ p.length ≤ n := by
  induction m using pieces.induct n with
  | case1 m small =>
    have fits : m.length ≤ n := small.resolve_left (by omega)
    rw [pieces_whole fits, List.mem_singleton] at member
    rw [member]
    exact ⟨some_bytes, fits⟩
  | case2 m large ih =>
    have long : n < m.length := Nat.lt_of_not_le fun fits => large (Or.inr fits)
    rw [pieces_cut some_room long] at member
    rcases List.mem_cons.mp member with rfl | later
    · refine ⟨fun empty => ?_, List.length_take_le n m⟩
      have length := congrArg List.length empty
      rw [List.length_take, List.length_nil] at length
      omega
    · refine ih (fun empty => ?_) later
      have length := congrArg List.length empty
      rw [List.length_drop, List.length_nil] at length
      omega

theorem pieces_length {n : Nat} {m p : Bytes} (some_room : 0 < n)
    (member : p ∈ pieces n m) : p.length ≤ n := by
  by_cases empty : m = []
  · rw [empty, pieces_whole (Nat.zero_le n), List.mem_singleton] at member
    rw [member]
    exact Nat.zero_le n
  · exact (mem_pieces some_room empty member).2

/-- Messages stay as they are if and only if the buffer takes each of them. -/
theorem flatMap_pieces_eq_iff {n : Nat} (some_room : 0 < n) (ms : List Bytes) :
    ms.flatMap (pieces n) = ms ↔ ∀ m ∈ ms, m.length ≤ n := by
  constructor
  · intro same m member
    rw [← same] at member
    obtain ⟨whole, _, piece⟩ := List.mem_flatMap.mp member
    exact pieces_length some_room piece
  · intro small
    induction ms with
    | nil => rfl
    | cons m ms ih =>
      rw [List.flatMap_cons, pieces_whole (small m List.mem_cons_self),
        ih fun m' later => small m' (List.mem_cons_of_mem m later)]
      rfl

theorem pieces_flatten (n : Nat) (m : Bytes) : (pieces n m).flatten = m := by
  induction m using pieces.induct n with
  | case1 m whole => rw [pieces, if_pos whole, List.flatten_singleton]
  | case2 m large ih => rw [pieces, if_neg large, List.flatten_cons, ih, List.take_append_drop]

theorem flatMap_pieces_flatten (n : Nat) (ms : List Bytes) :
    (ms.flatMap (pieces n)).flatten = ms.flatten := by
  induction ms with
  | nil => rfl
  | cons m ms ih => rw [List.flatMap_cons, List.flatten_append, ih, pieces_flatten, List.flatten_cons]

/-- Where no byte is missing, no message is. -/
theorem eq_of_flatten {got ms : List Bytes} (begins : got <+: ms) (nonempty : ∀ m ∈ ms, m ≠ [])
    (same : got.flatten = ms.flatten) : got = ms := by
  obtain ⟨rest, rfl⟩ := begins
  rw [List.flatten_append, List.self_eq_append_right, List.flatten_eq_nil_iff] at same
  cases rest with
  | nil => rw [List.append_nil]
  | cons m rest =>
    exact absurd (same m List.mem_cons_self) (nonempty m (List.mem_append_right got List.mem_cons_self))

section kept

variable {α : Type} {sent got : α → List Bytes} {n : Nat} {l : List α}

theorem flatMap_flatten_length (begins : ∀ a ∈ l, got a <+: (sent a).flatMap (pieces n)) :
    (l.flatMap got).flatten.length ≤ (l.flatMap sent).flatten.length := by
  induction l with
  | nil => exact Nat.le_refl _
  | cons a l ih =>
    obtain ⟨first, later⟩ := List.forall_mem_cons.mp begins
    have short := first.flatten.length_le
    rw [flatMap_pieces_flatten] at short
    simp only [List.flatMap_cons, List.flatten_append, List.length_append]
    exact Nat.add_le_add short (ih later)

theorem bytes_kept (begins : ∀ a ∈ l, got a <+: (sent a).flatMap (pieces n))
    (same : (l.flatMap got).flatten = (l.flatMap sent).flatten) :
    ∀ a ∈ l, (got a).flatten = (sent a).flatten := by
  induction l with
  | nil => exact List.forall_mem_nil _
  | cons a l ih =>
    obtain ⟨first, later⟩ := List.forall_mem_cons.mp begins
    have short := first.flatten.length_le
    rw [flatMap_pieces_flatten] at short
    have rest := flatMap_flatten_length later
    simp only [List.flatMap_cons, List.flatten_append] at same
    have lengths := congrArg List.length same
    simp only [List.length_append] at lengths
    obtain ⟨here, there⟩ := List.append_inj same (by omega)
    exact List.forall_mem_cons.mpr ⟨here, ih later there⟩

/-- Where each part arrives in pieces and perhaps without its end, all messages arrive as they were
if and only if nothing is missing and the buffer takes each of them. -/
theorem flatMap_kept_iff (some_room : 0 < n) (nonempty : ∀ a ∈ l, ∀ m ∈ sent a, m ≠ [])
    (begins : ∀ a ∈ l, got a <+: (sent a).flatMap (pieces n)) :
    l.flatMap got = l.flatMap sent ↔ ∀ a ∈ l, got a = (sent a).flatMap (pieces n) ∧
      ∀ m ∈ sent a, m.length ≤ n := by
  constructor
  · intro same
    have all (a : α) (member : a ∈ l) : got a = (sent a).flatMap (pieces n) := by
      refine eq_of_flatten (begins a member) (fun b piece => ?_) ?_
      · obtain ⟨m, there, piece⟩ := List.mem_flatMap.mp piece
        exact (mem_pieces some_room (nonempty a member m there) piece).1
      · rw [flatMap_pieces_flatten]
        exact bytes_kept begins (congrArg List.flatten same) a member
    rw [List.flatMap_congr all, ← List.flatMap_assoc, flatMap_pieces_eq_iff some_room] at same
    exact fun a member => ⟨all a member, fun m there => same m (List.mem_flatMap.mpr ⟨a, member, there⟩)⟩
  · intro kept
    refine List.flatMap_congr fun a member => ?_
    obtain ⟨whole, small⟩ := kept a member
    rw [whole, (flatMap_pieces_eq_iff some_room (sent a)).mpr small]

end kept

/-- `Holds s ms`: the reads from `s` on hand out the messages `ms`, none of which is empty, and then
fail. -/
structure Messages (S : Stream σ) (Holds : σ → List Bytes → Prop) : Prop where
  nonempty : ∀ {s ms}, Holds s ms → ∀ m ∈ ms, m ≠ []
  read : ∀ {s m ms} (n : Nat), 0 < n → Holds s (m :: ms) → (S.read n s).data = m.take n ∧
    (S.read n s).err = none ∧
    Holds (S.read n s).next (if m.length ≤ n then ms else m.drop n :: ms)
  done : ∀ {s} (n : Nat), 0 < n → Holds s [] → (S.read n s).data = [] ∧ (S.read n s).err ≠ none
  write : ∀ {s ms} (bytes : Bytes), Holds s ms → Holds (S.write bytes s).next ms

/-- `Logged s log`: the writes of `log` went out one by one; every write that is not too large does. -/
structure Takes (limit : Nat) (S : Stream σ) (Logged : σ → List Bytes → Prop) : Prop where
  write : ∀ {s log} (bytes : Bytes), Logged s log → bytes ≠ [] → bytes.length ≤ limit →
    (S.write bytes s).n = bytes.length ∧ (S.write bytes s).err = none ∧
      Logged (S.write bytes s).next (log ++ [bytes])

/-- The bytes of messages are delivered in order. -/
theorem Messages.delivers {S : Stream σ} {Holds : σ → List Bytes → Prop} (messages : Messages S Holds) :
    Delivers S (fun s w => ∃ ms, Holds s ms ∧ w = ms.flatten) where
  read {s w} n wanted held := by
    obtain ⟨ms, held, rfl⟩ := held
    cases ms with
    | nil =>
      obtain ⟨empty, failed⟩ := messages.done n wanted held
      refine ⟨[], by rw [empty]; rfl, fun more => ?_, fun _ => rfl⟩
      exact absurd more (not_or.mpr ⟨failed, not_not.mpr empty⟩)
    | cons m ms =>
      obtain ⟨data, fine, next⟩ := messages.read n wanted held
      refine ⟨m.drop n ++ ms.flatten, ?_, fun _ => ⟨_, next, ?_⟩, fun failed => absurd fine failed⟩
      · rw [data, List.flatten_cons, ← List.append_assoc, List.take_append_drop]
      · split_ifs with small
        · rw [List.drop_eq_nil_of_le small, List.nil_append]
        · rw [List.flatten_cons]
  write {s w} bytes held := by
    obtain ⟨ms, held, same⟩ := held
    exact ⟨ms, messages.write bytes held, same⟩

section sum

variable {τ : Type} {S : Stream σ} {T : Stream τ} {Holds : σ → List Bytes → Prop}
  {HoldsT : τ → List Bytes → Prop}

/-- The kind of stream that is not in use. -/
theorem Messages.unused (S : Stream σ) : Messages S (fun _ _ => False) :=
  ⟨fun held => held.elim, fun _ _ held => held.elim, fun _ _ held => held.elim, fun _ held => held⟩

theorem Messages.sum (first : Messages S Holds) (second : Messages T HoldsT) :
    Messages (S.sum T) (Sum.elim Holds HoldsT) where
  nonempty {s ms} held := by
    cases s with
    | inl s => exact first.nonempty held
    | inr t => exact second.nonempty held
  read {s m ms} n wanted held := by
    cases s with
    | inl s => exact first.read n wanted held
    | inr t => exact second.read n wanted held
  done {s} n wanted held := by
    cases s with
    | inl s => exact first.done n wanted held
    | inr t => exact second.done n wanted held
  write {s ms} bytes held := by
    cases s with
    | inl s => exact first.write bytes held
    | inr t => exact second.write bytes held

theorem Takes.unused (limit : Nat) (S : Stream σ) : Takes limit S (fun _ _ => False) :=
  ⟨fun _ logged => logged.elim⟩

theorem Takes.sum {limit : Nat} (first : Takes limit S Holds) (second : Takes limit T HoldsT) :
    Takes limit (S.sum T) (Sum.elim Holds HoldsT) where
  write {s log} bytes logged some_bytes small := by
    cases s with
    | inl s => exact first.write bytes logged some_bytes small
    | inr t => exact second.write bytes logged some_bytes small

end sum

theorem Takes.mono {S : Stream σ} {Logged : σ → List Bytes → Prop} {limit limit' : Nat}
    (takes : Takes limit' S Logged) (less : limit ≤ limit') : Takes limit S Logged :=
  ⟨fun bytes logged some_bytes small => takes.write bytes logged some_bytes (small.trans less)⟩

theorem Takes.put {S : Stream σ} {Logged : σ → List Bytes → Prop} {limit : Nat}
    (takes : Takes limit S Logged) {s : σ} {log : List Bytes} {bytes : Bytes}
    (logged : Logged s log) (some_bytes : bytes ≠ []) (small : bytes.length ≤ limit) :
    Lib.put S bytes s = (.ok (), (S.write bytes s).next) ∧
      Logged (S.write bytes s).next (log ++ [bytes]) := by
  obtain ⟨_, accepted, next⟩ := takes.write bytes logged some_bytes small
  exact ⟨put_ok accepted, next⟩

/-- A stream that sends what fits as a whole takes it. -/
theorem Sends.takes {S : Stream σ} {Logged : σ → List Bytes → Prop} {Fits : Bytes → Prop}
    {limit : Nat} (sends : Sends S Fits Logged)
    (fits : ∀ b : Bytes, b ≠ [] → b.length ≤ limit → Fits b) : Takes limit S Logged :=
  ⟨fun bytes logged some_bytes small => sends.write bytes logged (fits bytes some_bytes small)⟩

/-- After a read the rest of a message comes first, if there is one. -/
theorem after_piece {m : Bytes} {queue : List Bytes} (n : Nat) (later : ∀ m' ∈ queue, m' ≠ []) :
    (if m.length ≤ n then queue else m.drop n :: queue) =
      (if m.drop n = [] then queue else m.drop n :: queue) ∧
      ∀ m' ∈ (if m.length ≤ n then queue else m.drop n :: queue), m' ≠ [] := by
  by_cases small : m.length ≤ n
  · rw [if_pos small, if_pos (List.drop_eq_nil_of_le small)]
    exact ⟨rfl, later⟩
  · have some_rest : m.drop n ≠ [] := fun empty => small (List.drop_eq_nil_iff.mp empty)
    rw [if_neg small, if_neg some_rest]
    exact ⟨rfl, List.forall_mem_cons.mpr ⟨some_rest, later⟩⟩

namespace Buffered

/-- What a buffered state still holds, block by block. -/
structure HoldsEach (D : Decoder Bytes) (Holds : σ → Bytes → Prop) (b : Buffered σ)
    (ms : List Bytes) : Prop where
  below : ∃ w, Holds b.base w ∧ ms = if b.rest = [] then D.blocks w else b.rest :: D.blocks w
  nonempty : ∀ m ∈ ms, m ≠ []

theorem HoldsEach.after {D : Decoder Bytes} {Holds : σ → Bytes → Prop} {base : σ} {w m : Bytes} (n : Nat)
    (below : Holds base w) (later : ∀ m' ∈ D.blocks w, m' ≠ []) :
    HoldsEach D Holds ⟨base, m.drop n⟩
      (if m.length ≤ n then D.blocks w else m.drop n :: D.blocks w) := by
  obtain ⟨same, nonempty⟩ := after_piece (m := m) n later
  exact ⟨⟨w, below, same⟩, nonempty⟩

theorem Fetches.messages {Holds : σ → Bytes → Prop} {source : Source σ} {D : Decoder Bytes}
    (fetches : Fetches source D Holds) : Messages (stream source) (HoldsEach D Holds) where
  nonempty held := held.nonempty
  read {b m ms} n wanted held := by
    obtain ⟨⟨w, below, same⟩, nonempty⟩ := held
    have later : ∀ m' ∈ ms, m' ≠ [] := fun m' member => nonempty m' (List.mem_cons_of_mem m member)
    show (read source.fetch n b).data = _ ∧ (read source.fetch n b).err = none ∧
      HoldsEach D Holds (read source.fetch n b).next _
    by_cases empty : b.rest = []
    · rw [if_pos empty] at same
      rcases found : D.decode w with _ | ⟨block, rest⟩
      · rw [D.blocks_none found] at same
        cases same
      · rw [D.blocks_some found] at same
        obtain ⟨rfl, rfl⟩ := List.cons.inj same
        obtain ⟨t, ok, left⟩ := fetches.some_block below found
        rw [read_ok n empty ok]
        exact ⟨rfl, rfl, HoldsEach.after n left later⟩
    · rw [if_neg empty] at same
      obtain ⟨rfl, rfl⟩ := List.cons.inj same
      rw [read_rest _ n b empty]
      exact ⟨rfl, rfl, HoldsEach.after n below later⟩
  done {b} n wanted held := by
    obtain ⟨⟨w, below, same⟩, _⟩ := held
    show (read source.fetch n b).data = [] ∧ (read source.fetch n b).err ≠ none
    by_cases empty : b.rest = []
    · rw [if_pos empty] at same
      rcases found : D.decode w with _ | ⟨block, rest⟩
      · obtain ⟨e, t, failed⟩ := fetches.no_block below found
        rw [read_error n empty failed]
        exact ⟨rfl, nofun⟩
      · rw [D.blocks_some found] at same
        cases same
    · rw [if_neg empty] at same
      cases same
  write {b ms} bytes held := by
    obtain ⟨⟨w, below, same⟩, nonempty⟩ := held
    exact ⟨⟨w, fetches.write bytes below, same⟩, nonempty⟩

end Buffered

end Gotun.Lib
