import Gotun.Lib.Stream

/-! Live byte streams. Their far side acts on its own, a read or a write may have to wait, and a read
deadline that has passed ends the waiting. -/

namespace Gotun.Lib

/-- No result is a call that waits. `world` is what the far side does. -/
structure Endpoint (σ ε : Type) where
  read : Nat → σ → Option (ReadRes σ)
  write : Bytes → σ → Option (WriteRes σ)
  SetReadDeadline : σ → σ
  world : σ → ε → Option σ

namespace Endpoint
variable {σ ε : Type}

/-- The contracts of readers and writers: `out` are the bytes that the reads have handed out, `taken`
the bytes that the writes have taken. -/
structure Carries (E : Endpoint σ ε) (out taken : σ → Bytes) : Prop where
  short : ∀ {n s r}, E.read n s = some r → r.data.length ≤ n
  read : ∀ {n s r}, E.read n s = some r → out r.next = out s ++ r.data ∧ taken r.next = taken s
  write : ∀ {b s w}, E.write b s = some w → out w.next = out s ∧
    ∃ k, taken w.next = taken s ++ b.take k ∧ (w.err = none → w.n = b.length → b.length ≤ k)
  deadline : ∀ s, out (E.SetReadDeadline s) = out s ∧ taken (E.SetReadDeadline s) = taken s
  world : ∀ {s e s'}, E.world s e = some s' → out s' = out s ∧ taken s' = taken s

/-- After a deadline no read waits, and only `held` many more succeed, whatever else happens. -/
structure Wakes (E : Endpoint σ ε) (Cut : σ → Prop) (held : σ → Nat) : Prop where
  sets : ∀ s, Cut (E.SetReadDeadline s)
  again : ∀ {s}, Cut s → held (E.SetReadDeadline s) ≤ held s
  ready : ∀ {n s}, 0 < n → Cut s → (E.read n s).isSome
  read : ∀ {n s r}, 0 < n → Cut s → E.read n s = some r → Cut r.next ∧ held r.next ≤ held s ∧
    (r.err = none → held r.next < held s)
  write : ∀ {b s w}, Cut s → E.write b s = some w → Cut w.next ∧ held w.next ≤ held s
  world : ∀ {s e s'}, Cut s → E.world s e = some s' → Cut s' ∧ held s' ≤ held s

/-- Its peer keeps reading, so that no write waits. -/
def Drained (E : Endpoint σ ε) : Prop := ∀ b s, (E.write b s).isSome

end Endpoint

/-- A connection with a buffered reader on it. `out` records what was read. -/
structure Socket where
  buffered : Bytes
  incoming : Bytes
  finished : Bool
  deadline : Bool
  out : Bytes
  sent : Bytes
  deriving DecidableEq, Repr

namespace Socket

/-- What the far side does. -/
inductive Event where
  | arrive (bytes : Bytes)
  | finish
  deriving DecidableEq, Repr

def connected : Socket := ⟨[], [], false, false, [], []⟩

/-- The connection is read only when nothing is buffered, and then for all there is. -/
def read (n : Nat) (s : Socket) : Option (ReadRes Socket) :=
  if s.buffered ≠ [] then
    some ⟨s.buffered.take n, none,
      { s with buffered := s.buffered.drop n, out := s.out ++ s.buffered.take n }⟩
  else if s.deadline then some ⟨[], some (.failed "i/o timeout"), s⟩
  else if s.incoming ≠ [] then
    some ⟨s.incoming.take n, none, { s with
      buffered := s.incoming.drop n, incoming := [], out := s.out ++ s.incoming.take n }⟩
  else if s.finished then some ⟨[], some .eof, s⟩
  else none

def write (bytes : Bytes) (s : Socket) : Option (WriteRes Socket) :=
  some ⟨bytes.length, none, { s with sent := s.sent ++ bytes }⟩

def world (s : Socket) : Event → Option Socket
  | .arrive bytes => if s.finished then none else some { s with incoming := s.incoming ++ bytes }
  | .finish => some { s with finished := true }

def endpoint : Endpoint Socket Event where
  read := read
  write := write
  SetReadDeadline s := { s with deadline := true }
  world := world

/-- A read takes from the buffer, takes the first bytes that arrived, or hands out nothing. -/
theorem read_cases {n : Nat} {s : Socket} {r : ReadRes Socket} (got : read n s = some r) :
    (s.buffered ≠ [] ∧ r = ⟨s.buffered.take n, none,
      { s with buffered := s.buffered.drop n, out := s.out ++ s.buffered.take n }⟩) ∨
    (s.buffered = [] ∧ s.deadline = false ∧ r = ⟨s.incoming.take n, none, { s with
      buffered := s.incoming.drop n, incoming := [], out := s.out ++ s.incoming.take n }⟩) ∨
    (s.buffered = [] ∧ ∃ e, r = ⟨[], some e, s⟩) := by
  rw [read] at got
  split_ifs at got with buffered cut arrived finished
  · exact Or.inl ⟨buffered, (Option.some.inj got).symm⟩
  · exact Or.inr (Or.inr ⟨not_not.mp buffered, _, (Option.some.inj got).symm⟩)
  · exact Or.inr (Or.inl ⟨not_not.mp buffered, Bool.eq_false_iff.mpr cut, (Option.some.inj got).symm⟩)
  · exact Or.inr (Or.inr ⟨not_not.mp buffered, _, (Option.some.inj got).symm⟩)

theorem carries : endpoint.Carries Socket.out Socket.sent where
  short {n s r} got := by
    rcases read_cases got with ⟨_, rfl⟩ | ⟨_, _, rfl⟩ | ⟨_, e, rfl⟩
    · exact List.length_take_le ..
    · exact List.length_take_le ..
    · exact Nat.zero_le n
  read {n s r} got := by
    rcases read_cases got with ⟨_, rfl⟩ | ⟨_, _, rfl⟩ | ⟨_, e, rfl⟩
    · exact ⟨rfl, rfl⟩
    · exact ⟨rfl, rfl⟩
    · exact ⟨(List.append_nil _).symm, rfl⟩
  write {b s w} wrote := by
    cases wrote
    exact ⟨rfl, b.length, by rw [List.take_length], fun _ _ => Nat.le_refl _⟩
  deadline s := ⟨rfl, rfl⟩
  world {s e s'} next := by
    cases e with
    | arrive bytes =>
      simp only [endpoint, world] at next
      split_ifs at next
      cases next
      exact ⟨rfl, rfl⟩
    | finish =>
      cases next
      exact ⟨rfl, rfl⟩

/-- Behind a deadline only what is buffered can still be read. -/
theorem wakes : endpoint.Wakes (fun s => s.deadline = true) (fun s => s.buffered.length) where
  sets s := rfl
  again _ := Nat.le_refl _
  ready {n s} wanted cut := by
    simp only [endpoint, read, cut, if_true]
    split_ifs <;> rfl
  read {n s r} wanted cut got := by
    rcases read_cases got with ⟨some_bytes, rfl⟩ | ⟨_, uncut, _⟩ | ⟨_, e, rfl⟩
    · refine ⟨cut, ?_, fun _ => ?_⟩ <;> rw [List.length_drop]
      · exact Nat.sub_le ..
      · exact Nat.sub_lt (List.length_pos_iff.mpr some_bytes) wanted
    · exact absurd (cut.symm.trans uncut) nofun
    · exact ⟨cut, Nat.le_refl _, nofun⟩
  write {b s w} cut wrote := by
    cases wrote
    exact ⟨cut, Nat.le_refl _⟩
  world {s e s'} cut next := by
    cases e with
    | arrive bytes =>
      simp only [endpoint, world] at next
      split_ifs at next
      cases next
      exact ⟨cut, Nat.le_refl _⟩
    | finish =>
      cases next
      exact ⟨cut, Nat.le_refl _⟩

theorem drained : endpoint.Drained := fun _ _ => rfl

end Socket

end Gotun.Lib
