import Gotun.Lib.Stream

/-! A connection that delivers its bytes in order, cut anywhere, until its peer ends it
or a read deadline is set. -/

namespace Gotun.Lib

inductive Arrival where
  | chunk (bytes : Bytes)
  | deadline
  deriving DecidableEq, Repr

structure Conn where
  inbound : List Arrival
  /-- Whether the end of file comes with the last bytes or on a read of its own. -/
  eofWithData : Bool
  sent : Bytes
  deriving DecidableEq, Repr

namespace Conn

/-- The bytes that can still be read: a deadline stops every later read. -/
def arrived : List Arrival → Bytes
  | [] => []
  | .deadline :: _ => []
  | .chunk bytes :: rest => bytes ++ arrived rest

def pendingReads : List Arrival → Nat
  | [] => 0
  | .deadline :: rest => pendingReads rest + 1
  | .chunk bytes :: rest => bytes.length + 1 + pendingReads rest

def read (n : Nat) (c : Conn) : ReadRes Conn :=
  match c.inbound with
  | [] => ⟨[], some .eof, c⟩
  | .deadline :: _ => ⟨[], some (.failed "i/o timeout"), c⟩
  | .chunk bytes :: rest =>
      if bytes.length ≤ n then
        ⟨bytes, if rest.isEmpty && c.eofWithData then some .eof else none, { c with inbound := rest }⟩
      else ⟨bytes.take n, none, { c with inbound := .chunk (bytes.drop n) :: rest }⟩

def write (bytes : Bytes) (c : Conn) : WriteRes Conn :=
  ⟨bytes.length, none, { c with sent := c.sent ++ bytes }⟩

theorem read_rank (n : Nat) (c : Conn) :
    pendingReads (read n c).next.inbound ≤ pendingReads c.inbound ∧
      (0 < n → ((read n c).err = none ∨ (read n c).data ≠ []) →
        pendingReads (read n c).next.inbound < pendingReads c.inbound) := by
  rcases c with ⟨inbound, withData, sent⟩
  match inbound with
  | [] => simp [read]
  | .deadline :: rest => simp [read]
  | .chunk bytes :: rest =>
    simp only [read]
    split_ifs with fits <;> simp only [pendingReads, List.length_drop] <;> omega

theorem read_data_length (n : Nat) (c : Conn) : (read n c).data.length ≤ n := by
  rcases c with ⟨inbound, withData, sent⟩
  match inbound with
  | [] => simp [read]
  | .deadline :: rest => simp [read]
  | .chunk bytes :: rest =>
    by_cases fits : bytes.length ≤ n
    · simpa only [read, if_pos fits] using fits
    · simpa only [read, if_neg fits] using List.length_take_le n bytes

def stream : Stream Conn where
  read := read
  write := write
  rank c := pendingReads c.inbound
  read_length := read_data_length
  read_rank_le n c := (read_rank n c).1
  read_rank_lt n c := (read_rank n c).2
  write_rank _ _ := le_rfl

def Holds (c : Conn) (w : Bytes) : Prop := arrived c.inbound = w

def Sent (before : Bytes) (c : Conn) (log : List Bytes) : Prop := c.sent = before ++ log.flatten

/-- A connection hands out exactly the bytes that arrive before a deadline. -/
theorem drains : Drains stream Holds where
  read {c w} n wanted held := by
    rcases c with ⟨inbound, withData, sent⟩
    subst held
    match inbound with
    | [] => exact ⟨[], by simp [stream, read, arrived]⟩
    | .deadline :: rest => exact ⟨[], by simp [stream, read, arrived]⟩
    | .chunk bytes :: rest =>
      simp only [stream, read]
      split_ifs with fits last
      · refine ⟨arrived rest, rfl, fun _ => rfl, fun _ => ?_⟩
        simp only [Bool.and_eq_true, List.isEmpty_iff] at last
        rw [last.1, arrived]
      · exact ⟨arrived rest, rfl, fun _ => rfl, by simp⟩
      · refine ⟨bytes.drop n ++ arrived rest, ?_, fun _ => rfl, by simp⟩
        rw [← List.append_assoc, List.take_append_drop, arrived]
  write {c w} bytes held := held
  ended {c w} n wanted held failed := by
    rcases c with ⟨inbound, withData, sent⟩
    match inbound with
    | [] => rfl
    | .deadline :: rest => rfl
    | .chunk bytes :: rest =>
      simp only [stream, read] at failed ⊢
      split_ifs at failed ⊢ with fits last
      · simp only [Bool.and_eq_true, List.isEmpty_iff] at last
        rw [last.1]
        rfl
      · exact absurd rfl failed
      · exact absurd rfl failed

theorem sends (before : Bytes) : Sends stream (fun _ => True) (Sent before) where
  write {c log} bytes logged _ := by
    unfold Sent at logged
    simp [stream, write, Sent, logged]
  refused _ _ small := absurd trivial small
  read {c log} n logged := by
    rcases c with ⟨inbound, withData, sent⟩
    match inbound with
    | [] => exact logged
    | .deadline :: rest => exact logged
    | .chunk bytes :: rest =>
      simp only [stream, read]
      split_ifs <;> exact logged

/-- Sets a deadline that ends all reads once so many more arrivals have been read. -/
def SetReadDeadline (after : Nat) (c : Conn) : Conn :=
  { c with inbound := c.inbound.take after ++ .deadline :: c.inbound.drop after }

theorem arrived_deadline (after : Nat) (inbound : List Arrival) :
    arrived (inbound.take after ++ .deadline :: inbound.drop after) <+: arrived inbound := by
  induction inbound generalizing after with
  | nil => simp [arrived]
  | cons first rest ih =>
    cases after with
    | zero => exact List.nil_prefix
    | succ after =>
      cases first with
      | deadline => exact List.nil_prefix
      | chunk bytes => exact (List.prefix_append_right_inj bytes).mpr (ih after)

/-- What would have arrived after the deadline. -/
def late (after : Nat) (c : Conn) : Bytes :=
  (arrived c.inbound).drop (arrived (c.SetReadDeadline after).inbound).length

theorem holds_deadline (after : Nat) {c : Conn} {w : Bytes} (held : c.Holds w) :
    ∃ early, w = early ++ c.late after ∧ (c.SetReadDeadline after).Holds early := by
  obtain ⟨behind, whole⟩ := arrived_deadline after c.inbound
  have late_eq : c.late after = behind := by
    rw [late, ← whole]
    exact List.drop_left' rfl
  refine ⟨arrived (c.SetReadDeadline after).inbound, ?_, rfl⟩
  rw [late_eq, ← held, ← whole]
  rfl

theorem arrived_chunks_append (chunks : List Bytes) (later : List Arrival) :
    arrived (chunks.map .chunk ++ later) = chunks.flatten ++ arrived later := by
  induction chunks with
  | nil => rfl
  | cons chunk rest ih => simp [arrived, ih]

theorem arrived_chunks (chunks : List Bytes) : arrived (chunks.map .chunk) = chunks.flatten := by
  simpa [arrived] using arrived_chunks_append chunks []

end Conn

end Gotun.Lib
