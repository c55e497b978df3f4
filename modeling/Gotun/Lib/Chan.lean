import Mathlib.Data.List.Basic

/-! Buffered channels that can be closed. A send on a closed channel and a second close are panics. -/

namespace Gotun.Lib

structure Chan (α : Type) where
  buf : List α
  cap : Nat
  closed : Bool
  deriving DecidableEq, Repr

/-- What becomes of an attempt to send. A full channel makes a plain send wait. -/
inductive Sent (α : Type) where
  | sent (c : Chan α)
  | full
  | panic

/-- What becomes of an attempt to receive. -/
inductive Received (α : Type) where
  | got (a : α) (c : Chan α)
  | closed
  | empty

namespace Chan
variable {α : Type} {c c' : Chan α} {a : α}

def make (cap : Nat) : Chan α := ⟨[], cap, false⟩

def send (c : Chan α) (a : α) : Sent α :=
  if c.closed then .panic else if c.buf.length < c.cap then .sent { c with buf := c.buf ++ [a] }
  else .full

def receive (c : Chan α) : Received α :=
  match c.buf with
  | a :: rest => .got a { c with buf := rest }
  | [] => if c.closed then .closed else .empty

/-- No channel where the close is a panic. -/
def close (c : Chan α) : Option (Chan α) := if c.closed then none else some { c with closed := true }

theorem send_closed (sent : c.send a = .sent c') : c'.closed = c.closed := by
  rw [send] at sent
  split_ifs at sent
  cases sent
  rfl

theorem send_open (still : c.closed = false) : c.send a ≠ .panic := by
  rw [send, still, if_neg Bool.false_ne_true]
  split_ifs <;> nofun

theorem send_shut (shut : c.closed = true) : c.send a = .panic := by
  rw [send, if_pos shut]

theorem send_room (still : c.closed = false) (room : c.buf.length < c.cap) :
    c.send a = .sent { c with buf := c.buf ++ [a] } := by
  rw [send, still, if_neg Bool.false_ne_true, if_pos room]

theorem send_eq (sent : c.send a = .sent c') : c' = { c with buf := c.buf ++ [a] } := by
  rw [send] at sent
  split_ifs at sent
  cases sent
  rfl

theorem receive_buf {rest : List α} (buf : c.buf = a :: rest) :
    c.receive = .got a { c with buf := rest } := by
  rw [receive, buf]

theorem receive_eq (got : c.receive = .got a c') :
    c.buf = a :: c'.buf ∧ c'.closed = c.closed ∧ c'.cap = c.cap := by
  rw [receive] at got
  split at got
  · rename_i here
    cases got
    exact ⟨here, rfl, rfl⟩
  · split_ifs at got

theorem receive_closed (got : c.receive = .got a c') : c'.closed = c.closed := by
  rw [receive] at got
  split at got
  · cases got
    rfl
  · split_ifs at got

theorem receive_over (past : c.receive = .closed) : c.closed = true ∧ c.buf = [] := by
  rw [receive] at past
  split at past
  · contradiction
  · rename_i empty
    split_ifs at past with shut
    exact ⟨shut, empty⟩

theorem close_open (still : c.closed = false) : c.close = some { c with closed := true } := by
  rw [close, still, if_neg Bool.false_ne_true]

end Chan

end Gotun.Lib
