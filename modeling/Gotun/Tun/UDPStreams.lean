import Gotun.Tun.InputUDP
import Mathlib.Data.List.DropRight

/-! `UDPWorker` and `UDPConn` as streams: datagrams come in, are read in parts, and each write becomes
a datagram again. -/

namespace Gotun.Tun

open Gotun.Lib Gotun.Core

/-- The most that one datagram carries. -/
def maxDatagram : Nat := 65507

def messageTooLong : Err := .failed "sendto: message too long"

/-- A worker with all the datagrams that its source sends, and those that were written to its source. -/
structure UDPWorkerStream where
  worker : UDPWorker
  /-- What comes, or is still in the queue, when the reads have ended. -/
  late : List Bytes
  sent : List Bytes

namespace UDPWorkerStream

def read (n : Nat) (s : UDPWorkerStream) : ReadRes UDPWorkerStream :=
  match s.worker.Read n with
  | (some data, w) => ⟨data, none, { s with worker := w }⟩
  | (none, w) => ⟨[], some (.failed "ErrTimeout"), { s with worker := w }⟩

/-- `WriteTo` sends one datagram. -/
def write (p : Bytes) (s : UDPWorkerStream) : WriteRes UDPWorkerStream :=
  if p.length ≤ maxDatagram then ⟨p.length, none, { s with sent := s.sent ++ [p] }⟩
  else ⟨0, some messageTooLong, s⟩

def queued (queue : List Bytes) : Nat := (queue.map fun data => data.length + 1).sum

def rank (s : UDPWorkerStream) : Nat := (s.worker.reader.getD []).length + queued s.worker.bReaders

theorem bufferRead_some {n : Nat} {buffer data left : Bytes}
    (found : UDPWorker.bufferRead n buffer = some (data, left)) :
    data = buffer.take n ∧ left = buffer.drop n ∧ (0 < n → buffer ≠ []) := by
  unfold UDPWorker.bufferRead at found
  split_ifs at found with exhausted
  cases found
  exact ⟨rfl, rfl, fun wanted empty => exhausted ⟨empty, wanted⟩⟩

theorem readQueue_result (n : Nat) (w : UDPWorker) (queue : List Bytes) :
    ((w.readQueue n queue).1.getD []).length ≤ n ∧
      ((w.readQueue n queue).2.reader.getD []).length +
        queued (w.readQueue n queue).2.bReaders ≤ queued queue ∧
      ((w.readQueue n queue).1 ≠ none →
        ((w.readQueue n queue).2.reader.getD []).length + queued (w.readQueue n queue).2.bReaders <
          queued queue) := by
  induction queue with
  | nil => exact ⟨Nat.zero_le n, Nat.le_refl 0, fun some_ => absurd rfl some_⟩
  | cons next rest ih =>
    rw [UDPWorker.readQueue]
    split
    · rename_i data left found
      obtain ⟨rfl, rfl, _⟩ := bufferRead_some found
      have smaller : (next.drop n).length + queued rest < queued (next :: rest) := by
        simp only [queued, List.map_cons, List.sum_cons, List.length_drop]
        omega
      exact ⟨List.length_take_le n next, smaller.le, fun _ => smaller⟩
    · obtain ⟨short, lower, strictly⟩ := ih
      have smaller : queued rest < queued (next :: rest) := by
        simp only [queued, List.map_cons, List.sum_cons]
        omega
      exact ⟨short, lower.trans smaller.le, fun some_ => (strictly some_).trans smaller⟩

theorem Read_result (n : Nat) (w : UDPWorker) :
    ((w.Read n).1.getD []).length ≤ n ∧
      ((w.Read n).2.reader.getD []).length + queued (w.Read n).2.bReaders ≤
        (w.reader.getD []).length + queued w.bReaders ∧
      (0 < n → (w.Read n).1 ≠ none →
        ((w.Read n).2.reader.getD []).length + queued (w.Read n).2.bReaders <
          (w.reader.getD []).length + queued w.bReaders) := by
  unfold UDPWorker.Read
  split
  · rename_i data left found
    obtain ⟨buffer, reading, found⟩ := Option.bind_eq_some_iff.mp found
    obtain ⟨rfl, rfl, some_bytes⟩ := bufferRead_some found
    rw [reading]
    simp only [Option.getD_some, List.length_drop]
    refine ⟨List.length_take_le n buffer, by omega, fun wanted _ => ?_⟩
    have long := List.length_pos_iff.mpr (some_bytes wanted)
    omega
  · obtain ⟨short, lower, strictly⟩ := readQueue_result n w w.bReaders
    exact ⟨short, by omega, fun _ some_ => Nat.lt_of_lt_of_le (strictly some_) (Nat.le_add_left _ _)⟩

def stream : Stream UDPWorkerStream where
  read := read
  write := write
  rank := rank
  read_length n s := by
    have short := (Read_result n s.worker).1
    unfold read
    split <;> rename_i result <;> rw [result] at short
    · exact short
    · exact Nat.zero_le n
  read_rank_le n s := by
    have lower := (Read_result n s.worker).2.1
    unfold read
    split <;> rename_i result <;> rw [result] at lower <;> exact lower
  read_rank_lt n s wanted progress := by
    have lower := (Read_result n s.worker).2.2 wanted
    unfold read at progress ⊢
    split at progress <;> rename_i result
    · rw [result] at lower
      exact lower nofun
    · rcases progress with fine | some_data
      · cases fine
      · exact absurd rfl some_data
  write_rank p s := by
    unfold write
    split_ifs
    · exact Nat.le_refl _
    · exact Nat.le_refl _

/-- What is left of the datagram that is being read, and the queue. -/
structure Holds (s : UDPWorkerStream) (ms : List Bytes) : Prop where
  same : ms = if s.worker.reader.getD [] = [] then
    s.worker.bReaders else s.worker.reader.getD [] :: s.worker.bReaders
  nonempty : ∀ m ∈ ms, m ≠ []

theorem bufferRead_nonempty {n : Nat} {m : Bytes} (some_bytes : m ≠ []) :
    UDPWorker.bufferRead n m = some (m.take n, m.drop n) := by
  rw [UDPWorker.bufferRead, if_neg fun exhausted => some_bytes exhausted.1]

theorem bufferRead_exhausted {n : Nat} {reader : Option Bytes} (wanted : 0 < n)
    (empty : reader.getD [] = []) :
    reader.bind (UDPWorker.bufferRead n) = none := by
  cases reader with
  | none => rfl
  | some rest =>
    rw [show rest = [] from empty]
    exact if_pos ⟨rfl, wanted⟩

theorem Holds.after {w : UDPWorker} {late sent queue : List Bytes} {m : Bytes} (n : Nat)
    (later : ∀ m' ∈ queue, m' ≠ []) :
    Holds ⟨{ w with reader := some (m.drop n), bReaders := queue }, late, sent⟩
      (if m.length ≤ n then queue else m.drop n :: queue) := by
  obtain ⟨same, nonempty⟩ := after_piece (m := m) n later
  exact ⟨same, nonempty⟩

theorem messages : Messages stream Holds where
  nonempty held := held.nonempty
  read {s m ms} n wanted held := by
    obtain ⟨same, nonempty⟩ := held
    obtain ⟨some_bytes, later⟩ := List.forall_mem_cons.mp nonempty
    show (read n s).data = _ ∧ (read n s).err = none ∧ Holds (read n s).next _
    rcases s with ⟨⟨srcAddr, bReaders, reader, handler⟩, late, sent⟩
    by_cases empty : reader.getD [] = []
    · rw [if_pos empty] at same
      obtain rfl : bReaders = m :: ms := same.symm
      simp only [read, UDPWorker.Read, bufferRead_exhausted wanted empty, UDPWorker.readQueue,
        bufferRead_nonempty some_bytes]
      exact ⟨trivial, trivial, Holds.after (w := ⟨srcAddr, m :: ms, reader, handler⟩) n later⟩
    · rw [if_neg empty] at same
      obtain ⟨rfl, rfl⟩ := List.cons.inj same
      cases reader with
      | none => exact absurd rfl empty
      | some m =>
        have some_bytes : m ≠ [] := some_bytes
        simp only [read, UDPWorker.Read, Option.bind_some, bufferRead_nonempty some_bytes]
        exact ⟨rfl, trivial, Holds.after (w := ⟨srcAddr, ms, some m, handler⟩) n later⟩
  done {s} n wanted held := by
    obtain ⟨same, _⟩ := held
    show (read n s).data = [] ∧ (read n s).err ≠ none
    rcases s with ⟨⟨srcAddr, bReaders, reader, handler⟩, late, sent⟩
    by_cases empty : reader.getD [] = []
    · rw [if_pos empty] at same
      obtain rfl : bReaders = [] := same.symm
      simp only [read, UDPWorker.Read, bufferRead_exhausted wanted empty, UDPWorker.readQueue]
      exact ⟨trivial, Option.some_ne_none _⟩
    · rw [if_neg empty] at same
      cases same
  write {s ms} p held := by
    show Holds (write p s).next ms
    unfold write
    split_ifs
    · exact ⟨held.same, held.nonempty⟩
    · exact held

def Sent (s : UDPWorkerStream) (log : List Bytes) : Prop := s.sent = log

theorem read_sent (n : Nat) (s : UDPWorkerStream) : (read n s).next.sent = s.sent := by
  unfold read
  split <;> rfl

theorem sends : Sends stream (fun p => p.length ≤ maxDatagram) Sent where
  write {s log} p sent small := by
    simp only [stream, write, if_pos small, Sent]
    exact ⟨trivial, trivial, by rw [show s.sent = log from sent]⟩
  refused {s log} p sent large := by
    simp only [stream, write, if_neg large]
    exact sent
  read {s log} n sent := (read_sent n s).trans sent

/-- A new worker whose source sends these datagrams. -/
def fresh (datagrams : List Bytes) : UDPWorkerStream :=
  ⟨⟨"", datagrams.map (·.take MaxSegmentSize), none, .running⟩, [], []⟩

/-- The reads end, by their timeout or a deadline, before the last `unread` datagrams: no one takes those
from the queue. -/
def SetReadDeadline (unread : Nat) (s : UDPWorkerStream) : UDPWorkerStream :=
  { s with
    worker := { s.worker with bReaders := s.worker.bReaders.rdrop unread }
    late := s.worker.bReaders.rtake unread ++ s.late }

theorem fresh_holds {datagrams : List Bytes}
    (each : ∀ d ∈ datagrams, d ≠ [] ∧ d.length ≤ maxDatagram) (unread : Nat) :
    ((fresh datagrams).SetReadDeadline unread).Holds (datagrams.rdrop unread) := by
  have whole : datagrams.map (·.take MaxSegmentSize) = datagrams := by
    refine (List.map_congr_left fun d member => ?_).trans (List.map_id datagrams)
    exact List.take_of_length_le ((each d member).2.trans (by decide))
  have queue : (fresh datagrams).worker.bReaders = datagrams := whole
  refine ⟨?_, fun d member => (each d (List.mem_of_mem_take member)).1⟩
  show _ = (fresh datagrams).worker.bReaders.rdrop unread
  rw [queue]

end UDPWorkerStream

/-- A dialled connection: the datagrams that will arrive, what is left of the one in `buf`, and
those written. -/
structure UDPConn where
  inbound : List Bytes
  buf : Bytes
  /-- What arrives when the reads have ended. -/
  late : List Bytes
  sent : List Bytes

namespace UDPConn

def read (n : Nat) (c : UDPConn) : ReadRes UDPConn :=
  if c.buf ≠ [] then ⟨c.buf.take n, none, { c with buf := c.buf.drop n }⟩
  else match c.inbound with
    | [] => ⟨[], some (.failed "i/o timeout"), c⟩
    | datagram :: later =>
      let buf := datagram.take MaxSegmentSize
      ⟨buf.take n, none, { c with inbound := later, buf := buf.drop n }⟩

def write (p : Bytes) (c : UDPConn) : WriteRes UDPConn :=
  if p.length ≤ maxDatagram then ⟨p.length, none, { c with sent := c.sent ++ [p] }⟩
  else ⟨0, some messageTooLong, c⟩

def rank (c : UDPConn) : Nat := c.buf.length + UDPWorkerStream.queued c.inbound

def stream : Stream UDPConn where
  read := read
  write := write
  rank := rank
  read_length n c := by
    unfold read
    split_ifs
    · exact List.length_take_le n c.buf
    · split
      · exact Nat.zero_le n
      · exact List.length_take_le n _
  read_rank_le n c := by
    rcases c with ⟨inbound, buf, late, sent⟩
    unfold read rank
    split_ifs
    · simp only [List.length_drop]
      omega
    · cases inbound with
      | nil => exact Nat.le_refl _
      | cons datagram later =>
        simp only [UDPWorkerStream.queued, List.map_cons, List.sum_cons,
          List.length_drop, List.length_take]
        omega
  read_rank_lt n c wanted progress := by
    rcases c with ⟨inbound, buf, late, sent⟩
    unfold read rank at *
    split_ifs at progress ⊢ with some_rest
    · have long : 0 < buf.length := List.length_pos_iff.mpr some_rest
      simp only [List.length_drop]
      omega
    · cases inbound with
      | nil =>
        rcases progress with fine | some_data
        · cases fine
        · exact absurd rfl some_data
      | cons datagram later =>
        simp only [UDPWorkerStream.queued, List.map_cons, List.sum_cons,
          List.length_drop, List.length_take]
        omega
  write_rank p c := by
    unfold write
    split_ifs
    · exact Nat.le_refl _
    · exact Nat.le_refl _

/-- What is left of the datagram that is being read, and those to come. -/
structure Holds (c : UDPConn) (ms : List Bytes) : Prop where
  same : ms = if c.buf = [] then c.inbound else c.buf :: c.inbound
  nonempty : ∀ m ∈ ms, m ≠ []
  small : ∀ m ∈ c.inbound, m.length ≤ MaxSegmentSize

theorem Holds.after {inbound late sent : List Bytes} {m : Bytes} (n : Nat)
    (later : ∀ m' ∈ inbound, m' ≠ []) (small : ∀ m' ∈ inbound, m'.length ≤ MaxSegmentSize) :
    Holds ⟨inbound, m.drop n, late, sent⟩ (if m.length ≤ n then inbound else m.drop n :: inbound) := by
  obtain ⟨same, nonempty⟩ := after_piece (m := m) n later
  exact ⟨same, nonempty, small⟩

theorem messages : Messages stream Holds where
  nonempty held := held.nonempty
  read {c m ms} n wanted held := by
    obtain ⟨same, nonempty, small⟩ := held
    obtain ⟨some_bytes, later⟩ := List.forall_mem_cons.mp nonempty
    show (read n c).data = _ ∧ (read n c).err = none ∧ Holds (read n c).next _
    rcases c with ⟨inbound, buf, late, sent⟩
    by_cases empty : buf = []
    · rw [if_pos empty] at same
      obtain rfl : inbound = m :: ms := same.symm
      obtain ⟨fits, small⟩ := List.forall_mem_cons.mp small
      simp only [read, empty, ne_eq, not_true, if_false, List.take_of_length_le fits]
      exact ⟨trivial, trivial, Holds.after n later small⟩
    · rw [if_neg empty] at same
      obtain ⟨rfl, rfl⟩ := List.cons.inj same
      simp only [read, ne_eq, empty, not_false_eq_true, if_true]
      exact ⟨trivial, trivial, Holds.after n later small⟩
  done {c} n wanted held := by
    obtain ⟨same, _, _⟩ := held
    show (read n c).data = [] ∧ (read n c).err ≠ none
    rcases c with ⟨inbound, buf, late, sent⟩
    by_cases empty : buf = []
    · rw [if_pos empty] at same
      obtain rfl : inbound = [] := same.symm
      simp only [read, empty, ne_eq, not_true, if_false]
      exact ⟨trivial, Option.some_ne_none _⟩
    · rw [if_neg empty] at same
      cases same
  write {c ms} p held := by
    show Holds (write p c).next ms
    unfold write
    split_ifs
    · exact ⟨held.same, held.nonempty, held.small⟩
    · exact held

def Sent (c : UDPConn) (log : List Bytes) : Prop := c.sent = log

theorem takes : Takes maxDatagram stream Sent := by
  refine ⟨fun {c log} p sent some_bytes small => ?_⟩
  simp only [stream, write, if_pos small, Sent]
  exact ⟨trivial, trivial, by rw [show c.sent = log from sent]⟩

def fresh (datagrams : List Bytes) : UDPConn := ⟨datagrams, [], [], []⟩

/-- The reads end before the last `unread` datagrams arrive. -/
def SetReadDeadline (unread : Nat) (c : UDPConn) : UDPConn :=
  { c with inbound := c.inbound.rdrop unread, late := c.inbound.rtake unread ++ c.late }

theorem fresh_holds {datagrams : List Bytes}
    (each : ∀ d ∈ datagrams, d ≠ [] ∧ d.length ≤ maxDatagram) (unread : Nat) :
    ((fresh datagrams).SetReadDeadline unread).Holds (datagrams.rdrop unread) := by
  have member {d : Bytes} (read : d ∈ datagrams.rdrop unread) : d ∈ datagrams :=
    List.mem_of_mem_take read
  exact ⟨rfl, fun d read => (each d (member read)).1,
    fun d read => (each d (member read)).2.trans (by decide)⟩

end UDPConn

end Gotun.Tun
