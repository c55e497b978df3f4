import Gotun.Lib.Fair
import Gotun.Lib.Endpoint
import Gotun.Tun.RouteSelector

/-! The data path of a route that forwards what it accepts, in `tun/route.go`: `handleInputConn`
dials the members in turn, and `relayConn` copies both ways between the two connections. -/

namespace Gotun.Tun
open Gotun.Lib

/-- A `net.TCPConn`. `finished` is when the far side has closed its direction, and `shut` when this
side has. `stalled` is while the far side does not read and its window is full, and `reads` are the
pieces read so far. -/
structure TCPConn where
  incoming : Bytes
  finished : Bool
  reset : Bool
  stalled : Bool
  reads : List Bytes
  sent : Bytes
  shut : Bool
  closed : Nat
  deriving DecidableEq, Repr

namespace TCPConn

inductive Event where
  | arrive (bytes : Bytes)
  | finish
  | reset
  | stall
  | resume
  deriving DecidableEq, Repr

def connected : TCPConn := ⟨[], false, false, false, [], [], false, 0⟩

/-- What was read so far. -/
def out (c : TCPConn) : Bytes := c.reads.flatten

/-- What the last read took. -/
def piece (c : TCPConn) : Bytes := c.reads.getLast?.getD []

/-- A read takes at most `n` bytes of what has arrived, and waits where nothing has. -/
def Read (n : Nat) (c : TCPConn) : Option (ReadRes TCPConn) :=
  if 0 < c.closed then some ⟨[], some (.failed "use of closed network connection"), c⟩
  else if c.reset then some ⟨[], some (.failed "connection reset by peer"), c⟩
  else if c.incoming ≠ [] then
    if 0 < n then
      some ⟨c.incoming.take n, none,
        { c with incoming := c.incoming.drop n, reads := c.reads ++ [c.incoming.take n] }⟩
    else none
  else if c.finished then some ⟨[], some .eof, c⟩
  else none

/-- A write waits while the far side does not read. One that fails has sent at most `n` bytes. -/
def Write (n : Nat) (data : Bytes) (c : TCPConn) : Option (WriteRes TCPConn) :=
  if 0 < c.closed then some ⟨0, some (.failed "use of closed network connection"), c⟩
  else if c.shut then some ⟨0, some (.failed "broken pipe"), c⟩
  else if c.reset then
    some ⟨(data.take n).length, some (.failed "connection reset by peer"),
      { c with sent := c.sent ++ data.take n }⟩
  else if c.stalled then none
  else some ⟨data.length, none, { c with sent := c.sent ++ data }⟩

def CloseWrite (c : TCPConn) : TCPConn := if 0 < c.closed then c else { c with shut := true }

def Close (c : TCPConn) : TCPConn := { c with closed := c.closed + 1 }

/-- What the far side does. -/
def world (c : TCPConn) : Event → Option TCPConn
  | .arrive bytes =>
    if c.finished || c.reset then none else some { c with incoming := c.incoming ++ bytes }
  | .finish => some { c with finished := true }
  | .reset => some { c with reset := true }
  | .stall => some { c with stalled := true }
  | .resume => some { c with stalled := false }

/-- All that the far side has sent, read or not. -/
def arrived (c : TCPConn) : Bytes := c.out ++ c.incoming

/-- Nothing more comes from the far side. -/
def Ended (c : TCPConn) : Prop := c.finished = true ∨ c.reset = true

end TCPConn

/-- The two connections of a relay: `a` is the one that the route accepted, `b` the one it dialled. -/
inductive Side where
  | a
  | b
  deriving DecidableEq, Repr

namespace Side

def other : Side → Side
  | a => b
  | b => a

theorem other_ne (side : Side) : side.other ≠ side := by cases side <;> exact nofun

@[simp] theorem other_other (side : Side) : side.other.other = side := by cases side <;> rfl

theorem eq_or_other (side side' : Side) : side' = side ∨ side' = side.other := by
  cases side <;> cases side' <;> simp [other]

end Side

/-- Where the goroutine of one direction is: in `io.Copy`, or in what follows on its result. -/
inductive RelayAt where
  | Read
  | Write (data : Bytes)
  | CloseWrite (err : Option Err)
  | Done (err : Option Err)
  deriving DecidableEq, Repr

namespace RelayAt

/-- A step of the direction from `src` to `dst`; `n` is how many bytes a call takes at most. -/
def step (n : Nat) (src dst : TCPConn) : RelayAt → Option (RelayAt × TCPConn × TCPConn)
  | .Read => (src.Read n).map fun r => match r.err with
    | some er => (.CloseWrite (if er = .eof then none else some er), r.next, dst)
    | none => (.Write r.data, r.next, dst)
  | .Write data => (dst.Write n data).map fun w => match w.err with
    | some ew => (.CloseWrite (some ew), src, w.next)
    | none => (.Read, src, w.next)
  | .CloseWrite err => some (.Done err, src, dst.CloseWrite)
  | .Done _ => none

/-- The steps of a direction. -/
inductive Steps (n : Nat) (src dst : TCPConn) : RelayAt → RelayAt × TCPConn × TCPConn → Prop
  | read (some_bytes : src.incoming ≠ []) (wanted : 0 < n) :
      Steps n src dst .Read (.Write (src.incoming.take n),
        { src with incoming := src.incoming.drop n, reads := src.reads ++ [src.incoming.take n] }, dst)
  | eof (finished : src.finished = true) (empty : src.incoming = []) :
      Steps n src dst .Read (.CloseWrite none, src, dst)
  | readFailed {err : Err} (broken : 0 < src.closed ∨ src.reset = true) :
      Steps n src dst .Read (.CloseWrite (some err), src, dst)
  | wrote {data : Bytes} :
      Steps n src dst (.Write data) (.Read, src, { dst with sent := dst.sent ++ data })
  | writeFailed {data : Bytes} {err : Err} {dst' : TCPConn} (k : Nat)
      (some_sent : dst' = { dst with sent := dst.sent ++ data.take k })
      (broken : 0 < dst.closed ∨ dst.shut = true ∨ dst.reset = true) :
      Steps n src dst (.Write data) (.CloseWrite (some err), src, dst')
  | CloseWrite {err : Option Err} : Steps n src dst (.CloseWrite err) (.Done err, src, dst.CloseWrite)

theorem step_steps {n : Nat} {src dst : TCPConn} {c : RelayAt} {after : RelayAt × TCPConn × TCPConn}
    (next : c.step n src dst = some after) : Steps n src dst c after := by
  cases c with
  | Read =>
    obtain ⟨r, got, rfl⟩ := Option.map_eq_some_iff.mp next
    rw [TCPConn.Read] at got
    split_ifs at got with closed reset some_bytes wanted finished
    · obtain rfl := Option.some.inj got
      exact .readFailed (.inl closed)
    · obtain rfl := Option.some.inj got
      exact .readFailed (.inr reset)
    · obtain rfl := Option.some.inj got
      exact .read some_bytes wanted
    · obtain rfl := Option.some.inj got
      exact .eof finished (not_not.mp some_bytes)
  | Write data =>
    obtain ⟨w, sent, rfl⟩ := Option.map_eq_some_iff.mp next
    have unsent : dst = { dst with sent := dst.sent ++ data.take 0 } := by
      rw [List.take_zero, List.append_nil]
    rw [TCPConn.Write] at sent
    split_ifs at sent with closed shut reset
    · obtain rfl := Option.some.inj sent
      exact .writeFailed 0 unsent (.inl closed)
    · obtain rfl := Option.some.inj sent
      exact .writeFailed 0 unsent (.inr (.inl shut))
    · obtain rfl := Option.some.inj sent
      exact .writeFailed n rfl (.inr (.inr reset))
    · obtain rfl := Option.some.inj sent
      exact .wrote
  | CloseWrite err =>
    obtain rfl := Option.some.inj next
    exact .CloseWrite
  | Done err => exact absurd next nofun

end RelayAt

/-- Where `handleInputConn` is, and which candidates it has yet to try. -/
inductive ForwardAt where
  | tryForward (cands : List Service)
  | Wait
  | CloseB
  | CloseA
  | CloseSrc
  | returned
  deriving DecidableEq, Repr

/-- A connection that the route serves. `passed` are the candidates that it could not forward to, `dst`
the one that it forwards to. -/
structure InputConn where
  conn : Side → TCPConn
  copy : Side → RelayAt
  main : ForwardAt
  passed : List Service
  dst : Option Service

/-- `dial` says how the call of `net.Dial` ends, where there is one. -/
inductive InputEvent where
  | main (dial : Bool)
  | copy (side : Side) (n : Nat)
  | world (side : Side) (e : TCPConn.Event)
  deriving DecidableEq, Repr

namespace InputConn

def accepted (cands : List Service) : InputConn :=
  ⟨fun _ => .connected, fun _ => .Read, .tryForward cands, [], none⟩

def isDone : RelayAt → Bool
  | .Done _ => true
  | _ => false

def close (s : InputConn) (side : Side) : Side → TCPConn :=
  Function.update s.conn side (s.conn side).Close

def mainStep (s : InputConn) (dial : Bool) : Option InputConn :=
  match s.main with
  | .tryForward [] => some { s with main := .CloseSrc }
  | .tryForward (svc :: rest) => match parseProtocol svc.cfg.Input with
    | .error _ => some { s with main := .tryForward rest, passed := s.passed ++ [svc] }
    | .ok _ =>
      if dial then
        some { s with conn := Function.update s.conn .b .connected, main := .Wait, dst := some svc }
      else some { s with main := .tryForward rest, passed := s.passed ++ [svc] }
  -- `wg.Wait()` is for both directions, though the comment on `relayConn` says either
  | .Wait => if isDone (s.copy .a) && isDone (s.copy .b) then some { s with main := .CloseB } else none
  | .CloseB => some { s with conn := s.close .b, main := .CloseA }
  | .CloseA => some { s with conn := s.close .a, main := .CloseSrc }
  -- `handleInputConn` closes the connection it was given, which `relayConn` has closed before
  | .CloseSrc => some { s with conn := s.close .a, main := .returned }
  | .returned => none

def copyStep (s : InputConn) (side : Side) (n : Nat) : Option InputConn :=
  match s.main with
  | .Wait => ((s.copy side).step n (s.conn side) (s.conn side.other)).map fun (c, src, dst) =>
      { s with
        copy := Function.update s.copy side c
        conn := Function.update (Function.update s.conn side src) side.other dst }
  | _ => none

def step (s : InputConn) : InputEvent → Option InputConn
  | .main dial => s.mainStep dial
  | .copy side n => s.copyStep side n
  | .world side e =>
    if side = .b ∧ s.dst = none then none
    else ((s.conn side).world e).map fun c => { s with conn := Function.update s.conn side c }

/-- A connection that is served while the candidates are these. -/
def system (cands : List Service) : System InputConn InputEvent where
  start s := s = accepted cands
  step := step

end InputConn

/-- What a direction has read and not written, where `piece` is what it read last: nothing before a
read, and nothing at an end without an error. -/
def RelayAt.Rest (piece : Bytes) : RelayAt → Bytes → Prop
  | .Read, rest => rest = []
  | .Write data, rest => rest = data ∧ data = piece
  | .CloseWrite err, rest | .Done err, rest => (err = none → rest = []) ∧ rest <:+ piece

theorem RelayAt.Rest.suffix {piece rest : Bytes} {c : RelayAt}
    (there : c.Rest piece rest) : rest <:+ piece := by
  cases c with
  | Read =>
    cases there
    exact List.nil_suffix
  | Write data =>
    obtain ⟨rfl, rfl⟩ := there
    exact List.suffix_rfl
  | CloseWrite err | Done err => exact there.2

/-- The copying has come to this end. -/
def RelayAt.Ends (err : Option Err) (c : RelayAt) : Prop := c = .CloseWrite err ∨ c = .Done err

theorem RelayAt.not_ends_Read {err : Option Err} : ¬ RelayAt.Read.Ends err := by
  rintro (h | h) <;> cases h

theorem RelayAt.not_ends_Write {data : Bytes} {err : Option Err} : ¬ (RelayAt.Write data).Ends err := by
  rintro (h | h) <;> cases h

theorem RelayAt.ends_CloseWrite {err err' : Option Err} :
    (RelayAt.CloseWrite err).Ends err' ↔ err = err' := by
  simp [RelayAt.Ends]

theorem RelayAt.ends_Done {err err' : Option Err} : (RelayAt.Done err).Ends err' ↔ err = err' := by
  simp [RelayAt.Ends]

/-- A direction: what it has carried, why it ended, and when it passes the end on. -/
structure Relayed (c : RelayAt) (src dst : TCPConn) : Prop where
  carried : ∃ rest, src.out = dst.sent ++ rest ∧ c.Rest src.piece rest
  eof : c.Ends none → src.finished = true ∧ src.incoming = []
  failed : ∀ err, c.Ends (some err) → src.reset = true ∨ dst.reset = true
  shut : dst.shut = true ↔ ∃ err, c = .Done err

/-- Whatever else happens to a connection, the direction out of it sees this. -/
structure TCPConn.KeptOut (c c' : TCPConn) : Prop where
  reads : c'.reads = c.reads
  ended : c.finished = true → c'.finished = true ∧ c'.incoming = c.incoming
  reset : c.reset = true → c'.reset = true

/-- Whatever else happens to a connection, the direction into it sees this. -/
structure TCPConn.KeptIn (c c' : TCPConn) : Prop where
  sent : c'.sent = c.sent
  shut : c'.shut = c.shut
  reset : c.reset = true → c'.reset = true

theorem TCPConn.KeptOut.refl (c : TCPConn) : c.KeptOut c := ⟨rfl, fun finished => ⟨finished, rfl⟩, id⟩

theorem TCPConn.KeptIn.refl (c : TCPConn) : c.KeptIn c := ⟨rfl, rfl, id⟩

theorem TCPConn.world_kept {c c' : TCPConn} {e : TCPConn.Event} (next : c.world e = some c') :
    c.KeptOut c' ∧ c.KeptIn c' ∧ c'.closed = c.closed := by
  cases e with
  | arrive bytes =>
    rw [world] at next
    split_ifs at next with going
    obtain rfl := Option.some.inj next
    exact ⟨⟨rfl, fun finished => absurd (by simp [finished]) going, id⟩, ⟨rfl, rfl, id⟩, rfl⟩
  | finish =>
    obtain rfl := Option.some.inj next
    exact ⟨⟨rfl, fun _ => ⟨rfl, rfl⟩, id⟩, ⟨rfl, rfl, id⟩, rfl⟩
  | reset =>
    obtain rfl := Option.some.inj next
    exact ⟨⟨rfl, fun finished => ⟨finished, rfl⟩, fun _ => rfl⟩, ⟨rfl, rfl, fun _ => rfl⟩, rfl⟩
  | stall | resume =>
    obtain rfl := Option.some.inj next
    exact ⟨⟨rfl, fun finished => ⟨finished, rfl⟩, id⟩, ⟨rfl, rfl, id⟩, rfl⟩

theorem TCPConn.Close_kept (c : TCPConn) : c.KeptOut c.Close ∧ c.KeptIn c.Close :=
  ⟨⟨rfl, fun finished => ⟨finished, rfl⟩, id⟩, ⟨rfl, rfl, id⟩⟩

namespace RelayAt

variable {n : Nat} {src dst : TCPConn} {c : RelayAt} {after : RelayAt × TCPConn × TCPConn}

/-- All that a direction does to its two connections. -/
theorem Steps.touches (steps : Steps n src dst c after) :
    (∃ incoming reads, after.2.1 = { src with incoming, reads }) ∧
      ∃ sent shut, after.2.2 = { dst with sent, shut } := by
  cases steps with
  | read some_bytes wanted => exact ⟨⟨_, _, rfl⟩, _, _, rfl⟩
  | eof finished empty => exact ⟨⟨_, _, rfl⟩, _, _, rfl⟩
  | readFailed broken => exact ⟨⟨_, _, rfl⟩, _, _, rfl⟩
  | wrote => exact ⟨⟨_, _, rfl⟩, _, _, rfl⟩
  | writeFailed k some_sent broken => exact ⟨⟨_, _, rfl⟩, _, _, some_sent⟩
  | CloseWrite =>
    refine ⟨⟨_, _, rfl⟩, ?_⟩
    dsimp only [TCPConn.CloseWrite]
    split_ifs
    · exact ⟨_, _, rfl⟩
    · exact ⟨_, _, rfl⟩

/-- A direction leaves alone what the other one sees, and closes nothing. -/
theorem Steps.kept (steps : Steps n src dst c after) : src.KeptIn after.2.1 ∧ dst.KeptOut after.2.2 ∧
    after.2.1.closed = src.closed ∧ after.2.2.closed = dst.closed := by
  obtain ⟨⟨_, _, src'⟩, _, _, dst'⟩ := steps.touches
  rw [src', dst']
  exact ⟨⟨rfl, rfl, id⟩, ⟨rfl, fun finished => ⟨finished, rfl⟩, id⟩, rfl, rfl⟩

/-- What is left to do for a direction out of a side that sends no more. -/
def rank (incoming : Bytes) : RelayAt → Nat
  | .Read => 2 * incoming.length + 2
  | .Write _ => 2 * incoming.length + 3
  | .CloseWrite _ => 1
  | .Done _ => 0

/-- Every step of a direction brings it closer to its end, and drops nothing that arrived. -/
theorem Steps.lowers (steps : Steps n src dst c after) :
    after.1.rank after.2.1.incoming < c.rank src.incoming ∧ after.2.1.arrived = src.arrived := by
  cases steps with
  | read some_bytes wanted =>
    have arrived := List.length_pos_iff.mpr some_bytes
    refine ⟨?_, ?_⟩
    · simp only [rank, List.length_drop]
      omega
    · simp only [TCPConn.arrived, TCPConn.out, List.flatten_append, List.flatten_singleton]
      rw [List.append_assoc, List.take_append_drop]
  | eof finished empty => exact ⟨by simp only [rank]; omega, rfl⟩
  | readFailed broken => exact ⟨by simp only [rank]; omega, rfl⟩
  | wrote => exact ⟨by simp only [rank]; omega, rfl⟩
  | writeFailed k some_sent broken => exact ⟨by simp only [rank]; omega, rfl⟩
  | CloseWrite => exact ⟨Nat.zero_lt_one, rfl⟩

/-- A direction out of a side that sends no more, into one that reads, never waits. -/
theorem step_isSome (ended : src.Ended) (takes : dst.stalled = false) (working : ∀ err, c ≠ .Done err) :
    (c.step 1 src dst).isSome := by
  cases c with
  | Read =>
    rw [step, Option.isSome_map, TCPConn.Read]
    split_ifs with closed reset some_bytes wanted finished
    · rfl
    · rfl
    · rfl
    · exact absurd Nat.zero_lt_one wanted
    · rfl
    · exact absurd ended (by rw [TCPConn.Ended]; tauto)
  | Write data =>
    rw [step, Option.isSome_map, TCPConn.Write, takes]
    split_ifs with _ _ _ stalled
    · rfl
    · rfl
    · rfl
    · exact stalled.elim
    · rfl
  | CloseWrite err => rfl
  | Done err => exact absurd rfl (working err)

end RelayAt

namespace Relayed

variable {n : Nat} {src dst src' dst' : TCPConn} {c : RelayAt} {after : RelayAt × TCPConn × TCPConn}

theorem connected : Relayed .Read .connected .connected where
  carried := ⟨[], rfl, rfl⟩
  eof ends := absurd ends RelayAt.not_ends_Read
  failed _ ends := absurd ends RelayAt.not_ends_Read
  shut := by simp [TCPConn.connected]

theorem kept (relayed : Relayed c src dst) (out : src.KeptOut src')
    (in_ : dst.KeptIn dst') : Relayed c src' dst' where
  carried := by
    rw [TCPConn.out, TCPConn.piece, out.reads, in_.sent]
    exact relayed.carried
  eof ends := by
    obtain ⟨finished, empty⟩ := relayed.eof ends
    obtain ⟨finished', same⟩ := out.ended finished
    exact ⟨finished', same.trans empty⟩
  failed err ends := (relayed.failed err ends).imp out.reset in_.reset
  shut := by
    rw [in_.shut]
    exact relayed.shut

theorem step (relayed : Relayed c src dst) (openSrc : src.closed = 0) (openDst : dst.closed = 0)
    (steps : RelayAt.Steps n src dst c after) : Relayed after.1 after.2.1 after.2.2 := by
  obtain ⟨⟨rest, carried, there⟩, eof, failed, shut⟩ := relayed
  have unshut (working : ∀ err, c ≠ .Done err) : dst.shut = false := by
    rw [← Bool.not_eq_true, shut]
    rintro ⟨err, done⟩
    exact working err done
  cases steps with
  | read some_bytes wanted =>
    cases there
    rw [List.append_nil] at carried
    have last : TCPConn.piece
      { src with incoming := src.incoming.drop n, reads := src.reads ++ [src.incoming.take n] } =
        src.incoming.take n := by rw [TCPConn.piece, List.getLast?_concat, Option.getD_some]
    refine ⟨⟨src.incoming.take n, ?_, rfl, last.symm⟩, (absurd · RelayAt.not_ends_Write),
      fun _ => (absurd · RelayAt.not_ends_Write), ?_⟩
    · rw [← carried, TCPConn.out, List.flatten_append, List.flatten_singleton]
      rfl
    · simp [unshut nofun]
  | eof finished empty =>
    cases there
    refine ⟨⟨[], carried, fun _ => rfl, List.nil_suffix⟩, fun _ => ⟨finished, empty⟩,
      fun err ends => ?_, ?_⟩
    · cases RelayAt.ends_CloseWrite.mp ends
    · simp [unshut nofun]
  | readFailed broken =>
    cases there
    refine ⟨⟨[], carried, nofun, List.nil_suffix⟩, fun ends => ?_, fun _ _ => ?_, ?_⟩
    · cases RelayAt.ends_CloseWrite.mp ends
    · rcases broken with closed | reset
      · omega
      · exact .inl reset
    · simp [unshut nofun]
  | wrote =>
    obtain ⟨rfl, _⟩ := there
    refine ⟨⟨[], ?_, rfl⟩, (absurd · RelayAt.not_ends_Read),
      fun _ => (absurd · RelayAt.not_ends_Read), ?_⟩
    · rw [carried, List.append_nil]
    · simp [unshut nofun]
  | writeFailed k some_sent broken =>
    obtain ⟨rfl, last⟩ := there
    subst some_sent
    refine ⟨⟨rest.drop k, ?_, nofun, last ▸ List.drop_suffix k rest⟩, fun ends => ?_, fun _ _ => ?_, ?_⟩
    · rw [carried, List.append_assoc, List.take_append_drop]
    · cases RelayAt.ends_CloseWrite.mp ends
    · rcases broken with closed | shut' | reset
      · omega
      · exact absurd (shut'.symm.trans (unshut nofun)) nofun
      · exact .inr reset
    · simp [unshut nofun]
  | CloseWrite =>
    have closes : dst.CloseWrite = { dst with shut := true } := by
      rw [TCPConn.CloseWrite, if_neg (by omega)]
    rw [closes]
    refine ⟨⟨rest, carried, there⟩, fun ends => ?_, fun err ends => ?_, ?_⟩
    · exact eof (RelayAt.ends_CloseWrite.mpr (RelayAt.ends_Done.mp ends))
    · exact failed err (RelayAt.ends_CloseWrite.mpr (RelayAt.ends_Done.mp ends))
    · simp

end Relayed

namespace InputConn

/-- The steps of a connection that is served. -/
inductive Steps (s : InputConn) : InputEvent → InputConn → Prop
  | noMember {dial : Bool} (here : s.main = .tryForward []) :
      Steps s (.main dial) { s with main := .CloseSrc }
  | pass {dial : Bool} {svc : Service} {rest : List Service}
      (here : s.main = .tryForward (svc :: rest)) :
      Steps s (.main dial) { s with main := .tryForward rest, passed := s.passed ++ [svc] }
  | dial {svc : Service} {rest : List Service} (here : s.main = .tryForward (svc :: rest)) :
      Steps s (.main true)
        { s with conn := Function.update s.conn .b .connected, main := .Wait, dst := some svc }
  | Wait {dial : Bool} (here : s.main = .Wait) (done : ∀ side, ∃ err, s.copy side = .Done err) :
      Steps s (.main dial) { s with main := .CloseB }
  | CloseB {dial : Bool} (here : s.main = .CloseB) :
      Steps s (.main dial) { s with conn := s.close .b, main := .CloseA }
  | CloseA {dial : Bool} (here : s.main = .CloseA) :
      Steps s (.main dial) { s with conn := s.close .a, main := .CloseSrc }
  | CloseSrc {dial : Bool} (here : s.main = .CloseSrc) :
      Steps s (.main dial) { s with conn := s.close .a, main := .returned }
  | copy {side : Side} {n : Nat} {c : RelayAt} {src dst : TCPConn} (here : s.main = .Wait)
      (steps : RelayAt.Steps n (s.conn side) (s.conn side.other) (s.copy side) (c, src, dst)) :
      Steps s (.copy side n) { s with
        copy := Function.update s.copy side c,
          conn := Function.update (Function.update s.conn side src) side.other dst }
  | world {side : Side} {e : TCPConn.Event} {c : TCPConn} (there : ¬ (side = .b ∧ s.dst = none))
      (next : (s.conn side).world e = some c) :
        Steps s (.world side e) { s with conn := Function.update s.conn side c }

variable {s s' : InputConn} {e : InputEvent} {cands : List Service}

theorem isDone_iff {c : RelayAt} : isDone c = true ↔ ∃ err, c = .Done err := by
  cases c <;> simp [isDone]

theorem mainStep_steps {dial : Bool} (next : s.mainStep dial = some s') : Steps s (.main dial) s' := by
  unfold mainStep at next
  split at next
  · rename_i here
    obtain rfl := Option.some.inj next
    exact .noMember here
  · rename_i svc rest here
    split at next
    · obtain rfl := Option.some.inj next
      exact .pass here
    · split_ifs at next with dials
      · obtain rfl := Option.some.inj next
        exact dials ▸ .dial here
      · obtain rfl := Option.some.inj next
        exact .pass here
  · rename_i here
    split_ifs at next with done
    obtain rfl := Option.some.inj next
    obtain ⟨doneA, doneB⟩ := Bool.and_eq_true_iff.mp done
    exact .Wait here fun side => isDone_iff.mp (match side with | .a => doneA | .b => doneB)
  · rename_i here
    obtain rfl := Option.some.inj next
    exact .CloseB here
  · rename_i here
    obtain rfl := Option.some.inj next
    exact .CloseA here
  · rename_i here
    obtain rfl := Option.some.inj next
    exact .CloseSrc here
  · contradiction

theorem step_steps (next : s.step e = some s') : Steps s e s' := by
  cases e with
  | main dial => exact mainStep_steps next
  | copy side n =>
    rw [step, copyStep] at next
    split at next
    · rename_i here
      obtain ⟨⟨c, src, dst⟩, moved, rfl⟩ := Option.map_eq_some_iff.mp next
      exact .copy here (RelayAt.step_steps moved)
    · contradiction
  | world side e =>
    rw [step] at next
    split_ifs at next with early
    obtain ⟨c, moved, rfl⟩ := Option.map_eq_some_iff.mp next
    exact .world early moved

/-- Nothing has been dialled, and nothing was read. -/
def Undialled (s : InputConn) : Prop :=
  s.dst = none ∧ (∀ side, s.copy side = .Read) ∧ s.conn .b = .connected

/-- The candidate that is forwarded to is the first that was not passed over. -/
def Dialled (cands : List Service) (s : InputConn) : Prop :=
  ∃ svc rest, s.dst = some svc ∧ cands = s.passed ++ svc :: rest

def BothDone (s : InputConn) : Prop := ∀ side, ∃ err, s.copy side = .Done err

/-- How often the connections were closed. -/
def closes (s : InputConn) : Nat × Nat := ((s.conn .a).closed, (s.conn .b).closed)

/-- What holds where `handleInputConn` is. -/
def Stage (cands : List Service) (s : InputConn) : Prop :=
  match s.main with
  | .tryForward rest => Undialled s ∧ cands = s.passed ++ rest ∧ s.closes = (0, 0)
  | .Wait => Dialled cands s ∧ s.closes = (0, 0)
  | .CloseB => Dialled cands s ∧ BothDone s ∧ s.closes = (0, 0)
  | .CloseA => Dialled cands s ∧ BothDone s ∧ s.closes = (0, 1)
  | .CloseSrc =>
    Dialled cands s ∧ BothDone s ∧ s.closes = (1, 1) ∨ Undialled s ∧
      s.passed = cands ∧ s.closes = (0, 0)
  | .returned =>
    Dialled cands s ∧ BothDone s ∧ s.closes = (2, 1) ∨ Undialled s ∧
      s.passed = cands ∧ s.closes = (1, 0)

theorem Stage.congr (stage : Stage cands s) (main : s'.main = s.main)
    (passed : s'.passed = s.passed) (dst : s'.dst = s.dst) (closes : s'.closes = s.closes)
    (done : BothDone s → BothDone s')
    (undialled : Undialled s → Undialled s') : Stage cands s' := by
  have dialled : Dialled cands s → Dialled cands s' := by
    rw [Dialled, Dialled, passed, dst]
    exact id
  unfold Stage at stage ⊢
  rw [main, closes, passed]
  cases here : s.main <;> rw [here] at stage <;> dsimp only at stage ⊢
  · exact ⟨undialled stage.1, stage.2⟩
  · exact ⟨dialled stage.1, stage.2⟩
  · exact ⟨dialled stage.1, done stage.2.1, stage.2.2⟩
  · exact ⟨dialled stage.1, done stage.2.1, stage.2.2⟩
  · exact stage.imp (fun h => ⟨dialled h.1, done h.2.1, h.2.2⟩) fun h => ⟨undialled h.1, h.2⟩
  · exact stage.imp (fun h => ⟨dialled h.1, done h.2.1, h.2.2⟩) fun h => ⟨undialled h.1, h.2⟩

/-- What a step of one direction makes of the two connections. -/
theorem copied (s : InputConn) (side : Side) (src dst : TCPConn) :
    Function.update (Function.update s.conn side src) side.other dst side = src ∧
      Function.update (Function.update s.conn side src) side.other dst side.other = dst := by
  rw [Function.update_of_ne side.other_ne.symm, Function.update_self, Function.update_self]
  exact ⟨rfl, rfl⟩

theorem closes_update {c : TCPConn} {side : Side} (same : c.closed = (s.conn side).closed)
    (side' : Side) :
    (Function.update s.conn side c side').closed = (s.conn side').closed := by
  by_cases here : side' = side
  · rw [here, Function.update_self, same]
  · rw [Function.update_of_ne here]

theorem closes_close_a :
    ({ s with conn := s.close .a } : InputConn).closes = (s.closes.1 + 1, s.closes.2) := by
  simp [closes, close, TCPConn.Close]

theorem closes_close_b :
    ({ s with conn := s.close .b } : InputConn).closes = (s.closes.1, s.closes.2 + 1) := by
  simp [closes, close, TCPConn.Close]

theorem Stage.step (stage : Stage cands s) (steps : Steps s e s') : Stage cands s' := by
  cases steps with
  | noMember here =>
    rw [Stage, here] at stage
    obtain ⟨undialled, all, closes⟩ := stage
    exact .inr ⟨undialled, (List.append_nil _ ▸ all).symm, closes⟩
  | pass here =>
    rw [Stage, here] at stage
    obtain ⟨undialled, all, closes⟩ := stage
    exact ⟨undialled, by rw [all, List.append_assoc, List.singleton_append], closes⟩
  | dial here =>
    rw [Stage, here] at stage
    obtain ⟨⟨_, _, fresh⟩, all, closes⟩ := stage
    refine ⟨⟨_, _, rfl, all⟩, ?_⟩
    rw [← fresh, Function.update_eq_self]
    exact closes
  | Wait here done =>
    rw [Stage, here] at stage
    exact ⟨stage.1, done, stage.2⟩
  | CloseB here =>
    rw [Stage, here] at stage
    obtain ⟨dialled, done, closes⟩ := stage
    exact ⟨dialled, done, closes_close_b.trans (by rw [closes])⟩
  | CloseA here =>
    rw [Stage, here] at stage
    obtain ⟨dialled, done, closes⟩ := stage
    exact .inl ⟨dialled, done, closes_close_a.trans (by rw [closes])⟩
  | CloseSrc here =>
    rw [Stage, here] at stage
    rcases stage with ⟨dialled, done, closes⟩ | ⟨⟨dst, reading, fresh⟩, all, closes⟩
    · exact .inl ⟨dialled, done, closes_close_a.trans (by rw [closes])⟩
    · refine .inr ⟨⟨dst, reading, ?_⟩, all, closes_close_a.trans (by rw [closes])⟩
      exact (Function.update_of_ne Side.a.other_ne (s.conn .a).Close s.conn).trans fresh
  | copy here steps =>
    rename_i side n c src dst
    obtain ⟨_, _, sameSrc, sameDst⟩ := steps.kept
    have same (side' : Side) :
        (Function.update (Function.update s.conn side src) side.other dst side').closed =
        (s.conn side').closed := by
      rcases side.eq_or_other side' with rfl | rfl
      · rw [(copied ..).1]
        exact sameSrc
      · rw [(copied ..).2]
        exact sameDst
    refine stage.congr rfl rfl rfl (Prod.ext (same .a) (same .b)) ?_ ?_
    · intro done side'
      by_cases mine : side' = side
      · subst mine
        obtain ⟨err, finished⟩ := done side'
        rw [finished] at steps
        cases steps
      · obtain ⟨err, finished⟩ := done side'
        exact ⟨err, (Function.update_of_ne mine ..).trans finished⟩
    · intro undialled
      rw [Stage, here] at stage
      obtain ⟨⟨svc, rest, dialled, _⟩, _⟩ := stage
      exact absurd (undialled.1.symm.trans dialled) nofun
  | world there next =>
    rename_i side e c
    obtain ⟨_, _, same⟩ := TCPConn.world_kept next
    refine stage.congr rfl rfl rfl (Prod.ext (closes_update same .a) (closes_update same .b)) id ?_
    rintro ⟨dst, reading, fresh⟩
    refine ⟨dst, reading, ?_⟩
    have client : Side.b ≠ side := fun member => there ⟨member.symm, dst⟩
    exact (Function.update_of_ne client ..).trans fresh

/-- What every reachable state of a connection that is served keeps. -/
structure Sound (cands : List Service) (s : InputConn) : Prop where
  relayed : ∀ side, Relayed (s.copy side) (s.conn side) (s.conn side.other)
  stage : Stage cands s

theorem relayed_update {side : Side} {c : TCPConn}
    (relayed : ∀ side, Relayed (s.copy side) (s.conn side) (s.conn side.other))
    (out : (s.conn side).KeptOut c) (in_ : (s.conn side).KeptIn c) (side' : Side) :
    Relayed (s.copy side') (Function.update s.conn side c side')
      (Function.update s.conn side c side'.other) := by
  rcases side.eq_or_other side' with rfl | rfl
  · rw [Function.update_self, Function.update_of_ne side'.other_ne]
    exact (relayed side').kept out (.refl _)
  · rw [Side.other_other, Function.update_self, Function.update_of_ne side.other_ne]
    have mine := relayed side.other
    rw [Side.other_other] at mine
    exact mine.kept (.refl _) in_

theorem relayed_close (relayed : ∀ side, Relayed (s.copy side) (s.conn side) (s.conn side.other))
    (side side' : Side) :
    Relayed (s.copy side') (s.close side side') (s.close side side'.other) :=
  relayed_update relayed (TCPConn.Close_kept _).1 (TCPConn.Close_kept _).2 side'

theorem Sound.step (sound : Sound cands s) (steps : Steps s e s') : Sound cands s' := by
  refine ⟨?_, sound.stage.step steps⟩
  obtain ⟨relayed, stage⟩ := sound
  cases steps with
  | noMember here => exact relayed
  | pass here => exact relayed
  | dial here =>
    rw [Stage, here] at stage
    obtain ⟨⟨_, _, fresh⟩, _⟩ := stage
    rw [← fresh, Function.update_eq_self]
    exact relayed
  | Wait here done => exact relayed
  | CloseB here => exact relayed_close relayed .b
  | CloseA here => exact relayed_close relayed .a
  | CloseSrc here => exact relayed_close relayed .a
  | world there next =>
    obtain ⟨out, in_, _⟩ := TCPConn.world_kept next
    exact relayed_update relayed out in_
  | copy here steps =>
    rename_i side n c src dst
    rw [Stage, here] at stage
    obtain ⟨openA, openB⟩ := Prod.ext_iff.mp stage.2
    have opened (side' : Side) : (s.conn side').closed = 0 := by
      cases side'
      · exact openA
      · exact openB
    obtain ⟨in_, out, _⟩ := steps.kept
    intro side'
    rcases side.eq_or_other side' with rfl | rfl
    · simp only [copied, Function.update_self]
      exact (relayed side').step (opened _) (opened _) steps
    · simp only [Side.other_other, copied, Function.update_of_ne side.other_ne]
      have mine := relayed side.other
      rw [Side.other_other] at mine
      exact mine.kept out in_

theorem sound_reachable (reachable : (system cands).Reachable s) : Sound cands s := by
  refine reachable.invariant (Sound cands) ?_ fun s e s' sound next => sound.step (step_steps next)
  rintro _ rfl
  exact ⟨fun _ => .connected, ⟨rfl, fun _ => rfl, rfl⟩, rfl, rfl⟩

/-- At every moment what was written to a side is what was read from the other one, up to what the
last read took. A direction that ended without an error has passed on all that its side ever sent,
and an error is a connection that was reset. The end is passed on when a direction ends, and only
then. -/
theorem relay_carries (reachable : (system cands).Reachable s) (side : Side) :
    (∃ rest, (s.conn side).out = (s.conn side.other).sent ++ rest ∧ rest <:+ (s.conn side).piece ∧
        (s.copy side).Rest (s.conn side).piece rest) ∧
      (s.copy side = .Done none → (s.conn side).finished = true ∧
        (s.conn side.other).sent = (s.conn side).arrived) ∧
      (∀ err, s.copy side = .Done (some err) → (s.conn side).reset = true ∨
        (s.conn side.other).reset = true) ∧
      ((s.conn side.other).shut = true ↔ ∃ err, s.copy side = .Done err) := by
  obtain ⟨carried, eof, failed, shut⟩ := (sound_reachable reachable).relayed side
  have part : ∃ rest, (s.conn side).out = (s.conn side.other).sent ++ rest ∧
    rest <:+ (s.conn side).piece ∧
      (s.copy side).Rest (s.conn side).piece rest := by
    obtain ⟨rest, out, there⟩ := carried
    exact ⟨rest, out, there.suffix, there⟩
  refine ⟨part, fun done => ?_, fun err done => failed err (.inr done), shut⟩
  obtain ⟨finished, empty⟩ := eof (.inr done)
  obtain ⟨rest, out, there⟩ := carried
  rw [done] at there
  rw [TCPConn.arrived, out, empty, there.1 rfl, List.append_nil, List.append_nil]
  exact ⟨finished, rfl⟩

/-- Either some candidate was dialled, or none is yet. -/
theorem Stage.dialled (stage : Stage cands s) :
    Dialled cands s ∧ (s.closes ≠ (0, 0) → BothDone s) ∧ (s.main = .returned → s.closes = (2, 1)) ∨
      Undialled s ∧ (s.main = .returned → s.passed = cands ∧ s.closes = (1, 0)) := by
  cases here : s.main with
  | tryForward rest =>
    rw [Stage, here] at stage
    exact .inr ⟨stage.1, nofun⟩
  | Wait =>
    rw [Stage, here] at stage
    exact .inl ⟨stage.1, fun closed => absurd stage.2 closed, nofun⟩
  | CloseB =>
    rw [Stage, here] at stage
    exact .inl ⟨stage.1, fun _ => stage.2.1, nofun⟩
  | CloseA =>
    rw [Stage, here] at stage
    exact .inl ⟨stage.1, fun _ => stage.2.1, nofun⟩
  | CloseSrc =>
    rw [Stage, here] at stage
    exact stage.imp (fun ⟨dialled, done, _⟩ => ⟨dialled, fun _ => done, nofun⟩)
      fun ⟨undialled, _⟩ => ⟨undialled, nofun⟩
  | returned =>
    rw [Stage, here] at stage
    exact stage.imp (fun ⟨dialled, done, closes⟩ => ⟨dialled, fun _ => done, fun _ => closes⟩)
      fun ⟨undialled, last⟩ =>
      ⟨undialled, fun _ => last⟩

/-- The connection goes to the first candidate that is not passed over. Neither end is closed before
both directions have come to their end, however long one of them stays open, and in the end both are
closed; and where there is no candidate left nothing of what the client sent was read. -/
theorem relay_closes (reachable : (system cands).Reachable s) :
    (∀ svc, s.dst = some svc → ∃ rest, cands = s.passed ++ svc :: rest) ∧
      (s.dst = none → (s.conn .a).out = []) ∧
      (s.dst ≠ none → s.closes ≠ (0, 0) → BothDone s) ∧
      (s.main = .returned → s.dst ≠ none ∧ s.closes = (2, 1) ∨ s.dst = none ∧ s.passed = cands ∧
        s.closes = (1, 0)) := by
  obtain ⟨relayed, stage⟩ := sound_reachable reachable
  rcases stage.dialled with
    ⟨⟨svc, rest, dialled, all⟩, done, closes⟩ | ⟨⟨undialled, reading, fresh⟩, last⟩
  · have some_dst : s.dst ≠ none := by
      rw [dialled]
      exact nofun
    refine ⟨fun svc' dst => ?_, fun none_dst => absurd none_dst some_dst, fun _ => done,
      fun main => .inl ⟨some_dst, closes main⟩⟩
    obtain rfl := Option.some.inj (dialled.symm.trans dst)
    exact ⟨rest, all⟩
  · refine ⟨fun svc dst => absurd (undialled.symm.trans dst) nofun, fun _ => ?_,
      fun some_dst => absurd undialled some_dst, fun main => .inr ⟨undialled, last main⟩⟩
    obtain ⟨rest, out, there⟩ := (relayed .a).carried
    rw [reading] at there
    cases there
    exact out.trans (congrArg (fun c : TCPConn => c.sent ++ []) fresh)

/-! What a fair execution comes to. -/

/-- The direction out of a side that has sent its last. -/
def Ending (side : Side) (all : Bytes) (s : InputConn) : Prop :=
  s.main = .Wait ∧ (s.conn side).Ended ∧ (s.conn side).arrived = all

/-- The direction has ended, after all of these bytes, or the side that it writes to does not read. -/
def Over (side : Side) (all : Bytes) (s : InputConn) : Prop :=
  (∃ err, s.copy side = .Done err) ∧ (s.conn side).arrived = all ∨ (s.conn side.other).stalled = true

def copies (side : Side) : InputEvent → Prop
  | .copy side' _ => side' = side
  | _ => False

def mains : InputEvent → Prop
  | .main _ => True
  | _ => False

/-- The far side of a connection on which it has sent its last cannot change what arrives. -/
theorem world_ended {c c' : TCPConn} {e : TCPConn.Event} (ended : c.Ended) (next : c.world e = some c') :
    c'.Ended ∧ c'.reads = c.reads ∧ c'.incoming = c.incoming := by
  cases e with
  | arrive bytes =>
    rw [TCPConn.world] at next
    split_ifs at next with going
    obtain rfl := Option.some.inj next
    exact absurd ended (by simpa [TCPConn.Ended] using going)
  | finish =>
    obtain rfl := Option.some.inj next
    exact ⟨.inl rfl, rfl, rfl⟩
  | reset =>
    obtain rfl := Option.some.inj next
    exact ⟨.inr rfl, rfl, rfl⟩
  | stall | resume =>
    obtain rfl := Option.some.inj next
    exact ⟨ended, rfl, rfl⟩

theorem ending_leads (side : Side) (all : Bytes) :
    Execution.Leads (system cands) (copies side) (Ending side all) (Over side all)
      (fun s => (s.copy side).rank (s.conn side).incoming) := by
  refine .of_moves ?_ ?_
  · rintro s ⟨here, ended, all_⟩ unfinished
    refine ⟨.copy side 1, rfl, ?_⟩
    have working (err : Option Err) : s.copy side ≠ .Done err :=
      fun done => unfinished (.inl ⟨⟨err, done⟩, all_⟩)
    have takes : (s.conn side.other).stalled = false :=
      Bool.eq_false_of_not_eq_true fun stalled => unfinished (.inr stalled)
    change (s.copyStep side 1).isSome
    rw [copyStep, here]
    dsimp only
    rw [Option.isSome_map]
    exact RelayAt.step_isSome ended takes working
  · rintro s e s' ⟨here, ended, all_⟩ unfinished next
    have ending {s' : InputConn} {c' : TCPConn} (main : s'.main = s.main) (conn : s'.conn side = c')
      (ended' : c'.Ended)
        (arrived : c'.arrived = (s.conn side).arrived) : Ending side all s' := by
      rw [Ending, main, conn, arrived]
      exact ⟨here, ended', all_⟩
    cases step_steps next with
    | Wait _ done => exact absurd (.inl ⟨done side, all_⟩) unfinished
    | copy there steps =>
      rename_i side' n c src dst
      obtain ⟨⟨_, _, src'⟩, _, _, dst'⟩ := steps.touches
      rcases side'.eq_or_other side with rfl | rfl
      · obtain ⟨lower, arrived⟩ := steps.lowers
        obtain rfl := src'
        refine .inr ⟨ending rfl (copied ..).1 ended arrived, .inl ⟨rfl, ?_⟩⟩
        simpa only [copied, Function.update_self] using lower
      · obtain rfl := dst'
        refine .inr ⟨ending rfl (copied ..).2 ended rfl, .inr ⟨fun mine => side'.other_ne mine.symm, ?_⟩⟩
        simp only [copied, Function.update_of_ne side'.other_ne]
    | world there moves =>
      rename_i side' e c
      by_cases mine : side = side'
      · subst mine
        obtain ⟨ended', reads, incoming⟩ := world_ended ended moves
        refine .inr ⟨ending rfl (Function.update_self ..) ended' ?_, .inr ⟨id, ?_⟩⟩
        · rw [TCPConn.arrived, TCPConn.out, reads, incoming]
          rfl
        · simp only [Function.update_self, incoming]
      · refine .inr ⟨ending rfl (Function.update_of_ne mine ..) ended rfl, .inr ⟨id, ?_⟩⟩
        simp only [Function.update_of_ne mine]
    | _ there => exact absurd (here.symm.trans there) nofun

/-- Whatever the other direction does, all that a side sent before its last is written to the other
side, as long as that keeps reading, and then its end is passed on, unless one of the two
connections is reset. -/
theorem relay_delivers {x : Execution (system cands)} {side : Side} (fair : x.Fair (copies side))
    {n : Nat} (serving : (x.state n).main = .Wait) (ended : ((x.state n).conn side).Ended)
    (takes : ∀ m, n ≤ m → ((x.state m).conn side.other).stalled = false) : ∃ m, n ≤ m ∧
    ((∀ side, ((x.state m).conn side).reset = false) →
      ((x.state m).conn side.other).sent = ((x.state n).conn side).arrived ∧
        ((x.state m).conn side.other).shut = true) ∧
    ∃ err, (x.state m).copy side = .Done err := by
  obtain ⟨m, later, finished⟩ :=
    (ending_leads side ((x.state n).conn side).arrived).eventually fair ⟨serving, ended, rfl⟩
  obtain ⟨⟨err, done⟩, all⟩ :=
    finished.resolve_right fun stalled => absurd ((takes m later).symm.trans stalled) nofun
  obtain ⟨_, delivered, failed, shut⟩ := relay_carries (x.reachable m) side
  refine ⟨m, later, fun unbroken => ⟨?_, shut.mpr ⟨err, done⟩⟩, err, done⟩
  cases err with
  | none => exact (delivered done).2.trans all
  | some err =>
    rcases failed err done with broken | broken
    · exact absurd (broken.symm.trans (unbroken _)) nofun
    · exact absurd (broken.symm.trans (unbroken _)) nofun

theorem done_stays {side : Side} (done : ∃ err, s.copy side = .Done err) (steps : Steps s e s') :
    ∃ err, s'.copy side = .Done err := by
  cases steps with
  | copy here steps =>
    rename_i side' n c src dst
    obtain ⟨err, done⟩ := done
    by_cases mine : side = side'
    · subst mine
      rw [done] at steps
      cases steps
    · exact ⟨err, (Function.update_of_ne mine ..).trans done⟩
  | _ => exact done

/-- How many steps of its own `handleInputConn` has yet to make, the directions apart. -/
def mainRank (s : InputConn) : Nat :=
  match s.main with
  | .tryForward cands => cands.length + 5
  | .Wait => 4
  | .CloseB => 3
  | .CloseA => 2
  | .CloseSrc => 1
  | .returned => 0

/-- Some member is dialled, or none can be. -/
def Tried (s : InputConn) : Prop := ∀ cands, s.main ≠ .tryForward cands

theorem main_lowers {dial : Bool} (steps : Steps s (.main dial) s') : s'.mainRank < s.mainRank := by
  cases steps with
  | noMember here => simp [mainRank, here]
  | pass here => simp [mainRank, here]
  | dial here => simp [mainRank, here]
  | Wait here done => simp [mainRank, here]
  | CloseB here => simp [mainRank, here]
  | CloseA here => simp [mainRank, here]
  | CloseSrc here => simp [mainRank, here]

theorem others_keep (steps : Steps s e s') (foreign : ¬ mains e) : s'.main = s.main := by
  cases steps with
  | copy here steps => rfl
  | world there moves => rfl
  | _ => exact absurd trivial foreign

/-- `handleInputConn` can always go on, unless it waits for a direction. -/
theorem main_isSome (unfinished : s.main ≠ .returned) (done : s.main = .Wait → BothDone s) :
    Execution.Enabled (system cands) mains s := by
  refine ⟨.main true, trivial, ?_⟩
  change (s.mainStep true).isSome
  unfold mainStep
  split
  · rfl
  · split <;> rfl
  · rename_i here
    rw [isDone_iff.mpr (done here .a), isDone_iff.mpr (done here .b)]
    rfl
  · rfl
  · rfl
  · rfl
  · rename_i returned
    exact absurd returned unfinished

/-- From `P`, which the others keep, the main goroutine comes to `Q`. -/
theorem main_leads {P Q : InputConn → Prop}
    (enabled : ∀ s, P s → ¬ Q s → s.main ≠ .returned ∧ (s.main = .Wait → BothDone s))
    (keeps : ∀ s e s', P s → ¬ Q s → Steps s e s' → Q s' ∨ P s') :
    Execution.Leads (system cands) mains P Q mainRank := by
  refine .of_moves
    (fun s holds already => main_isSome (enabled s holds already).1 (enabled s holds already).2) ?_
  intro s e s' holds already next
  have steps := step_steps next
  refine (keeps s e s' holds already steps).imp id fun holds' => ⟨holds', ?_⟩
  by_cases own : mains e
  · cases e with
    | main dial => exact .inl ⟨own, main_lowers steps⟩
    | copy side n => exact absurd own id
    | world side e => exact absurd own id
  · exact .inr ⟨own, by rw [mainRank, mainRank, others_keep steps own]⟩

theorem tried_stays (tried : Tried s) (steps : Steps s e s') : Tried s' := by
  cases steps with
  | noMember here => exact absurd here (tried _)
  | pass here => exact absurd here (tried _)
  | dial here => exact nofun
  | Wait here done => exact nofun
  | CloseB here => exact nofun
  | CloseA here => exact nofun
  | CloseSrc here => exact nofun
  | copy here steps => exact tried
  | world there moves => exact tried

/-- Only the main goroutine has something left to do. -/
def Ready (s : InputConn) : Prop := Tried s ∧ (s.main = .Wait → BothDone s)

theorem ready_stays (ready : Ready s) (steps : Steps s e s') : Ready s' := by
  obtain ⟨tried, done⟩ := ready
  refine ⟨tried_stays tried steps, fun main side => ?_⟩
  cases steps with
  | dial here => exact absurd here (tried _)
  | copy here moves => exact done_stays (done here side) (.copy here moves)
  | world there moves => exact done main side
  | _ => exact absurd main nofun

/-- Once both sides of every dialled connection have sent their last and keep reading, or where no
member can be dialled, the handler returns with its connections closed. -/
theorem relay_returns {x : Execution (system cands)} (copying : ∀ side, x.Fair (copies side))
    (fair : x.Fair mains)
    (ends : ∀ n, (x.state n).main = .Wait → ∃ m, n ≤ m ∧ ∀ side, ((x.state m).conn side).Ended ∧
      ∀ k, m ≤ k → ((x.state k).conn side).stalled = false) :
    ∃ m, (x.state m).main = .returned ∧ 0 < ((x.state m).conn .a).closed ∧
      ((x.state m).dst ≠ none → 0 < ((x.state m).conn .b).closed) := by
  have keeps {P : InputConn → Prop} (stays : ∀ {s e s'}, P s → Steps s e s' → P s') {n m : Nat}
      (later : n ≤ m) (now : P (x.state n)) : P (x.state m) :=
    Execution.always (P := P) (x := x)
      (fun s e s' holds next => stays holds (step_steps next)) later now
  -- the members are tried one after the other
  obtain ⟨n, _, tried⟩ : ∃ n, 0 ≤ n ∧ Tried (x.state n) := by
    have leads : Execution.Leads (system cands) mains (fun _ => True) Tried mainRank := by
      refine main_leads (fun s _ untried => ?_) fun _ _ _ _ _ _ => .inr trivial
      obtain ⟨cands, here⟩ := not_forall_not.mp untried
      rw [here]
      exact ⟨nofun, nofun⟩
    exact leads.eventually fair trivial
  -- both directions end, where there are any
  obtain ⟨n, ready⟩ : ∃ n, Ready (x.state n) := by
    by_cases dialled : (x.state n).main = .Wait
    · obtain ⟨k, later, ended⟩ := ends n dialled
      have tried' : Tried (x.state k) := keeps tried_stays later tried
      by_cases serving : (x.state k).main = .Wait
      · obtain ⟨m, after, _, doneA⟩ := relay_delivers (copying .a) serving (ended .a).1 (ended .b).2
        obtain ⟨m', after', _, doneB⟩ := relay_delivers (copying .b) serving (ended .b).1 (ended .a).2
        refine ⟨max m m', keeps tried_stays (Nat.le_trans after (Nat.le_max_left ..)) tried',
          fun _ side => ?_⟩
        cases side with
        | a => exact keeps done_stays (Nat.le_max_left ..) doneA
        | b => exact keeps done_stays (Nat.le_max_right ..) doneB
      · exact ⟨k, tried', fun main => absurd main serving⟩
    · exact ⟨n, tried, fun main => absurd main dialled⟩
  -- and the main goroutine closes what it opened
  have leads : Execution.Leads (system cands) mains Ready (fun s => s.main = .returned) mainRank :=
    main_leads (fun s ready unfinished => ⟨unfinished, ready.2⟩) fun s e s' ready _ steps =>
      .inr (ready_stays ready steps)
  obtain ⟨m, _, returned⟩ := leads.eventually fair ready
  obtain ⟨_, _, _, closed⟩ := relay_closes (x.reachable m)
  rcases closed returned with ⟨_, both⟩ | ⟨undialled, _, one⟩
  · obtain ⟨twice, once⟩ := Prod.ext_iff.mp both
    exact ⟨m, returned, Nat.lt_of_lt_of_eq Nat.two_pos twice.symm,
      fun _ => Nat.lt_of_lt_of_eq Nat.one_pos once.symm⟩
  · obtain ⟨once, _⟩ := Prod.ext_iff.mp one
    exact ⟨m, returned, Nat.lt_of_lt_of_eq Nat.one_pos once.symm,
      fun dialled => absurd undialled dialled⟩

def memberAt (id : Nat) (port : String) : Service :=
  ⟨id, Registry.tunnelOf "" "" port, .server ⟨.tcp, "127.0.0.1:" ++ port⟩⟩

def members : List Service := [memberAt 1 "7001", memberAt 2 "7002"]

/-- The first member refuses. The client sends three bytes and no more, the second member, which
does not read at first, answers with one byte much later and then closes, and the handler closes
both connections. -/
def halfClosed : List InputEvent :=
  [.world .a (.arrive [1, 2, 3]), .main false, .main true, .world .b .stall, .copy .a 2,
    .world .a .finish, .world .b .resume,
    .copy .a 8, .copy .a 8, .copy .a 8, .copy .a 8, .copy .a 8, .world .b (.arrive [9]),
      .copy .b 8, .copy .b 8,
    .world .b .finish, .copy .b 8, .copy .b 8, .main true, .main true, .main true, .main true]

theorem halfClosed_played :
    ∃ s, (system members).play (fun _ _ => true) halfClosed (accepted members) = some s ∧
    s.main = .returned ∧ s.dst = some (memberAt 2 "7002") ∧ s.copy .a = .Done none ∧
    (s.conn .a).finished = true ∧ (s.conn .b).finished = true ∧ (s.conn .a).sent = [9] ∧
      (s.conn .b).sent = [1, 2, 3] := by
  have played : ((system members).play (fun _ _ => true) halfClosed (accepted members)).any (fun s =>
      decide (s.main = .returned ∧ s.dst = some (memberAt 2 "7002") ∧ s.copy .a = .Done none ∧
        (s.conn .a).finished = true ∧ (s.conn .b).finished = true ∧ (s.conn .a).sent = [9] ∧
          (s.conn .b).sent = [1, 2, 3])) = true := by
    decide
  obtain ⟨s, reached, sees⟩ := (Option.any_eq_true _ _).mp played
  exact ⟨s, reached, of_decide_eq_true sees⟩

theorem relay_carries_halfClosed : ∃ s, (system members).Reachable s ∧ (s.conn .b).sent = [1, 2, 3] ∧
    (s.conn .b).sent = (s.conn .a).arrived := by
  obtain ⟨s, played, _, _, done, _, _, _, sent⟩ := halfClosed_played
  have reachable : (system members).Reachable s := .of_play rfl played
  exact ⟨s, reachable, sent, ((relay_carries reachable .a).2.1 done).2⟩

theorem relay_closes_halfClosed : ∃ s, (system members).Reachable s ∧ s.main = .returned ∧
    ∃ rest, members = s.passed ++ memberAt 2 "7002" :: rest := by
  obtain ⟨s, played, returned, dst, _⟩ := halfClosed_played
  have reachable : (system members).Reachable s := .of_play rfl played
  exact ⟨s, reachable, returned, (relay_closes reachable).1 _ dst⟩

def served : Execution (system members) :=
  .ofEvents (system members) (accepted members) rfl halfClosed (by
    obtain ⟨s, played, _⟩ := halfClosed_played
    exact Option.isSome_of_eq_some played)

theorem served_fair {mine : InputEvent → Prop}
    (own : ∀ e, mine e → ∀ side e', e ≠ .world side e') : served.Fair mine := by
  obtain ⟨s, played, returned, _⟩ := halfClosed_played
  refine Execution.fair_ofEvents played ?_
  rintro ⟨e, member, moves⟩
  cases e with
  | main dial => simp [system, step, mainStep, returned] at moves
  | copy side n => simp [system, step, copyStep, returned] at moves
  | world side e => exact own _ member side e rfl

theorem served_copying (side : Side) : served.Fair (copies side) :=
  served_fair fun e member side' e' world => by
    rw [world] at member
    exact member

/-- From its seventh event on everybody reads. -/
theorem served_takes {m : Nat} (later : 7 ≤ m) (side : Side) :
    ((served.state m).conn side).stalled = false := by
  have reads : ((served.state m).conn .a).stalled = false ∧
      ((served.state m).conn .b).stalled = false := by
    rcases Nat.lt_or_ge m halfClosed.length with inside | past
    · have each : ∀ m < 22, 7 ≤ m → ((served.state m).conn .a).stalled = false ∧
          ((served.state m).conn .b).stalled = false := by
        decide
      exact each m inside later
    · have played : (system members).play (fun _ _ => true) halfClosed (accepted members) =
          some (served.state 22) := by
        obtain ⟨s, played, _⟩ := halfClosed_played
        rw [show served.state 22 = s from Execution.ofEvents_last played (Nat.le_refl 22)]
        exact played
      rw [show served.state m = served.state 22 from Execution.ofEvents_last played past]
      decide
  cases side
  · exact reads.1
  · exact reads.2

theorem relay_delivers_halfClosed : ∃ m, 7 ≤ m ∧ ∃ err, (served.state m).copy .a = .Done err := by
  have serving : (served.state 7).main = .Wait := by decide
  have ended : ((served.state 7).conn .a).finished = true := by decide
  obtain ⟨m, later, _, done⟩ :=
    relay_delivers (served_copying .a) serving (.inl ended) fun m later => served_takes later .b
  exact ⟨m, later, done⟩

theorem relay_returns_halfClosed : ∃ m, (served.state m).main = .returned := by
  have fair : served.Fair mains := served_fair fun e member side e' world => by
    rw [world] at member
    exact member
  obtain ⟨m, returned, _⟩ := relay_returns served_copying fair fun n _ => by
    obtain ⟨s, played, _, _, _, finishedA, finishedB, _⟩ := halfClosed_played
    have last : served.state (n + halfClosed.length) = s :=
      Execution.ofEvents_last played (Nat.le_add_left ..)
    refine ⟨n + halfClosed.length, Nat.le_add_right ..,
      fun side => ⟨.inl ?_, fun k after => served_takes ?_ side⟩⟩
    · rw [last]
      cases side
      · exact finishedA
      · exact finishedB
    · exact Nat.le_trans (Nat.le_trans (by decide : 7 ≤ halfClosed.length) (Nat.le_add_left ..)) after
  exact ⟨m, returned⟩

end InputConn

end Gotun.Tun
