import Gotun.Lib.System
import Mathlib.Data.List.Basic
import Mathlib.Data.List.Count

/-! `tun/output.go` and `tun/output_stream_maker_container.go`: the pool of stream makers of an output.
Makers are numbered in the order in which they are made, and the waiting loop of `getStream` may look
at the slots in any order. -/

namespace Gotun.Tun

open Gotun.Lib

/-- A slot of the pool; `puts` counts the makers that were put into it. -/
structure streamMakerContainer where
  maker : Option Nat
  creating : Bool
  closed : Bool
  puts : Nat
  deriving DecidableEq, Repr

def streamMakerContainer.SetMaker (w : streamMakerContainer)
    (m : Option Nat) : streamMakerContainer where
  maker := m
  creating := if m = none then false else w.creating
  closed := w.closed
  puts := if m = none then w.puts else w.puts + 1

/-- A call of `getStream`; `left` are the turns of its loop that are left. -/
inductive StreamCall where
  | getStreamMaker (left : Nat)
  | poolIdxAdd (idx : Int) (left : Nat)
  | GetMaker (idx : Int) (left : Nat)
  | TryStartCreate (slot left : Nat)
  | CompareAndSwap (slot left : Nat)
  | waitStreamMakerCreated
  /-- `puts` is what the slot counted when the maker was got. -/
  | OpenStream (slot maker puts : Nat)
  | invalidateMaker (slot maker puts : Nat)
  | returned
  deriving DecidableEq, Repr

/-- The goroutine that `TryStartCreate` has started. -/
inductive Creation where
  | started
  | waitCreateStreamMaker
  | SetMaker (m : Option Nat)
  | deferred
  | ended
  deriving DecidableEq, Repr

/-- The function that was given to `TryStartCreate` is running. -/
def Creation.running : Creation → Bool
  | .waitCreateStreamMaker | .SetMaker _ => true
  | .started | .deferred | .ended => false

/-- `Output.Run`, with the makers so far. -/
inductive PoolRun where
  | notCalled
  | creating (makers : List (Option Nat))
  | returned
  deriving DecidableEq, Repr

/-- `Output.Close`: the pool that it ranges over has `n` slots, and `k` is the next. -/
inductive PoolClose where
  | notCalled
  | called
  | slot (k n : Nat)
  | marked (k n : Nat)
  | returned (n : Nat)
  deriving DecidableEq, Repr

structure StreamPool where
  poolNum : Nat
  poolIdx : Int32
  makerPools : List streamMakerContainer
  close : Bool
  running : PoolRun
  closing : PoolClose
  calls : List StreamCall
  creations : List (Nat × Creation)
  next : Nat
  /-- The makers that the other side has closed, or that have expired. -/
  down : List Nat
  /-- The makers that were closed here. -/
  shut : List Nat
  /-- For each invalidation, the maker that failed and the one that was closed. -/
  invalidated : List (Nat × Option Nat)
  deriving DecidableEq, Repr

/-- The index that an iteration of `getStreamMaker` computes; the remainder has the sign of the
counter. -/
def slotIndex (poolIdx : Int32) (poolNum : Nat) : Int := poolIdx.toInt.tmod poolNum

/-- The steps of the goroutines; a dial and an `OpenStream` succeed or fail. -/
inductive PoolEvent where
  | Run
  | runDial (ok : Bool)
  | runPublish
  | getStream
  | poolIdxLoad (call : Nat)
  | poolIdxAdd (call : Nat)
  | GetMaker (call slot : Nat)
  | loopEnds (call : Nat)
  | timeout (call : Nat)
  | loadClosed (call : Nat)
  | compareAndSwap (call : Nat)
  | OpenStream (call : Nat) (ok : Bool)
  | invalidateMaker (call : Nat)
  | start (creation : Nat)
  | dial (creation : Nat) (ok : Bool)
  | SetMaker (creation : Nat)
  | leave (creation : Nat)
  | goDown (maker : Nat)
  | Close
  | range
  | storeClosed
  | emptySlot
  deriving DecidableEq, Repr

/-- The slot and the maker that a call uses, with what the slot counted then. -/
def StreamCall.uses : StreamCall → Option (Nat × Nat × Nat)
  | .OpenStream slot m puts | .invalidateMaker slot m puts => some (slot, m, puts)
  | _ => none

namespace StreamPool

def initial (poolNum : Nat) : StreamPool :=
  ⟨poolNum, 0, [], false, .notCalled, .notCalled, [], [], 0, [], [], []⟩

def makerOf (s : StreamPool) (slot : Nat) : Option Nat :=
  s.makerPools[slot]?.bind streamMakerContainer.maker

/-- The maker of the slot is closed, and replaced. -/
def setMaker (s : StreamPool) (slot : Nat) (m : Option Nat) : StreamPool :=
  { s with
    makerPools := s.makerPools.modify slot fun w => w.SetMaker m
    shut := s.shut ++ (s.makerOf slot).toList }

def setCall (s : StreamPool) (call : Nat) (c : StreamCall) : StreamPool :=
  { s with calls := s.calls.set call c }

def setCreation (s : StreamPool) (creation slot : Nat) (c : Creation) : StreamPool :=
  { s with creations := s.creations.set creation (slot, c) }

/-- `GetMaker`: the maker of the slot if it can be used. -/
def GetMaker (s : StreamPool) (slot : Nat) : Option Nat :=
  (s.makerOf slot).filter fun m => m ∉ s.down ∧ m ∉ s.shut

/-- A dial that fails is given up when the output is closed. -/
def dialed (s : StreamPool) : Bool → Option (Option Nat)
  | true => some (some s.next)
  | false => if s.close then some none else none

def step (s : StreamPool) : PoolEvent → Option StreamPool
  | .Run => match s.running with
    | .notCalled => some { s with running := .creating [] }
    | _ => none
  | .runDial ok => match s.running with
    | .creating makers =>
      if makers.length < s.poolNum then match s.dialed ok with
        | some m =>
          some { s with running := .creating (makers ++ [m]), next := s.next + m.toList.length }
        | none => some s
      else none
    | _ => none
  | .runPublish => match s.running with
    | .creating makers =>
      if makers.length = s.poolNum then some { s with
        running := .returned
        makerPools := makers.map fun m => ⟨m, false, false, 0⟩ }
      else none
    | _ => none
  | .getStream =>
    if s.poolNum = 0 then some s
    else some { s with calls := s.calls ++ [.getStreamMaker s.poolNum] }
  | .poolIdxLoad call => match s.calls[call]? with
    | some (.getStreamMaker (left + 1)) =>
      some (s.setCall call (.poolIdxAdd (slotIndex s.poolIdx s.poolNum) left))
    | _ => none
  | .poolIdxAdd call => match s.calls[call]? with
    | some (.poolIdxAdd idx left) =>
      some { s.setCall call (.GetMaker idx left) with poolIdx := s.poolIdx + 1 }
    | _ => none
  -- an index outside of the pool has no step: the code panics
  | .GetMaker call slot => match s.calls[call]?, s.makerPools[slot]? with
    | some (.GetMaker idx left), some w =>
      if idx = slot then match s.GetMaker slot with
        | some m => some (s.setCall call (.OpenStream slot m w.puts))
        | none => some (s.setCall call (.TryStartCreate slot left))
      else none
    | some .waitStreamMakerCreated, some w => match s.GetMaker slot with
      | some m => some (s.setCall call (.OpenStream slot m w.puts))
      | none => some s
    | _, _ => none
  | .loopEnds call => match s.calls[call]? with
    | some (.getStreamMaker 0) => some (s.setCall call .waitStreamMakerCreated)
    | _ => none
  | .timeout call => match s.calls[call]? with
    | some .waitStreamMakerCreated => some (s.setCall call .returned)
    | _ => none
  | .loadClosed call => match s.calls[call]? with
    | some (.TryStartCreate slot left) =>
      if s.makerPools[slot]?.any (·.closed) then some (s.setCall call (.getStreamMaker left))
      else some (s.setCall call (.CompareAndSwap slot left))
    | _ => none
  | .compareAndSwap call => match s.calls[call]? with
    | some (.CompareAndSwap slot left) => match s.makerPools[slot]? with
      | some w =>
        if w.creating then some (s.setCall call (.getStreamMaker left))
        else some { s.setCall call (.getStreamMaker left) with
          makerPools := s.makerPools.modify slot fun w => { w with creating := true }
          creations := s.creations ++ [(slot, .started)] }
      | none => none
    | _ => none
  | .OpenStream call ok => match s.calls[call]? with
    | some (.OpenStream slot m puts) =>
      if ok then if m ∈ s.shut then none else some (s.setCall call .returned)
      else some (s.setCall call (.invalidateMaker slot m puts))
    | _ => none
  | .invalidateMaker call => match s.calls[call]? with
    | some (.invalidateMaker slot m _) => some { (s.setMaker slot none).setCall call .returned with
        invalidated := s.invalidated ++ [(m, s.makerOf slot)] }
    | _ => none
  | .start creation => match s.creations[creation]? with
    | some (slot, .started) =>
      if s.makerPools[slot]?.any (·.closed) then some (s.setCreation creation slot .deferred)
      else some (s.setCreation creation slot .waitCreateStreamMaker)
    | _ => none
  | .dial creation ok => match s.creations[creation]? with
    | some (slot, .waitCreateStreamMaker) => match s.dialed ok with
      | some m =>
        some { s.setCreation creation slot (.SetMaker m) with next := s.next + m.toList.length }
      | none => some s
    | _ => none
  | .SetMaker creation => match s.creations[creation]? with
    | some (slot, .SetMaker m) => some ((s.setMaker slot m).setCreation creation slot .deferred)
    | _ => none
  | .leave creation => match s.creations[creation]? with
    | some (slot, .deferred) => some { s.setCreation creation slot .ended with
        makerPools := s.makerPools.modify slot fun w => { w with creating := false } }
    | _ => none
  | .goDown maker => some { s with down := s.down ++ [maker] }
  | .Close => match s.closing with
    | .notCalled => some { s with closing := .called, close := true }
    | _ => none
  | .range => match s.closing with
    | .called => some { s with closing := .slot 0 s.makerPools.length }
    | _ => none
  | .storeClosed => match s.closing with
    | .slot k n =>
      if k < n then some { s with
        closing := .marked k n
        makerPools := s.makerPools.modify k fun w => { w with closed := true } }
      else some { s with closing := .returned n }
    | _ => none
  | .emptySlot => match s.closing with
    | .marked k n => some { s with
        closing := .slot (k + 1) n
        makerPools := s.makerPools.modify k fun w => { w with maker := none }
        shut := s.shut ++ (s.makerOf k).toList }
    | _ => none

def system : System StreamPool PoolEvent where
  start s := ∃ poolNum, s = initial poolNum
  step := step

theorem starts_initial (poolNum : Nat) : system.start (initial poolNum) := ⟨poolNum, rfl⟩

/-! What a step can do. -/

/-- What a step changes, with what it found. -/
inductive Stepped (s : StreamPool) : PoolEvent → StreamPool → Prop
  | unchanged (e : PoolEvent) : Stepped s e s
  | runs (at_ : s.running = .notCalled) : Stepped s .Run { s with running := .creating [] }
  | runDials {makers : List (Option Nat)} {ok : Bool} {m : Option Nat}
      (at_ : s.running = .creating makers)
      (dialed : s.dialed ok = some m) :
      Stepped s (.runDial ok)
        { s with running := .creating (makers ++ [m]), next := s.next + m.toList.length }
  | publishes {makers : List (Option Nat)} (at_ : s.running = .creating makers)
      (full : makers.length = s.poolNum) :
      Stepped s .runPublish { s with
        running := .returned
        makerPools := makers.map fun m => ⟨m, false, false, 0⟩ }
  | calls : Stepped s .getStream { s with calls := s.calls ++ [.getStreamMaker s.poolNum] }
  | gets {call slot m : Nat} {w : streamMakerContainer} (there : s.makerPools[slot]? = some w)
      (got : s.GetMaker slot = some m) :
        Stepped s (.GetMaker call slot) (s.setCall call (.OpenStream slot m w.puts))
  | counts {call left : Nat} {idx : Int} (at_ : s.calls[call]? = some (.poolIdxAdd idx left)) :
      Stepped s (.poolIdxAdd call) { s.setCall call (.GetMaker idx left) with poolIdx := s.poolIdx + 1 }
  | moves {e : PoolEvent} (call : Nat) {c : StreamCall} (without : c.uses = none) :
      Stepped s e (s.setCall call c)
  | swaps {call slot left : Nat} {w : streamMakerContainer}
      (at_ : s.calls[call]? = some (.CompareAndSwap slot left))
      (there : s.makerPools[slot]? = some w) (free : w.creating = false) :
      Stepped s (.compareAndSwap call) { s.setCall call (.getStreamMaker left) with
        makerPools := s.makerPools.modify slot fun w => { w with creating := true }
        creations := s.creations ++ [(slot, .started)] }
  | fails {call slot m puts : Nat} (at_ : s.calls[call]? = some (.OpenStream slot m puts)) :
      Stepped s (.OpenStream call false) (s.setCall call (.invalidateMaker slot m puts))
  | invalidates {call slot m puts : Nat} (at_ : s.calls[call]? = some (.invalidateMaker slot m puts)) :
      Stepped s (.invalidateMaker call) { (s.setMaker slot none).setCall call .returned with
        invalidated := s.invalidated ++ [(m, s.makerOf slot)] }
  | starts {creation slot : Nat} (at_ : s.creations[creation]? = some (slot, .started)) {c : Creation}
      (after : c = .deferred ∨ c = .waitCreateStreamMaker) :
        Stepped s (.start creation) (s.setCreation creation slot c)
  | dials {creation slot : Nat} {ok : Bool} {m : Option Nat}
      (at_ : s.creations[creation]? = some (slot, .waitCreateStreamMaker))
      (dialed : s.dialed ok = some m) :
      Stepped s (.dial creation ok)
        { s.setCreation creation slot (.SetMaker m) with next := s.next + m.toList.length }
  | sets {creation slot : Nat} {m : Option Nat}
      (at_ : s.creations[creation]? = some (slot, .SetMaker m)) :
      Stepped s (.SetMaker creation) ((s.setMaker slot m).setCreation creation slot .deferred)
  | leaves {creation slot : Nat} (at_ : s.creations[creation]? = some (slot, .deferred)) :
      Stepped s (.leave creation) { s.setCreation creation slot .ended with
        makerPools := s.makerPools.modify slot fun w => { w with creating := false } }
  | goesDown (maker : Nat) : Stepped s (.goDown maker) { s with down := s.down ++ [maker] }
  | closes (at_ : s.closing = .notCalled) : Stepped s .Close { s with closing := .called, close := true }
  | ranges (at_ : s.closing = .called) :
      Stepped s .range { s with closing := .slot 0 s.makerPools.length }
  | marks {k n : Nat} (at_ : s.closing = .slot k n) (more : k < n) : Stepped s .storeClosed { s with
        closing := .marked k n
        makerPools := s.makerPools.modify k fun w => { w with closed := true } }
  | walked {k n : Nat} (at_ : s.closing = .slot k n) (last : ¬ k < n) :
      Stepped s .storeClosed { s with closing := .returned n }
  | empties {k n : Nat} (at_ : s.closing = .marked k n) : Stepped s .emptySlot { s with
        closing := .slot (k + 1) n
        makerPools := s.makerPools.modify k fun w => { w with maker := none }
        shut := s.shut ++ (s.makerOf k).toList }

theorem stepped {s s' : StreamPool} {e : PoolEvent} (next : s.step e = some s') : Stepped s e s' := by
  cases e with
  | Run =>
    simp only [step] at next
    split at next
    · rename_i at_
      cases next
      exact .runs at_
    · contradiction
  | runDial ok =>
    simp only [step] at next
    split at next
    · rename_i makers at_
      split_ifs at next
      split at next
      · rename_i m dialed
        cases next
        exact .runDials at_ dialed
      · cases next
        exact .unchanged _
    · contradiction
  | runPublish =>
    simp only [step] at next
    split at next
    · rename_i makers at_
      split_ifs at next with full
      cases next
      exact .publishes at_ full
    · contradiction
  | getStream =>
    simp only [step] at next
    split_ifs at next
    · cases next
      exact .unchanged _
    · cases next
      exact .calls
  | poolIdxLoad call =>
    simp only [step] at next
    split at next
    · cases next
      exact .moves call rfl
    · contradiction
  | poolIdxAdd call =>
    simp only [step] at next
    split at next
    · rename_i idx left at_
      cases next
      exact .counts at_
    · contradiction
  | GetMaker call slot =>
    simp only [step] at next
    split at next
    · rename_i idx left w at_ there
      split_ifs at next
      split at next
      · rename_i m got
        cases next
        exact .gets there got
      · cases next
        exact .moves call rfl
    · rename_i w at_ there
      split at next
      · rename_i m got
        cases next
        exact .gets there got
      · cases next
        exact .unchanged _
    · contradiction
  | loopEnds call =>
    simp only [step] at next
    split at next
    · cases next
      exact .moves call rfl
    · contradiction
  | timeout call =>
    simp only [step] at next
    split at next
    · cases next
      exact .moves call rfl
    · contradiction
  | loadClosed call =>
    simp only [step] at next
    split at next
    · split_ifs at next
      · cases next
        exact .moves call rfl
      · cases next
        exact .moves call rfl
    · contradiction
  | compareAndSwap call =>
    simp only [step] at next
    split at next
    · rename_i slot left at_
      split at next
      · rename_i w there
        split_ifs at next with busy
        · cases next
          exact .moves call rfl
        · cases next
          exact .swaps at_ there (Bool.eq_false_iff.mpr busy)
      · contradiction
    · contradiction
  | OpenStream call ok =>
    simp only [step] at next
    split at next
    · rename_i slot m puts at_
      cases ok with
      | true =>
        simp only [if_true] at next
        split_ifs at next
        cases next
        exact .moves call rfl
      | false =>
        cases next
        exact .fails at_
    · contradiction
  | invalidateMaker call =>
    simp only [step] at next
    split at next
    · rename_i slot m puts at_
      cases next
      exact .invalidates at_
    · contradiction
  | start creation =>
    simp only [step] at next
    split at next
    · rename_i slot at_
      split_ifs at next
      · cases next
        exact .starts at_ (.inl rfl)
      · cases next
        exact .starts at_ (.inr rfl)
    · contradiction
  | dial creation ok =>
    simp only [step] at next
    split at next
    · rename_i slot at_
      split at next
      · rename_i m dialed
        cases next
        exact .dials at_ dialed
      · cases next
        exact .unchanged _
    · contradiction
  | SetMaker creation =>
    simp only [step] at next
    split at next
    · rename_i slot m at_
      cases next
      exact .sets at_
    · contradiction
  | leave creation =>
    simp only [step] at next
    split at next
    · rename_i slot at_
      cases next
      exact .leaves at_
    · contradiction
  | goDown maker =>
    cases next
    exact .goesDown maker
  | Close =>
    simp only [step] at next
    split at next
    · rename_i at_
      cases next
      exact .closes at_
    · contradiction
  | range =>
    simp only [step] at next
    split at next
    · rename_i at_
      cases next
      exact .ranges at_
    · contradiction
  | storeClosed =>
    simp only [step] at next
    split at next
    · rename_i k n at_
      split_ifs at next with more
      · cases next
        exact .marks at_ more
      · cases next
        exact .walked at_ more
    · contradiction
  | emptySlot =>
    simp only [step] at next
    split at next
    · rename_i k n at_
      cases next
      exact .empties at_
    · contradiction

end StreamPool

end Gotun.Tun
