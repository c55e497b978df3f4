import Gotun.Core.Pipe
import Gotun.Lib.Chan
import Gotun.Lib.Endpoint
import Gotun.Lib.System

/-! `Pipe` of `core/pipe.go` statement by statement: the two copying goroutines and the idle monitor,
interleaved with each other, with the far sides of both streams and with time. -/

namespace Gotun.Core
open Gotun.Lib

/-- Where a goroutine is: in `unidirectionalStream`, or in what follows on its result. -/
inductive CopyAt where
  | Read
  | activityCallback (data : Bytes) (er : Option Err)
  | Write (data : Bytes) (er : Option Err)
  | SetReadDeadline (err : Option Err)
  | results (err : Option Err)
  | sent (err : Option Err)
  deriving DecidableEq, Repr

/-- One call of `unidirectionalStream`, with the results that its reads and its writes had. -/
structure Copying where
  at_ : CopyAt
  written : Int
  passed : List Bytes
  reads : List (Bytes × Option Err)
  writes : List (Int × Option Err)
  deriving DecidableEq, Repr

inductive Direction where
  | main
  | goroutine
  deriving DecidableEq, Repr

/-- What all goroutines of the call see. `ends` records in which order they sent their results. -/
structure PipeVars where
  clock : Nat
  lastActivity : Nat
  results : Chan (Option Err)
  ends : List (Direction × Option Err)
  deriving DecidableEq, Repr

namespace Copying

def start : Copying := ⟨.Read, 0, [], [], []⟩

/-- A read that has returned. -/
def read {σ : Type} (c : Copying) (r : ReadRes σ) : Copying :=
  { c with
    reads := c.reads ++ [(r.data, r.err)]
    at_ := if 0 < r.data.length then .activityCallback r.data r.err else match r.err with
      | some er => .SetReadDeadline (readEnd er)
      | none => .Read }

/-- Where the loop goes after a write. -/
def afterWrite (data : Bytes) (er : Option Err) (nw : Int) : Option Err → CopyAt
  | some ew => .SetReadDeadline (some ew)
  | none =>
    if (data.length : Int) ≠ nw then .SetReadDeadline (some (.failed "short write")) else match er with
      | some er => .SetReadDeadline (readEnd er)
      | none => .Read

/-- A write that has returned. -/
def wrote {τ : Type} (c : Copying) (data : Bytes) (er : Option Err) (w : WriteRes τ) : Copying :=
  let (nw, ew) := writeResult data.length w.n w.err
  { c with
    written := c.written + nw
    passed := c.passed ++ [data]
    writes := c.writes ++ [(w.n, w.err)]
    at_ := afterWrite data er nw ew }

variable {σ τ ε ε' : Type} (D : Endpoint τ ε') (S : Endpoint σ ε) (which : Direction)

def step (g : PipeVars) (c : Copying) (src : σ) (dst : τ) : Option (PipeVars × Copying × σ × τ) :=
  match c.at_ with
  | .Read => (S.read SocketBufSize src).map fun r => (g, c.read r, r.next, dst)
  | .activityCallback data er =>
    some ({ g with lastActivity := g.clock }, { c with at_ := .Write data er }, src, dst)
  | .Write data er => (D.write data dst).map fun w => (g, c.wrote data er w, src, w.next)
  | .SetReadDeadline err => some (g, { c with at_ := .results err }, src, D.SetReadDeadline dst)
  | .results err => match g.results.send err with
    | .sent ch =>
      some ({ g with results := ch, ends := g.ends ++ [(which, err)] },
        { c with at_ := .sent err }, src, dst)
    | .full | .panic => none
  | .sent _ => none

/-- The steps of a direction. -/
inductive Steps (g : PipeVars) (c : Copying) (src : σ) (dst : τ) : PipeVars × Copying × σ × τ → Prop
  | Read {r : ReadRes σ} (here : c.at_ = .Read) (got : S.read SocketBufSize src = some r) :
      Steps g c src dst (g, c.read r, r.next, dst)
  | activityCallback {data : Bytes} {er : Option Err} (here : c.at_ = .activityCallback data er) :
      Steps g c src dst ({ g with lastActivity := g.clock }, { c with at_ := .Write data er }, src, dst)
  | Write {data : Bytes} {er : Option Err} {w : WriteRes τ} (here : c.at_ = .Write data er)
      (wrote : D.write data dst = some w) :
      Steps g c src dst (g, c.wrote data er w, src, w.next)
  | SetReadDeadline {err : Option Err} (here : c.at_ = .SetReadDeadline err) :
      Steps g c src dst (g, { c with at_ := .results err }, src, D.SetReadDeadline dst)
  | results {err : Option Err} {ch : Chan (Option Err)} (here : c.at_ = .results err)
      (sent : g.results.send err = .sent ch) :
      Steps g c src dst ({ g with results := ch, ends := g.ends ++ [(which, err)] },
        { c with at_ := .sent err }, src, dst)

variable {D S which} {g : PipeVars} {c : Copying} {src : σ} {dst : τ}
  {after : PipeVars × Copying × σ × τ}

theorem step_steps (next : step D S which g c src dst = some after) :
    Steps D S which g c src dst after := by
  unfold step at next
  cases here : c.at_ with
  | Read =>
    simp only [here] at next
    obtain ⟨r, got, rfl⟩ := Option.map_eq_some_iff.mp next
    exact .Read here got
  | activityCallback data er =>
    simp only [here] at next
    cases next
    exact .activityCallback here
  | Write data er =>
    simp only [here] at next
    obtain ⟨w, wrote, rfl⟩ := Option.map_eq_some_iff.mp next
    exact .Write here wrote
  | SetReadDeadline err =>
    simp only [here] at next
    cases next
    exact .SetReadDeadline here
  | results err =>
    simp only [here] at next
    cases sent : g.results.send err with
    | sent ch =>
      simp only [sent] at next
      cases next
      exact .results here sent
    | full => simp only [sent, reduceCtorEq] at next
    | panic => simp only [sent, reduceCtorEq] at next
  | sent err => simp only [here, reduceCtorEq] at next

/-- The reads that a recording has yet to hand out. -/
def recordedReads : Stream (List (Bytes × Option Err)) where
  read n
    | [] => ⟨[], some .eof, []⟩
    | (data, err) :: rest => ⟨data.take n, err, rest⟩
  write b s := ⟨b.length, none, s⟩
  rank := List.length
  read_length n
    | [] => Nat.zero_le n
    | _ :: _ => List.length_take_le ..
  read_rank_le _
    | [] => Nat.le_refl _
    | _ :: _ => Nat.le_succ _
  read_rank_lt _
    | [], _, more => absurd more (by simp)
    | _ :: _, _, _ => Nat.lt_succ_self _
  write_rank _ _ := Nat.le_refl _

/-- The results that a recording has yet to give to writes. -/
def recordedWrites : Stream (List (Int × Option Err)) where
  read _ s := ⟨[], some .eof, s⟩
  write b
    | [] => ⟨b.length, none, []⟩
    | (n, err) :: rest => ⟨n, err, rest⟩
  rank _ := 0
  read_length n _ := Nat.zero_le n
  read_rank_le _ _ := Nat.le_refl _
  read_rank_lt _ _ _ more := absurd more (by simp)
  write_rank _ _ := Nat.le_refl _

/-- What the copy loop makes of a recording from where the goroutine is. -/
def resume (c : Copying) (reads : List (Bytes × Option Err)) (writes : List (Int × Option Err)) :
    CopyRes (List (Bytes × Option Err)) (List (Int × Option Err)) :=
  match c.at_ with
  | .Read =>
    copyLoop recordedWrites recordedReads (reads.length + 1)
      ⟨c.written, none, c.passed, reads, writes⟩
  | .activityCallback data er | .Write data er =>
      copyLoop recordedWrites recordedReads (reads.length + 2)
        ⟨c.written, none, c.passed, (data, er) :: reads, writes⟩
  | .SetReadDeadline err | .results err | .sent err => ⟨c.written, err, c.passed, reads, writes⟩

/-- The chunk that was read and not yet written. -/
def Chunk : CopyAt → Prop
  | .activityCallback data _ | .Write data _ => 0 < data.length ∧ data.length ≤ SocketBufSize
  | _ => True

/-- The goroutine is where the copy loop is on what was recorded so far, whatever comes after it. -/
structure Follows (c : Copying) : Prop where
  chunk : Chunk c.at_
  loop : ∀ reads writes,
    unidirectionalStream recordedWrites recordedReads (c.writes ++ writes) (c.reads ++ reads) =
      c.resume reads writes

theorem follows_start : Follows start := ⟨trivial, fun _ _ => rfl⟩

theorem resume_read {σ : Type} {c : Copying} {r : ReadRes σ} (here : c.at_ = .Read)
    (short : r.data.length ≤ SocketBufSize) (reads : List (Bytes × Option Err))
    (writes : List (Int × Option Err)) :
    c.resume ((r.data, r.err) :: reads) writes = (c.read r).resume reads writes := by
  rcases r with ⟨data, err, next⟩
  by_cases some_data : 0 < data.length
  · simp only [resume, read, here, if_pos some_data, List.length_cons]
  · have empty : data = [] := List.length_eq_zero_iff.mp (Nat.eq_zero_of_not_pos some_data)
    cases err with
    | some er => simp [resume, read, here, empty, copyLoop, recordedReads]
    | none => simp [resume, read, here, empty, copyLoop, recordedReads]

theorem resume_write {τ : Type} {c : Copying} {data : Bytes} {er : Option Err} (w : WriteRes τ)
    (here : c.at_ = .Write data er) (chunk : 0 < data.length ∧ data.length ≤ SocketBufSize)
    (reads : List (Bytes × Option Err)) (writes : List (Int × Option Err)) :
    c.resume reads ((w.n, w.err) :: writes) = (c.wrote data er w).resume reads writes := by
  have whole : data.take SocketBufSize = data := List.take_of_length_le chunk.2
  rw [resume, here]
  dsimp only
  rw [copyLoop]
  simp only [recordedReads, recordedWrites, whole, if_pos chunk.1, resume, wrote, afterWrite]
  rcases writeResult data.length w.n w.err with ⟨nw, ew⟩
  cases ew with
  | some ew => rfl
  | none =>
    dsimp only
    split_ifs with short
    · rfl
    · cases er with
      | some er => rfl
      | none => rfl

theorem Follows.step {σ τ ε ε' : Type} {D : Endpoint τ ε'} {S : Endpoint σ ε} {which : Direction}
    {g : PipeVars} {c : Copying} {src : σ} {dst : τ} {after : PipeVars × Copying × σ × τ}
    (short : ∀ {s r}, S.read SocketBufSize s = some r → r.data.length ≤ SocketBufSize)
    (follows : Follows c) (steps : Steps D S which g c src dst after) : Follows after.2.1 := by
  obtain ⟨chunk, loop⟩ := follows
  cases steps with
  | Read here got =>
    rename_i r
    constructor
    · dsimp only [read]
      split_ifs with some_data
      · exact ⟨some_data, short got⟩
      · cases r.err <;> trivial
    · intro reads writes
      rw [← resume_read here (short got), ← loop]
      exact congrArg _ (List.append_assoc ..)
  | activityCallback here =>
    rw [here] at chunk
    refine ⟨chunk, fun reads writes => (loop reads writes).trans ?_⟩
    rw [resume, resume, here]
  | Write here wrote =>
    rename_i data er w
    rw [here] at chunk
    constructor
    · dsimp only [Copying.wrote]
      unfold afterWrite
      split
      · trivial
      · split_ifs
        · trivial
        · cases er <;> trivial
    · intro reads writes
      rw [← resume_write w here chunk, ← loop]
      exact congrArg (unidirectionalStream _ _ · _) (List.append_assoc ..)
  | SetReadDeadline here =>
    refine ⟨trivial, fun reads writes => (loop reads writes).trans ?_⟩
    rw [resume, resume, here]
  | results here sent =>
    refine ⟨trivial, fun reads writes => (loop reads writes).trans ?_⟩
    rw [resume, resume, here]

/-- What was read and is not written: nothing before a read, and nothing at an end without an error. -/
def Rest : CopyAt → Bytes → Prop
  | .Read, rest => rest = []
  | .activityCallback data _, rest | .Write data _, rest => rest = data ∧ data.length ≤ SocketBufSize
  | .SetReadDeadline err, rest | .results err, rest | .sent err, rest =>
    rest.length ≤ SocketBufSize ∧ (err = none → rest = [])

/-- What the source has handed out is what the destination has taken, and the rest. -/
def Moved (out₀ taken₀ : Bytes) (c : Copying) (out taken : Bytes) : Prop :=
  ∃ moved rest, out = out₀ ++ moved ++ rest ∧ taken = taken₀ ++ moved ∧ Rest c.at_ rest

theorem rest_read {σ : Type} {c : Copying} {r : ReadRes σ} (short : r.data.length ≤ SocketBufSize) :
    Rest (c.read r).at_ r.data := by
  rw [read]
  dsimp only
  split_ifs with some_data
  · exact ⟨rfl, short⟩
  · have empty : r.data = [] := List.length_eq_zero_iff.mp (Nat.eq_zero_of_not_pos some_data)
    rw [empty]
    cases r.err with
    | some er => exact ⟨Nat.zero_le _, fun _ => rfl⟩
    | none => rfl

/-- A write that took all of the chunk goes on as if there had been none, and any other ends the loop. -/
theorem rest_wrote {τ : Type} {c : Copying} {data : Bytes} {er : Option Err} {w : WriteRes τ} {k : Nat}
    (short : data.length ≤ SocketBufSize) (all : w.err = none → w.n = data.length → data.length ≤ k) :
    Rest (c.wrote data er w).at_ (data.drop k) := by
  have cut : (data.drop k).length ≤ SocketBufSize := (List.length_drop ▸ Nat.sub_le ..).trans short
  dsimp only [wrote, writeResult]
  split_ifs with invalid
  · exact ⟨cut, nofun⟩
  · dsimp only
    cases failed : w.err with
    | some ew => exact ⟨cut, nofun⟩
    | none =>
      simp only [afterWrite]
      split_ifs with whole
      · exact ⟨cut, nofun⟩
      · have empty : data.drop k = [] := List.drop_eq_nil_of_le (all failed (not_not.mp whole).symm)
        rw [empty]
        cases er with
        | some er => exact ⟨Nat.zero_le _, fun _ => rfl⟩
        | none => rfl

/-- A step of a direction, and what it leaves alone for the other one. -/
theorem Moved.step {σ τ ε ε' : Type} {D : Endpoint τ ε'} {S : Endpoint σ ε}
    {outS takenS : σ → Bytes} {outD takenD : τ → Bytes} (carriesS : S.Carries outS takenS)
    (carriesD : D.Carries outD takenD) {which : Direction} {g : PipeVars} {c : Copying} {src : σ}
    {dst : τ} {after : PipeVars × Copying × σ × τ} {out₀ taken₀ : Bytes}
    (moved : Moved out₀ taken₀ c (outS src) (takenD dst))
    (steps : Steps D S which g c src dst after) :
    Moved out₀ taken₀ after.2.1 (outS after.2.2.1) (takenD after.2.2.2) ∧
      takenS after.2.2.1 = takenS src ∧ outD after.2.2.2 = outD dst := by
  obtain ⟨done, rest, out, taken, there⟩ := moved
  cases steps with
  | Read here got =>
    rw [here] at there
    cases there
    obtain ⟨more, same⟩ := carriesS.read got
    rw [List.append_nil] at out
    exact ⟨⟨done, _, by rw [more, out], taken, rest_read (carriesS.short got)⟩, same, rfl⟩
  | activityCallback here =>
    rw [here] at there
    exact ⟨⟨done, rest, out, taken, there⟩, rfl, rfl⟩
  | Write here wrote =>
    rename_i data er w
    rw [here] at there
    obtain ⟨rfl, short⟩ := there
    obtain ⟨same, k, more, all⟩ := carriesD.write wrote
    refine ⟨⟨done ++ rest.take k, rest.drop k, ?_, ?_, rest_wrote short all⟩, rfl, same⟩
    · rw [out, List.append_assoc, List.append_assoc, List.append_assoc, List.take_append_drop]
    · rw [more, taken, List.append_assoc]
  | SetReadDeadline here =>
    rw [here] at there
    obtain ⟨same, same'⟩ := carriesD.deadline dst
    exact ⟨⟨done, rest, out, same'.trans taken, there⟩, rfl, same⟩
  | results here sent =>
    rw [here] at there
    exact ⟨⟨done, rest, out, taken, there⟩, rfl, rfl⟩

end Copying

/-- The main goroutine after its own direction. -/
inductive MainAt where
  | copying
  | first
  | second (first : Option Err)
  | returned (first : Option Err)
  deriving DecidableEq, Repr

inductive MonitorAt where
  | select
  | load
  | check (last : Nat)
  | SetLeft
  | SetRight
  | returned
  deriving DecidableEq, Repr

/-- `next` is when the ticker sends again, and `C` whether a tick waits in its channel. -/
structure Ticker where
  next : Nat
  C : Bool
  deriving DecidableEq, Repr

structure PipeState (σ τ : Type) where
  left : σ
  right : τ
  vars : PipeVars
  forward : Copying
  back : Copying
  main : MainAt
  stopMonitor : Bool
  ticker : Ticker
  monitor : MonitorAt
  deriving DecidableEq, Repr

/-- `monitor` says which case its select takes. -/
inductive PipeEvent (ε ε' : Type) where
  | main
  | goroutine
  | monitor (stop : Bool)
  | tick
  | elapse (time : Nat)
  | left (e : ε)
  | right (e : ε')
  deriving DecidableEq, Repr

/-- In nanoseconds, as all times here. -/
def Second : Nat := 1000000000

namespace PipeState
variable {σ τ ε ε' : Type}

def start (left : σ) (right : τ) (now : Nat) : PipeState σ τ :=
  ⟨left, right, ⟨now, now, .make 2, []⟩, .start, .start, .copying, false, ⟨now + Second, false⟩, .select⟩

variable (L : Endpoint σ ε) (R : Endpoint τ ε') (timeout : Nat)

/-- The main goroutine copies from left to right, and then waits for both results. -/
def mainStep (s : PipeState σ τ) : Option (PipeState σ τ) :=
  match s.main with
  | .copying => match s.forward.at_ with
    | .sent _ => some { s with stopMonitor := true, main := .first }
    | _ => (Copying.step R L .main s.vars s.forward s.left s.right).map fun (g, c, left, right) =>
        { s with vars := g, forward := c, left, right }
  | .first => match s.vars.results.receive with
    | .got first ch => some { s with vars := { s.vars with results := ch }, main := .second first }
    | .closed | .empty => none
  | .second first => match s.vars.results.receive with
    | .got _ ch => some { s with vars := { s.vars with results := ch }, main := .returned first }
    | .closed | .empty => none
  | .returned _ => none

def goroutineStep (s : PipeState σ τ) : Option (PipeState σ τ) :=
  (Copying.step L R .goroutine s.vars s.back s.right s.left).map fun (g, c, right, left) =>
    { s with vars := g, back := c, left, right }

def monitorStep (s : PipeState σ τ) (stop : Bool) : Option (PipeState σ τ) :=
  match s.monitor with
  | .select =>
    if stop then if s.stopMonitor then some { s with monitor := .returned } else none
    else if s.ticker.C then some { s with ticker := { s.ticker with C := false }, monitor := .load }
    else none
  | .load => some { s with monitor := .check s.vars.lastActivity }
  | .check last => some { s with monitor := if timeout < s.vars.clock - last then .SetLeft else .select }
  | .SetLeft => some { s with left := L.SetReadDeadline s.left, monitor := .SetRight }
  | .SetRight => some { s with right := R.SetReadDeadline s.right, monitor := .returned }
  | .returned => none

def step (s : PipeState σ τ) : PipeEvent ε ε' → Option (PipeState σ τ)
  | .main => s.mainStep L R
  | .goroutine => s.goroutineStep L R
  | .monitor stop => s.monitorStep L R timeout stop
  | .tick =>
    if s.ticker.next ≤ s.vars.clock then some { s with ticker := ⟨s.ticker.next + Second, true⟩ }
    else none
  | .elapse time => some { s with vars := { s.vars with clock := s.vars.clock + time } }
  | .left e => (L.world s.left e).map fun left => { s with left }
  | .right e => (R.world s.right e).map fun right => { s with right }

/-- The steps of a call of `Pipe`. -/
inductive Steps (s : PipeState σ τ) : PipeEvent ε ε' → PipeState σ τ → Prop
  | forward {g : PipeVars} {c : Copying} {left : σ} {right : τ} (here : s.main = .copying)
      (steps : Copying.Steps R L .main s.vars s.forward s.left s.right (g, c, left, right)) :
      Steps s .main { s with vars := g, forward := c, left, right }
  | close {err : Option Err} (here : s.main = .copying) (sent : s.forward.at_ = .sent err) :
      Steps s .main { s with stopMonitor := true, main := .first }
  | first {first : Option Err} {ch : Chan (Option Err)} (here : s.main = .first)
      (got : s.vars.results.receive = .got first ch) :
      Steps s .main { s with vars := { s.vars with results := ch }, main := .second first }
  | second {first other : Option Err} {ch : Chan (Option Err)} (here : s.main = .second first)
      (got : s.vars.results.receive = .got other ch) :
      Steps s .main { s with vars := { s.vars with results := ch }, main := .returned first }
  | back {g : PipeVars} {c : Copying} {left : σ} {right : τ}
      (steps : Copying.Steps L R .goroutine s.vars s.back s.right s.left (g, c, right, left)) :
      Steps s .goroutine { s with vars := g, back := c, left, right }
  | stop (here : s.monitor = .select) (closed : s.stopMonitor = true) :
      Steps s (.monitor true) { s with monitor := .returned }
  | ticked (here : s.monitor = .select) (ticked : s.ticker.C = true) :
      Steps s (.monitor false) { s with ticker := { s.ticker with C := false }, monitor := .load }
  | load {stop : Bool} (here : s.monitor = .load) :
      Steps s (.monitor stop) { s with monitor := .check s.vars.lastActivity }
  | check {stop : Bool} {last : Nat} (here : s.monitor = .check last) :
      Steps s (.monitor stop)
        { s with monitor := if timeout < s.vars.clock - last then .SetLeft else .select }
  | setLeft {stop : Bool} (here : s.monitor = .SetLeft) :
      Steps s (.monitor stop) { s with left := L.SetReadDeadline s.left, monitor := .SetRight }
  | setRight {stop : Bool} (here : s.monitor = .SetRight) :
      Steps s (.monitor stop) { s with right := R.SetReadDeadline s.right, monitor := .returned }
  | tick (due : s.ticker.next ≤ s.vars.clock) :
      Steps s .tick { s with ticker := ⟨s.ticker.next + Second, true⟩ }
  | elapse (time : Nat) :
      Steps s (.elapse time) { s with vars := { s.vars with clock := s.vars.clock + time } }
  | left {e : ε} {left : σ} (moves : L.world s.left e = some left) : Steps s (.left e) { s with left }
  | right {e : ε'} {right : τ} (moves : R.world s.right e = some right) :
      Steps s (.right e) { s with right }

variable {L R timeout} {s s' : PipeState σ τ} {e : PipeEvent ε ε'}

theorem mainStep_steps (next : s.mainStep L R = some s') :
    Steps L R timeout s (.main : PipeEvent ε ε') s' := by
  unfold mainStep at next
  split at next
  · rename_i copying
    split at next
    · rename_i err sent
      cases next
      exact .close copying sent
    · obtain ⟨⟨g, c, left, right⟩, moved, rfl⟩ := Option.map_eq_some_iff.mp next
      exact .forward copying (Copying.step_steps moved)
  · rename_i first
    split at next
    · rename_i got
      cases next
      exact .first first got
    · contradiction
    · contradiction
  · rename_i second
    split at next
    · rename_i got
      cases next
      exact .second second got
    · contradiction
    · contradiction
  · contradiction

theorem monitorStep_steps {stop : Bool} (next : s.monitorStep L R timeout stop = some s') :
    Steps L R timeout s (.monitor stop : PipeEvent ε ε') s' := by
  unfold monitorStep at next
  split at next
  · rename_i select
    cases stop with
    | true =>
      rw [if_pos rfl] at next
      split_ifs at next with closed
      cases next
      exact .stop select closed
    | false =>
      rw [if_neg Bool.false_ne_true] at next
      split_ifs at next with ticked
      cases next
      exact .ticked select ticked
  · rename_i load
    cases next
    exact .load load
  · rename_i last check
    cases next
    exact .check check
  · rename_i setLeft
    cases next
    exact .setLeft setLeft
  · rename_i setRight
    cases next
    exact .setRight setRight
  · contradiction

theorem step_steps (next : s.step L R timeout e = some s') : Steps L R timeout s e s' := by
  cases e with
  | main => exact mainStep_steps next
  | goroutine =>
    obtain ⟨⟨g, c, right, left⟩, moved, rfl⟩ := Option.map_eq_some_iff.mp next
    exact .back (Copying.step_steps moved)
  | monitor stop => exact monitorStep_steps next
  | tick =>
    rw [step] at next
    split_ifs at next with due
    cases next
    exact .tick due
  | elapse time =>
    cases next
    exact .elapse time
  | left e =>
    obtain ⟨left, moved, rfl⟩ := Option.map_eq_some_iff.mp next
    exact .left moved
  | right e =>
    obtain ⟨right, moved, rfl⟩ := Option.map_eq_some_iff.mp next
    exact .right moved

/-- A call of `Pipe` on two streams. -/
def system (L : Endpoint σ ε) (R : Endpoint τ ε') (timeout : Nat) (left : σ) (right : τ) :
    System (PipeState σ τ) (PipeEvent ε ε') where
  start s := ∃ now, s = start left right now
  step s e := s.step L R timeout e

variable {left : σ} {right : τ}

/-- Whatever the interleaving, each direction does what the sequential copy loop does on the results
that its reads and writes had. -/
theorem pipe_follows {outL takenL : σ → Bytes} {outR takenR : τ → Bytes}
    (carriesL : L.Carries outL takenL) (carriesR : R.Carries outR takenR)
    (reachable : (system L R timeout left right).Reachable s) {err : Option Err} :
    (s.forward.at_ = .sent err →
      unidirectionalStream Copying.recordedWrites Copying.recordedReads
        s.forward.writes s.forward.reads =
      ⟨s.forward.written, err, s.forward.passed, [], []⟩) ∧
    (s.back.at_ = .sent err →
      unidirectionalStream Copying.recordedWrites Copying.recordedReads s.back.writes s.back.reads =
      ⟨s.back.written, err, s.back.passed, [], []⟩) := by
  have follows : Copying.Follows s.forward ∧ Copying.Follows s.back := by
    refine reachable.invariant (fun s => Copying.Follows s.forward ∧ Copying.Follows s.back) ?_ ?_
    · rintro _ ⟨now, rfl⟩
      exact ⟨Copying.follows_start, Copying.follows_start⟩
    · rintro s e s' ⟨forward, back⟩ next
      cases step_steps next with
      | forward here steps => exact ⟨forward.step carriesL.short steps, back⟩
      | back steps => exact ⟨forward, back.step carriesR.short steps⟩
      | _ => exact ⟨forward, back⟩
  have ended {c : Copying} (follows : Copying.Follows c) (sent : c.at_ = .sent err) :
      unidirectionalStream Copying.recordedWrites Copying.recordedReads c.writes c.reads =
        ⟨c.written, err, c.passed, [], []⟩ := by
    have loop := follows.loop [] []
    rwa [List.append_nil, List.append_nil, Copying.resume, sent] at loop
  exact ⟨ended follows.1, ended follows.2⟩

/-- At every moment what a side has taken is what the other side has handed out, up to one chunk that
is on its way; and a direction that ended without an error has lost nothing. -/
theorem pipe_carries {outL takenL : σ → Bytes} {outR takenR : τ → Bytes}
    (carriesL : L.Carries outL takenL) (carriesR : R.Carries outR takenR)
    (reachable : (system L R timeout left right).Reachable s) :
    Copying.Moved (outL left) (takenR right) s.forward (outL s.left) (takenR s.right) ∧
      Copying.Moved (outR right) (takenL left) s.back (outR s.right) (takenL s.left) := by
  refine reachable.invariant
    (fun s => Copying.Moved (outL left) (takenR right) s.forward (outL s.left) (takenR s.right) ∧
    Copying.Moved (outR right) (takenL left) s.back (outR s.right) (takenL s.left)) ?_ ?_
  · rintro _ ⟨now, rfl⟩
    exact ⟨⟨[], [], by simp [start], by simp [start], rfl⟩,
      ⟨[], [], by simp [start], by simp [start], rfl⟩⟩
  · rintro s e s' ⟨forward, back⟩ next
    cases step_steps next with
    | forward here steps =>
      obtain ⟨moved, same, same'⟩ := forward.step carriesL carriesR steps
      exact ⟨moved, by rwa [← same, ← same'] at back⟩
    | back steps =>
      obtain ⟨moved, same, same'⟩ := back.step carriesR carriesL steps
      exact ⟨by rwa [← same, ← same'] at forward, moved⟩
    | setLeft here =>
      obtain ⟨same, same'⟩ := carriesL.deadline s.left
      exact ⟨by rwa [← same] at forward, by rwa [← same'] at back⟩
    | setRight here =>
      obtain ⟨same, same'⟩ := carriesR.deadline s.right
      exact ⟨by rwa [← same'] at forward, by rwa [← same] at back⟩
    | left moves =>
      obtain ⟨same, same'⟩ := carriesL.world moves
      exact ⟨by rwa [← same] at forward, by rwa [← same'] at back⟩
    | right moves =>
      obtain ⟨same, same'⟩ := carriesR.world moves
      exact ⟨by rwa [← same'] at forward, by rwa [← same] at back⟩
    | _ => exact ⟨forward, back⟩

/-- The left side sends three bytes and finishes, and both directions come to their end. -/
def finishing : List (PipeEvent Socket.Event Socket.Event) :=
  [.left (.arrive [1, 2, 3]), .main, .main, .main, .left .finish, .main, .main, .main, .main,
    .goroutine, .goroutine, .goroutine,
    .main, .main]

/-- A pipe between two connections. -/
def sockets : System (PipeState Socket Socket) (PipeEvent Socket.Event Socket.Event) :=
  system Socket.endpoint Socket.endpoint Second Socket.connected Socket.connected

theorem sockets_start : sockets.start (start Socket.connected Socket.connected 0) := ⟨0, rfl⟩

theorem finishing_played :
    ∃ s, sockets.play (fun _ _ => true) finishing (start Socket.connected Socket.connected 0) =
      some s ∧
    s.main = .returned none ∧ s.forward.at_ = .sent none ∧
      s.back.at_ = .sent (some (.failed "i/o timeout")) ∧
    s.right.sent = [1, 2, 3] := by
  have played : (sockets.play (fun _ _ => true) finishing
    (start Socket.connected Socket.connected 0)).any (fun s =>
      decide (s.main = .returned none ∧ s.forward.at_ = .sent none ∧
        s.back.at_ = .sent (some (.failed "i/o timeout")) ∧
        s.right.sent = [1, 2, 3])) = true := by decide
  obtain ⟨s, reached, sees⟩ := (Option.any_eq_true _ _).mp played
  exact ⟨s, reached, of_decide_eq_true sees⟩

theorem pipe_follows_finishing : ∃ s, sockets.Reachable s ∧ s.right.sent = [1, 2, 3] ∧
    unidirectionalStream Copying.recordedWrites Copying.recordedReads s.forward.writes s.forward.reads =
      ⟨s.forward.written, none, s.forward.passed, [], []⟩ := by
  obtain ⟨s, played, _, sent, _, arrived⟩ := finishing_played
  have reachable : sockets.Reachable s := .of_play sockets_start played
  exact ⟨s, reachable, arrived, (pipe_follows Socket.carries Socket.carries reachable).1 sent⟩

theorem pipe_carries_finishing : ∃ s, sockets.Reachable s ∧ s.forward.at_ = .sent none ∧
    Copying.Moved [] [] s.forward s.left.out s.right.sent := by
  obtain ⟨s, played, _, sent, _⟩ := finishing_played
  have reachable : sockets.Reachable s := .of_play sockets_start played
  exact ⟨s, reachable, sent, (pipe_carries Socket.carries Socket.carries reachable).1⟩

end PipeState

end Gotun.Core
