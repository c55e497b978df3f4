import Gotun.Lib.System
import Mathlib.Data.List.Basic

/-! `tun/frps_controller.go`: the goroutines of a controller, its three channels and the lock that
keeps senders away from channels that `Close` closes. A waiting `Lock` holds back every later
`RLock`. -/

namespace Gotun.Tun

open Gotun.Lib

/-- The messages of `pkg/msg/msg.go`. -/
inductive Message where
  | Login (Version : String)
  | LoginResp (Version : String) (Error : String)
  | NewWorkConn
  | StartWorkConn
  | ReqWorkConn (Count : Int)
  | Ping
  | Pong
  | Socks5XReq (TargetAddr : String)
  | Socks5XResp (Rep : UInt8)
  deriving DecidableEq, Repr

def FrpWorkerCount : Nat := 10

/-- The capacity of `workers`, `sendCh` and `readCh`. -/
def controllerCap : Nat := 100

/-- Where `doReadLoop` is: in `ReadMsg`, at `RLock`, or at the send under the lock. -/
inductive ReadLoop where
  | reading
  | locking (m : Message)
  | sending (m : Message)
  | stopped
  deriving DecidableEq, Repr

/-- Where `handleReadMsg` is: at the receive, or in the `Write` that answers a ping. -/
inductive ReadMsg where
  | receiving
  | locking
  | writing
  | stopped
  deriving DecidableEq, Repr

inductive WriteLoop where
  | receiving
  | writing (m : Message)
  | stopped
  deriving DecidableEq, Repr

/-- A section under the read lock that some caller runs. -/
inductive Section where
  | Write (m : Message)
  | RegisterWorker
  deriving DecidableEq, Repr

/-- A caller of `Write`, `RegisterWorker` or `GetWorkConn`; the last goes on to take a worker. -/
inductive Caller where
  | locking (section_ : Section) (takes : Bool)
  | holding (section_ : Section) (takes : Bool)
  | taking
  | returned (err : Option String)
  deriving DecidableEq, Repr

inductive Closer where
  | notCalled
  | waiting
  | holding
  | returned
  deriving DecidableEq, Repr

structure frpsController where
  ctlClosed : Bool
  sendCh : List Message
  readCh : List Message
  workers : Nat
  closed : Bool
  readLoop : ReadLoop
  readMsg : ReadMsg
  writeLoop : WriteLoop
  callers : List Caller
  closer : Closer
  deriving DecidableEq, Repr

namespace frpsController

/-- The controller right after `Run`. -/
def NewFrpsController : frpsController :=
  ⟨false, [], [], 0, false, .reading, .receiving, .receiving, [], .notCalled⟩

inductive Goroutine where
  | doReadLoop
  | handleReadMsg
  | caller (i : Nat)
  | Close
  deriving DecidableEq, Repr

inductive Event where
  | read (result : Option Message)
  | doReadLoop
  | handleReadMsg
  | doWriteLoop (failed : Bool)
  | call (section_ : Section)
  | GetWorkConn
  | caller (i : Nat)
  | timeout (i : Nat)
  | Close
  deriving DecidableEq, Repr

/-- A writer waits for the lock or has it. -/
def pending (s : frpsController) : Bool := s.closer = .waiting ∨ s.closer = .holding

def holds : Caller → Bool
  | .holding _ _ => true
  | _ => false

/-- Some goroutine has the read lock. -/
def shared (s : frpsController) : Bool :=
  (match s.readLoop with | .sending _ => true | _ => false) || s.readMsg =
    .writing || s.callers.any holds

/-- The select of `Write` and of `RegisterWorker` has a default, so that neither waits. -/
def runSection (s : frpsController) : Section → Option String × frpsController
  | .Write m =>
    if s.closed then (some "controller is closed", s)
    else if s.sendCh.length < controllerCap then (none, { s with sendCh := s.sendCh ++ [m] })
    else (some "send channel is full", s)
  | .RegisterWorker =>
    if s.closed then (some "controller is closed", s)
    else if s.workers < controllerCap then (none, { s with workers := s.workers + 1 })
    else (some "worker channel is full", s)

/-- `ReadMsg` fails on a closed stream, and a failed `ReadMsg` ends the loop, which closes the stream. -/
def readStep (result : Option Message) (s : frpsController) : Option frpsController :=
  match s.readLoop, result with
  | .reading, some m => if s.ctlClosed then none else some { s with readLoop := .locking m }
  | .reading, none => some { s with readLoop := .stopped, ctlClosed := true }
  | _, _ => none

def doReadLoop (s : frpsController) : Option frpsController :=
  match s.readLoop with
  | .locking m =>
    if s.pending then none
    else if s.closed then some { s with readLoop := .stopped, ctlClosed := true }
    else some { s with readLoop := .sending m }
  | .sending m =>
    if s.readCh.length < controllerCap then
      some { s with readCh := s.readCh ++ [m], readLoop := .reading }
    else none
  | .reading | .stopped => none

def handleReadMsg (s : frpsController) : Option frpsController :=
  match s.readMsg with
  | .receiving => match s.readCh with
    | m :: rest => some { s with readCh := rest, readMsg := if m = .Ping then .locking else .receiving }
    | [] => if s.closed then some { s with readMsg := .stopped } else none
  | .locking => if s.pending then none else some { s with readMsg := .writing }
  | .writing => some { (s.runSection (.Write .Pong)).2 with readMsg := .receiving }
  | .stopped => none

def doWriteLoop (failed : Bool) (s : frpsController) : Option frpsController :=
  match s.writeLoop with
  | .receiving => match s.sendCh with
    | m :: rest => some { s with sendCh := rest, writeLoop := .writing m }
    | [] => if s.closed then some { s with writeLoop := .stopped } else none
  | .writing _ => some { s with writeLoop := if failed then .stopped else .receiving }
  | .stopped => none

def setCaller (i : Nat) (c : Caller) (s : frpsController) : frpsController :=
  { s with callers := s.callers.set i c }

def caller (i : Nat) (s : frpsController) : Option frpsController :=
  match s.callers[i]? with
  | some (.locking section_ takes) =>
    if s.pending then none else some (s.setCaller i (.holding section_ takes))
  | some (.holding section_ takes) =>
    let (err, s) := s.runSection section_
    some (s.setCaller i (if takes ∧ err = none then .taking else .returned err))
  | some .taking =>
    if 0 < s.workers then some ({ s with workers := s.workers - 1 }.setCaller i (.returned none))
    else if s.closed then some (s.setCaller i (.returned (some "worker channel is closed")))
    else none
  | some (.returned _) | none => none

/-- `GetWorkConn` gives up after five seconds. -/
def timeout (i : Nat) (s : frpsController) : Option frpsController :=
  if s.callers[i]? = some .taking then
    some (s.setCaller i (.returned (some "get worker timeout(5s)")))
  else none

/-- The workers in the queue decide whether `GetWorkConn` asks for more. -/
def GetWorkConn (s : frpsController) : frpsController :=
  let ask : Caller := .locking (.Write (.ReqWorkConn FrpWorkerCount)) true
  { s with callers := s.callers ++ [if s.workers < FrpWorkerCount / 2 then ask else .taking] }

def Close (s : frpsController) : Option frpsController :=
  match s.closer with
  | .notCalled => some { s with closer := .waiting }
  | .waiting => if s.shared then none else some { s with closer := .holding }
  | .holding => some { s with closed := true, ctlClosed := true, closer := .returned }
  | .returned => none

def step (s : frpsController) : Event → Option frpsController
  | .read result => s.readStep result
  | .doReadLoop => s.doReadLoop
  | .handleReadMsg => s.handleReadMsg
  | .doWriteLoop failed => s.doWriteLoop failed
  | .call section_ => some { s with callers := s.callers ++ [.locking section_ false] }
  | .GetWorkConn => some s.GetWorkConn
  | .caller i => s.caller i
  | .timeout i => s.timeout i
  | .Close => s.Close

def system : System frpsController Event where
  start s := s = NewFrpsController
  step := step

/-- The next step of a goroutine that holds the lock or waits for it. -/
def Goroutine.event : Goroutine → Event
  | .doReadLoop => .doReadLoop
  | .handleReadMsg => .handleReadMsg
  | .caller i => .caller i
  | .Close => .Close

def Holds (s : frpsController) : Goroutine → Prop
  | .doReadLoop => ∃ m, s.readLoop = .sending m
  | .handleReadMsg => s.readMsg = .writing
  | .caller i => ∃ section_ takes, s.callers[i]? = some (.holding section_ takes)
  | .Close => s.closer = .holding

def Waits (s : frpsController) : Goroutine → Prop
  | .doReadLoop => (∃ m, s.readLoop = .locking m) ∧ s.pending = true
  | .handleReadMsg => s.readMsg = .locking ∧ s.pending = true
  | .caller i => (∃ section_ takes, s.callers[i]? = some (.locking section_ takes)) ∧ s.pending = true
  | .Close => s.closer = .waiting ∧ s.shared = true

/-- Who receives what a goroutine sends under the lock, where the send has no default. -/
def Goroutine.receiver : Goroutine → Option Goroutine
  | .doReadLoop => some .handleReadMsg
  | _ => none

/-- `Close` waits for the lock, and whoever has it is blocked on a goroutine that waits for it too. -/
def Deadlocked (s : frpsController) : Prop :=
  s.Waits .Close ∧ (∃ g, s.Holds g) ∧
    ∀ g, s.Holds g → s.step g.event = none ∧ ∃ receiver, g.receiver = some receiver ∧ s.Waits receiver

/-- `doReadLoop` is at a send on the full `readCh`, and `handleReadMsg` has a ping it must answer
first. -/
def Jammed (s : frpsController) : Prop :=
  (∃ m, s.readLoop = .sending m) ∧ controllerCap ≤ s.readCh.length ∧ s.readMsg = .locking

/-- `Close` does not ask for the lock while the read loop is jammed. -/
def ClosesInTime (s : frpsController) (e : Event) : Prop :=
  e = .Close → s.closer = .notCalled → ¬ s.Jammed

structure Fair (s : frpsController) : Prop where
  bounded : s.readCh.length ≤ controllerCap
  free : s.closer = .waiting → ¬ s.Jammed

section steps

variable {s s' : frpsController}

theorem runSection_frame (s : frpsController) (section_ : Section) :
    (s.runSection section_).2.readCh = s.readCh ∧ (s.runSection section_).2.readLoop = s.readLoop ∧
      (s.runSection section_).2.readMsg = s.readMsg ∧ (s.runSection section_).2.closer = s.closer := by
  cases section_ with
  | Write m =>
    rw [runSection]
    split_ifs <;> exact ⟨rfl, rfl, rfl, rfl⟩
  | RegisterWorker =>
    rw [runSection]
    split_ifs <;> exact ⟨rfl, rfl, rfl, rfl⟩

/-- A step that touches none of the read loop, its queue and the lock's writer. -/
structure SameQueue (s s' : frpsController) : Prop where
  readCh : s'.readCh = s.readCh
  readLoop : s'.readLoop = s.readLoop
  readMsg : s'.readMsg = s.readMsg
  closer : s'.closer = s.closer

theorem SameQueue.fair (same : SameQueue s s') (fair : s.Fair) : s'.Fair where
  bounded := same.readCh ▸ fair.bounded
  free := by
    intro waiting jammed
    apply fair.free (same.closer ▸ waiting)
    exact ⟨same.readLoop ▸ jammed.1, same.readCh ▸ jammed.2.1, same.readMsg ▸ jammed.2.2⟩

theorem caller_sameQueue {i : Nat} (next : s.caller i = some s') : SameQueue s s' := by
  rw [caller] at next
  split at next
  · split at next
    · contradiction
    · exact Option.some.inj next ▸ ⟨rfl, rfl, rfl, rfl⟩
  · rename_i section_ takes _
    obtain ⟨readCh, readLoop, readMsg, closer⟩ := runSection_frame s section_
    exact Option.some.inj next ▸ ⟨readCh, readLoop, readMsg, closer⟩
  · split_ifs at next
    · exact Option.some.inj next ▸ ⟨rfl, rfl, rfl, rfl⟩
    · exact Option.some.inj next ▸ ⟨rfl, rfl, rfl, rfl⟩
  · contradiction
  · contradiction

theorem doWriteLoop_sameQueue {failed : Bool}
    (next : s.doWriteLoop failed = some s') : SameQueue s s' := by
  rw [doWriteLoop] at next
  split at next
  · split at next
    · exact Option.some.inj next ▸ ⟨rfl, rfl, rfl, rfl⟩
    · split_ifs at next
      exact Option.some.inj next ▸ ⟨rfl, rfl, rfl, rfl⟩
  · exact Option.some.inj next ▸ ⟨rfl, rfl, rfl, rfl⟩
  · contradiction

theorem timeout_sameQueue {i : Nat} (next : s.timeout i = some s') : SameQueue s s' := by
  rw [timeout] at next
  split_ifs at next
  exact Option.some.inj next ▸ ⟨rfl, rfl, rfl, rfl⟩

/-- A read loop that is not at its send does not jam. -/
theorem Fair.of_idle (bounded : s.readCh.length ≤ controllerCap)
    (idle : ∀ m, s.readLoop ≠ .sending m) : s.Fair where
  bounded := bounded
  free := by
    intro _ jammed
    obtain ⟨m, sending⟩ := jammed.1
    exact idle m sending

theorem readStep_fair {result : Option Message} (fair : s.Fair)
    (next : s.readStep result = some s') : s'.Fair := by
  unfold readStep at next
  split at next
  · split_ifs at next
    exact Option.some.inj next ▸ .of_idle fair.bounded (by simp)
  · exact Option.some.inj next ▸ .of_idle fair.bounded (by simp)
  · contradiction

theorem doReadLoop_fair (fair : s.Fair) (next : s.doReadLoop = some s') : s'.Fair := by
  rw [doReadLoop] at next
  split at next
  · rename_i m _
    split_ifs at next with pending closed
    · exact Option.some.inj next ▸ .of_idle fair.bounded (by simp)
    · cases Option.some.inj next
      refine ⟨fair.bounded, ?_⟩
      intro waiting
      exact absurd (by simpa [frpsController.pending] using Or.inl waiting) pending
  · split_ifs at next with room
    cases Option.some.inj next
    refine .of_idle ?_ (by simp)
    rw [List.length_append]
    exact room
  · contradiction
  · contradiction

/-- The queue has room again once `handleReadMsg` has received, and a handler that answers does not
wait. -/
theorem handleReadMsg_fair (fair : s.Fair) (next : s.handleReadMsg = some s') : s'.Fair := by
  rw [handleReadMsg] at next
  split at next
  · split at next
    · rename_i m rest queue
      have bounded : rest.length + 1 ≤ controllerCap := by
        have all := fair.bounded
        rwa [queue] at all
      cases Option.some.inj next
      exact ⟨Nat.le_of_succ_le bounded, fun _ jammed => absurd jammed.2.1 (Nat.not_le.mpr bounded)⟩
    · split_ifs at next
      cases Option.some.inj next
      exact ⟨fair.bounded, fun _ jammed => by cases jammed.2.2⟩
  · split_ifs at next
    cases Option.some.inj next
    exact ⟨fair.bounded, fun _ jammed => by cases jammed.2.2⟩
  · cases Option.some.inj next
    have frame := runSection_frame s (.Write .Pong)
    refine ⟨?_, fun _ jammed => by cases jammed.2.2⟩
    exact frame.1 ▸ fair.bounded
  · contradiction

theorem Close_fair (fair : s.Fair) (inTime : s.ClosesInTime .Close)
    (next : s.Close = some s') : s'.Fair := by
  rw [Close] at next
  split at next
  · rename_i before
    cases Option.some.inj next
    exact ⟨fair.bounded, fun _ jammed => inTime rfl before jammed⟩
  · split_ifs at next
    cases Option.some.inj next
    exact ⟨fair.bounded, fun waiting => by cases waiting⟩
  · cases Option.some.inj next
    exact ⟨fair.bounded, fun waiting => by cases waiting⟩
  · contradiction

theorem step_fair {e : Event} (fair : s.Fair) (inTime : s.ClosesInTime e)
    (next : s.step e = some s') : s'.Fair := by
  cases e with
  | read result => exact readStep_fair fair next
  | doReadLoop => exact doReadLoop_fair fair next
  | handleReadMsg => exact handleReadMsg_fair fair next
  | doWriteLoop failed => exact (doWriteLoop_sameQueue next).fair fair
  | call section_ => exact Option.some.inj next ▸ SameQueue.fair (s := s) ⟨rfl, rfl, rfl, rfl⟩ fair
  | GetWorkConn => exact Option.some.inj next ▸ SameQueue.fair (s := s) ⟨rfl, rfl, rfl, rfl⟩ fair
  | caller i => exact (caller_sameQueue next).fair fair
  | timeout i => exact (timeout_sameQueue next).fair fair
  | Close => exact Close_fair fair inTime next

theorem fair_of_run {events : List Event} (run : system.Run ClosesInTime events s) : s.Fair := by
  refine run.invariant Fair ?_ (fun _ _ _ fair inTime next => step_fair fair inTime next)
  intro start starts
  exact starts ▸ .of_idle (Nat.zero_le _) (by simp [NewFrpsController])

/-- The read loop is the only goroutine that can be blocked under the lock. -/
theorem Deadlocked.jammed (deadlocked : s.Deadlocked) : s.closer = .waiting ∧ s.Jammed := by
  obtain ⟨⟨waiting, _⟩, ⟨g, holds⟩, blocked⟩ := deadlocked
  refine ⟨waiting, ?_⟩
  obtain ⟨stuck, receiver, receives, waits⟩ := blocked g holds
  cases g with
  | doReadLoop =>
    cases Option.some.inj receives
    obtain ⟨m, sending⟩ := holds
    refine ⟨⟨m, sending⟩, ?_, waits.1⟩
    simpa [Goroutine.event, step, doReadLoop, sending] using stuck
  | handleReadMsg | caller | Close => contradiction

theorem Deadlocked.alone (deadlocked : s.Deadlocked) : ∀ c ∈ s.callers, holds c = false := by
  intro c among
  cases c with
  | holding section_ takes =>
    obtain ⟨i, found⟩ := List.getElem?_of_mem among
    obtain ⟨_, receiver, receives, _⟩ := deadlocked.2.2 (.caller i) ⟨section_, takes, found⟩
    contradiction
  | locking | taking | returned => rfl

/-- Jammed before a waiting `Close`, with nobody else under the lock. -/
theorem deadlocked_of_jammed (waiting : s.closer = .waiting) (jammed : s.Jammed)
    (alone : ∀ c ∈ s.callers, holds c = false) : s.Deadlocked := by
  obtain ⟨⟨m, sending⟩, full, locking⟩ := jammed
  have pending : s.pending = true := by simp [frpsController.pending, waiting]
  refine ⟨⟨waiting, by simp [shared, sending]⟩, ⟨.doReadLoop, m, sending⟩, ?_⟩
  intro g holding
  cases g with
  | doReadLoop =>
    refine ⟨?_, .handleReadMsg, rfl, locking, pending⟩
    simp [Goroutine.event, step, doReadLoop, sending, Nat.not_lt.mpr full]
  | handleReadMsg => cases locking.symm.trans holding
  | caller i =>
    obtain ⟨section_, takes, found⟩ := holding
    cases alone _ (List.mem_of_getElem? found)
  | Close => cases waiting.symm.trans holding

theorem SameQueue.deadlocked (same : SameQueue s s') (deadlocked : s.Deadlocked)
    (alone : ∀ c ∈ s'.callers, holds c = false) : s'.Deadlocked := by
  obtain ⟨waiting, sending, full, locking⟩ := deadlocked.jammed
  refine deadlocked_of_jammed (same.closer ▸ waiting) ?_ alone
  exact ⟨same.readLoop ▸ sending, same.readCh ▸ full, same.readMsg ▸ locking⟩

theorem alone_set {callers : List Caller} (alone : ∀ c ∈ callers, holds c = false) {i : Nat} {c : Caller}
    (idle : holds c = false) : ∀ c' ∈ callers.set i c, holds c' = false := by
  intro c' among
  rcases List.mem_or_eq_of_mem_set among with among | rfl
  · exact alone c' among
  · exact idle

theorem alone_append {callers : List Caller} (alone : ∀ c ∈ callers, holds c = false) {c : Caller}
    (idle : holds c = false) : ∀ c' ∈ callers ++ [c], holds c' = false := by
  intro c' among
  rcases List.mem_append.mp among with among | among
  · exact alone c' among
  · exact List.mem_singleton.mp among ▸ idle

theorem Deadlocked.caller_alone {i : Nat} (deadlocked : s.Deadlocked) (next : s.caller i = some s') :
    ∀ c ∈ s'.callers, holds c = false := by
  have pending : s.pending = true := by simp [frpsController.pending, deadlocked.jammed.1]
  rw [caller] at next
  split at next
  · rw [if_pos pending] at next
    contradiction
  · rename_i section_ takes found
    cases deadlocked.alone _ (List.mem_of_getElem? found)
  · split_ifs at next
    · exact Option.some.inj next ▸ alone_set deadlocked.alone rfl
    · exact Option.some.inj next ▸ alone_set deadlocked.alone rfl
  · contradiction
  · contradiction

theorem doWriteLoop_callers {failed : Bool}
    (next : s.doWriteLoop failed = some s') : s'.callers = s.callers := by
  rw [doWriteLoop] at next
  split at next
  · split at next
    · exact Option.some.inj next ▸ rfl
    · split_ifs at next
      exact Option.some.inj next ▸ rfl
  · exact Option.some.inj next ▸ rfl
  · contradiction

/-- Nothing that can still happen ends a deadlock: `Close` never returns. -/
theorem Deadlocked.step {e : Event} (deadlocked : s.Deadlocked)
    (next : s.step e = some s') : s'.Deadlocked := by
  obtain ⟨waiting, ⟨m, sending⟩, full, locking⟩ := deadlocked.jammed
  have pending : s.pending = true := by simp [frpsController.pending, waiting]
  have shared : s.shared = true := by simp [frpsController.shared, sending]
  cases e with
  | read result => simp [frpsController.step, readStep, sending] at next
  | doReadLoop => simp [frpsController.step, doReadLoop, sending, Nat.not_lt.mpr full] at next
  | handleReadMsg => simp [frpsController.step, handleReadMsg, locking, pending] at next
  | doWriteLoop failed =>
    exact (doWriteLoop_sameQueue next).deadlocked deadlocked
      (doWriteLoop_callers next ▸ deadlocked.alone)
  | call section_ =>
    cases Option.some.inj next
    exact SameQueue.deadlocked (s := s) ⟨rfl, rfl, rfl, rfl⟩ deadlocked
      (alone_append deadlocked.alone rfl)
  | GetWorkConn =>
    cases Option.some.inj next
    refine SameQueue.deadlocked (s := s) ⟨rfl, rfl, rfl, rfl⟩ deadlocked
      (alone_append deadlocked.alone ?_)
    split_ifs <;> rfl
  | caller i => exact (caller_sameQueue next).deadlocked deadlocked (deadlocked.caller_alone next)
  | timeout i =>
    refine (timeout_sameQueue next).deadlocked deadlocked ?_
    rw [frpsController.step, timeout] at next
    split_ifs at next
    exact Option.some.inj next ▸ alone_set deadlocked.alone rfl
  | Close => simp [frpsController.step, Close, waiting, shared] at next

end steps

/-- Of every run in which `Close` asks for the lock in time no state is a deadlock. -/
theorem not_deadlocked_of_run {events : List Event} {s : frpsController}
    (run : system.Run ClosesInTime events s) :
    ¬ s.Deadlocked := by
  intro deadlocked
  obtain ⟨waiting, jammed⟩ := deadlocked.jammed
  exact (fair_of_run run).free waiting jammed

/-- The client sends a ping and the read loop puts it into the queue. -/
def queuePing : List Event := [.read (some .Ping), .doReadLoop, .doReadLoop]

/-- `handleReadMsg` has a ping in hand when the queue fills up, and the read loop has one more. -/
def fillQueue : List Event :=
  queuePing ++ [.handleReadMsg] ++ (List.replicate controllerCap queuePing).flatten ++
    [.read (some .Ping), .doReadLoop]

def full : frpsController :=
  { NewFrpsController with
    readCh := .replicate controllerCap .Ping
    readLoop := .sending .Ping
    readMsg := .locking }

theorem not_deadlocked_of_answered : system.Run ClosesInTime (fillQueue ++ [.handleReadMsg, .Close])
    { full with readMsg := .writing, closer := .waiting } ∧
    ¬ Deadlocked { full with readMsg := .writing, closer := .waiting } := by
  have filled : system.play (fun _ e => e != .Close) (fillQueue ++ [.handleReadMsg]) NewFrpsController =
      some { full with readMsg := .writing } := by decide +kernel
  have run : system.Run ClosesInTime (fillQueue ++ [.handleReadMsg])
      { full with readMsg := .writing } := by
    refine ((System.Run.start rfl).play _ filled).mono ?_
    intro s e ok closes
    exact absurd closes (by simpa using ok)
  have closed : system.Run ClosesInTime (fillQueue ++ [.handleReadMsg, .Close])
      { full with readMsg := .writing, closer := .waiting } := by
    rw [List.append_cons]
    refine run.step ?_ rfl
    intro _ _ jammed
    cases jammed.2.2
  exact ⟨closed, not_deadlocked_of_run closed⟩

/-- The client's pings fill the queue before `Close`, and the three goroutines wait for each other. -/
theorem deadlocked_by_pings : ¬ ∀ s, system.Reachable s → ¬ s.Deadlocked := by
  intro claimed
  have played : system.play (fun _ _ => true) (fillQueue ++ [.Close]) NewFrpsController =
      some { full with closer := .waiting } := by decide +kernel
  refine claimed _ (.of_play rfl played) ?_
  exact deadlocked_of_jammed rfl ⟨⟨.Ping, rfl⟩, by simp [full], rfl⟩ (by simp [full, NewFrpsController])

end frpsController

end Gotun.Tun
