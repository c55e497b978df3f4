import Gotun.Tun.FrpsController

/-! `tun/frpc_controller.go` and `Frpc.Close`, step by step. The loop of `run` looks at `exit` at its
top only, and the steps of `Close` come in any order with its own. -/

namespace Gotun.Tun

open Gotun.Lib

/-- The next step of `run`, through `login`, `onRead` and `Frpc.startWorker`. -/
inductive frpcController.Running where
  | exit
  | createConn
  | cryptoReaderWriter (conn : Nat)
  | WriteLogin (conn : Nat)
  | ReadResp (conn : Nat)
  | storeRW (conn : Nat)
  | ReadMsg (conn : Nat)
  | dispatch (conn : Nat) (m : Message)
  | GetStream (conn : Nat) (left : Nat)
  | closeRW (conn : Nat)
  | sleep
  | returned
  deriving DecidableEq, Repr

/-- The next step of `Frpc.Close`; what comes before `exit` closes the outputs and their probes. -/
inductive frpcController.Closing where
  | notCalled
  | exit
  | rw
  | returned
  deriving DecidableEq, Repr

/-- `conns` says of each control connection whether it is open, `buffer` holds the messages of a
record that the wrapper has decrypted and `ReadMsg` not yet taken, `late` the connections whose login
was completed after `Close`. -/
structure frpcController where
  exit : Bool
  rw : Option Nat
  conns : List Bool
  buffer : List Message
  requests : Nat
  workers : Nat
  late : List Nat
  running : frpcController.Running
  closing : frpcController.Closing
  deriving DecidableEq, Repr

namespace frpcController

def newFrpcController : frpcController := ⟨false, none, [], [], 0, 0, [], .exit, .notCalled⟩

/-- A step of the loop has the outcome of the call it makes and what has arrived for a read. -/
inductive Event where
  | run (ok : Bool) (arrived : List Message)
  | Close
  | lost (conn : Nat)
  deriving DecidableEq, Repr

def isOpen (s : frpcController) (conn : Nat) : Bool := s.conns[conn]? = some true

def close (s : frpcController) (conn : Nat) : frpcController :=
  { s with conns := s.conns.set conn false }

/-- What is buffered is read even when the connection is closed. -/
def receive (s : frpcController) (conn : Nat) (ok : Bool) (arrived : List Message) :
    Option (Message × List Message) :=
  match ok, s.buffer with
  | false, _ => none
  | true, m :: rest => some (m, rest)
  | true, [] => if s.isOpen conn then match arrived with
    | m :: rest => some (m, rest)
    | [] => none
    else none

/-- `login` takes a `LoginResp` without an error and nothing else. -/
def accepted (got : Option (Message × List Message)) : Option (List Message) :=
  match got with
  | some (.LoginResp _ err, rest) => if err = "" then some rest else none
  | _ => none

/-- A failed connection or login is tried again after five seconds; its connection is not closed. -/
def runStep (ok : Bool) (arrived : List Message) (s : frpcController) : Option frpcController :=
  match s.running with
  | .exit => some { s with running := if s.exit then .returned else .createConn }
  | .createConn => some <|
    if ok then
      { s with
        conns := s.conns ++ [true], buffer := [], running := .cryptoReaderWriter s.conns.length }
    else { s with running := .sleep }
  | .cryptoReaderWriter conn => some { s with running := if ok then .WriteLogin conn else .sleep }
  | .WriteLogin conn => some { s with running := if ok ∧ s.isOpen conn then .ReadResp conn else .sleep }
  | .ReadResp conn => some <| match accepted (s.receive conn ok arrived) with
    | some rest => { s with
        buffer := rest
        late := if s.closing = .returned then s.late ++ [conn] else s.late
        running := .storeRW conn }
    | none => { s with running := .sleep }
  | .storeRW conn => some { s with rw := some conn, running := .ReadMsg conn }
  | .ReadMsg conn => some <| match s.receive conn ok arrived with
    | some (m, rest) => { s with buffer := rest, running := .dispatch conn m }
    | none => { s with running := .closeRW conn }
  | .dispatch conn m => some <| match m with
    | .ReqWorkConn count => { s with requests := s.requests + 1, running := .GetStream conn count.toNat }
    | _ => { s with running := .ReadMsg conn }
  | .GetStream conn 0 => some { s with running := .ReadMsg conn }
  | .GetStream conn (left + 1) => some <|
    if ok then { s with workers := s.workers + 1, running := .GetStream conn left }
    else { s with running := .ReadMsg conn }
  | .closeRW conn => some { s.close conn with running := .sleep }
  | .sleep => some { s with running := .exit }
  | .returned => none

def Close (s : frpcController) : Option frpcController :=
  match s.closing with
  | .notCalled => some { s with closing := .exit }
  | .exit => some { s with exit := true, closing := .rw }
  | .rw => some <| match s.rw with
    | some conn => { s.close conn with closing := .returned }
    | none => { s with closing := .returned }
  | .returned => none

/-- A connection can be lost at any time: its peer closes it, or the pool of makers it came from is
closed. -/
def step (s : frpcController) : Event → Option frpcController
  | .run ok arrived => s.runStep ok arrived
  | .Close => s.Close
  | .lost conn => some (s.close conn)

def system : System frpcController Event where
  start s := s = newFrpcController
  step := step

/-- The loop waits for the server, or has ended. -/
def AtRest (s : frpcController) : Prop := s.running = .returned ∨ ∃ conn, s.running = .ReadMsg conn

/-- Nothing that can still happen takes a request or opens a worker stream, and no connection whose
login came too late is left open. -/
structure StaysClosed (s : frpcController) : Prop where
  idle : ∀ e s', s.step e = some s' → s'.requests = s.requests ∧ s'.workers = s.workers
  late : s.AtRest → ∀ conn ∈ s.late, s.isOpen conn = false

def isRequest : Message → Bool
  | .ReqWorkConn _ => true
  | _ => false

/-- A request has arrived on the stored connection and is not dealt with. -/
def atHand (s : frpcController) : Bool :=
  match s.running with
  | .ReadMsg _ => s.buffer.any isRequest
  | .dispatch _ m => isRequest m || s.buffer.any isRequest
  | .GetStream _ left => 0 < left || s.buffer.any isRequest
  | _ => false

def Running.stores : Running → Bool
  | .storeRW _ => true
  | _ => false

/-- `run` stores its connection where `Close` will look for it, and `Close` does not end while `run`
has a request at hand. -/
def InTime (s : frpcController) : Event → Prop
  | .run _ _ => s.running.stores = true → s.closing ≠ .returned
  | .Close => s.closing = .rw → s.atHand = false
  | .lost _ => True

instance (s : frpcController) : (e : Event) → Decidable (s.InTime e)
  | .run _ _ => inferInstanceAs (Decidable (s.running.stores = true → s.closing ≠ .returned))
  | .Close => inferInstanceAs (Decidable (s.closing = .rw → s.atHand = false))
  | .lost _ => isTrue trivial

/-- The connection that `onRead` reads. -/
def Running.reads : Running → Option Nat
  | .ReadMsg conn | .dispatch conn _ | .GetStream conn _ => some conn
  | _ => none

structure Sound (s : frpcController) : Prop where
  stored : ∀ conn, s.running.reads = some conn → s.rw = some conn
  early : s.closing ≠ .returned → s.late = []
  late : ∀ conn ∈ s.late, s.running = .storeRW conn
  closed : s.closing = .returned → ∀ conn, s.running.reads = some conn → s.isOpen conn = false
  served : s.closing = .returned → s.atHand = false

section steps

variable {s s' : frpcController}

theorem close_isOpen (s : frpcController) (conn : Nat) : (s.close conn).isOpen conn = false := by
  simp [isOpen, close, List.getElem?_set_self']

theorem isOpen_close {conn other : Nat} (closed : s.isOpen other = false) :
    (s.close conn).isOpen other = false := by
  by_cases same : conn = other
  · exact same ▸ close_isOpen s conn
  · simpa [isOpen, close, List.getElem?_set_ne same] using closed

/-- From a closed connection comes only what is buffered. -/
theorem receive_closed {conn : Nat} {ok : Bool} {arrived : List Message}
    {got : Message × List Message} (closed : s.isOpen conn = false)
    (received : s.receive conn ok arrived = some got) : s.buffer = got.1 :: got.2 := by
  unfold receive at received
  split at received
  · contradiction
  · rename_i m rest buffered
    exact Option.some.inj received ▸ buffered
  · rw [if_neg (Bool.not_eq_true _ ▸ closed)] at received
    contradiction

/-- Nothing is at hand once the loop has left `onRead`. -/
theorem atHand_of_reads (away : s.running.reads = none) : s.atHand = false := by
  unfold atHand
  cases at_ : s.running with
  | ReadMsg | dispatch | GetStream => simp [at_, Running.reads] at away
  | _ => rfl

/-- The loop is not in `onRead`, and no login came too late. -/
theorem Sound.of_away (away : s.running.reads = none) (late : s.late = []) : s.Sound where
  stored _ reads := by simp [away] at reads
  early _ := late
  late _ among := by simp [late] at among
  closed _ _ reads := by simp [away] at reads
  served _ := atHand_of_reads away

theorem Sound.lost (sound : s.Sound) (conn : Nat) : (s.close conn).Sound where
  stored := sound.stored
  early := sound.early
  late := sound.late
  closed returned other reads := isOpen_close (sound.closed returned other reads)
  served := sound.served

theorem Sound.of_closing (sound : s.Sound) (before : s.closing ≠ .returned)
    (running : s'.running = s.running) (rw_ : s'.rw = s.rw) (late : s'.late = s.late)
    (after : s'.closing ≠ .returned) : s'.Sound where
  stored conn reads := rw_ ▸ sound.stored conn (running ▸ reads)
  early _ := late ▸ sound.early before
  late conn among := running ▸ sound.late conn (late ▸ among)
  closed returned := absurd returned after
  served returned := absurd returned after

/-- `Close` finds the connection that `onRead` reads. -/
theorem Sound.Close (sound : s.Sound) (inTime : s.InTime .Close)
    (next : s.Close = some s') : s'.Sound := by
  unfold frpcController.Close at next
  split at next
  · rename_i before
    exact Option.some.inj next ▸ sound.of_closing (by simp [before]) rfl rfl rfl (by simp)
  · rename_i before
    exact Option.some.inj next ▸ sound.of_closing (by simp [before]) rfl rfl rfl (by simp)
  · rename_i before
    have served : s.atHand = false := inTime before
    split at next
    · rename_i conn stored
      refine Option.some.inj next ▸
        ⟨sound.stored, fun other => absurd rfl other, sound.late, ?_, fun _ => served⟩
      intro _ other reads
      cases stored.symm.trans (sound.stored other reads)
      exact close_isOpen s conn
    · rename_i unset
      refine Option.some.inj next ▸
        ⟨sound.stored, fun other => absurd rfl other, sound.late, ?_, fun _ => served⟩
      intro _ other reads
      cases unset.symm.trans (sound.stored other reads)
  · contradiction

/-- A login that came too late gets no further. -/
theorem Sound.late_nil {ok : Bool} {arrived : List Message} (sound : s.Sound)
    (inTime : s.InTime (.run ok arrived)) :
    s.late = [] := by
  by_cases returned : s.closing = .returned
  · apply List.eq_nil_iff_forall_not_mem.mpr
    intro conn among
    exact inTime (sound.late conn among ▸ rfl) returned
  · exact sound.early returned

/-- `onRead` goes on with the connection it reads; of what was buffered it may have taken something. -/
theorem Sound.of_reads (sound : s.Sound) {conn : Nat} (before : s.running.reads = some conn)
    (after : s'.running.reads = some conn) (rw_ : s'.rw = s.rw) (conns : s'.conns = s.conns)
    (late : s.late = []) (late' : s'.late = s.late) (closing : s'.closing = s.closing)
    (served : s.closing = .returned → s'.atHand = false) : s'.Sound where
  stored other reads := by
    cases after.symm.trans reads
    exact rw_.trans (sound.stored conn before)
  early _ := late'.trans late
  late other among := by simp [late', late] at among
  closed returned other reads := by
    cases after.symm.trans reads
    have closed := sound.closed (closing ▸ returned) conn before
    rwa [isOpen, conns]
  served returned := served (closing ▸ returned)

theorem Sound.ReadResp {ok : Bool} {arrived : List Message} {conn : Nat} (late : s.late = [])
    (at_ : s.running = .ReadResp conn) (next : s.runStep ok arrived = some s') : s'.Sound := by
  rw [runStep, at_] at next
  dsimp only at next
  split at next
  · cases Option.some.inj next
    by_cases returned : s.closing = .returned
    · constructor
      case stored | closed => simp [Running.reads]
      case early => exact fun other => absurd returned other
      case served => exact fun _ => atHand_of_reads rfl
      case late =>
        intro other among
        rw [if_pos returned, late] at among
        rw [List.mem_singleton.mp among]
    · exact .of_away rfl (by simp [returned, late])
  · exact Option.some.inj next ▸ .of_away rfl late

theorem Sound.ReadMsg {ok : Bool} {arrived : List Message} {conn : Nat} (sound : s.Sound)
    (late : s.late = []) (at_ : s.running = .ReadMsg conn)
    (next : s.runStep ok arrived = some s') : s'.Sound := by
  have reads : s.running.reads = some conn := by rw [at_, Running.reads]
  rw [runStep, at_] at next
  dsimp only at next
  split at next
  · rename_i m rest received
    cases Option.some.inj next
    refine sound.of_reads reads rfl rfl rfl late rfl rfl ?_
    intro returned
    have buffered : s.buffer = m :: rest := receive_closed (sound.closed returned conn reads) received
    have served := sound.served returned
    rwa [atHand, at_, buffered] at served
  · exact Option.some.inj next ▸ .of_away rfl late

theorem Sound.dispatch {ok : Bool} {arrived : List Message} {conn : Nat} {m : Message}
    (sound : s.Sound) (late : s.late = []) (at_ : s.running = .dispatch conn m)
    (next : s.runStep ok arrived = some s') : s'.Sound := by
  have reads : s.running.reads = some conn := by rw [at_, Running.reads]
  have atHand_eq : s.atHand = (isRequest m || s.buffer.any isRequest) := by rw [atHand, at_]
  rw [runStep, at_] at next
  cases m with
  | ReqWorkConn count =>
    cases Option.some.inj next
    refine sound.of_reads reads rfl rfl rfl late rfl rfl ?_
    intro returned
    cases atHand_eq.symm.trans (sound.served returned)
  | _ =>
    cases Option.some.inj next
    exact sound.of_reads reads rfl rfl rfl late rfl rfl fun returned =>
      atHand_eq.symm.trans (sound.served returned)

theorem Sound.GetStream {ok : Bool} {arrived : List Message} {conn left : Nat} (sound : s.Sound)
    (late : s.late = []) (at_ : s.running = .GetStream conn left)
    (next : s.runStep ok arrived = some s') : s'.Sound := by
  have reads : s.running.reads = some conn := by rw [at_, Running.reads]
  have atHand_eq : s.atHand = (decide (0 < left) || s.buffer.any isRequest) := by rw [atHand, at_]
  have buffered (returned : s.closing = .returned) : left = 0 ∧ s.buffer.any isRequest = false := by
    have served := atHand_eq.symm.trans (sound.served returned)
    simpa only [Bool.or_eq_false_iff, decide_eq_false_iff_not, Nat.not_lt, Nat.le_zero] using served
  rw [runStep, at_] at next
  cases left with
  | zero =>
    cases Option.some.inj next
    exact sound.of_reads reads rfl rfl rfl late rfl rfl fun returned => (buffered returned).2
  | succ left =>
    cases ok with
    | false =>
      cases Option.some.inj next
      exact sound.of_reads reads rfl rfl rfl late rfl rfl fun returned => (buffered returned).2
    | true =>
      cases Option.some.inj next
      exact sound.of_reads reads rfl rfl rfl late rfl rfl fun returned => by cases (buffered returned).1

theorem Sound.run {ok : Bool} {arrived : List Message} (sound : s.Sound)
    (inTime : s.InTime (.run ok arrived)) (next : s.runStep ok arrived = some s') : s'.Sound := by
  have late : s.late = [] := sound.late_nil inTime
  cases at_ : s.running with
  | ReadResp conn => exact .ReadResp late at_ next
  | ReadMsg conn => exact sound.ReadMsg late at_ next
  | dispatch conn m => exact sound.dispatch late at_ next
  | GetStream conn left => exact sound.GetStream late at_ next
  | storeRW conn =>
    rw [runStep, at_] at next
    cases Option.some.inj next
    have returned : s.closing ≠ .returned := inTime (at_ ▸ rfl)
    exact ⟨fun _ reads => reads, fun _ => late, fun _ among => by simp [late] at among,
      fun other => absurd other returned, fun other => absurd other returned⟩
  | createConn =>
    rw [runStep, at_] at next
    cases ok with
    | true => exact Option.some.inj next ▸ .of_away rfl late
    | false => exact Option.some.inj next ▸ .of_away rfl late
  | exit | cryptoReaderWriter | WriteLogin =>
    rw [runStep, at_] at next
    refine Option.some.inj next ▸ .of_away ?_ late
    split_ifs <;> rfl
  | closeRW | sleep =>
    rw [runStep, at_] at next
    exact Option.some.inj next ▸ .of_away rfl late
  | returned =>
    rw [runStep, at_] at next
    contradiction

theorem Sound.step {e : Event} (sound : s.Sound) (inTime : s.InTime e)
    (next : s.step e = some s') : s'.Sound := by
  cases e with
  | run ok arrived => exact sound.run inTime next
  | Close => exact sound.Close inTime next
  | lost conn => exact Option.some.inj next ▸ sound.lost conn

theorem sound_of_run {events : List Event} (run : system.Run InTime events s) : s.Sound := by
  refine run.invariant Sound ?_ (fun _ _ _ sound inTime next => sound.step inTime next)
  intro start starts
  exact starts ▸ .of_away rfl rfl

/-- The steps that take a request or open a stream have one at hand. -/
theorem runStep_idle {ok : Bool} {arrived : List Message} (served : s.atHand = false)
    (next : s.runStep ok arrived = some s') : s'.requests = s.requests ∧ s'.workers = s.workers := by
  cases at_ : s.running with
  | dispatch conn m =>
    rw [atHand, at_] at served
    rw [runStep, at_] at next
    cases m with
    | ReqWorkConn count => cases served
    | _ => exact Option.some.inj next ▸ ⟨rfl, rfl⟩
  | GetStream conn left =>
    rw [atHand, at_] at served
    rw [runStep, at_] at next
    cases left with
    | zero => exact Option.some.inj next ▸ ⟨rfl, rfl⟩
    | succ left => cases (Bool.or_eq_false_iff.mp served).1
  | createConn =>
    rw [runStep, at_] at next
    cases ok with
    | true => exact Option.some.inj next ▸ ⟨rfl, rfl⟩
    | false => exact Option.some.inj next ▸ ⟨rfl, rfl⟩
  | ReadResp conn =>
    rw [runStep, at_] at next
    dsimp only at next
    split at next
    · exact Option.some.inj next ▸ ⟨rfl, rfl⟩
    · exact Option.some.inj next ▸ ⟨rfl, rfl⟩
  | ReadMsg conn =>
    rw [runStep, at_] at next
    dsimp only at next
    split at next
    · exact Option.some.inj next ▸ ⟨rfl, rfl⟩
    · exact Option.some.inj next ▸ ⟨rfl, rfl⟩
  | exit | cryptoReaderWriter | WriteLogin | storeRW | closeRW | sleep =>
    rw [runStep, at_] at next
    exact Option.some.inj next ▸ ⟨rfl, rfl⟩
  | returned =>
    rw [runStep, at_] at next
    contradiction

theorem Sound.staysClosed (sound : s.Sound) (returned : s.closing = .returned) : s.StaysClosed where
  idle e s' next := by
    cases e with
    | run ok arrived => exact runStep_idle (sound.served returned) next
    | Close => simp [frpcController.step, frpcController.Close, returned] at next
    | lost conn => exact Option.some.inj next ▸ ⟨rfl, rfl⟩
  late rest conn among := by
    have storing := sound.late conn among
    rcases rest with ended | ⟨other, reading⟩
    · cases ended.symm.trans storing
    · cases reading.symm.trans storing

end steps

/-- After `Close` the loop serves nobody, in every run whose steps come in time. -/
theorem staysClosed_of_run {events : List Event} {s : frpcController} (run : system.Run InTime events s)
    (returned : s.closing = .returned) : s.StaysClosed := (sound_of_run run).staysClosed returned

/-- The loop connects, logs in and is at its first read. -/
def loggedIn : List Event :=
  let answer := Event.run true [.LoginResp "0.0.1" ""]
  [answer, answer, answer, answer, answer, answer]

/-- `Close` comes while the loop reads, and the read fails. -/
def closeAtRead : List Event := loggedIn ++ .replicate 3 .Close ++ .replicate 4 (.run false [])

def closedAtRead : frpcController :=
  { newFrpcController with
    exit := true, rw := some 0, conns := [false], running := .returned, closing := .returned }

theorem read_then_closed : system.Run InTime closeAtRead closedAtRead ∧ closedAtRead.StaysClosed := by
  have played : system.play (fun s e => decide (s.InTime e)) closeAtRead newFrpcController =
      some closedAtRead := by
    decide
  have run : system.Run InTime closeAtRead closedAtRead :=
    ((System.Run.start rfl).play closeAtRead played).mono fun _ _ ok => of_decide_eq_true ok
  exact ⟨run, staysClosed_of_run run rfl⟩

/-- `Close` comes while the loop connects. -/
def closeAtConnect : List Event :=
  let answer := Event.run true [.LoginResp "0.0.1" ""]
  [answer] ++ .replicate 3 .Close ++ .replicate 5 answer ++ [.run true [.ReqWorkConn FrpWorkerCount]]

/-- The login is completed after `Close`, and the server's request for workers is served. -/
theorem served_after_close : ¬ ∀ s, system.Reachable s → s.closing = .returned → s.StaysClosed := by
  intro claimed
  let served : frpcController :=
    { newFrpcController with
      exit := true
      rw := some 0
      conns := [true]
      late := [0]
      running := .dispatch 0 (.ReqWorkConn FrpWorkerCount)
      closing := .returned }
  have played : system.play (fun _ _ => true) closeAtConnect newFrpcController = some served := by decide
  have closed := claimed served (.of_play rfl played) rfl
  have idle := closed.idle (.run true []) { served with requests := 1, running := .GetStream 0 10 } rfl
  exact absurd idle.1 (by decide)

/-! The streams that the loop has opened. -/

/-- A controller with the streams of `createConn` on which nobody has called `Close`. That the peer has
gone does not close a stream. -/
structure Tracked where
  controller : frpcController
  unclosed : List Nat
  deriving DecidableEq, Repr

namespace Tracked

def opened (t : Tracked) (ok : Bool) : List Nat :=
  match t.controller.running with
  | .createConn => if ok then t.controller.conns.length :: t.unclosed else t.unclosed
  | .closeRW conn => t.unclosed.filter (· ≠ conn)
  | _ => t.unclosed

def closed (t : Tracked) : List Nat :=
  match t.controller.closing, t.controller.rw with
  | .rw, some conn => t.unclosed.filter (· ≠ conn)
  | _, _ => t.unclosed

def unclosedAfter (t : Tracked) : Event → List Nat
  | .run ok _ => t.opened ok
  | .Close => t.closed
  | .lost _ => t.unclosed

def system : System Tracked Event where
  start t := t = ⟨newFrpcController, []⟩
  step t e := (t.controller.step e).map (⟨·, t.unclosedAfter e⟩)

end Tracked

/-- One of the ways in which `login` returns an error. -/
def loginFails (s : frpcController) : Event → Bool
  | .run ok arrived => match s.running with
    | .cryptoReaderWriter _ => !ok
    | .WriteLogin conn => !(ok && s.isOpen conn)
    | .ReadResp conn => (accepted (s.receive conn ok arrived)).isNone
    | _ => false
  | _ => false

/-- The stream that the loop is at. -/
def Running.holds : Running → Option Nat
  | .cryptoReaderWriter conn | .WriteLogin conn | .ReadResp conn | .storeRW conn | .ReadMsg conn
  | .dispatch conn _
  | .GetStream conn _ | .closeRW conn => some conn
  | .exit | .createConn | .sleep | .returned => none

section streams

variable {s s' : frpcController} {t t' : Tracked}

/-- A step that neither opens nor closes a stream stays at the one it is at, if the login does not
fail. -/
theorem runStep_holds {ok : Bool} {arrived : List Message} (next : s.runStep ok arrived = some s')
    (succeeds : s.loginFails (.run ok arrived) = false) (connects : s.running ≠ .createConn)
    (closes : ∀ conn, s.running ≠ .closeRW conn) : s'.running.holds = s.running.holds := by
  cases at_ : s.running with
  | createConn => exact absurd at_ connects
  | closeRW conn => exact absurd at_ (closes conn)
  | cryptoReaderWriter conn =>
    rw [loginFails, at_] at succeeds
    rw [runStep, at_] at next
    cases ok with
    | true => exact Option.some.inj next ▸ rfl
    | false => contradiction
  | WriteLogin conn =>
    rw [loginFails, at_] at succeeds
    rw [runStep, at_] at next
    have written : ok = true ∧ s.isOpen conn = true := by simpa using succeeds
    cases Option.some.inj next
    rw [if_pos written]
    rfl
  | ReadResp conn =>
    rw [loginFails, at_] at succeeds
    rw [runStep, at_] at next
    dsimp only at next succeeds
    cases answer : accepted (s.receive conn ok arrived) with
    | none =>
      rw [answer] at succeeds
      contradiction
    | some rest =>
      rw [answer] at next
      exact Option.some.inj next ▸ rfl
  | ReadMsg conn =>
    rw [runStep, at_] at next
    dsimp only at next
    split at next <;> exact Option.some.inj next ▸ rfl
  | dispatch conn m =>
    rw [runStep, at_] at next
    cases m <;> exact Option.some.inj next ▸ rfl
  | GetStream conn left =>
    rw [runStep, at_] at next
    cases left with
    | zero => exact Option.some.inj next ▸ rfl
    | succ left => cases ok <;> exact Option.some.inj next ▸ rfl
  | exit =>
    rw [runStep, at_] at next
    cases Option.some.inj next
    show (if s.exit then Running.returned else Running.createConn).holds = none
    split_ifs <;> rfl
  | storeRW | sleep =>
    rw [runStep, at_] at next
    exact Option.some.inj next ▸ rfl
  | returned =>
    rw [runStep, at_] at next
    contradiction

theorem Close_running (next : s.Close = some s') : s'.running = s.running := by
  unfold frpcController.Close at next
  split at next
  · exact Option.some.inj next ▸ rfl
  · exact Option.some.inj next ▸ rfl
  · split at next <;> exact Option.some.inj next ▸ rfl
  · contradiction

/-- Only the stream that the loop is at is open. -/
def Tracked.Tidy (t : Tracked) : Prop := t.unclosed.Sublist t.controller.running.holds.toList

theorem Tracked.closed_sublist (t : Tracked) : t.closed.Sublist t.unclosed := by
  unfold Tracked.closed
  split
  · exact List.filter_sublist
  · exact List.Sublist.refl _

theorem Tracked.Tidy.run {ok : Bool} {arrived : List Message} (tidy : t.Tidy)
    (succeeds : t.controller.loginFails (.run ok arrived) = false)
    (next : t.controller.runStep ok arrived = some s') :
    Tracked.Tidy ⟨s', t.opened ok⟩ := by
  by_cases connects : t.controller.running = .createConn
  · rw [Tidy, connects] at tidy
    have none_open : t.unclosed = [] := List.sublist_nil.mp tidy
    rw [runStep, connects] at next
    cases Option.some.inj next
    rw [Tidy, opened, connects, none_open]
    cases ok <;> exact List.Sublist.refl _
  by_cases closes : ∃ conn, t.controller.running = .closeRW conn
  · obtain ⟨conn, closes⟩ := closes
    rw [Tidy, closes] at tidy
    rw [runStep, closes] at next
    cases Option.some.inj next
    rw [Tidy, opened, closes]
    have rest := tidy.filter (fun other => decide (other ≠ conn))
    simpa [Running.holds] using rest
  · have same : t.opened ok = t.unclosed := by
      unfold Tracked.opened
      split
      · exact absurd ‹_› connects
      · exact absurd ⟨_, ‹_›⟩ closes
      · rfl
    rw [Tidy, same, runStep_holds next succeeds connects (not_exists.mp closes)]
    exact tidy

theorem Tracked.Tidy.step {e : Event} (tidy : t.Tidy) (succeeds : t.controller.loginFails e = false)
    (next : Tracked.system.step t e = some t') : t'.Tidy := by
  obtain ⟨s', stepped, rfl⟩ := Option.map_eq_some_iff.mp next
  cases e with
  | run ok arrived => exact tidy.run succeeds stepped
  | Close =>
    rw [Tidy, Close_running stepped]
    exact t.closed_sublist.trans tidy
  | lost conn =>
    cases Option.some.inj stepped
    exact tidy

end streams

/-- In every run in which no login fails, at most one stream is open, and none when the loop connects. -/
theorem one_stream_of_run {events : List Event} {t : Tracked}
    (run : Tracked.system.Run (fun t e => t.controller.loginFails e = false) events t) :
    t.unclosed.length ≤ 1 ∧ (t.controller.running = .createConn → t.unclosed = []) := by
  have tidy : t.Tidy := by
    refine run.invariant Tracked.Tidy ?_ fun _ _ _ tidy succeeds next => tidy.step succeeds next
    rintro _ rfl
    exact List.Sublist.refl _
  refine ⟨?_, fun connects => ?_⟩
  · have short : t.controller.running.holds.toList.length ≤ 1 := by
      cases t.controller.running.holds <;> simp
    exact Nat.le_trans tidy.length_le short
  · rw [Tracked.Tidy, connects] at tidy
    exact List.sublist_nil.mp tidy

/-- The control connection is lost after a while, and the loop connects again. -/
def reconnects : List Event :=
  loggedIn ++ [.run true [.Pong], .run true [], .lost 0, .run false [], .run true [],
    .run true [], .run true []]

theorem reconnects_closed :
    ∃ t, Tracked.system.Run (fun t e => t.controller.loginFails e = false) reconnects t ∧
    t.controller.running = .createConn ∧ t.controller.conns = [false] ∧
    t.unclosed.length ≤ 1 ∧ (t.controller.running = .createConn → t.unclosed = []) := by
  have played : (Tracked.system.play (fun t e => decide (t.controller.loginFails e = false)) reconnects
      ⟨newFrpcController, []⟩).any
        (fun t => t.controller.running = .createConn ∧ t.controller.conns = [false]) = true := by
    decide
  obtain ⟨t, run, seen⟩ := System.Run.of_play rfl played
  obtain ⟨connects, lost⟩ := of_decide_eq_true seen
  have succeeds := run.mono fun _ _ ok => of_decide_eq_true ok
  exact ⟨t, succeeds, connects, lost, one_stream_of_run succeeds⟩

/-- The server does not answer the first login, and the loop tries again. -/
def retries : List Event := .replicate 4 (.run true []) ++ [.run false []] ++ .replicate 3 (.run true [])

/-- The stream of the first attempt is still open. -/
theorem login_leaks : ¬ ∀ t, Tracked.system.Reachable t →
    t.unclosed.length ≤ 1 ∧ (t.controller.running = .createConn → t.unclosed = []) := by
  intro claimed
  have played : (Tracked.system.play (fun _ _ => true) retries ⟨newFrpcController, []⟩).any
      (fun t => t.unclosed = [1, 0]) = true := by
    decide
  obtain ⟨t, run, seen⟩ := System.Run.of_play rfl played
  have open_ : t.unclosed = [1, 0] := of_decide_eq_true seen
  have short := (claimed t ⟨retries, run.mono fun _ _ _ => trivial⟩).1
  rw [open_] at short
  exact absurd short (by decide)

end frpcController

end Gotun.Tun
