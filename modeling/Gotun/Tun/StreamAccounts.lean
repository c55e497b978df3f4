import Gotun.Lib.Entries
import Gotun.Lib.System
import Gotun.Tun.FrameStream
import Gotun.Tun.Manager
import Gotun.Tun.Quality

/-! The streams that outputs open, who uses them, and what the quality trackers say of them. Any
number of goroutines use the outputs: the handlers of `Server`, `Frpc` and `routeService`, the
controller of a `Frpc`, probes and bandwidth tests. -/

namespace Gotun.Tun
open Gotun.Lib

/-- The ways through `Output.getStream`. -/
inductive Opening where
  | makeStream (ok : Bool)
  | poolnum
  | openStream (ok : Bool)
  | waitMaker (ok : Bool)
  | returnError
  deriving DecidableEq, Repr

/-- A failure is recorded unless the pool has no slots. -/
inductive Opened where
  | stream
  | failure
  | unrecorded
  deriving DecidableEq, Repr

def opened (ok : Bool) : Opened := if ok then .stream else .failure

/-- No result where the output cannot get that way. -/
def Output.getStream (o : Output) : Opening → Option Opened
  | .makeStream ok => if o.pooled then none else some (opened ok)
  | .poolnum => if o.pooled ∧ o.poolNum ≤ 0 then some .unrecorded else none
  | .openStream ok | .waitMaker ok => if o.pooled ∧ 0 < o.poolNum then some (opened ok) else none
  | .returnError => if o.pooled ∧ 0 < o.poolNum then some .failure else none

/-- An output that has passed its check records every failure. -/
theorem Output.getStream_recorded {o : Output} (checked : o.CheckCfg = .ok ()) (way : Opening) :
    o.getStream way ≠ some .unrecorded := by
  have recorded (ok : Bool) : opened ok ≠ .unrecorded := by cases ok <;> nofun
  cases way with
  | poolnum =>
    rw [getStream]
    split_ifs with missing
    · rw [CheckCfg, if_pos ⟨missing.2, missing.1⟩] at checked
      contradiction
    · nofun
  | makeStream ok =>
    rw [getStream]
    split_ifs
    · nofun
    · exact fun same => recorded ok (Option.some.inj same)
  | openStream ok | waitMaker ok =>
    rw [getStream]
    split_ifs
    · exact fun same => recorded ok (Option.some.inj same)
    · nofun
  | returnError =>
    rw [getStream]
    split_ifs <;> nofun

/-- A stream that an output has opened. It is in a `qualityStream` where it is `tracked`, and
`closed` is the flag of that. `counted` says that `activeStreams` has had it, `shut` how often the
stream itself was closed, and `others` how many calls of `Close` came from elsewhere than its
user. -/
structure OutputStream where
  output : Nat
  tracked : Bool
  counted : Bool
  closed : Bool
  shut : Nat
  others : Nat
  deriving DecidableEq, Repr

/-- Who uses an output. `createConn` is one turn of the loop of a controller, which gets its
connection from the workers of its `Frpc`; `handleWorkerStream` is handed its stream by
`startWorker`, and `GetStream` is its call for a stream of the other output. `Close` is somebody who
closes the stream of another user. -/
inductive StreamUser.Kind where
  | handleInputStream (output : Nat)
  | handleOutputStream
  | createConn (worker output : Nat)
  | handleWorkerStream (worker output : Nat)
  | GetStream (output : Nat)
  | Probe (output : Nat)
  | RunBandwidthTest (output : Nat)
  | Close (tracked : Bool)
  deriving DecidableEq, Repr

/-- The next step of a user that has got a stream. `WrapDst` is the first use of it: for a
controller the `login`, for a worker `sayHelloAndWait` and `WrapSrcWithRole`. A controller whose
login failed does no more with it. -/
inductive StreamUser.Place where
  | RecordOpenSuccess
  | RecordStreamOpen
  | WrapDst
  | loginFailed
  | use
  | CompareAndSwap
  | RecordStreamClose
  | Close
  deriving DecidableEq, Repr

/-- The next step of a user. The outputs of `getStream` are those that are left to be tried, the
first of them now. -/
inductive StreamUser.At where
  | WrapSrcWithRole
  | ServeLoop
  | candidates
  | getStream (outputs : List Nat)
  | RecordOpenFailure (output : Nat) (rest : List Nat)
  | has (output stream : Nat) (place : StreamUser.Place)
  | closeSrc
  | returned
  deriving DecidableEq, Repr

/-- `src` says of a handler whether the stream that it was given is open, and `within` is the user
in whose use of a stream this one is. -/
structure StreamUser where
  kind : StreamUser.Kind
  src : Option Bool
  within : Option Nat
  at_ : StreamUser.At
  deriving DecidableEq, Repr

namespace StreamUser

/-- `GetStream` tracks, `GetProbeStream` and `GetBandwidthStream` do not. -/
def Kind.tracked : Kind → Bool
  | .handleInputStream _ | .handleOutputStream | .createConn _ _ | .handleWorkerStream _ _
  | .GetStream _ => true
  | .Probe _ | .RunBandwidthTest _ => false
  | .Close tracked => tracked

/-- Where the deferred calls go on after the output. -/
def finish (u : StreamUser) : StreamUser :=
  { u with at_ := if u.src.isSome then .closeSrc else .returned }

/-- `Close`, of a `qualityStream` or of the stream itself. -/
def closing (u : StreamUser) (output stream : Nat) : StreamUser :=
  { u with
    at_ := if u.kind.tracked then .has output stream .CompareAndSwap
      else .has output stream .Close }

end StreamUser

/-- The outputs with their trackers. `failed` has the output of every failure of a `GetStream`. -/
structure Accounts where
  outputs : List (Output × QualityTracker)
  streams : List OutputStream
  users : List StreamUser
  failed : List Nat

namespace Accounts
open StreamUser

/-- What the calls of a user return. -/
inductive Outcome where
  | error
  | ok
  | role (r : StreamRole)
  | candidates (outputs : List Nat)
  | opening (way : Opening)
  deriving DecidableEq, Repr

/-- `startWorker` is a worker that a controller is asked for, and `GetStream` the output that a
worker gets. `Close` is one by somebody else: the copy of a third party, or
`frpcController.Close`. -/
inductive Event where
  | handleInputStream (output : Nat)
  | handleOutputStream
  | createConn (worker output : Nat)
  | startWorker (user : Nat)
  | GetStream (user : Nat)
  | Probe (output : Nat)
  | RunBandwidthTest (output : Nat)
  | Close (user : Nat)
  | step (user : Nat) (r : Outcome)
  deriving DecidableEq, Repr

def set (s : Accounts) (i : Nat) (u : StreamUser) : Accounts := { s with users := s.users.set i u }

def begin (s : Accounts) (u : StreamUser) : Accounts := { s with users := s.users ++ [u] }

def record (s : Accounts) (output : Nat) (f : QualityTracker → QualityTracker) : Accounts :=
  { s with outputs := s.outputs.modify output fun (o, q) => (o, f q) }

def mark (s : Accounts) (stream : Nat) (f : OutputStream → OutputStream) : Accounts :=
  { s with streams := s.streams.modify stream f }

/-- The stream is the newest one. -/
def open_ (s : Accounts) (i : Nat) (u : StreamUser) (output : Nat) : Accounts :=
  { s.set i { u with
      at_ := if u.kind.tracked then .has output s.streams.length .RecordOpenSuccess
        else .has output s.streams.length .WrapDst } with
    streams := s.streams ++ [⟨output, u.kind.tracked, false, false, 0, 0⟩] }

/-- `getStream` of the next output; after a failure a route goes on with the rest. -/
def getStream (s : Accounts) (i : Nat) (u : StreamUser) (output : Nat) (rest : List Nat)
    (way : Opening) : Option Accounts :=
  (s.outputs[output]?).bind fun (o, _) => match o.getStream way with
    | some .stream => some (s.open_ i u output)
    | some .failure => some <|
      if u.kind.tracked then { s.set i { u with at_ := .RecordOpenFailure output rest } with
        failed := s.failed ++ [output] }
      else s.set i { u with at_ := .getStream rest }
    | some .unrecorded => some (s.set i { u with at_ := .getStream rest })
    | none => none

/-- Whether somebody is in the use that user `i` makes of its stream. -/
def busy (s : Accounts) (i : Nat) : Bool := s.users.any fun v => v.within = some i && v.at_ ≠ .returned

def userStep (s : Accounts) (i : Nat) (u : StreamUser) (r : Outcome) : Option Accounts :=
  match u.at_, r with
  | .WrapSrcWithRole, .error => some (s.set i { u with at_ := .closeSrc })
  | .WrapSrcWithRole, .role role => match u.kind with
    | .handleInputStream output =>
      some (s.set i { u with at_ := if role = .Business then .getStream [output] else .ServeLoop })
    | .handleOutputStream => some (s.set i { u with at_ := .candidates })
    | _ => none
  | .ServeLoop, .ok => some (s.set i { u with at_ := .closeSrc })
  | .candidates, .candidates outputs => some (s.set i { u with at_ := .getStream outputs })
  | .getStream [], .error => some (s.set i u.finish)
  | .getStream (output :: rest), .opening way => s.getStream i u output rest way
  | .RecordOpenFailure output rest, .ok =>
    some ((s.set i { u with at_ := .getStream rest }).record output .RecordOpenFailure)
  | .has output stream .RecordOpenSuccess, .ok =>
    some ((s.set i { u with at_ := .has output stream .RecordStreamOpen }).record output
      .RecordOpenSuccess)
  | .has output stream .RecordStreamOpen, .ok =>
    some <| ((s.set i { u with at_ := .has output stream .WrapDst }).record output
      .RecordStreamOpen).mark stream fun st => { st with counted := true }
  | .has output stream .WrapDst, .error => match u.kind with
    | .createConn _ _ => some (s.set i { u with at_ := .has output stream .loginFailed })
    | _ => some (s.set i (u.closing output stream))
  | .has output stream .WrapDst, .ok => some (s.set i { u with at_ := .has output stream .use })
  | .has output stream .use, .ok => if s.busy i then none else some (s.set i (u.closing output stream))
  | .has output stream .CompareAndSwap, .ok => (s.streams[stream]?).map fun st =>
    if st.closed then s.set i { u with at_ := .has output stream .Close }
    else (s.set i { u with at_ := .has output stream .RecordStreamClose }).mark stream fun st =>
      { st with closed := true }
  | .has output stream .RecordStreamClose, .ok =>
    some ((s.set i { u with at_ := .has output stream .Close }).record output .RecordStreamClose)
  | .has _ stream .Close, .ok =>
    some ((s.set i u.finish).mark stream fun st => { st with shut := st.shut + 1 })
  | .closeSrc, .ok => some (s.set i { u with src := some false, at_ := .returned })
  | _, _ => none

def step (s : Accounts) : Event → Option Accounts
  | .handleInputStream output =>
    some (s.begin ⟨.handleInputStream output, some true, none, .WrapSrcWithRole⟩)
  | .handleOutputStream => some (s.begin ⟨.handleOutputStream, some true, none, .WrapSrcWithRole⟩)
  | .createConn worker output =>
    some (s.begin ⟨.createConn worker output, none, none, .getStream [worker]⟩)
  | .startWorker user => match s.users[user]? with
    | some ⟨.createConn worker output, _, _, .has _ _ .use⟩ =>
      some (s.begin ⟨.handleWorkerStream worker output, none, none, .getStream [worker]⟩)
    | _ => none
  | .GetStream user => match s.users[user]? with
    | some ⟨.handleWorkerStream _ output, _, _, .has _ _ .use⟩ =>
      if s.users.any (fun v => v.within = some user) then none
      else some (s.begin ⟨.GetStream output, none, some user, .getStream [output]⟩)
    | _ => none
  | .Probe output => some (s.begin ⟨.Probe output, none, none, .getStream [output]⟩)
  | .RunBandwidthTest output =>
    some (s.begin ⟨.RunBandwidthTest output, none, none, .getStream [output]⟩)
  | .Close user => match s.users[user]? with
    | some ⟨kind, _, _, .has output stream .use⟩ =>
      let closer : StreamUser := ⟨.Close kind.tracked, none, none, .returned⟩
      some ((s.begin (closer.closing output stream)).mark stream fun st =>
        { st with others := st.others + 1 })
    | _ => none
  | .step user r => (s.users[user]?).bind fun u => s.userStep user u r

/-- Outputs that have passed their check, with fresh trackers. -/
def Starts (s : Accounts) : Prop :=
  (∀ oq ∈ s.outputs, oq.1.CheckCfg = .ok () ∧ oq.2.activeStreams = 0 ∧ oq.2.openSuccessTotal = 0 ∧
    oq.2.openFailureTotal = 0) ∧
    s.streams = [] ∧ s.users = [] ∧ s.failed = []

def system : System Accounts Event where
  start := Starts
  step := step

/-! What a step can do. -/

/-- What a user still has to do for the accounts. -/
inductive Load where
  | free
  | failing (output : Nat)
  | succeeding (output stream : Nat)
  | counting (output stream : Nat)
  | holding (stream : Nat)
  | uncounting (output stream : Nat)
  deriving DecidableEq, Repr

def load : StreamUser.At → Load
  | .RecordOpenFailure output _ => .failing output
  | .has output stream .RecordOpenSuccess => .succeeding output stream
  | .has output stream .RecordStreamOpen => .counting output stream
  | .has output stream .RecordStreamClose => .uncounting output stream
  | .has _ stream .WrapDst | .has _ stream .loginFailed | .has _ stream .use
  | .has _ stream .CompareAndSwap
  | .has _ stream .Close => .holding stream
  | .WrapSrcWithRole | .ServeLoop | .candidates | .getStream _ | .closeSrc | .returned => .free

/-- A stream has been counted and closed as far as its user has come. -/
def Suits (st : OutputStream) : StreamUser.Place → Prop
  | .RecordOpenSuccess | .RecordStreamOpen => st.tracked = true
  | .WrapDst | .loginFailed | .use => st.counted = st.tracked
  | .CompareAndSwap => st.tracked = true ∧ st.counted = true
  | .RecordStreamClose => st.tracked = true ∧ st.closed = true
  | .Close => st.tracked = true → st.closed = true

/-- The stream that a user has is there, and is one of the output it was got from. -/
def Fits (streams : List OutputStream) (u : StreamUser) : Prop :=
  match u.at_ with
  | .has output stream place =>
    ∃ st, streams[stream]? = some st ∧ st.output = output ∧ st.tracked = u.kind.tracked ∧ Suits st place
  | .returned => u.src ≠ some true
  | .WrapSrcWithRole | .ServeLoop | .candidates | .getStream _ | .RecordOpenFailure _ _
  | .closeSrc => True

inductive Steps (s : Accounts) : Event → Accounts → Prop
  | begins {e : Event} {u : StreamUser} (free : load u.at_ = .free) (fits : Fits s.streams u) :
      Steps s e (s.begin u)
  | closes {i output stream : Nat} {u closer : StreamUser} (here : s.users[i]? = some u)
      (at_ : u.at_ = .has output stream .use)
      (holds : load closer.at_ = .holding stream) (fits : Fits s.streams u → Fits s.streams closer) :
      Steps s (.Close i) ((s.begin closer).mark stream fun st => { st with others := st.others + 1 })
  | moves {i : Nat} {u u' : StreamUser} {r : Outcome} (here : s.users[i]? = some u)
      (same : load u'.at_ = load u.at_)
      (fits : Fits s.streams u → Fits s.streams u') : Steps s (.step i r) (s.set i u')
  | opens {i output : Nat} {rest : List Nat} {u : StreamUser} {r : Outcome} (here : s.users[i]? = some u)
      (at_ : u.at_ = .getStream (output :: rest)) : Steps s (.step i r) (s.open_ i u output)
  | fails {i output : Nat} {rest : List Nat} {u : StreamUser} {r : Outcome} (here : s.users[i]? = some u)
      (at_ : u.at_ = .getStream (output :: rest)) :
      Steps s (.step i r) { s.set i { u with at_ := .RecordOpenFailure output rest } with
        failed := s.failed ++ [output] }
  | RecordOpenFailure {i output : Nat} {rest : List Nat} {u : StreamUser} (here : s.users[i]? = some u)
      (at_ : u.at_ = .RecordOpenFailure output rest) :
      Steps s (.step i .ok)
        ((s.set i { u with at_ := .getStream rest }).record output .RecordOpenFailure)
  | RecordOpenSuccess {i output stream : Nat} {u : StreamUser} (here : s.users[i]? = some u)
      (at_ : u.at_ = .has output stream .RecordOpenSuccess) :
      Steps s (.step i .ok) ((s.set i { u with at_ := .has output stream .RecordStreamOpen }).record
        output .RecordOpenSuccess)
  | RecordStreamOpen {i output stream : Nat} {u : StreamUser} (here : s.users[i]? = some u)
      (at_ : u.at_ = .has output stream .RecordStreamOpen) :
      Steps s (.step i .ok) (((s.set i { u with at_ := .has output stream .WrapDst }).record output
        .RecordStreamOpen).mark stream
        fun st => { st with counted := true })
  | swaps {i output stream : Nat} {u : StreamUser} {st : OutputStream} (here : s.users[i]? = some u)
      (at_ : u.at_ = .has output stream .CompareAndSwap) (there : s.streams[stream]? = some st)
      (still : st.closed = false) :
      Steps s (.step i .ok)
        ((s.set i { u with at_ := .has output stream .RecordStreamClose }).mark stream
        fun st => { st with closed := true })
  | RecordStreamClose {i output stream : Nat} {u : StreamUser} (here : s.users[i]? = some u)
      (at_ : u.at_ = .has output stream .RecordStreamClose) :
      Steps s (.step i .ok)
        ((s.set i { u with at_ := .has output stream .Close }).record output .RecordStreamClose)
  | Close {i output stream : Nat} {u : StreamUser} (here : s.users[i]? = some u)
      (at_ : u.at_ = .has output stream .Close) :
      Steps s (.step i .ok) ((s.set i u.finish).mark stream fun st => { st with shut := st.shut + 1 })

theorem load_closing (u : StreamUser) (output stream : Nat) :
    load (u.closing output stream).at_ = .holding stream := by
  cases tracked : u.kind.tracked <;> simp [closing, tracked, load]

theorem load_finish (u : StreamUser) : load u.finish.at_ = .free := by
  cases there : u.src.isSome <;> simp [finish, there, load]

theorem fits_finish (streams : List OutputStream) (u : StreamUser) : Fits streams u.finish := by
  cases src : u.src <;> simp [finish, Fits, src]

/-- Who has a stream that has been counted can go on to close it. -/
theorem fits_closing {streams : List OutputStream} {u : StreamUser} {output stream : Nat}
    {st : OutputStream} (there : streams[stream]? = some st) (its : st.output = output)
    (tracked : st.tracked = u.kind.tracked) (counted : st.counted = st.tracked) :
    Fits streams (u.closing output stream) := by
  cases kind : u.kind.tracked with
  | true =>
    simp only [closing, Fits, kind, if_true]
    exact ⟨st, there, its, tracked.trans kind, tracked.trans kind, counted.trans (tracked.trans kind)⟩
  | false =>
    simp only [closing, Fits, kind, Bool.false_eq_true, if_false]
    have untracked := tracked.trans kind
    exact ⟨st, there, its, untracked,
      fun wrong => absurd (untracked.symm.trans wrong) Bool.false_ne_true⟩

variable {s s' : Accounts} {i : Nat} {u : StreamUser} {r : Outcome}

theorem getStream_steps {output : Nat} {rest : List Nat} {way : Opening} (here : s.users[i]? = some u)
    (at_ : u.at_ = .getStream (output :: rest)) (next : s.getStream i u output rest way = some s') :
    Steps s (.step i r) s' := by
  have goes : Steps s (.step i r) (s.set i { u with at_ := .getStream rest }) :=
    .moves here (by rw [at_]; rfl) fun _ => trivial
  rw [getStream] at next
  obtain ⟨⟨o, q⟩, _, next⟩ := Option.bind_eq_some_iff.mp next
  dsimp only at next
  split at next
  · cases next
    exact .opens here at_
  · split_ifs at next
    · cases next
      exact .fails here at_
    · cases next
      exact goes
  · cases next
    exact goes
  · contradiction

theorem userStep_steps (here : s.users[i]? = some u)
    (next : s.userStep i u r = some s') : Steps s (.step i r) s' := by
  have moves {u' : StreamUser} (same : load u'.at_ = load u.at_)
      (fits : Fits s.streams u → Fits s.streams u') : Steps s (.step i r) (s.set i u') :=
    .moves here same fits
  unfold userStep at next
  split at next
  · rename_i at_
    cases next
    exact moves (by rw [at_]; rfl) fun _ => trivial
  · rename_i role at_
    split at next
    · cases next
      refine moves (by rw [at_]; dsimp only; split_ifs <;> rfl) fun _ => ?_
      dsimp only [Fits]
      split_ifs <;> trivial
    · cases next
      exact moves (by rw [at_]; rfl) fun _ => trivial
    · contradiction
  · rename_i at_
    cases next
    exact moves (by rw [at_]; rfl) fun _ => trivial
  · rename_i at_
    cases next
    exact moves (by rw [at_]; rfl) fun _ => trivial
  · rename_i at_
    cases next
    exact moves (by rw [load_finish, at_]; rfl) fun _ => fits_finish s.streams u
  · rename_i at_
    exact getStream_steps here at_ next
  · rename_i at_
    cases next
    exact .RecordOpenFailure here at_
  · rename_i at_
    cases next
    exact .RecordOpenSuccess here at_
  · rename_i at_
    cases next
    exact .RecordStreamOpen here at_
  · rename_i at_
    split at next
    · cases next
      refine moves (by rw [at_]; rfl) fun fits => ?_
      rw [Fits, at_] at fits
      exact fits
    · cases next
      refine moves (by rw [load_closing, at_]; rfl) fun fits => ?_
      rw [Fits, at_] at fits
      obtain ⟨st, there, its, tracked, counted⟩ := fits
      exact fits_closing there its tracked counted
  · rename_i at_
    cases next
    refine moves (by rw [at_]; rfl) fun fits => ?_
    rw [Fits, at_] at fits
    exact fits
  · rename_i at_
    split_ifs at next
    cases next
    refine moves (by rw [load_closing, at_]; rfl) fun fits => ?_
    rw [Fits, at_] at fits
    obtain ⟨st, there, its, tracked, counted⟩ := fits
    exact fits_closing there its tracked counted
  · rename_i stream at_
    obtain ⟨st, there, rfl⟩ := Option.map_eq_some_iff.mp next
    split_ifs with closed
    · refine moves (by rw [at_]; rfl) fun fits => ?_
      rw [Fits, at_] at fits
      obtain ⟨st', there', its, tracked, _⟩ := fits
      obtain rfl := Option.some.inj (there.symm.trans there')
      exact ⟨st, there, its, tracked, fun _ => closed⟩
    · exact .swaps here at_ there (Bool.eq_false_of_not_eq_true closed)
  · rename_i at_
    cases next
    exact .RecordStreamClose here at_
  · rename_i at_
    cases next
    exact .Close here at_
  · rename_i at_
    cases next
    exact moves (by rw [at_]; rfl) fun _ wrong => absurd (Option.some.inj wrong) Bool.false_ne_true
  · contradiction

theorem step_steps {e : Event} (next : s.step e = some s') : Steps s e s' := by
  cases e with
  | handleInputStream output | handleOutputStream | Probe output | RunBandwidthTest output
  | createConn worker output =>
    cases next
    exact .begins rfl trivial
  | startWorker i =>
    rw [step] at next
    split at next
    · cases next
      exact .begins rfl trivial
    · contradiction
  | GetStream i =>
    rw [step] at next
    split at next
    · split_ifs at next
      cases next
      exact .begins rfl trivial
    · contradiction
  | Close i =>
    rw [step] at next
    split at next
    · rename_i kind src within output stream here
      cases next
      refine .closes here rfl (load_closing _ output stream) fun fits => ?_
      obtain ⟨st, there, its, tracked, counted⟩ := fits
      exact fits_closing there its tracked counted
    · contradiction
  | step i r =>
    obtain ⟨u, here, next⟩ := Option.bind_eq_some_iff.mp next
    exact userStep_steps here next

/-! The accounts of one output, and what holds of one stream. -/

def Load.failing? (output : Nat) : Load → Bool
  | .failing o => o = output
  | _ => false

def Load.succeeding? (output : Nat) : Load → Bool
  | .succeeding o _ => o = output
  | _ => false

def Load.uncounting? (output : Nat) : Load → Bool
  | .uncounting o _ => o = output
  | _ => false

def Load.uncounted? (stream : Nat) : Load → Bool
  | .succeeding _ n | .counting _ n => n = stream
  | _ => false

/-- The user has still to close the stream. -/
def Load.owes? (stream : Nat) : Load → Bool
  | .succeeding _ n | .counting _ n | .holding n | .uncounting _ n => n = stream
  | .free | .failing _ => false

/-- How many users are at a place of the kind. -/
def count (s : Accounts) (p : Load → Bool) : Nat := s.users.countP fun u => p (load u.at_)

/-- A stream of the output that is counted and not closed. -/
def isOpen (output : Nat) (st : OutputStream) : Bool := st.output = output && st.counted && !st.closed

def isTracked (output : Nat) (st : OutputStream) : Bool := st.output = output && st.tracked

structure Accounted (s : Accounts) (output : Nat) (q : QualityTracker) : Prop where
  active : q.activeStreams = s.streams.countP (isOpen output) + s.count (Load.uncounting? output)
  success : q.openSuccessTotal + s.count (Load.succeeding? output) = s.streams.countP (isTracked output)
  failure : q.openFailureTotal + s.count (Load.failing? output) = s.failed.count output

/-- What comes first for a stream. -/
structure Ordered (st : OutputStream) : Prop where
  tracks : st.counted = true → st.tracked = true
  counts : st.closed = true → st.counted = true
  closes : st.tracked = true → 0 < st.shut → st.closed = true

structure Held (s : Accounts) (stream : Nat) (st : OutputStream) : Prop where
  owed : s.count (Load.owes? stream) + st.shut = st.others + 1
  uncounted : s.count (Load.uncounted? stream) = (st.tracked && !st.counted).toNat
  ordered : Ordered st

structure Sound (s : Accounts) : Prop where
  checked : ∀ oq ∈ s.outputs, oq.1.CheckCfg = .ok ()
  accounts : ∀ output o q, s.outputs[output]? = some (o, q) → Accounted s output q
  held : ∀ stream st, s.streams[stream]? = some st → Held s stream st
  fits : ∀ u ∈ s.users, Fits s.streams u

theorem count_set {u' : StreamUser} (p : Load → Bool) (here : s.users[i]? = some u) :
    (s.set i u').count p + (if p (load u.at_) then 1 else 0) =
      s.count p + if p (load u'.at_) then 1 else 0 :=
  countP_set_add here

theorem count_begin (p : Load → Bool) (u : StreamUser) :
    (s.begin u).count p = s.count p + if p (load u.at_) then 1 else 0 := by
  simp only [count, begin, List.countP_append, List.countP_singleton]

/-- The streams of the users stay where they are, and only come further. -/
theorem Fits.mono {streams streams' : List OutputStream}
    (grows : ∀ (n : Nat) (st : OutputStream), streams[n]? = some st → ∃ st',
      streams'[n]? = some st' ∧ st'.output = st.output ∧ st'.tracked = st.tracked ∧
        (st.counted = st.tracked → st'.counted = st'.tracked) ∧
        (st.closed = true → st'.closed = true))
    (fits : Fits streams u) : Fits streams' u := by
  unfold Fits at fits ⊢
  split
  · rename_i place at_
    rw [at_] at fits
    obtain ⟨st, there, its, tracked, suits⟩ := fits
    obtain ⟨st', there', its', tracked', counted', closed'⟩ := grows _ st there
    refine ⟨st', there', its'.trans its, tracked'.trans tracked, ?_⟩
    cases place with
    | RecordOpenSuccess | RecordStreamOpen => exact tracked'.trans suits
    | WrapDst | loginFailed | use => exact counted' suits
    | CompareAndSwap =>
      have tracks := tracked'.trans suits.1
      exact ⟨tracks, (counted' (suits.2.trans suits.1.symm)).trans tracks⟩
    | RecordStreamClose => exact ⟨tracked'.trans suits.1, closed' suits.2⟩
    | Close => exact fun tracks => closed' (suits (tracked' ▸ tracks))
  · rename_i at_
    rwa [at_] at fits
  all_goals trivial

/-- A user has to close streams that exist. -/
theorem Fits.owes {streams : List OutputStream} {n : Nat} (fits : Fits streams u)
    (owes : (load u.at_).owes? n = true) :
    n < streams.length := by
  unfold Fits at fits
  split at fits
  · rename_i output stream place at_
    obtain ⟨st, there, _⟩ := fits
    rw [at_] at owes
    obtain rfl : stream = n := by cases place <;> exact of_decide_eq_true owes
    exact (List.getElem?_eq_some_iff.mp there).1
  all_goals
    rename_i at_
    rw [at_] at owes
    exact absurd owes Bool.false_ne_true

variable {u' : StreamUser}

theorem count_changes (here : s.users[i]? = some u) (users : s'.users = s.users.set i u')
    (p : Load → Bool) :
    s'.count p + (p (load u.at_)).toNat = s.count p + (p (load u'.at_)).toNat := by
  have moved := countP_set_add (p := fun v => p (load v.at_)) (b := u') here
  rw [count, count, users]
  cases before : p (load u.at_) <;> cases after : p (load u'.at_) <;>
    simp only [before, after] at moved ⊢ <;> exact moved

/-- What a step makes of the accounts of an output, from what it changes. -/
theorem Accounted.changes {output : Nat} {q q' : QualityTracker} (accounted : Accounted s output q)
    (here : s.users[i]? = some u) (users : s'.users = s.users.set i u')
    (active :
      q'.activeStreams + s.streams.countP (isOpen output) +
          ((load u.at_).uncounting? output).toNat =
        q.activeStreams + s'.streams.countP (isOpen output) +
          ((load u'.at_).uncounting? output).toNat)
    (success :
      q'.openSuccessTotal + s.streams.countP (isTracked output) +
          ((load u'.at_).succeeding? output).toNat =
        q.openSuccessTotal + s'.streams.countP (isTracked output) +
          ((load u.at_).succeeding? output).toNat)
    (failure : q'.openFailureTotal + s.failed.count output + ((load u'.at_).failing? output).toNat =
      q.openFailureTotal + s'.failed.count output + ((load u.at_).failing? output).toNat) :
    Accounted s' output q' := by
  have uncounting := count_changes here users (Load.uncounting? output)
  have succeeding := count_changes here users (Load.succeeding? output)
  have failing := count_changes here users (Load.failing? output)
  obtain ⟨active₀, success₀, failure₀⟩ := accounted
  exact ⟨by omega, by omega, by omega⟩

theorem Held.changes {stream : Nat} {st st' : OutputStream} (held : Held s stream st)
    (here : s.users[i]? = some u) (users : s'.users = s.users.set i u')
    (owed : ((load u'.at_).owes? stream).toNat + st'.shut + st.others =
      ((load u.at_).owes? stream).toNat + st.shut + st'.others)
    (uncounted : ((load u'.at_).uncounted? stream).toNat + (st.tracked && !st.counted).toNat =
      ((load u.at_).uncounted? stream).toNat + (st'.tracked && !st'.counted).toNat)
    (ordered : Ordered st') : Held s' stream st' := by
  have owes := count_changes here users (Load.owes? stream)
  have counting := count_changes here users (Load.uncounted? stream)
  obtain ⟨owed₀, uncounted₀, _⟩ := held
  exact ⟨by omega, by omega, ordered⟩

/-- A move that the accounts do not see. -/
theorem Sound.moves (sound : Sound s) {u' : StreamUser} (here : s.users[i]? = some u)
    (same : load u'.at_ = load u.at_)
    (fits : Fits s.streams u → Fits s.streams u') : Sound (s.set i u') where
  checked := sound.checked
  accounts output o q there := by
    refine (sound.accounts output o q there).changes here rfl ?_ ?_ ?_
    all_goals rw [same]; rfl
  held stream st there := by
    have held := sound.held stream st there
    refine held.changes here rfl ?_ ?_ held.ordered
    all_goals rw [same]
  fits := forall_mem_set sound.fits (fits (sound.fits u (List.mem_of_getElem? here)))

theorem Sound.begins (sound : Sound s) (free : load u.at_ = .free)
    (fits : Fits s.streams u) : Sound (s.begin u) := by
  have counts (p : Load → Bool) (none : p .free = false) : (s.begin u).count p = s.count p := by
    rw [count_begin, free, none, if_neg Bool.false_ne_true, Nat.add_zero]
  refine ⟨sound.checked, fun output o q there => ?_, fun stream st there => ?_,
    forall_mem_concat sound.fits fits⟩
  · obtain ⟨active, success, failure⟩ := sound.accounts output o q there
    exact ⟨by rw [counts _ rfl]; exact active, by rw [counts _ rfl]; exact success,
      by rw [counts _ rfl]; exact failure⟩
  · obtain ⟨owed, uncounted, ordered⟩ := sound.held stream st there
    exact ⟨by rw [counts _ rfl]; exact owed, by rw [counts _ rfl]; exact uncounted, ordered⟩

/-- A user records something at the tracker of an output. -/
theorem Sound.records (sound : Sound s) {u' : StreamUser} {output : Nat}
    {f : QualityTracker → QualityTracker} (here : s.users[i]? = some u)
    (stream : ∀ n, (load u'.at_).owes? n = (load u.at_).owes? n ∧
      (load u'.at_).uncounted? n = (load u.at_).uncounted? n)
    (other : ∀ o, o ≠ output → (load u'.at_).uncounting? o = (load u.at_).uncounting? o ∧
      (load u'.at_).succeeding? o = (load u.at_).succeeding? o ∧
      (load u'.at_).failing? o = (load u.at_).failing? o)
    (active : ∀ q, (f q).activeStreams + ((load u.at_).uncounting? output).toNat =
      q.activeStreams + ((load u'.at_).uncounting? output).toNat)
    (success : ∀ q, (f q).openSuccessTotal + ((load u'.at_).succeeding? output).toNat =
      q.openSuccessTotal + ((load u.at_).succeeding? output).toNat)
    (failure : ∀ q, (f q).openFailureTotal + ((load u'.at_).failing? output).toNat =
      q.openFailureTotal + ((load u.at_).failing? output).toNat)
    (fits : Fits s.streams u → Fits s.streams u') : Sound ((s.set i u').record output f) := by
  have users : ((s.set i u').record output f).users = s.users.set i u' := rfl
  refine ⟨fun oq member => ?_, fun o out q there => ?_, fun n st there => ?_, ?_⟩
  · obtain ⟨k, there⟩ := List.mem_iff_getElem?.mp member
    rcases of_getElem?_modify there with ⟨_, before⟩ | ⟨_, before, found, rfl⟩
    · exact sound.checked oq (List.mem_of_getElem? before)
    · exact sound.checked before (List.mem_of_getElem? found)
  · rcases of_getElem?_modify there with ⟨ne, before⟩ | ⟨rfl, ⟨out, q⟩, found, same⟩
    · obtain ⟨uncounting, succeeding, failing⟩ := other o (Ne.symm ne)
      refine (sound.accounts o _ q before).changes here users ?_ ?_ ?_
      · rw [uncounting]; rfl
      · rw [succeeding]; rfl
      · rw [failing]; rfl
    · cases same
      refine (sound.accounts output _ q found).changes here users ?_ ?_ ?_
      · have := active q
        simp only [record, set]
        omega
      · have := success q
        simp only [record, set]
        omega
      · have := failure q
        simp only [record, set]
        omega
  · have held := sound.held n st there
    refine held.changes here users ?_ ?_ held.ordered
    · rw [(stream n).1]
    · rw [(stream n).2]
  · exact forall_mem_set sound.fits (fits (sound.fits u (List.mem_of_getElem? here)))

theorem Sound.RecordOpenFailure (sound : Sound s) {output : Nat} {rest : List Nat}
    (here : s.users[i]? = some u) (at_ : u.at_ = .RecordOpenFailure output rest) :
    Sound ((s.set i { u with at_ := .getStream rest }).record output .RecordOpenFailure) := by
  refine sound.records here ?_ ?_ ?_ ?_ ?_ fun _ => trivial
  all_goals rw [at_]
  · exact fun _ => ⟨rfl, rfl⟩
  · intro o ne
    exact ⟨rfl, rfl, (decide_eq_false (Ne.symm ne)).symm⟩
  · exact fun _ => rfl
  · exact fun _ => rfl
  · intro q
    simp [load, Load.failing?, QualityTracker.RecordOpenFailure]

theorem Sound.RecordOpenSuccess (sound : Sound s) {output stream : Nat} (here : s.users[i]? = some u)
    (at_ : u.at_ = .has output stream .RecordOpenSuccess) :
    Sound ((s.set i { u with at_ := .has output stream .RecordStreamOpen }).record output
      .RecordOpenSuccess) := by
  refine sound.records here ?_ ?_ ?_ ?_ ?_ fun fits => ?_
  on_goal 6 => rwa [Fits, at_] at fits
  all_goals rw [at_]
  · exact fun _ => ⟨rfl, rfl⟩
  · intro o ne
    exact ⟨rfl, (decide_eq_false (Ne.symm ne)).symm, rfl⟩
  · exact fun _ => rfl
  · intro q
    simp [load, Load.succeeding?, QualityTracker.RecordOpenSuccess]
  · exact fun _ => rfl

theorem Sound.RecordStreamClose (sound : Sound s) {output stream : Nat} (here : s.users[i]? = some u)
    (at_ : u.at_ = .has output stream .RecordStreamClose) :
    Sound ((s.set i { u with at_ := .has output stream .Close }).record output .RecordStreamClose) := by
  refine sound.records here ?_ ?_ ?_ ?_ ?_ fun fits => ?_
  on_goal 6 =>
    rw [Fits, at_] at fits
    obtain ⟨st, there, its, tracked, suits⟩ := fits
    exact ⟨st, there, its, tracked, fun _ => suits.2⟩
  all_goals rw [at_]
  · exact fun _ => ⟨rfl, rfl⟩
  · intro o ne
    exact ⟨(decide_eq_false (Ne.symm ne)).symm, rfl, rfl⟩
  · intro q
    simp [load, Load.uncounting?, QualityTracker.RecordStreamClose]
  · exact fun _ => rfl
  · exact fun _ => rfl

theorem Sound.fails (sound : Sound s) {output : Nat} {rest : List Nat} (here : s.users[i]? = some u)
    (at_ : u.at_ = .getStream (output :: rest)) :
    Sound { s.set i { u with at_ := .RecordOpenFailure output rest } with
      failed := s.failed ++ [output] } where
  checked := sound.checked
  accounts o out q there := by
    refine (sound.accounts o out q there).changes here rfl ?_ ?_ ?_
    · rw [at_]; rfl
    · rw [at_]; rfl
    · rw [at_]
      simp only [load, Load.failing?, List.count_append, List.count_singleton, beq_eq_decide,
        Bool.toNat_false, Nat.add_zero]
      cases decide (output = o) with
      | true => exact Nat.add_assoc ..
      | false => rfl
  held n st there := by
    have held := sound.held n st there
    refine held.changes here rfl ?_ ?_ held.ordered
    all_goals rw [at_]; rfl
  fits := forall_mem_set sound.fits trivial

theorem Sound.opens (sound : Sound s) {output : Nat} {rest : List Nat} (here : s.users[i]? = some u)
    (at_ : u.at_ = .getStream (output :: rest)) : Sound (s.open_ i u output) := by
  have none_owes : s.count (Load.owes? s.streams.length) = 0 := by
    refine List.countP_eq_zero.mpr fun v member owes => ?_
    exact absurd ((sound.fits v member).owes owes) (Nat.lt_irrefl _)
  have none_uncounted : s.count (Load.uncounted? s.streams.length) = 0 := by
    refine List.countP_eq_zero.mpr fun v member uncounted => ?_
    refine absurd ((sound.fits v member).owes ?_) (Nat.lt_irrefl _)
    cases place : load v.at_ <;> rw [place] at uncounted <;>
      first | exact uncounted | exact absurd uncounted Bool.false_ne_true
  refine ⟨sound.checked, fun o out q there => ?_, fun n st there => ?_, ?_⟩
  · refine (sound.accounts o out q there).changes here rfl ?_ ?_ ?_
    all_goals rw [at_]; simp only [open_, countP_concat]
    · cases u.kind.tracked <;> simp [isOpen, load, Load.uncounting?]
    · cases u.kind.tracked <;> simp [isTracked, load, Load.succeeding?, Nat.add_assoc]
    · cases u.kind.tracked <;> simp [load, Load.failing?, set]
  · rcases of_getElem?_concat there with before | ⟨rfl, rfl⟩
    · have newer : s.streams.length ≠ n := Nat.ne_of_gt (List.getElem?_eq_some_iff.mp before).1
      have held := sound.held n st before
      refine held.changes here rfl ?_ ?_ held.ordered
      all_goals rw [at_]; cases u.kind.tracked <;> simp [load, Load.owes?, Load.uncounted?, newer]
    · have owes :=
        count_changes here (rfl : (s.open_ i u output).users = s.users.set i _)
          (Load.owes? s.streams.length)
      have uncounted := count_changes here (rfl : (s.open_ i u output).users = s.users.set i _)
        (Load.uncounted? s.streams.length)
      rw [none_owes, at_] at owes
      rw [none_uncounted, at_] at uncounted
      refine ⟨?_, ?_, nofun, nofun, nofun⟩
      · cases tracked : u.kind.tracked <;> simpa [load, Load.owes?, tracked] using owes
      · cases tracked : u.kind.tracked <;> simpa [load, Load.uncounted?, tracked] using uncounted
  · have newest : (s.open_ i u output).streams[s.streams.length]? =
        some ⟨output, u.kind.tracked, false, false, 0, 0⟩ :=
      List.getElem?_concat_length
    refine forall_mem_set (fun v member => (sound.fits v member).mono fun n st there => ?_) ?_
    · exact ⟨st, List.getElem?_append_left (List.getElem?_eq_some_iff.mp there).1 ▸ there, rfl, rfl,
        id, id⟩
    · cases tracked : u.kind.tracked with
      | true => exact ⟨_, newest, rfl, rfl, tracked⟩
      | false => exact ⟨_, newest, rfl, rfl, tracked.symm⟩

/-- One stream comes further. -/
theorem Fits.mark {streams : List OutputStream} {stream : Nat} {st : OutputStream}
    {f : OutputStream → OutputStream} (there : streams[stream]? = some st)
    (its : (f st).output = st.output) (tracked : (f st).tracked = st.tracked)
    (counted : st.counted = st.tracked → (f st).counted = (f st).tracked)
    (closed : st.closed = true → (f st).closed = true) (fits : Fits streams u) :
    Fits (streams.modify stream f) u := by
  refine fits.mono fun n st' there' => ?_
  rw [List.getElem?_modify, there', Option.map_eq_map, Option.map_some]
  by_cases same : stream = n
  · rw [if_pos same]
    obtain rfl := Option.some.inj (there.symm.trans (same ▸ there'))
    exact ⟨f st, rfl, its, tracked, counted, closed⟩
  · rw [if_neg same]
    exact ⟨st', rfl, rfl, rfl, id, id⟩

/-- A user changes its stream. -/
theorem Sound.marks (sound : Sound s) {u' : StreamUser} {stream : Nat} {st : OutputStream}
    {f : OutputStream → OutputStream} (here : s.users[i]? = some u)
    (there : s.streams[stream]? = some st) (its : (f st).output = st.output)
    (tracked : (f st).tracked = st.tracked) (counted : (f st).counted = st.counted)
    (closed : st.closed = true → (f st).closed = true) (others : (f st).others = st.others)
    (ordered : Ordered st → Ordered (f st))
    (open_ : ∀ o, (isOpen o st).toNat + ((load u.at_).uncounting? o).toNat =
      (isOpen o (f st)).toNat + ((load u'.at_).uncounting? o).toNat)
    (succeeding : ∀ o, (load u'.at_).succeeding? o = (load u.at_).succeeding? o)
    (failing : ∀ o, (load u'.at_).failing? o = (load u.at_).failing? o)
    (owes : ∀ n, n ≠ stream → (load u'.at_).owes? n = (load u.at_).owes? n)
    (shut : ((load u'.at_).owes? stream).toNat + (f st).shut =
      ((load u.at_).owes? stream).toNat + st.shut)
    (uncounted : ∀ n, (load u'.at_).uncounted? n = (load u.at_).uncounted? n)
    (fits : Fits s.streams u → Fits (s.streams.modify stream f) u') :
    Sound ((s.set i u').mark stream f) := by
  refine ⟨sound.checked, fun o out q at_ => ?_, fun n st' at_ => ?_, ?_⟩
  · have opens := countP_modify_add (p := isOpen o) (f := f) there
    have tracks := countP_modify_add (p := isTracked o) (f := f) there
    have same : isTracked o (f st) = isTracked o st := by rw [isTracked, isTracked, its, tracked]
    rw [same] at tracks
    have balance := open_ o
    refine (sound.accounts o out q at_).changes here rfl ?_ ?_ ?_
    · simp only [mark, set]
      omega
    · rw [succeeding]
      simp only [mark, set]
      omega
    · rw [failing]
      rfl
  · rcases of_getElem?_modify at_ with ⟨ne, before⟩ | ⟨rfl, before, found, rfl⟩
    · have held := sound.held n st' before
      refine held.changes here rfl ?_ ?_ held.ordered
      · rw [owes n (Ne.symm ne)]
      · rw [uncounted]
    · obtain rfl := Option.some.inj (there.symm.trans found)
      have held := sound.held stream st there
      refine held.changes here rfl ?_ ?_ (ordered held.ordered)
      · rw [shut, others]
      · rw [uncounted, tracked, counted]
  · have all : ∀ v ∈ s.users, Fits (s.streams.modify stream f) v := fun v member =>
      (sound.fits v member).mark there its tracked
        (fun same => (counted.trans same).trans tracked.symm) closed
    exact forall_mem_set all (fits (sound.fits u (List.mem_of_getElem? here)))

theorem Sound.swaps (sound : Sound s) {output stream : Nat} {st : OutputStream}
    (here : s.users[i]? = some u) (at_ : u.at_ = .has output stream .CompareAndSwap)
    (there : s.streams[stream]? = some st) (still : st.closed = false) :
    Sound ((s.set i { u with at_ := .has output stream .RecordStreamClose }).mark stream fun st =>
      { st with closed := true }) := by
  have fits := sound.fits u (List.mem_of_getElem? here)
  rw [Fits, at_] at fits
  obtain ⟨st', there', its, kind, tracked, counted⟩ := fits
  obtain rfl := Option.some.inj (there.symm.trans there')
  refine sound.marks here there rfl rfl rfl (fun _ => rfl) rfl (fun ordered =>
    ⟨ordered.tracks, fun _ => counted, fun _ _ => rfl⟩) ?_ ?_ ?_ ?_ ?_ ?_ fun _ => ?_
  on_goal 7 =>
    refine ⟨{ st with closed := true }, ?_, its, kind, tracked, rfl⟩
    rw [List.getElem?_modify, there, Option.map_eq_map, Option.map_some, if_pos rfl]
  all_goals rw [at_]
  · intro o
    simp only [isOpen, its, counted, still, load, Load.uncounting?]
    cases decide (output = o) <;> rfl
  · exact fun _ => rfl
  · exact fun _ => rfl
  · exact fun _ _ => rfl
  · rfl
  · exact fun _ => rfl

theorem Sound.Close (sound : Sound s) {output stream : Nat} (here : s.users[i]? = some u)
    (at_ : u.at_ = .has output stream .Close) :
    Sound ((s.set i u.finish).mark stream fun st => { st with shut := st.shut + 1 }) := by
  have fits := sound.fits u (List.mem_of_getElem? here)
  rw [Fits, at_] at fits
  obtain ⟨st, there, its, kind, closed⟩ := fits
  refine sound.marks here there rfl rfl rfl id rfl
    (fun ordered => ⟨ordered.tracks, ordered.counts, fun tracked _ => closed tracked⟩) ?_ ?_ ?_ ?_
    ?_ ?_ fun _ => fits_finish _ u
  all_goals rw [at_, load_finish]
  · exact fun _ => rfl
  · exact fun _ => rfl
  · exact fun _ => rfl
  · exact fun n ne => (decide_eq_false (Ne.symm ne)).symm
  · simp [load, Load.owes?, Nat.add_comm]
  · exact fun _ => rfl

/-- A stream that is to be counted has not been counted before. -/
theorem Sound.uncounted (sound : Sound s) {output stream : Nat} {st : OutputStream}
    (here : s.users[i]? = some u) (at_ : u.at_ = .has output stream .RecordStreamOpen)
    (there : s.streams[stream]? = some st) :
    st.tracked = true ∧ st.counted = false ∧ st.closed = false := by
  have held := sound.held stream st there
  have counting : 0 < s.count (Load.uncounted? stream) := by
    refine List.countP_pos_iff.mpr ⟨u, List.mem_of_getElem? here, ?_⟩
    rw [at_]
    exact decide_eq_true rfl
  rw [held.uncounted] at counting
  cases tracked : st.tracked with
  | false =>
    rw [tracked] at counting
    exact absurd counting (Nat.lt_irrefl 0)
  | true =>
    cases counted : st.counted with
    | true =>
      rw [tracked, counted] at counting
      exact absurd counting (Nat.lt_irrefl 0)
    | false =>
      exact ⟨rfl, rfl, Bool.eq_false_of_not_eq_true fun closed =>
        absurd (held.ordered.counts closed) (by rw [counted]; nofun)⟩

theorem Sound.RecordStreamOpen (sound : Sound s) {output stream : Nat} (here : s.users[i]? = some u)
    (at_ : u.at_ = .has output stream .RecordStreamOpen) :
    Sound (((s.set i { u with at_ := .has output stream .WrapDst }).record output
      .RecordStreamOpen).mark stream
      fun st => { st with counted := true }) := by
  have fits := sound.fits u (List.mem_of_getElem? here)
  rw [Fits, at_] at fits
  obtain ⟨st, there, its, kind, _⟩ := fits
  obtain ⟨tracked, fresh, still⟩ := sound.uncounted here at_ there
  have counted : ({ st with counted := true } : OutputStream).counted =
      ({ st with counted := true } : OutputStream).tracked :=
    tracked.symm
  have opens (o : Nat) :=
    countP_modify_add (p := isOpen o) (f := fun st => { st with counted := true }) there
  have tracks (o : Nat) :=
    countP_modify_add (p := isTracked o) (f := fun st => { st with counted := true }) there
  simp only [isOpen, its, fresh, still] at opens
  simp only [isTracked, its, tracked] at tracks
  refine ⟨fun oq member => ?_, fun o out q at_' => ?_, fun n st' at_' => ?_, ?_⟩
  · obtain ⟨k, found⟩ := List.mem_iff_getElem?.mp member
    rcases of_getElem?_modify found with ⟨_, before⟩ | ⟨_, before, old, rfl⟩
    · exact sound.checked oq (List.mem_of_getElem? before)
    · exact sound.checked before (List.mem_of_getElem? old)
  · have opens := opens o
    have tracks := tracks o
    rcases of_getElem?_modify at_' with ⟨ne, before⟩ | ⟨rfl, ⟨out, q⟩, found, same⟩
    · simp only [decide_eq_false ne, Bool.false_and, Bool.toNat_false, Nat.add_zero] at opens tracks
      refine (sound.accounts o out q before).changes here rfl ?_ ?_ ?_
      all_goals rw [at_]; simp only [mark, record, set, opens, tracks]; rfl
    · cases same
      simp only [decide_true, Bool.true_and, Bool.not_false, Bool.toNat_true, Bool.false_and,
        Bool.toNat_false, Nat.add_zero] at opens tracks
      refine (sound.accounts output out q found).changes here rfl ?_ ?_ ?_
      all_goals rw [at_]; simp only [mark, record, set, QualityTracker.RecordStreamOpen, load,
        Load.uncounting?, Load.succeeding?,
        Load.failing?]
      · omega
      · omega
  · rcases of_getElem?_modify at_' with ⟨ne, before⟩ | ⟨rfl, before, found, rfl⟩
    · have held := sound.held n st' before
      refine held.changes here rfl ?_ ?_ held.ordered
      · rw [at_]; rfl
      · rw [at_]
        simp only [load, Load.uncounted?, decide_eq_false ne]
    · obtain rfl := Option.some.inj (there.symm.trans found)
      have held := sound.held stream st there
      refine held.changes here rfl ?_ ?_ ⟨fun _ => tracked, fun _ => rfl, held.ordered.closes⟩
      · rw [at_]; rfl
      · rw [at_]
        simp [load, Load.uncounted?, tracked, fresh]
  · have all : ∀ v ∈ s.users,
        Fits (s.streams.modify stream fun st => { st with counted := true }) v := fun v member =>
      (sound.fits v member).mark there rfl rfl (fun _ => counted) id
    refine forall_mem_set all ⟨{ st with counted := true }, ?_, its, kind, counted⟩
    simp only [mark, record, set, List.getElem?_modify, there, Option.map_eq_map,
      Option.map_some, if_true]

theorem Sound.closes (sound : Sound s) {output stream : Nat} {closer : StreamUser}
    (here : s.users[i]? = some u) (at_ : u.at_ = .has output stream .use)
    (holds : load closer.at_ = .holding stream) (fits : Fits s.streams u → Fits s.streams closer) :
    Sound ((s.begin closer).mark stream fun st => { st with others := st.others + 1 }) := by
  have its := sound.fits u (List.mem_of_getElem? here)
  have closer_fits := fits its
  rw [Fits, at_] at its
  obtain ⟨st, there, _⟩ := its
  have counts (p : Load → Bool) (none : p (.holding stream) = false) :
      (s.begin closer).count p = s.count p := by
    rw [count_begin, holds, none, if_neg Bool.false_ne_true, Nat.add_zero]
  refine ⟨sound.checked, fun o out q at_ => ?_, fun n st' at_ => ?_, ?_⟩
  · obtain ⟨active, success, failure⟩ := sound.accounts o out q at_
    have opens :=
      countP_modify_add (p := isOpen o) (f := fun st => { st with others := st.others + 1 }) there
    have tracks := countP_modify_add (p := isTracked o)
      (f := fun st => { st with others := st.others + 1 }) there
    have uncounting := counts (Load.uncounting? o) rfl
    have succeeding := counts (Load.succeeding? o) rfl
    have failing := counts (Load.failing? o) rfl
    have opens := Nat.add_right_cancel opens
    have tracks := Nat.add_right_cancel tracks
    exact ⟨by rw [← opens, ← uncounting] at active; exact active,
      by rw [← tracks, ← succeeding] at success; exact success,
      by rw [← failing] at failure; exact failure⟩
  · have owes := s.count_begin (Load.owes? n) closer
    rw [holds] at owes
    have uncounted := counts (Load.uncounted? n) rfl
    rcases of_getElem?_modify at_ with ⟨ne, before⟩ | ⟨rfl, before, found, rfl⟩
    · have held := sound.held n st' before
      rw [show Load.owes? n (.holding stream) = false from decide_eq_false ne,
        if_neg Bool.false_ne_true] at owes
      exact ⟨(congrArg (· + st'.shut) owes).trans held.owed,
        uncounted.trans held.uncounted, held.ordered⟩
    · have held := sound.held stream before found
      rw [show Load.owes? stream (.holding stream) = true from decide_eq_true rfl, if_pos rfl] at owes
      refine ⟨?_, uncounted.trans held.uncounted,
        ⟨held.ordered.tracks, held.ordered.counts, held.ordered.closes⟩⟩
      have owed := held.owed
      show (s.begin closer).count (Load.owes? stream) + before.shut = before.others + 1 + 1
      omega
  · have stays (v : StreamUser) (fits : Fits s.streams v) :
        Fits (s.streams.modify stream fun st => { st with others := st.others + 1 }) v :=
          fits.mark there rfl rfl id id
    exact forall_mem_concat (fun v member => stays v (sound.fits v member)) (stays closer closer_fits)

theorem Sound.step {e : Event} (sound : Sound s) (next : s.step e = some s') : Sound s' := by
  cases step_steps next with
  | begins free fits => exact sound.begins free fits
  | closes here at_ holds fits => exact sound.closes here at_ holds fits
  | moves here same fits => exact sound.moves here same fits
  | opens here at_ => exact sound.opens here at_
  | fails here at_ => exact sound.fails here at_
  | RecordOpenFailure here at_ => exact sound.RecordOpenFailure here at_
  | RecordOpenSuccess here at_ => exact sound.RecordOpenSuccess here at_
  | RecordStreamOpen here at_ => exact sound.RecordStreamOpen here at_
  | swaps here at_ there still => exact sound.swaps here at_ there still
  | RecordStreamClose here at_ => exact sound.RecordStreamClose here at_
  | Close here at_ => exact sound.Close here at_

theorem sound_starts (starts : Starts s) : Sound s := by
  obtain ⟨fresh, streams, users, failed⟩ := starts
  refine ⟨fun oq member => (fresh oq member).1, fun o out q there => ?_, fun n st there => ?_,
    fun v member => ?_⟩
  · obtain ⟨_, active, success, failure⟩ := fresh _ (List.mem_of_getElem? there)
    exact ⟨by rw [show q.activeStreams = 0 from active, count, streams, users]; rfl,
      by rw [show q.openSuccessTotal = 0 from success, count, streams, users]; rfl,
      by rw [show q.openFailureTotal = 0 from failure, count, failed, users]; rfl⟩
  · rw [streams] at there
    cases there
  · rw [users] at member
    cases member

theorem sound_reachable (reachable : system.Reachable s) : Sound s :=
  reachable.invariant Sound (fun _ starts => sound_starts starts) fun _ _ _ sound next => sound.step next

/-- At any moment `activeStreams` of an output is the number of its streams that are counted and not
closed, with those that are being taken off it, and the totals are the `GetStream` calls that
succeeded and that failed, up to what is being recorded; no failure goes unrecorded. -/
theorem streams_accounted (reachable : system.Reachable s) {output : Nat} {o : Output}
    {q : QualityTracker} (there : s.outputs[output]? = some (o, q)) :
    Accounted s output q ∧ ∀ way, o.getStream way ≠ some .unrecorded := by
  have sound := sound_reachable reachable
  exact ⟨sound.accounts output o q there,
    Output.getStream_recorded (sound.checked _ (List.mem_of_getElem? there))⟩

/-- The login of a controller has failed on the stream. -/
def LoginFailed (s : Accounts) (stream : Nat) : Prop :=
  ∃ u ∈ s.users, ∃ output, u.at_ = .has output stream .loginFailed

/-- The user has come to its end, which is a failed login for a controller only. -/
def Ended (u : StreamUser) : Prop :=
  u.at_ = .returned ∨ (∃ worker output, u.kind = .createConn worker output) ∧
    ∃ output stream, u.at_ = .has output stream .loginFailed

/-- When all who used the outputs have come to their end, every stream on which no login has failed
has been closed, once more often than others than its user have closed it, and so has every stream
that a handler was given; the streams that are still active are those of failed logins. -/
theorem streams_returned (reachable : system.Reachable s) (ended : ∀ u ∈ s.users, Ended u) :
    (∀ (output : Nat) (o : Output) (q : QualityTracker), s.outputs[output]? = some (o, q) →
      q.activeStreams = s.streams.countP (isOpen output) ∧
        q.openSuccessTotal = s.streams.countP (isTracked output) ∧
      q.openFailureTotal = s.failed.count output) ∧
    (∀ (n : Nat) (st : OutputStream), s.streams[n]? = some st → ¬ s.LoginFailed n →
      st.shut = st.others + 1 ∧ st.closed = st.tracked) ∧
    (∀ (output n : Nat) (st : OutputStream), s.streams[n]? = some st → isOpen output st = true →
      s.LoginFailed n) ∧
    ∀ u ∈ s.users, (∀ worker output, u.kind ≠ .createConn worker output) → u.src ≠ some true := by
  have sound := sound_reachable reachable
  have idle (p : Load → Bool) (none : p .free = false) (none' : ∀ n, p (.holding n) = false) :
      s.count p = 0 := by
    refine List.countP_eq_zero.mpr fun u member => ?_
    rcases ended u member with at_ | ⟨_, output, n, at_⟩
    · rw [at_]
      exact ne_true_of_eq_false none
    · rw [at_]
      exact ne_true_of_eq_false (none' n)
  have closed (n : Nat) (st : OutputStream) (there : s.streams[n]? = some st)
    (fine : ¬ s.LoginFailed n) :
      st.shut = st.others + 1 ∧ st.closed = st.tracked := by
    obtain ⟨owed, _, ordered⟩ := sound.held n st there
    have nobody : s.count (Load.owes? n) = 0 := by
      refine List.countP_eq_zero.mpr fun u member owes => ?_
      rcases ended u member with at_ | ⟨_, output, n', at_⟩
      · rw [at_] at owes
        exact absurd owes Bool.false_ne_true
      · rw [at_] at owes
        obtain rfl : n' = n := of_decide_eq_true owes
        exact fine ⟨u, member, output, at_⟩
    rw [nobody, Nat.zero_add] at owed
    refine ⟨owed, ?_⟩
    cases tracked : st.tracked with
    | true => exact ordered.closes tracked (owed ▸ Nat.succ_pos _)
    | false =>
      exact Bool.eq_false_of_not_eq_true fun closed =>
        absurd (ordered.tracks (ordered.counts closed)) (by rw [tracked]; nofun)
  refine ⟨fun output o q there => ?_, closed, fun output n st there opens => ?_,
    fun u member handler => ?_⟩
  · obtain ⟨active, success, failure⟩ := sound.accounts output o q there
    rw [idle _ rfl fun _ => rfl] at active success failure
    exact ⟨active.trans (add_zero _), success, failure⟩
  · by_contra fine
    rw [isOpen, Bool.and_eq_true, Bool.and_eq_true, Bool.not_eq_true'] at opens
    obtain ⟨⟨_, counted⟩, still⟩ := opens
    rw [(closed n st there fine).2, (sound.held n st there).ordered.tracks counted] at still
    contradiction
  · have fits := sound.fits u member
    rcases ended u member with at_ | ⟨⟨worker, output, kind⟩, _⟩
    · rwa [Fits, at_] at fits
    · exact absurd kind (handler worker output)

/-- A stream that its handler and the copy both close, and a handler that gets no stream. -/
def twoHandlers : List Event :=
  [.handleInputStream 0, .step 0 (.role .Business), .step 0 (.opening (.makeStream true)),
    .step 0 .ok, .step 0 .ok, .step 0 .ok,
    .Close 0, .step 1 .ok, .step 0 .ok, .step 0 .ok, .step 0 .ok, .step 1 .ok, .step 1 .ok, .step 0 .ok,
    .handleInputStream 0, .step 2 (.role .Business), .step 2 (.opening (.makeStream false)),
      .step 2 .ok, .step 2 .error, .step 2 .ok]

/-- The first login of a controller fails. After the second one a worker serves a stream. -/
def twoLogins : List Event :=
  [.createConn 0 1, .step 0 (.opening (.makeStream true)), .step 0 .ok, .step 0 .ok, .step 0 .error,
    .createConn 0 1, .step 1 (.opening (.makeStream true)), .step 1 .ok, .step 1 .ok, .step 1 .ok,
    .startWorker 1, .step 2 (.opening (.makeStream true)), .step 2 .ok, .step 2 .ok, .step 2 .ok,
    .GetStream 2, .step 3 (.opening (.makeStream true)), .step 3 .ok, .step 3 .ok,
      .step 3 .ok, .step 3 .ok,
    .step 3 .ok, .step 3 .ok, .step 3 .ok, .step 2 .ok, .step 2 .ok, .step 2 .ok, .step 2 .ok,
    .step 1 .ok, .step 1 .ok, .step 1 .ok, .step 1 .ok]

/-- Who has used the outputs then. -/
def loggedIn : List StreamUser :=
  [⟨.createConn 0 1, none, none, .has 0 0 .loginFailed⟩, ⟨.createConn 0 1, none, none, .returned⟩,
    ⟨.handleWorkerStream 0 1, none, none, .returned⟩, ⟨.GetStream 1, none, some 2, .returned⟩]

def freshOutput : Output × QualityTracker :=
  (⟨false, 0⟩, NewQualityTracker "service" "output" none none false 5)

/-- Outputs that make their streams one by one. -/
def plainOutputs (n : Nat) : Accounts := ⟨List.replicate n freshOutput, [], [], []⟩

theorem plainOutputs_start (n : Nat) : system.start (plainOutputs n) := by
  refine ⟨fun oq member => ?_, rfl, rfl, rfl⟩
  obtain rfl := List.eq_of_mem_replicate member
  exact ⟨rfl, rfl, rfl, rfl⟩

theorem streams_accounted_handlers :
    ∃ s output q, system.Reachable s ∧ s.outputs[0]? = some (output, q) ∧ Accounted s 0 q ∧
    q.openFailureTotal = 1 := by
  have played : (system.play (fun _ _ => true) twoHandlers (plainOutputs 1)).any (fun s =>
      decide ((s.outputs[0]?).map (fun oq => oq.2.openFailureTotal) = some 1)) = true := by decide
  obtain ⟨s, reached, sees⟩ := (Option.any_eq_true _ _).mp played
  obtain ⟨⟨o, q⟩, there, failed⟩ := Option.map_eq_some_iff.mp (of_decide_eq_true sees)
  have reachable : system.Reachable s := .of_play (plainOutputs_start 1) reached
  exact ⟨s, o, q, reachable, there, (streams_accounted reachable there).1, failed⟩

theorem streams_returned_logins :
    ∃ s, system.Reachable s ∧ s.LoginFailed 0 ∧ s.streams.map (·.shut) = [0, 1, 1, 1] ∧
    ∀ (output n : Nat) (st : OutputStream), s.streams[n]? = some st → isOpen output st = true →
      s.LoginFailed n := by
  have played : (system.play (fun _ _ => true) twoLogins (plainOutputs 2)).any (fun s =>
      decide (s.users = loggedIn ∧ s.streams.map (·.shut) = [0, 1, 1, 1])) = true := by decide
  obtain ⟨s, reached, sees⟩ := (Option.any_eq_true _ _).mp played
  obtain ⟨users, shut⟩ := of_decide_eq_true sees
  have reachable : system.Reachable s := .of_play (plainOutputs_start 2) reached
  have ended : ∀ u ∈ s.users, Ended u := by
    rw [users]
    intro u member
    simp only [loggedIn, List.mem_cons, List.not_mem_nil, or_false] at member
    rcases member with rfl | rfl | rfl | rfl
    · exact Or.inr ⟨⟨0, 1, rfl⟩, 0, 0, rfl⟩
    · exact Or.inl rfl
    · exact Or.inl rfl
    · exact Or.inl rfl
  have failed : s.LoginFailed 0 := by
    rw [LoginFailed, users]
    exact ⟨_, List.mem_cons_self, 0, rfl⟩
  exact ⟨s, reachable, failed, shut, (streams_returned reachable ended).2.2.1⟩

end Accounts

end Gotun.Tun
