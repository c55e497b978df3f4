import Gotun.Lib.System
import Gotun.Tun.Manager

/-! The start-up of `Server`, `Frps` and of a `routeService` in output mode, with connections
arriving at every input that is bound by then. `Close` is not called here. -/

namespace Gotun.Tun

open Gotun.Lib

/-- The two inputs of a `Frps`. The other two services have the first only. -/
inductive Which where
  | input
  | worker
  deriving DecidableEq, Repr

inductive StartStep where
  | outputRun
  | SetOnNewStream (w : Which)
  /-- Binds, and starts the accept loop. -/
  | Run (w : Which)
  deriving DecidableEq, Repr

inductive Starts where
  | Server
  | Frps
  | routeService
  deriving DecidableEq, Repr

def Starts.Run : Starts → List StartStep
  | .Server => [.outputRun, .SetOnNewStream .input, .Run .input]
  | .Frps => [.Run .input, .SetOnNewStream .input, .Run .worker, .SetOnNewStream .worker]
  | .routeService => [.outputRun, .SetOnNewStream .input, .Run .input]

/-- The two fields that `newSmuxConfig` writes. -/
structure SmuxConfig where
  MaxReceiveBuffer : Int
  MaxStreamBuffer : Int
  deriving DecidableEq, Repr

/-- The smux package: whether a configuration passes, and whether a session starts with it. -/
structure Smux where
  DefaultConfig : SmuxConfig
  VerifyConfig : SmuxConfig → Bool
  Server : SmuxConfig → Bool

def newSmuxConfig (smux : Smux) (streamBuf : Int) : Option SmuxConfig :=
  let cfg := if 0 < streamBuf then ⟨streamBuf, streamBuf⟩ else smux.DefaultConfig
  if smux.VerifyConfig cfg then some cfg else none

/-- Which service starts, with what its inputs are made of. -/
structure Setup where
  kind : Starts
  proto : Which → Protocol
  StreamBuf : Which → Int
  smux : Smux

/-- Who has a connection or a stream. -/
inductive Holder where
  /-- `handleConn`, which has just been started. -/
  | handleConn
  /-- The loop over the streams of a session. -/
  | session
  /-- The goroutine that is to call `OnNewStream`. -/
  | OnNewStream
  /-- The handler of the service. -/
  | handler
  | nobody
  deriving DecidableEq, Repr

/-- `session` is the index of the session that a stream comes from. -/
structure InStream where
  input : Which
  session : Option Nat
  holder : Holder
  closed : Bool
  deriving DecidableEq, Repr

/-- `callback` says where `newStream` is not nil, `rest` what `Run` still has to do. -/
structure Startup where
  rest : List StartStep
  bound : Which → Bool
  callback : Which → Bool
  streams : List InStream

namespace Startup

inductive Event where
  | run
  /-- The next step of `Run` returns an error, and so does `Run`. -/
  | fail
  | accept (w : Which)
  /-- The header of the connection is read, or a session begins, or not. -/
  | handleConn (i : Nat) (ok : Bool)
  | AcceptStream (i : Nat)
  | endSession (i : Nat)
  | OnNewStream (i : Nat)
  deriving DecidableEq, Repr

variable (setup : Setup)

/-- A session of an input over smux can begin. -/
def muxes (w : Which) : Bool :=
  ((newSmuxConfig setup.smux (setup.StreamBuf w)).map setup.smux.Server).getD false

/-- Where `handleConn` leaves a connection, and whether it closes it. The inputs over smux leave it
open when there is no session. -/
def handleConn (w : Which) (ok : Bool) : Holder × Bool :=
  match setup.proto w with
  | .TCP => if ok then (.OnNewStream, false) else (.nobody, true)
  | .TcpMux => if ok then (.session, false) else (.nobody, true)
  | .QUIC => (.session, false)
  | .KcpMux | .KCPXMux => if muxes setup w then (.session, false) else (.nobody, false)
  | .UDP | .KCP | .KCPX | .Socks5X => (.OnNewStream, false)

def did (s : Startup) : StartStep → Startup
  | .outputRun => s
  | .SetOnNewStream w => { s with callback := Function.update s.callback w true }
  | .Run w => { s with bound := Function.update s.bound w true }

/-- A session that is closed closes its streams. -/
def closeSession (i : Nat) (stream : InStream) : InStream :=
  { stream with closed := stream.closed || stream.session == some i }

def step (s : Startup) : Event → Option Startup
  | .run => match s.rest with
    | [] => none
    | first :: rest => some { s.did first with rest }
  | .fail => match s.rest with
    | [] | .SetOnNewStream _ :: _ => none
    | _ => some { s with rest := [] }
  | .accept w =>
    if s.bound w then some { s with streams := s.streams ++ [⟨w, none, .handleConn, false⟩] }
    else none
  | .handleConn i ok => match s.streams[i]? with
    | some ⟨w, session, .handleConn, _⟩ =>
      some { s with
        streams := s.streams.set i
          ⟨w, session, (handleConn setup w ok).1, (handleConn setup w ok).2⟩ }
    | _ => none
  | .AcceptStream i => match s.streams[i]? with
    | some ⟨w, _, .session, _⟩ =>
      some { s with streams := s.streams ++ [⟨w, some i, .OnNewStream, false⟩] }
    | _ => none
  | .endSession i => match s.streams[i]? with
    | some ⟨w, session, .session, _⟩ =>
      some { s with streams := (s.streams.map (closeSession i)).set i ⟨w, session, .nobody, true⟩ }
    | _ => none
  | .OnNewStream i => match s.streams[i]? with
    | some ⟨w, session, .OnNewStream, closed⟩ =>
      some { s with
        streams := s.streams.set i
          ⟨w, session, if s.callback w then .handler else .nobody, closed⟩ }
    | _ => none

def start : Startup := ⟨setup.kind.Run, fun _ => false, fun _ => false, []⟩

def system : System Startup Event where
  start s := s = start setup
  step := step setup

/-- No stream that nobody has is left open. -/
def Kept (s : Startup) : Prop := ∀ stream ∈ s.streams, stream.holder = .nobody → stream.closed = true

/-- A stream that is open is offered to an input only when `SetOnNewStream` is no longer to come
there, and a connection is handled over smux only with a configuration that smux takes. -/
def Ready (s : Startup) : Event → Prop
  | .OnNewStream i =>
    ∀ stream ∈ s.streams[i]?, stream.closed = false → .SetOnNewStream stream.input ∉ s.rest
  | .handleConn i _ => ∀ stream ∈ s.streams[i]?,
      setup.proto stream.input = .KcpMux ∨ setup.proto stream.input = .KCPXMux →
        muxes setup stream.input = true
  | _ => True

/-- What an event does. -/
inductive Stepped (s : Startup) : Event → Startup → Prop
  | run {first : StartStep} {rest : List StartStep} (at_ : s.rest = first :: rest) :
      Stepped s .run { s.did first with rest }
  | fail {first : StartStep} {rest : List StartStep} (at_ : s.rest = first :: rest)
      (other : ∀ w, first ≠ .SetOnNewStream w) :
      Stepped s .fail { s with rest := [] }
  | accept (w : Which) (bound : s.bound w = true) :
      Stepped s (.accept w) { s with streams := s.streams ++ [⟨w, none, .handleConn, false⟩] }
  | handleConn {w : Which} {session : Option Nat} {closed : Bool} (i : Nat) (ok : Bool)
      (at_ : s.streams[i]? = some ⟨w, session, .handleConn, closed⟩) :
      Stepped s (.handleConn i ok)
        { s with
          streams := s.streams.set i
            ⟨w, session, (handleConn setup w ok).1, (handleConn setup w ok).2⟩ }
  | AcceptStream {w : Which} {session : Option Nat} {closed : Bool} (i : Nat)
      (at_ : s.streams[i]? = some ⟨w, session, .session, closed⟩) :
      Stepped s (.AcceptStream i) { s with streams := s.streams ++ [⟨w, some i, .OnNewStream, false⟩] }
  | endSession {w : Which} {session : Option Nat} {closed : Bool} (i : Nat)
      (at_ : s.streams[i]? = some ⟨w, session, .session, closed⟩) :
      Stepped s (.endSession i)
        { s with streams := (s.streams.map (closeSession i)).set i ⟨w, session, .nobody, true⟩ }
  | OnNewStream {w : Which} {session : Option Nat} {closed : Bool} (i : Nat)
      (at_ : s.streams[i]? = some ⟨w, session, .OnNewStream, closed⟩) :
      Stepped s (.OnNewStream i)
        { s with
          streams := s.streams.set i
            ⟨w, session, if s.callback w then .handler else .nobody, closed⟩ }

variable {setup} {s s' : Startup} {e : Event}

theorem stepped (next : s.step setup e = some s') : Stepped setup s e s' := by
  cases e with
  | run =>
    rcases at_ : s.rest with _ | ⟨first, rest⟩ <;>
      simp only [step, at_, reduceCtorEq, Option.some.injEq] at next
    exact next ▸ .run at_
  | fail =>
    rcases at_ : s.rest with _ | ⟨_ | _ | _, rest⟩ <;>
      simp only [step, at_, reduceCtorEq, Option.some.injEq] at next
    · exact next ▸ .fail at_ nofun
    · exact next ▸ .fail at_ nofun
  | accept w =>
    by_cases bound : s.bound w = true
    · simp only [step, bound, if_true, Option.some.injEq] at next
      exact next ▸ .accept w bound
    · simp [step, bound] at next
  | handleConn i ok =>
    rcases at_ : s.streams[i]? with _ | ⟨w, session, _ | _ | _ | _ | _, closed⟩ <;>
      simp only [step, at_, reduceCtorEq, Option.some.injEq] at next
    exact next ▸ .handleConn i ok at_
  | AcceptStream i =>
    rcases at_ : s.streams[i]? with _ | ⟨w, session, _ | _ | _ | _ | _, closed⟩ <;>
      simp only [step, at_, reduceCtorEq, Option.some.injEq] at next
    exact next ▸ .AcceptStream i at_
  | endSession i =>
    rcases at_ : s.streams[i]? with _ | ⟨w, session, _ | _ | _ | _ | _, closed⟩ <;>
      simp only [step, at_, reduceCtorEq, Option.some.injEq] at next
    exact next ▸ .endSession i at_
  | OnNewStream i =>
    rcases at_ : s.streams[i]? with _ | ⟨w, session, _ | _ | _ | _ | _, closed⟩ <;>
      simp only [step, at_, reduceCtorEq, Option.some.injEq] at next
    exact next ▸ .OnNewStream i at_

/-! The steps of `Run`. -/

/-- A step is among those before `rest`. -/
def done (kind : Starts) (rest : List StartStep) (one : StartStep) : Bool :=
  decide (one ∈ kind.Run ∧ one ∉ rest)

theorem run_nodup (kind : Starts) : kind.Run.Nodup := by
  cases kind <;> decide

theorem done_start (kind : Starts) (one : StartStep) : done kind kind.Run one = false := by
  simp [done]

theorem done_first {kind : Starts} {first : StartStep} {rest : List StartStep}
    (part : first :: rest <:+ kind.Run) :
    done kind rest first = true := by
  have nodup := (run_nodup kind).sublist part.sublist
  simp only [done, decide_eq_true_eq]
  exact ⟨part.subset (List.mem_cons_self ..), (List.nodup_cons.mp nodup).1⟩

theorem done_other {kind : Starts} {first one : StartStep} {rest : List StartStep}
    (other : one ≠ first) :
    done kind rest one = done kind (first :: rest) one := by
  simp [done, other]

/-- An input that is bound has its callback, or `SetOnNewStream` is still to come. -/
theorem done_installs {kind : Starts} {rest : List StartStep} (part : rest <:+ kind.Run) (w : Which)
    (bound : done kind rest (.Run w) = true) :
    done kind rest (.SetOnNewStream w) = true ∨ .SetOnNewStream w ∈ rest := by
  rw [← List.mem_tails] at part
  revert rest
  cases kind <;> cases w <;> decide

/-- Nothing comes between the bind of an input and its `SetOnNewStream`. -/
theorem done_head {kind : Starts} {rest : List StartStep} (part : rest <:+ kind.Run) (w : Which)
    (bound : done kind rest (.Run w) = true) (later : .SetOnNewStream w ∈ rest) :
    rest.head? = some (.SetOnNewStream w) := by
  rw [← List.mem_tails] at part
  revert rest
  cases kind <;> cases w <;> decide

theorem done_set_first {kind : Starts} (first : kind ≠ .Frps) {rest : List StartStep}
    (part : rest <:+ kind.Run) (w : Which)
    (bound : done kind rest (.Run w) = true) : .SetOnNewStream w ∉ rest := by
  rw [← List.mem_tails] at part
  revert rest
  cases kind with
  | Frps => exact absurd rfl first
  | Server | routeService => cases w <;> decide

/-- While `Run` has not returned, what is bound and set is what it has done. -/
structure Inv (setup : Setup) (s : Startup) : Prop where
  part : s.rest <:+ setup.kind.Run
  bound : s.rest ≠ [] → ∀ w, s.bound w = done setup.kind s.rest (.Run w)
  callback : s.rest ≠ [] → ∀ w, s.callback w = done setup.kind s.rest (.SetOnNewStream w)
  installs : ∀ w, s.bound w = true → s.callback w = true ∨ .SetOnNewStream w ∈ s.rest
  streams : ∀ stream ∈ s.streams, s.bound stream.input = true

namespace Inv

theorem start (setup : Setup) : Inv setup (start setup) where
  part := List.suffix_rfl
  bound _ _ := (done_start ..).symm
  callback _ _ := (done_start ..).symm
  installs := nofun
  streams := nofun

variable (inv : Inv setup s)

include inv in
theorem withStreams {streams : List InStream} (bound : ∀ stream ∈ streams, s.bound stream.input = true) :
    Inv setup { s with streams } where
  part := inv.part
  bound := inv.bound
  callback := inv.callback
  installs := inv.installs
  streams := bound

include inv in
theorem set {i : Nat} {old new : InStream} {streams : List InStream} (at_ : s.streams[i]? = some old)
    (bound : ∀ stream ∈ streams, s.bound stream.input = true) (same : new.input = old.input) :
    Inv setup { s with streams := streams.set i new } := by
  refine inv.withStreams fun stream member => ?_
  rcases List.mem_or_eq_of_mem_set member with before | rfl
  · exact bound stream before
  · rw [same]
    exact inv.streams old (List.mem_of_getElem? at_)

include inv in
theorem append {new : InStream} (bound : s.bound new.input = true) :
    Inv setup { s with streams := s.streams ++ [new] } := by
  refine inv.withStreams fun stream member => ?_
  rcases List.mem_append.mp member with before | last
  · exact inv.streams stream before
  · rw [List.mem_singleton.mp last]
    exact bound

include inv in
theorem run {first : StartStep} {rest : List StartStep} (at_ : s.rest = first :: rest) :
    Inv setup { s.did first with rest } := by
  have part : first :: rest <:+ setup.kind.Run := at_ ▸ inv.part
  have after : rest <:+ setup.kind.Run := (List.suffix_cons first rest).trans part
  have goes : s.rest ≠ [] := by simp [at_]
  have bound (w : Which) : (s.did first).bound w = done setup.kind rest (.Run w) := by
    by_cases same : StartStep.Run w = first
    · rw [← same, same, done_first part, ← same]
      simp [did]
    · rw [done_other same, ← at_, ← inv.bound goes w]
      cases first with
      | Run w' => exact Function.update_of_ne (fun is => same (congrArg _ is)) _ _
      | outputRun | SetOnNewStream _ => rfl
  have callback (w : Which) : (s.did first).callback w = done setup.kind rest (.SetOnNewStream w) := by
    by_cases same : StartStep.SetOnNewStream w = first
    · rw [← same, same, done_first part, ← same]
      simp [did]
    · rw [done_other same, ← at_, ← inv.callback goes w]
      cases first with
      | SetOnNewStream w' => exact Function.update_of_ne (fun is => same (congrArg _ is)) _ _
      | outputRun | Run _ => rfl
  refine ⟨after, fun _ => bound, fun _ => callback, fun w is => ?_, fun stream member => ?_⟩
  · rw [callback w]
    exact done_installs after w ((bound w).symm.trans is)
  · cases first with
    | Run w =>
      by_cases same : stream.input = w
      · simp [did, same]
      · simpa [did, Function.update_of_ne same] using inv.streams stream member
    | outputRun | SetOnNewStream _ => exact inv.streams stream member

include inv in
theorem fail {first : StartStep} {rest : List StartStep} (at_ : s.rest = first :: rest)
    (other : ∀ w, first ≠ .SetOnNewStream w) :
    Inv setup { s with rest := [] } := by
  refine ⟨List.nil_suffix, nofun, nofun, fun w bound => ?_, inv.streams⟩
  rcases inv.installs w bound with already | later
  · exact .inl already
  · have done : done setup.kind s.rest (.Run w) = true := (inv.bound (by simp [at_]) w).symm.trans bound
    have head := done_head inv.part w done later
    rw [at_, List.head?_cons, Option.some.injEq] at head
    exact absurd head (other w)

include inv in
theorem step (next : s.step setup e = some s') : Inv setup s' := by
  cases stepped next with
  | run at_ => exact inv.run at_
  | fail at_ other => exact inv.fail at_ other
  | accept w bound => exact inv.append bound
  | handleConn i ok at_ => exact inv.set at_ inv.streams rfl
  | AcceptStream i at_ =>
    have bound := inv.streams _ (List.mem_of_getElem? at_)
    exact inv.append bound
  | endSession i at_ =>
    refine inv.set at_ (fun stream member => ?_) rfl
    obtain ⟨before, was, rfl⟩ := List.mem_map.mp member
    exact inv.streams before was
  | OnNewStream i at_ => exact inv.set at_ inv.streams rfl

end Inv

theorem inv_of_run {allowed : Startup → Event → Prop} {events : List Event}
    (run : (system setup).Run allowed events s) :
    Inv setup s := by
  apply run.invariant (Inv setup)
  · rintro _ rfl
    exact Inv.start setup
  · intro _ _ _ inv _ next
    exact inv.step next

/-! Streams left open. -/

/-- One stream changes, and the others are as they should be. -/
theorem kept_set_iff {i : Nat} {old new : InStream} {streams : List InStream}
    (at_ : streams[i]? = some old)
    (others : ∀ stream ∈ streams, stream.holder = .nobody → stream.closed = true) :
    Kept { s with streams := streams.set i new } ↔ (new.holder = .nobody → new.closed = true) := by
  have short : i < streams.length := (List.getElem?_eq_some_iff.mp at_).1
  constructor
  · intro all
    exact all new (List.mem_set short new)
  · intro fine stream member
    rcases List.mem_or_eq_of_mem_set member with before | rfl
    · exact others stream before
    · exact fine

theorem Kept.append (kept : Kept s) {new : InStream} (held : new.holder ≠ .nobody) :
    Kept { s with streams := s.streams ++ [new] } := by
  intro stream member
  rcases List.mem_append.mp member with before | last
  · exact kept stream before
  · rw [List.mem_singleton.mp last]
    exact fun nobody => absurd nobody held

/-- `handleConn` leaves open only what smux does not take. -/
theorem handleConn_closes_iff (setup : Setup) (w : Which) (ok : Bool) :
    ((handleConn setup w ok).1 = .nobody → (handleConn setup w ok).2 = true) ↔
      (setup.proto w = .KcpMux ∨ setup.proto w = .KCPXMux → muxes setup w = true) := by
  unfold handleConn
  cases setup.proto w <;> cases ok <;> cases muxes setup w <;> simp

theorem kept_iff (inv : Inv setup s) (kept : Kept s)
    (next : s.step setup e = some s') : Kept s' ↔ Ready setup s e := by
  cases stepped next with
  | @run first rest at_ =>
    refine iff_of_true ?_ trivial
    cases first with
    | outputRun | SetOnNewStream _ | Run _ => exact kept
  | fail at_ other => exact iff_of_true kept trivial
  | accept w bound => exact iff_of_true (kept.append nofun) trivial
  | handleConn i ok at_ =>
    rw [kept_set_iff at_ kept, Ready, at_]
    simpa using handleConn_closes_iff setup _ ok
  | AcceptStream i at_ => exact iff_of_true (kept.append nofun) trivial
  | endSession i at_ =>
    refine iff_of_true ?_ trivial
    have there := congrArg (Option.map (closeSession i)) at_
    rw [← List.getElem?_map] at there
    refine (kept_set_iff there fun stream member nobody => ?_).mpr fun _ => rfl
    obtain ⟨before, was, rfl⟩ := List.mem_map.mp member
    simp [closeSession, kept before was nobody]
  | @OnNewStream w session closed i at_ =>
    rw [kept_set_iff at_ kept, Ready, at_]
    have installs := inv.installs w (inv.streams _ (List.mem_of_getElem? at_))
    by_cases later : StartStep.SetOnNewStream w ∈ s.rest
    · have unset : s.callback w = false := by
        rw [inv.callback (List.ne_nil_of_mem later)]
        simp [done, later]
      simp [unset, later]
    · have set := installs.resolve_right later
      simp [set, later]

/-- Every stream is with someone, handed over or closed after each event, exactly along the runs
whose events are all ready. -/
theorem kept_run_iff (setup : Setup) (events : List Event) (s : Startup) :
    (system setup).Run (fun s e => ∀ s', s.step setup e = some s' → Kept s') events s ↔
      (system setup).Run (Ready setup) events s := by
  constructor
  · intro run
    have both : (system setup).Run (Ready setup) events s ∧ Kept s := by
      induction run with
      | start begins => exact ⟨.start begins, begins ▸ nofun⟩
      | step before ok next held =>
        have kept := ok _ next
        exact ⟨held.1.step ((kept_iff (inv_of_run before) held.2 next).mp kept) next, kept⟩
    exact both.1
  · intro run
    have both : (system setup).Run (fun s e => ∀ s', s.step setup e = some s' → Kept s') events s ∧
        Kept s := by
      induction run with
      | start begins => exact ⟨.start begins, begins ▸ nofun⟩
      | step before ok next held =>
        have kept {t} (next) : Kept t := (kept_iff (inv_of_run before) held.2 next).mpr ok
        exact ⟨held.1.step (fun t there => kept there) next, kept next⟩
    exact both.1

/-- `Server` and `routeService` set the callback before they bind: along their runs only smux can
leave a connection. -/
theorem ready_of_set_first (first : setup.kind ≠ .Frps) (reachable : (system setup).Reachable s)
    (muxed : ∀ w, setup.proto w = .KcpMux ∨ setup.proto w = .KCPXMux → muxes setup w = true)
    (e : Event) : Ready setup s e := by
  obtain ⟨events, run⟩ := reachable
  have inv := inv_of_run run
  cases e with
  | OnNewStream i =>
    intro stream at_ _ later
    have bound := inv.streams stream (List.mem_of_getElem? at_)
    rw [inv.bound (List.ne_nil_of_mem later)] at bound
    exact done_set_first first inv.part stream.input bound later
  | handleConn i ok => exact fun stream _ => muxed stream.input
  | run | fail | accept _ | AcceptStream _ | endSession _ => trivial

def smux : Smux where
  DefaultConfig := ⟨4194304, 65536⟩
  VerifyConfig cfg := decide (0 < cfg.MaxReceiveBuffer ∧ 0 < cfg.MaxStreamBuffer ∧
    cfg.MaxStreamBuffer ≤ cfg.MaxReceiveBuffer ∧
    cfg.MaxStreamBuffer ≤ 2147483647)
  Server _ := true

/-- A client of a `Frps` connects between the bind and `SetOnNewStream`, and another one connects to
an input over kcp_mux whose `streambuf` smux does not take. -/
theorem connection_dropped :
    (∃ s, (system ⟨.Frps, fun _ => .TCP, fun _ => 0, smux⟩).Run (fun _ _ => True)
      [.run, .accept .input, .handleConn 0 true, .OnNewStream 0, .run, .run, .run] s ∧ ¬ Kept s) ∧
    ∃ s, (system ⟨.Server, fun _ => .KcpMux, fun _ => 4294967296, smux⟩).Run (fun _ _ => True)
      [.run, .run, .run, .accept .input, .handleConn 0 true] s ∧ ¬ Kept s := by
  have dropped {s : Startup}
      (seen : s.streams.any (fun st => st.holder == .nobody && !st.closed) = true) : ¬ Kept s := by
    intro kept
    obtain ⟨stream, member, is⟩ := List.any_eq_true.mp seen
    simp only [Bool.and_eq_true, beq_iff_eq, Bool.not_eq_true'] at is
    exact absurd (kept stream member is.1) (by simp [is.2])
  constructor
  · have played : ((system ⟨.Frps, fun _ => .TCP, fun _ => 0, smux⟩).play (fun _ _ => true)
        [.run, .accept .input, .handleConn 0 true, .OnNewStream 0, .run, .run, .run]
        (Startup.start ⟨.Frps, fun _ => .TCP, fun _ => 0, smux⟩)).any
        (fun s => s.streams.any fun st => st.holder == .nobody && !st.closed) = true := by decide +kernel
    obtain ⟨s, run, seen⟩ := System.Run.of_play rfl played
    exact ⟨s, run.mono fun _ _ _ => trivial, dropped seen⟩
  · have played : ((system ⟨.Server, fun _ => .KcpMux, fun _ => 4294967296, smux⟩).play (fun _ _ => true)
        [.run, .run, .run, .accept .input, .handleConn 0 true]
        (Startup.start ⟨.Server, fun _ => .KcpMux, fun _ => 4294967296, smux⟩)).any
        (fun s => s.streams.any fun st => st.holder == .nobody && !st.closed) = true := by decide +kernel
    obtain ⟨s, run, seen⟩ := System.Run.of_play rfl played
    exact ⟨s, run.mono fun _ _ _ => trivial, dropped seen⟩

end Startup
end Gotun.Tun
