import Gotun.Tun.Manager

/-! `tun/server.go`, `tun/output.go` and the `Run` and `Close` of the inputs, step by step.
`runPreparedService` starts `Server.Run` in the background and stops waiting for it after two
seconds, so the steps of `Server.Close` come in any order with those of `Server.Run`. -/

namespace Gotun.Tun

open Gotun.Lib

/-- A field that is nil, or holds something that is open or closed. -/
inductive Handle where
  | unset
  | opened
  | closed
  deriving DecidableEq, Repr

/-- `KCPX` keeps the listener beside the socket it serves; the other inputs have one field for both. -/
def Protocol.ownListener : Protocol → Bool
  | .KCPX | .KCPXMux => true
  | _ => false

/-- The inputs whose `Close` does not ask whether there is a listener. -/
def Protocol.closesUnchecked : Protocol → Bool
  | .QUIC | .KCP | .KcpMux => true
  | _ => false

/-- `conn` is the field through which `Close` reaches the socket: `packetConn` of `KCPX`, `conn` of
`UDP` and `listener` of the others. -/
structure InputState where
  proto : Protocol
  bound : Bool
  conn : Handle
  listener : Handle
  serving : Bool
  accepted : Nat
  deriving DecidableEq, Repr

/-- A maker is true when the connection was made, and false when it is nil. -/
structure OutputState where
  poolNum : Int
  makers : List Bool
  makerPools : List Bool
  close : Nat
  deriving DecidableEq, Repr

/-- The next step of `Server.Run`, through `Output.Run` and `input.Run`. -/
inductive Running where
  | make
  | dial
  | redial
  | SetOnNewStream
  | listen
  | serveConn
  | storeConn
  | storeListener
  | serve
  | startProbe
  | runProbe
  | returned (err : Option Err)
  | panicked
  deriving DecidableEq, Repr

/-- The next step of `Server.Close`. -/
inductive Closing where
  | notCalled
  | listener
  | conn
  | probeRunner
  | probeChannel
  | output
  | makerPools
  | returned
  | panicked
  deriving DecidableEq, Repr

/-- `Close` has gone on from the field that holds the socket. -/
def Closing.passed : Closing → Bool
  | .notCalled | .listener | .conn | .panicked => false
  | .probeRunner | .probeChannel | .output | .makerPools | .returned => true

/-- How far `input.Run` has come with its socket. -/
inductive Stage where
  | unbound
  | bound
  | stored
  deriving DecidableEq, Repr

def Running.stage : Running → Stage
  | .make | .dial | .redial | .SetOnNewStream | .listen | .returned (some _) | .panicked => .unbound
  | .serveConn | .storeConn => .bound
  | .storeListener | .serve | .startProbe | .runProbe | .returned none => .stored

structure Server where
  input : InputState
  output : OutputState
  frameHeader : Bool
  probeChannel : Handle
  probeRunner : Handle
  status : String
  running : Running
  closing : Closing
  deriving DecidableEq, Repr

namespace Server

inductive Event where
  | run (failure : Option Err)
  | close
  | accept
  deriving DecidableEq, Repr

def init (proto : Protocol) (output : Output) (frameHeader : Bool) : Server where
  input := ⟨proto, false, .unset, .unset, false, 0⟩
  output := ⟨output.poolNum, [], [], 0⟩
  frameHeader := frameHeader
  probeChannel := .unset
  probeRunner := .unset
  status := "init"
  running := .make
  closing := .notCalled

/-- The loop of `Output.Run` asks for the next maker, until the pool has all of them. -/
def nextMaker (s : Server) : Server :=
  if (s.output.makers.length : Int) < s.output.poolNum then { s with running := .dial }
  else { s with output.makerPools := s.output.makers, running := .SetOnNewStream }

def addMaker (made : Bool) (s : Server) : Server :=
  nextMaker { s with output.makers := s.output.makers ++ [made] }

/-- One step of `Server.Run`. The failure is that of the dial, of the binding or of `ServeConn`. -/
def runStep (failure : Option Err) (s : Server) : Option Server :=
  match s.running with
  | .make =>
    let s : Server := { s with status := "output run..." }
    -- `make` panics on a negative length
    some (if s.output.poolNum < 0 then { s with running := .panicked } else s.nextMaker)
  | .dial => some (if failure.isSome then { s with running := .redial } else s.addMaker true)
  -- a closed output is given a nil maker, and `Output.Run` goes on
  | .redial => some (if 0 < s.output.close then s.addMaker false else { s with running := .dial })
  | .SetOnNewStream => some { s with status := "input run...", running := .listen }
  | .listen => some <| match failure with
    | some err => { s with status := "input run:" ++ Manager.errorText err, running := .returned err }
    | none =>
      { s with
        input.bound := true
        running := if s.input.proto.ownListener then .serveConn else .storeConn }
  | .serveConn => some <| match failure with
    | some err =>
      { s with
        input.bound := false
        status := "input run:" ++ Manager.errorText err
        running := .returned err }
    | none => { s with running := .storeConn }
  | .storeConn => some { s with
      input.conn := .opened, running := if s.input.proto.ownListener then .storeListener else .serve }
  | .storeListener => some { s with input.listener := .opened, running := .serve }
  | .serve => some { s with input.serving := true, running := .startProbe }
  | .startProbe =>
    let s : Server := { s with status := "running" }
    some (if s.frameHeader then { s with probeChannel := .opened, running := .runProbe }
      else { s with running := .returned none })
  | .runProbe => some { s with probeRunner := .opened, running := .returned none }
  | .returned _ | .panicked => none

/-- One step of `Server.Close`. A `Close` of a nil listener returns or panics, as its library does. -/
def closeStep (nilCloses : Protocol → Bool) (s : Server) : Option Server :=
  match s.closing with
  | .notCalled => some { s with closing := if s.input.proto.ownListener then .listener else .conn }
  | .listener => some <| match s.input.listener with
    | .unset => { s with closing := .conn }
    | _ => { s with input.listener := .closed, closing := .conn }
  | .conn => some <| match s.input.conn with
    | .unset =>
      if s.input.proto.closesUnchecked ∧ ¬ nilCloses s.input.proto then { s with closing := .panicked }
      else { s with closing := .probeRunner }
    | _ => { s with
        input.conn := if s.input.proto = .Socks5X then .unset else .closed
        input.bound := false
        closing := .probeRunner }
  | .probeRunner => some { s with
      probeRunner := if s.probeRunner = .unset then .unset else .closed, closing := .probeChannel }
  | .probeChannel => some { s with
      probeChannel := if s.probeChannel = .unset then .unset else .closed, closing := .output }
  | .output => some { s with output.close := s.output.close + 1, closing := .makerPools }
  | .makerPools =>
    some { s with
      output.makerPools := s.output.makerPools.map fun _ => false, closing := .returned }
  | .returned | .panicked => none

/-- The accept loop runs, on a listener and a socket that are not closed. -/
def accepts (s : Server) : Bool :=
  s.input.serving && s.input.bound && (!s.input.proto.ownListener || s.input.listener = .opened)

/-- A panic in `Run` ends the program. One in `Close` ends the request that called it. -/
def step (nilCloses : Protocol → Bool) (s : Server) (e : Event) : Option Server :=
  if s.running = .panicked then none
  else match e with
    | .run failure => s.runStep failure
    | .close => s.closeStep nilCloses
    | .accept => if s.accepts then some { s with input.accepted := s.input.accepted + 1 } else none

def system (nilCloses : Protocol → Bool) : System Server Event where
  start s := ∃ proto output frameHeader, output.CheckCfg = .ok () ∧ s = init proto output frameHeader
  step := step nilCloses

/-- The input is not bound, and no connection can be accepted. -/
def Closed (nilCloses : Protocol → Bool) (s : Server) : Prop :=
  s.input.bound = false ∧ s.step nilCloses .accept = none

/-- The socket is stored where `Close` will look for it. -/
def StoresInTime (s : Server) : Event → Prop
  | .run _ => s.running = .storeConn → s.closing.passed = false
  | _ => True

instance (s : Server) : (e : Event) → Decidable (s.StoresInTime e)
  | .run _ => inferInstanceAs (Decidable (s.running = .storeConn → s.closing.passed = false))
  | .close | .accept => isTrue trivial

section steps

variable {nilCloses : Protocol → Bool} {s t : Server} {e : Event}

/-- What a step of `Run` does to the socket and to the field that holds it. -/
inductive RunEffect (s t : Server) : Prop
  | keeps (other : s.running ≠ .storeConn) (stage : t.running.stage = s.running.stage)
      (bound : t.input.bound = s.input.bound) (conn : t.input.conn = s.input.conn)
  | binds (before : s.running = .listen) (after : t.running.stage = .bound)
      (bound : t.input.bound = true)
      (conn : t.input.conn = s.input.conn)
  | unbinds (before : s.running = .serveConn) (after : t.running.stage = .unbound)
      (bound : t.input.bound = false)
      (conn : t.input.conn = s.input.conn)
  | stores (before : s.running = .storeConn) (after : t.running.stage = .stored)
      (bound : t.input.bound = s.input.bound) (conn : t.input.conn = .opened)

/-- The loop of `Output.Run` comes before the binding. -/
theorem nextMaker_effect {s s' : Server} (before : s.running.stage = .unbound)
    (input : s'.input = s.input) :
    s'.nextMaker.closing = s'.closing ∧ RunEffect s s'.nextMaker := by
  have other : s.running ≠ .storeConn := by
    intro storing
    cases before.symm.trans (congrArg Running.stage storing)
  unfold nextMaker
  split
  · exact ⟨rfl, .keeps other before.symm (congrArg _ input) (congrArg _ input)⟩
  · exact ⟨rfl, .keeps other before.symm (congrArg _ input) (congrArg _ input)⟩

theorem addMaker_effect (made : Bool) (before : s.running.stage = .unbound) :
    (s.addMaker made).closing = s.closing ∧ RunEffect s (s.addMaker made) := nextMaker_effect before rfl

theorem runStep_effect {failure : Option Err} (next : s.runStep failure = some t) :
    t.closing = s.closing ∧ RunEffect s t := by
  obtain ⟨input, output, frameHeader, probeChannel, probeRunner, status, running, closing⟩ := s
  cases running with
  | make =>
    cases next
    dsimp only
    split
    · exact ⟨rfl, .keeps nofun rfl rfl rfl⟩
    · exact nextMaker_effect rfl rfl
  | dial =>
    cases next
    split
    · exact ⟨rfl, .keeps nofun rfl rfl rfl⟩
    · exact addMaker_effect true rfl
  | redial =>
    cases next
    split
    · exact addMaker_effect false rfl
    · exact ⟨rfl, .keeps nofun rfl rfl rfl⟩
  | listen =>
    cases next
    cases failure with
    | some err => exact ⟨rfl, .keeps nofun rfl rfl rfl⟩
    | none => exact ⟨rfl, .binds rfl (by dsimp only; split <;> rfl) rfl rfl⟩
  | serveConn =>
    cases next
    cases failure with
    | some err => exact ⟨rfl, .unbinds rfl rfl rfl rfl⟩
    | none => exact ⟨rfl, .keeps nofun rfl rfl rfl⟩
  | storeConn =>
    cases next
    exact ⟨rfl, .stores rfl (by dsimp only; split <;> rfl) rfl rfl⟩
  | startProbe =>
    cases next
    dsimp only
    split
    · exact ⟨rfl, .keeps nofun rfl rfl rfl⟩
    · exact ⟨rfl, .keeps nofun rfl rfl rfl⟩
  | SetOnNewStream | storeListener | serve | runProbe =>
    cases next
    exact ⟨rfl, .keeps nofun rfl rfl rfl⟩
  | returned err | panicked => contradiction

/-- What a step of `Close` does to the socket. -/
inductive CloseEffect (s t : Server) : Prop
  | keeps (passed : t.closing.passed = s.closing.passed) (bound : t.input.bound = s.input.bound)
      (conn : t.input.conn = s.input.conn)
  | finds (before : s.closing.passed = false) (after : t.closing.passed = true)
      (set : s.input.conn ≠ .unset)
      (bound : t.input.bound = false)
  | misses (before : s.closing.passed = false) (after : t.closing.passed = true)
      (unset : s.input.conn = .unset)
      (bound : t.input.bound = s.input.bound) (conn : t.input.conn = s.input.conn)

theorem closeStep_effect (next : s.closeStep nilCloses = some t) :
    t.running = s.running ∧ CloseEffect s t := by
  obtain ⟨⟨proto, bound, conn, listener, serving, accepted⟩, output, frameHeader, probeChannel,
    probeRunner, status, running, closing⟩ := s
  cases closing with
  | notCalled =>
    cases next
    exact ⟨rfl, .keeps (by dsimp only; split <;> rfl) rfl rfl⟩
  | listener =>
    cases next
    cases listener with
    | unset | opened | closed => exact ⟨rfl, .keeps rfl rfl rfl⟩
  | conn =>
    cases next
    cases conn with
    | unset =>
      dsimp only
      split
      · exact ⟨rfl, .keeps rfl rfl rfl⟩
      · exact ⟨rfl, .misses rfl rfl rfl rfl rfl⟩
    | opened | closed => exact ⟨rfl, .finds rfl rfl (by simp) rfl⟩
  | probeRunner | probeChannel | output | makerPools =>
    cases next
    exact ⟨rfl, .keeps rfl rfl rfl⟩
  | returned | panicked => contradiction

/-- The socket is bound from its binding on, until `Close` has found it. -/
structure Sound (s : Server) : Prop where
  unbound : s.running.stage = .unbound → s.input.bound = false ∧ s.input.conn = .unset
  bound : s.running.stage = .bound → s.input.bound = true ∧ s.input.conn = .unset
  stored : s.running.stage = .stored → s.closing.passed = false → s.input.conn = .opened
  found : s.running.stage = .stored → s.closing.passed = true → s.input.bound = false

theorem Sound.init (proto : Protocol) (output : Output) (frameHeader : Bool) :
    (init proto output frameHeader).Sound where
  unbound _ := ⟨rfl, rfl⟩
  bound other := nomatch other
  stored other := nomatch other
  found other := nomatch other

/-- Soundness looks at nothing else of the state. -/
theorem Sound.congr (sound : s.Sound) (stage : t.running.stage = s.running.stage)
    (passed : t.closing.passed = s.closing.passed) (bound : t.input.bound = s.input.bound)
    (conn : t.input.conn = s.input.conn) : t.Sound where
  unbound := by rw [stage, bound, conn]; exact sound.unbound
  bound := by rw [stage, bound, conn]; exact sound.bound
  stored := by rw [stage, passed, conn]; exact sound.stored
  found := by rw [stage, passed, bound]; exact sound.found

theorem Sound.runStep {failure : Option Err} (sound : s.Sound) (inTime : s.StoresInTime (.run failure))
    (next : s.runStep failure = some t) : t.Sound := by
  obtain ⟨closing, effect⟩ := runStep_effect next
  cases effect with
  | keeps _ stage bound conn => exact sound.congr stage (congrArg _ closing) bound conn
  | binds before after bound conn =>
    have unset : t.input.conn = .unset := conn.trans (sound.unbound (congrArg Running.stage before)).2
    constructor <;> intro stage
    · cases after.symm.trans stage
    · exact ⟨bound, unset⟩
    · cases after.symm.trans stage
    · cases after.symm.trans stage
  | unbinds before after bound conn =>
    have unset : t.input.conn = .unset := conn.trans (sound.bound (congrArg Running.stage before)).2
    constructor <;> intro stage
    · exact ⟨bound, unset⟩
    · cases after.symm.trans stage
    · cases after.symm.trans stage
    · cases after.symm.trans stage
  | stores before after bound conn =>
    constructor <;> intro stage
    · cases after.symm.trans stage
    · cases after.symm.trans stage
    · exact fun _ => conn
    · intro passed
      have waits : t.closing.passed = false := closing ▸ inTime before
      cases waits.symm.trans passed

theorem Sound.closeStep (sound : s.Sound) (next : s.closeStep nilCloses = some t) : t.Sound := by
  obtain ⟨running, effect⟩ := closeStep_effect next
  cases effect with
  | keeps passed bound conn => exact sound.congr (congrArg _ running) passed bound conn
  | finds before after set bound =>
    constructor <;> rw [running] <;> intro stage
    · exact absurd (sound.unbound stage).2 set
    · exact absurd (sound.bound stage).2 set
    · intro waits
      cases after.symm.trans waits
    · exact fun _ => bound
  | misses before after unset bound conn =>
    constructor <;> rw [running] <;> intro stage
    · exact ⟨bound.trans (sound.unbound stage).1, conn.trans unset⟩
    · exact ⟨bound.trans (sound.bound stage).1, conn.trans unset⟩
    · cases unset.symm.trans (sound.stored stage before)
    · cases unset.symm.trans (sound.stored stage before)

/-- The three kinds of steps. -/
theorem step_cases (next : s.step nilCloses e = some t) :
    (∃ failure, e = .run failure ∧ s.runStep failure = some t) ∨
      (e = .close ∧ s.closeStep nilCloses = some t) ∨
      (e = .accept ∧ s.accepts ∧ t = { s with input.accepted := s.input.accepted + 1 }) := by
  unfold step at next
  split at next
  · contradiction
  · cases e with
    | run failure => exact .inl ⟨failure, rfl, next⟩
    | close => exact .inr (.inl ⟨rfl, next⟩)
    | accept =>
      dsimp only at next
      split at next
      · rename_i accepts
        exact .inr (.inr ⟨rfl, accepts, (Option.some.inj next).symm⟩)
      · contradiction

theorem Sound.step (sound : s.Sound) (inTime : s.StoresInTime e)
    (next : s.step nilCloses e = some t) : t.Sound := by
  rcases step_cases next with ⟨failure, rfl, ran⟩ | ⟨rfl, closed⟩ | ⟨rfl, _, rfl⟩
  · exact sound.runStep inTime ran
  · exact sound.closeStep closed
  · exact sound.congr rfl rfl rfl rfl

theorem sound_of_run {events : List Event}
    (run : (system nilCloses).Run StoresInTime events s) : s.Sound := by
  apply run.invariant Sound
  · rintro _ ⟨proto, output, frameHeader, _, rfl⟩
    exact Sound.init proto output frameHeader
  · exact fun _ _ _ sound inTime next => sound.step inTime next

/-- The socket was stored when `Close` had already looked for it. -/
structure LeftOpen (s : Server) : Prop where
  stored : s.running.stage = .stored
  passed : s.closing.passed = true
  bound : s.input.bound = true

/-- Nothing closes a socket that was left open. -/
theorem LeftOpen.step (left : s.LeftOpen) (next : s.step nilCloses e = some t) : t.LeftOpen := by
  rcases step_cases next with ⟨failure, rfl, ran⟩ | ⟨rfl, closed⟩ | ⟨rfl, _, rfl⟩
  · obtain ⟨closing, effect⟩ := runStep_effect ran
    have passed : t.closing.passed = true := closing ▸ left.passed
    cases effect with
    | keeps _ stage bound _ => exact ⟨stage.trans left.stored, passed, bound.trans left.bound⟩
    | binds before _ _ _ => cases (congrArg Running.stage before).symm.trans left.stored
    | unbinds before _ _ _ => cases (congrArg Running.stage before).symm.trans left.stored
    | stores _ after bound _ => exact ⟨after, passed, bound.trans left.bound⟩
  · obtain ⟨running, effect⟩ := closeStep_effect closed
    cases effect with
    | keeps passed bound _ =>
      exact ⟨running ▸ left.stored, passed.trans left.passed, bound.trans left.bound⟩
    | finds before _ _ _ => cases before.symm.trans left.passed
    | misses before _ _ _ _ => cases before.symm.trans left.passed
  · exact ⟨left.stored, left.passed, left.bound⟩

/-- A socket that is not stored in time is left open. -/
theorem Sound.leaves (sound : s.Sound) (late : ¬ s.StoresInTime e)
    (next : s.step nilCloses e = some t) : t.LeftOpen := by
  rcases step_cases next with ⟨failure, rfl, ran⟩ | ⟨rfl, _⟩ | ⟨rfl, _, _⟩
  · obtain ⟨storing, passed⟩ : s.running = .storeConn ∧ ¬ s.closing.passed = false :=
      Classical.not_imp.mp late
    obtain ⟨closing, effect⟩ := runStep_effect ran
    cases effect with
    | keeps other _ _ _ => exact absurd storing other
    | binds before _ _ _ => cases before.symm.trans storing
    | unbinds before _ _ _ => cases before.symm.trans storing
    | stores _ after bound _ =>
      have open_ : s.input.bound = true := (sound.bound (congrArg Running.stage storing)).1
      exact ⟨after, closing ▸ Bool.of_not_eq_false passed, bound.trans open_⟩
  · exact absurd trivial late
  · exact absurd trivial late

theorem intime_or_leftOpen {events : List Event}
    (run : (system nilCloses).Run (fun _ _ => True) events s) :
    (system nilCloses).Run StoresInTime events s ∨ s.LeftOpen := by
  induction run with
  | start starts => exact .inl (.start starts)
  | @step events s t e _ _ next before =>
    rcases before with before | left
    · by_cases inTime : s.StoresInTime e
      · exact .inl (before.step inTime next)
      · exact .inr ((sound_of_run before).leaves inTime next)
    · exact .inr (left.step next)

theorem Sound.closed {err : Option Err} (sound : s.Sound) (finished : s.running = .returned err)
    (returned : s.closing = .returned) : s.input.bound = false := by
  cases err with
  | some err => exact (sound.unbound (congrArg Running.stage finished)).1
  | none => exact sound.found (congrArg Running.stage finished) (congrArg Closing.passed returned)

theorem accept_none (unbound : s.input.bound = false) : s.step nilCloses .accept = none := by
  simp [step, accepts, unbound]

end steps

/-- A tunnel from TCP to a pool of one connection. -/
def muxTunnel : Server := init .TCP ⟨true, 1⟩ false

theorem muxTunnel_starts (nilCloses : Protocol → Bool) : (system nilCloses).start muxTunnel :=
  ⟨.TCP, ⟨true, 1⟩, false, rfl, rfl⟩

/-- `Close` comes when the tunnel runs. -/
def runThenClose : List Event := .replicate 7 (.run none) ++ .replicate 6 .close

/-- `Close` comes while `Output.Run` waits for its peer, which does not answer. -/
def closeThenBind : List Event :=
  let refused := Event.run (some (.failed "connection refused"))
  [.run none, refused, .run none, refused] ++ .replicate 6 .close ++ .replicate 6 (.run none)

def afterClose : Server :=
  { muxTunnel with
    input := ⟨.TCP, false, .closed, .unset, true, 0⟩
    output := ⟨1, [true], [false], 1⟩
    status := "running"
    running := .returned none
    closing := .returned }

def afterBind : Server :=
  { muxTunnel with
    input := ⟨.TCP, true, .opened, .unset, true, 0⟩
    output := ⟨1, [false], [false], 1⟩
    status := "running"
    running := .returned none
    closing := .returned }

/-- A closed server stays closed exactly in the runs where the socket was stored in time. -/
theorem stays_closed_iff (nilCloses : Protocol → Bool) {events : List Event} {s : Server}
    {err : Option Err} (run : (system nilCloses).Run (fun _ _ => True) events s)
    (finished : s.running = .returned err) (returned : s.closing = .returned) :
    s.Closed nilCloses ↔ (system nilCloses).Run StoresInTime events s := by
  constructor
  · intro closed
    rcases intime_or_leftOpen run with inTime | left
    · exact inTime
    · cases left.bound.symm.trans closed.1
  · intro inTime
    have unbound : s.input.bound = false := (sound_of_run inTime).closed finished returned
    exact ⟨unbound, accept_none unbound⟩

theorem run_then_closed : (system fun _ => false).Run StoresInTime runThenClose afterClose ∧
    afterClose.Closed fun _ => false := by
  have played :
    (system fun _ => false).play (fun s e => decide (s.StoresInTime e)) runThenClose muxTunnel =
      some afterClose := by decide
  have inTime : (system fun _ => false).Run StoresInTime runThenClose afterClose :=
    ((System.Run.start (muxTunnel_starts _)).play runThenClose played).mono fun _ _ ok =>
      of_decide_eq_true ok
  have run : (system fun _ => false).Run (fun _ _ => True) runThenClose afterClose :=
    inTime.mono fun _ _ _ => trivial
  exact ⟨inTime, (stays_closed_iff _ run rfl rfl).mpr inTime⟩

/-- The peer refuses the connection, the tunnel is closed, and then it binds its port and listens. -/
theorem bound_after_close : ¬ ∀ events s err, (system fun _ => false).Run (fun _ _ => True) events s →
    s.running = .returned err → s.closing = .returned → s.Closed fun _ => false := by
  intro claimed
  have played : (system fun _ => false).play (fun _ _ => true) closeThenBind muxTunnel =
    some afterBind := by
    decide
  have run : (system fun _ => false).Run (fun _ _ => True) closeThenBind afterBind :=
    ((System.Run.start (muxTunnel_starts _)).play closeThenBind played).mono fun _ _ _ => trivial
  have closed := claimed closeThenBind afterBind none run rfl rfl
  exact absurd closed.1 (by decide)

end Server

end Gotun.Tun
