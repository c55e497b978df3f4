import Gotun.Tun.RoundTrip

/-! The handlers of input streams in `tun/server.go`, `tun/frps.go` and `tun/frpc.go`: they look
at the role of a stream, serve probe and bandwidth streams themselves, and relay business
streams to a backend. -/

namespace Gotun.Tun
open Gotun.Lib Gotun.Core Gotun.Crypto

variable {σ τ : Type}

/-! `tun/bandwidth.go`, the serving side. -/

structure bandwidthRequest where
  Mode : UInt8
  DurationMS : Nat
  ChunkSize : Nat
  deriving DecidableEq, Repr

def bandwidthModeDownload : UInt8 := 0x01

def readBandwidthRequest (S : Stream σ) : Action σ bandwidthRequest := do
  let buf ← readFull S 9
  pure ⟨buf.getD 0 0, ofBigEndian ((buf.drop 1).take 4), ofBigEndian (buf.drop 5)⟩

def sendChunks (S : Stream σ) (buf : Bytes) : Nat → Action σ Unit
  | 0 => pure ()
  | rounds + 1 => do
      put S buf
      sendChunks S buf rounds

def onFrames (x : Action (FrameStream σ) Unit) : Action (Buffered (FrameStream σ)) Unit := fun b =>
  ((x b.base).1, { b with base := (x b.base).2 })

/-- `rounds` is the number of writes before the deadline of the test. -/
def serveBandwidthDownload (clock : FrameStream.Clock) (S : Stream σ) (rounds : Nat)
    (req : bandwidthRequest) :
    Action (Buffered (FrameStream σ)) Unit :=
  if req.ChunkSize = 0 ∨ MaxSegmentSize < req.ChunkSize then
    .fail (.failed "invalid bandwidth chunk size")
  else if req.DurationMS = 0 then .fail (.failed "invalid bandwidth duration")
  else do
    sendChunks (FrameStream.asStream clock S) (List.replicate req.ChunkSize 0) rounds
    onFrames (FrameStream.WriteBandwidthDone S)

def ServeBandwidthLoop (clock : FrameStream.Clock) (S : Stream σ) (rounds : Nat) :
    Action (Buffered (FrameStream σ)) Unit := do
  let req ← readBandwidthRequest (FrameStream.asStream clock S)
  if req.Mode = bandwidthModeDownload then serveBandwidthDownload clock S rounds req
  else .fail (.failed "unsupported bandwidth mode")

/-! Relaying. -/

/-- What the surroundings decide while one stream is handled. -/
structure Surroundings where
  srcRand : Rand
  startRand : Rand
  dstRand : Rand
  clock : FrameStream.Clock
  rounds : Nat
  /-- After how many arrivals the return direction ends, or nothing has moved for 300 s. -/
  returnEnds : Option Nat

def SetReadDeadline (after : Nat) : WrappedStream Conn → WrappedStream Conn
  | .inl g => .inl (onRaw (Conn.SetReadDeadline after) g)
  | .inr b =>
    .inr
      { b with base := { b.base with stream := onRaw (Conn.SetReadDeadline after) b.base.stream } }

/-- The other direction, or the idle monitor, ends this one by a deadline. -/
def Surroundings.stop (env : Surroundings) (s : WrappedStream Conn) : WrappedStream Conn :=
  env.returnEnds.elim s fun after => SetReadDeadline after s

/-- What arrives only behind that deadline. -/
def Surroundings.late (env : Surroundings) (s : WrappedStream Conn) : Bytes :=
  env.returnEnds.elim [] fun after => Conn.late after (cryptoOf s).base.rw

theorem Surroundings.late_of_none {env : Surroundings} (never : env.returnEnds = none)
    (s : WrappedStream Conn) : env.late s = [] := by
  rw [late, never]
  rfl

/-- A stream that brings its own copy, given what it passes on and how it leaves the source. -/
abbrev CustomCopy (τ : Type) := WrappedStream Conn → WrappedStream τ → List Bytes × WrappedStream Conn

def CryptoHelper.pipePrepared (c : CryptoHelper) (env : Surroundings) (D : Stream τ)
    (custom : Option (CustomCopy τ)) (dst : WrappedStream τ) (src : WrappedStream Conn) :
    List Bytes × WrappedStream Conn :=
  match custom with
  | some copy => copy src dst
  | none =>
    let r := Pipe (c.srcStream env.srcRand env.clock Conn.stream)
      (c.dstStream env.dstRand env.clock D) env.stop src dst
    (r.passed, r.src)

/-- Whether a backend stream was requested, the buffers written to it, the wrapped source at the
end, and what arrived from it only after the pipe had set a deadline. -/
structure Handled where
  requested : Bool
  forwarded : List Bytes
  src : Option (WrappedStream Conn)
  late : Bytes

/-- The role dispatch that the three handlers repeat. -/
def dispatch (c : CryptoHelper) (env : Surroundings) (src : Conn)
    (business : WrappedStream Conn → Handled) : Handled :=
  match c.WrapSrcWithRole env.srcRand Conn.stream src with
  | .error _ => ⟨false, [], none, []⟩
  | .ok (.inl s, .Probe) => ⟨false, [], some (.inl s), []⟩
  | .ok (.inr b, .Probe) =>
      let f := (FrameStream.ServeControlLoop env.clock (c.SrcCrypto env.srcRand Conn.stream) b.base).2
      ⟨false, [], some (.inr { b with base := f }), []⟩
  | .ok (.inl s, .Bandwidth) => ⟨false, [], some (.inl s), []⟩
  | .ok (.inr b, .Bandwidth) =>
      let b := (ServeBandwidthLoop env.clock (c.SrcCrypto env.srcRand Conn.stream) env.rounds b).2
      ⟨false, [], some (.inr b), []⟩
  | .ok (srcStream, .Business) => business srcStream

/-- From an opened backend stream on. -/
def relay (c : CryptoHelper) (env : Surroundings) (D : Stream τ) (custom : Option (CustomCopy τ))
    (dst : τ) (srcStream : WrappedStream Conn) : Handled :=
  match c.WrapDst env.dstRand D dst with
  | .error _ => ⟨true, [], some srcStream, []⟩
  | .ok dstStream =>
    let (forwarded, src) := c.pipePrepared env D custom dstStream srcStream
    ⟨true, forwarded, some src, if custom.isSome then [] else env.late srcStream⟩

def Server.handleInputStream (c : CryptoHelper) (env : Surroundings) (D : Stream τ)
    (custom : Option (CustomCopy τ)) (GetStream : Except Err τ) (src : Conn) : Handled :=
  dispatch c env src fun srcStream =>
    match GetStream with
    | .error _ => ⟨true, [], some srcStream, []⟩
    | .ok dst => relay c env D custom dst srcStream

/-- Writes the packed `StartWorkConn` through a crypto layer of its own. -/
def Frps.sayStart (c : CryptoHelper) (env : Surroundings) (D : Stream τ) (startWorkConn : Bytes)
    (dst : τ) :
    Except Err Unit × τ :=
  let (result, g) := put (c.DstCrypto env.startRand D) startWorkConn (wrapped dst)
  (result, g.base.rw)

/-- `GetWorkConn` is there once a controller has logged in. -/
def Frps.handleInputStream (c : CryptoHelper) (env : Surroundings) (D : Stream τ)
    (custom : Option (CustomCopy τ)) (startWorkConn : Bytes) (GetWorkConn : Option (Except Err τ))
    (src : Conn) : Handled :=
  dispatch c env src fun srcStream =>
    match GetWorkConn with
    | none => ⟨false, [], some srcStream, []⟩
    | some (.error _) => ⟨true, [], some srcStream, []⟩
    | some (.ok dst) =>
      match Frps.sayStart c env D startWorkConn dst with
      | (.error _, _) => ⟨true, [], some srcStream, []⟩
      | (.ok _, dst) => relay c env D custom dst srcStream

/-- `sayHelloAndWait` is the outcome of the exchange before, and the connection after it. -/
def Frpc.handleWorkerStream (c : CryptoHelper) (env : Surroundings) (D : Stream τ)
    (custom : Option (CustomCopy τ)) (GetStream : Except Err τ)
    (sayHelloAndWait : Except Err Conn) : Handled :=
  match sayHelloAndWait with
  | .error _ => ⟨false, [], none, []⟩
  | .ok src =>
    dispatch c env src fun srcStream =>
      match GetStream with
      | .error _ => ⟨true, [], some srcStream, []⟩
      | .ok dst => relay c env D custom dst srcStream

/-! What the handlers do with arbitrary bytes. -/

/-- The role that the first six bytes name. -/
def handshakeRole (v : Bytes) : Option StreamRole :=
  if v.length < 6 then none else (parseHandshake (v.take 6)).toOption

section dispatch

variable {c : CryptoHelper} (env : Surroundings) {src : Conn} {w : Bytes}

theorem wrapSrc_refused (frames : c.srcExtend.FrameHeaderEnable = true) (held : src.Holds w)
    (invalid : handshakeRole (decrypt c.srcMode c.srcAead w) = none) :
    ∃ e, c.WrapSrcWithRole env.srcRand Conn.stream src = .error e := by
  have delivers := NewReaderWriter_delivers c.srcMode c.srcAead env.srcRand Conn.drains.toDelivers
  obtain ⟨e, t, failed⟩ := readStreamHandshake_error delivers (.of_holds c.srcMode c.srcAead held) (by
    intro role enough parsed
    rw [handshakeRole, if_neg (Nat.not_lt.mpr enough), parsed] at invalid
    simp [Except.toOption] at invalid)
  refine ⟨e, ?_⟩
  rw [CryptoHelper.WrapSrcWithRole, if_neg (by simp [frames]), CryptoHelper.SrcCrypto, failed]

theorem wrapSrc_role (frames : c.srcExtend.FrameHeaderEnable = true) (held : src.Holds w)
    {role : StreamRole} (named : handshakeRole (decrypt c.srcMode c.srcAead w) = some role) :
    ∃ t, c.WrapSrcWithRole env.srcRand Conn.stream src = .ok (.inr (NewFrameStream t role), role) ∧
      HoldsSince c.srcMode c.srcAead Conn.Holds w t ((decrypt c.srcMode c.srcAead w).drop 6) ∧
      Logged c.srcMode c.srcAead env.srcRand (Conn.Sent src.sent) t [] := by
  have delivers := NewReaderWriter_since c.srcMode c.srcAead env.srcRand Conn.drains.toDelivers w
  have sends := NewReaderWriter_sends c.srcMode c.srcAead env.srcRand (Conn.sends src.sent)
  unfold handshakeRole at named
  split_ifs at named with short
  rcases parsed : parseHandshake ((decrypt c.srcMode c.srcAead w).take 6) with e | found
  · simp [parsed, Except.toOption] at named
  · rw [parsed] at named
    obtain rfl : found = role := Option.some.inj named
    obtain ⟨t, ok, left⟩ := readStreamHandshake_ok delivers (.of_holds c.srcMode c.srcAead held)
      (Nat.not_lt.mp short) parsed
    have logged : Logged c.srcMode c.srcAead env.srcRand (Conn.Sent src.sent) (wrapped src) [] :=
      .of_below c.srcMode c.srcAead env.srcRand (by simp [Conn.Sent])
    have kept := readStreamHandshake_keeps (P := fun g => Logged c.srcMode c.srcAead env.srcRand
      (Conn.Sent src.sent) g []) (fun n _ logged => sends.read n logged) _ logged
    rw [ok] at kept
    refine ⟨t, ?_, left, kept⟩
    rw [CryptoHelper.WrapSrcWithRole, if_neg (by simp [frames]), CryptoHelper.SrcCrypto, ok]

/-- Without a business handshake the business branch is not reached. -/
theorem dispatch_other (frames : c.srcExtend.FrameHeaderEnable = true) (held : src.Holds w)
    (other : handshakeRole (decrypt c.srcMode c.srcAead w) ≠ some .Business)
    (business : WrappedStream Conn → Handled) :
    (dispatch c env src business).requested = false ∧ (dispatch c env src business).forwarded = [] := by
  rcases named : handshakeRole (decrypt c.srcMode c.srcAead w) with _ | role
  · obtain ⟨e, refused⟩ := wrapSrc_refused env frames held named
    rw [dispatch, refused]
    exact ⟨rfl, rfl⟩
  · obtain ⟨t, opened, _⟩ := wrapSrc_role env frames held named
    rw [dispatch, opened]
    cases role with
    | Business => exact absurd named other
    | Probe => exact ⟨rfl, rfl⟩
    | Bandwidth => exact ⟨rfl, rfl⟩

theorem dispatch_business (frames : c.srcExtend.FrameHeaderEnable = true) (held : src.Holds w)
    (named : handshakeRole (decrypt c.srcMode c.srcAead w) = some .Business)
    (business : WrappedStream Conn → Handled) :
    ∃ t, dispatch c env src business = business (.inr (NewFrameStream t .Business)) ∧
      HoldsSince c.srcMode c.srcAead Conn.Holds w t ((decrypt c.srcMode c.srcAead w).drop 6) ∧
      Logged c.srcMode c.srcAead env.srcRand (Conn.Sent src.sent) t [] := by
  obtain ⟨t, opened, left, logged⟩ := wrapSrc_role env frames held named
  exact ⟨t, by rw [dispatch, opened], left, logged⟩

end dispatch

section relay

variable {c : CryptoHelper} (env : Surroundings) {D : Stream τ}

/-- A backend whose writes succeed. -/
def Succeeds (D : Stream τ) : Prop := ∀ b t, (D.write b t).n = b.length ∧ (D.write b t).err = none

theorem Succeeds.sends (succeeds : Succeeds D) : Sends D (fun _ => True) (fun _ _ => True) :=
  ⟨fun b _ _ => ⟨(succeeds b _).1, (succeeds b _).2, trivial⟩, fun _ _ _ => trivial, fun _ _ => trivial⟩

/-- A wrapped backend stream, whatever it has written. -/
def Ready (c : CryptoHelper) (rand : Rand) (t : WrappedStream τ) : Prop :=
  ∃ log, Logged c.dstMode c.dstAead rand (fun _ _ => True) (cryptoOf t) log

theorem dstStream_accepts (c : CryptoHelper) (rand : Rand) (clock : FrameStream.Clock)
    (succeeds : Succeeds D) :
    Accepts (c.dstStream rand clock D) (Ready c rand) := by
  have sends := NewReaderWriter_sends c.dstMode c.dstAead rand succeeds.sends
  rintro (g | b) p ⟨log, logged⟩ some_bytes short
  · have small : p.length ≤ MaxSegmentSize := short.trans (by decide)
    obtain ⟨n, ok, after⟩ := sends.write p logged (fits_of_length some_bytes small)
    exact ⟨n, ok, _, after⟩
  · have small : p.length ≤ MaxSegmentSize := short.trans (by decide)
    have fit : Fits c.dstMode (frameBytes frameTypeBusiness p) := by
      refine fits_of_length (by simp [frameBytes]) ?_
      rw [frameBytes_length]
      unfold SocketBufSize at short
      unfold MaxSegmentSize
      omega
    obtain ⟨ok, after⟩ := sends.put logged fit
    have write : (c.dstStream rand clock D).write p (.inr b) =
        ⟨(FrameStream.Write (c.DstCrypto rand D) p b.base).n,
          (FrameStream.Write (c.DstCrypto rand D) p b.base).err,
          .inr { b with base := (FrameStream.Write (c.DstCrypto rand D) p b.base).next }⟩ := rfl
    rw [write, FrameStream.Write_sent (S := c.DstCrypto rand D) some_bytes small ok]
    exact ⟨rfl, rfl, _, after⟩

theorem wrapDst_ready (c : CryptoHelper) (rand : Rand) (succeeds : Succeeds D) (dst : τ) :
    ∃ dstStream, c.WrapDst rand D dst = .ok dstStream ∧ Ready c rand dstStream := by
  have logged : Logged c.dstMode c.dstAead rand (fun _ _ => True) (wrapped dst) [] :=
    .of_below c.dstMode c.dstAead rand trivial
  unfold CryptoHelper.WrapDst CryptoHelper.wrapDstWithRole
  split_ifs with frames
  · exact ⟨_, rfl, _, logged⟩
  · have sends := NewReaderWriter_sends c.dstMode c.dstAead rand succeeds.sends
    obtain ⟨ok, after⟩ := sends.put logged
      (fits_of_length (b := handshakeBytes .Business) (by simp [handshakeBytes])
        (by simp [MaxSegmentSize]))
    refine ⟨.inr (NewFrameStream _ .Business), ?_, _, after⟩
    rw [writeStreamHandshake, CryptoHelper.DstCrypto, ok]

/-- A framed source below which `v` is still to be read, and which then has answered `requests`. -/
def HoldsInput (c : CryptoHelper) (rand : Rand) (before : Bytes) (requests : List ProbeReq) :
    WrappedStream Conn → Bytes → Prop :=
  Sum.elim (fun _ _ => False) (Buffered.HoldsBlocks businessDecoder (FrameStream.Serves
    (HoldsPlain c.srcMode c.srcAead Conn.Holds)
      (Logged c.srcMode c.srcAead rand (Conn.Sent before)) requests))

def Answered (c : CryptoHelper) (rand : Rand) (before : Bytes)
    (requests : List ProbeReq) : WrappedStream Conn → Prop :=
  Sum.elim (fun _ => False) fun b => b.rest = [] ∧
    ∃ w, FrameStream.Served (Logged c.srcMode c.srcAead rand (Conn.Sent before))
      (fun _ => True) requests w b.base

theorem srcStream_ends (c : CryptoHelper) (rand : Rand) (clock : FrameStream.Clock) (before : Bytes)
    (requests : List ProbeReq) :
    Ends (c.srcStream rand clock Conn.stream) (HoldsInput c rand before requests)
      (Answered c rand before requests) :=
  Ends.sum (Ends.unused _) (FrameStream.asStream_ends clock
    (NewReaderWriter_delivers c.srcMode c.srcAead rand Conn.drains.toDelivers)
    (NewReaderWriter_sends c.srcMode c.srcAead rand (Conn.sends before))
      (responses_fit c.srcMode) requests)

theorem Answered.responses {rand : Rand} {before : Bytes} {requests : List ProbeReq}
    {stream : WrappedStream Conn} (answered : Answered c rand before requests stream) :
    ∃ (log : List Bytes) (responses : List ProbeResp),
      Logged c.srcMode c.srcAead rand (Conn.Sent before) (cryptoOf stream) log ∧
      responsesIn log = responses.map (fun resp => (Frame.probeResp resp).bytes) ∧
      responses.map ProbeResp.request = requests := by
  rcases stream with g | b
  · exact answered.elim
  · obtain ⟨_, w, served⟩ := answered
    obtain ⟨log, logged, responses⟩ := served.written
    exact ⟨log, b.base.replied, logged, responses, served.answered⟩

/-- What the pipe can read where a deadline is set: what the bytes that arrive before it decrypt to. -/
theorem Surroundings.stop_reads {mode : Mode} {aead : AEAD} (env : Surroundings)
    {s : WrappedStream Conn} {start v : Bytes}
    (held : HoldsSince mode aead Conn.Holds start (cryptoOf s) v) :
    ∃ early done v', start = early ++ env.late s ∧ decrypt mode aead start = done ++ v ∧
      decrypt mode aead early = done ++ v' ∧
        HoldsPlain mode aead Conn.Holds (cryptoOf (env.stop s)) v' := by
  obtain ⟨taken, w, done, rfl, below, whole, changed⟩ := held.changed
  cases ends : env.returnEnds with
  | none =>
    refine ⟨taken ++ w, done, v, ?_, whole, whole, ?_⟩
    · rw [late, ends]
      exact (List.append_nil _).symm
    · rw [stop, ends]
      exact held.plain
  | some after =>
    obtain ⟨early, rfl, below'⟩ := Conn.holds_deadline after below
    obtain ⟨v', decrypted, held'⟩ := changed (Conn.SetReadDeadline after) early below'
    refine ⟨taken ++ early, done, v', ?_, whole, decrypted, ?_⟩
    · rw [late, ends, List.append_assoc]
      rfl
    · rw [stop, ends]
      cases s <;> exact held'

/-- What a handler does with a business stream on which `w` arrives: of what arrives before the
deadline that the return direction may set, which is all if it sets none, it passes on the business
payloads of the frames before the first bad one and writes one response for each valid request among
them. -/
def Relays (c : CryptoHelper) (env : Surroundings) (before w : Bytes) (handled : Handled) : Prop :=
  (env.returnEnds = none → handled.late = []) ∧ ∃ early, w = early ++ handled.late ∧
    let u := (decrypt c.srcMode c.srcAead early).drop 6
    handled.forwarded.flatten = (businessPayloads u).flatten ∧
    ∃ (stream : WrappedStream Conn) (log : List Bytes) (responses : List ProbeResp),
      handled.src = some stream ∧
      Logged c.srcMode c.srcAead env.srcRand (Conn.Sent before) (cryptoOf stream) log ∧
      responsesIn log = responses.map (fun resp => (Frame.probeResp resp).bytes) ∧
      responses.map ProbeResp.request = probeRequests u

theorem relay_relays {before w : Bytes} {t : CryptoStream Conn} (succeeds : Succeeds D) (dst : τ)
    (enough : 6 ≤ (decrypt c.srcMode c.srcAead w).length)
    (held : HoldsSince c.srcMode c.srcAead Conn.Holds w t ((decrypt c.srcMode c.srcAead w).drop 6))
    (logged : Logged c.srcMode c.srcAead env.srcRand (Conn.Sent before) t []) :
    Relays c env before w (relay c env D none dst (.inr (NewFrameStream t .Business))) := by
  obtain ⟨dstStream, opened, ready⟩ := wrapDst_ready c env.dstRand succeeds dst
  obtain ⟨early, done, u, arrives, whole, decrypted, held'⟩ :=
    env.stop_reads (s := .inr (NewFrameStream t .Business)) held
  -- The handshake is what was read before the pipe began.
  have six : done.length = 6 := by
    have length := congrArg List.length whole
    rw [List.length_append, List.length_drop] at length
    omega
  have rest : (decrypt c.srcMode c.srcAead early).drop 6 = u := by rw [decrypted, List.drop_left' six]
  obtain ⟨t', stopped, logged'⟩ : ∃ t', env.stop (.inr (NewFrameStream t .Business)) =
    .inr (NewFrameStream t' .Business) ∧
      Logged c.srcMode c.srcAead env.srcRand (Conn.Sent before) t' [] := by
    unfold Surroundings.stop
    cases env.returnEnds with
    | none => exact ⟨t, rfl, logged⟩
    | some after => exact ⟨_, rfl, logged⟩
  rw [stopped] at held'
  have input : HoldsInput c env.srcRand before (probeRequests u) (.inr (NewFrameStream t' .Business))
      (businessDecoder.plain u) := ⟨u, ⟨held', ⟨[], logged', rfl⟩, rfl⟩, rfl⟩
  obtain ⟨passed, final⟩ :=
    unidirectionalStream_passed (srcStream_ends c env.srcRand env.clock before (probeRequests u))
    (dstStream_accepts c env.dstRand env.clock succeeds) input ready
  obtain ⟨log, responses, written⟩ := final.responses
  have late : (relay c env D none dst (.inr (NewFrameStream t .Business))).late =
      env.late (.inr (NewFrameStream t .Business)) := by
    simp only [relay, opened, Option.isSome_none, Bool.false_eq_true, if_false]
  rw [Relays, late]
  refine ⟨fun never => env.late_of_none never _, early, arrives, ?_, ?_⟩
  · rw [rest, ← businessDecoder_plain, ← passed]
    simp only [relay, opened, CryptoHelper.pipePrepared, Pipe, stopped]
  · refine ⟨_, log, responses, ?_, rest ▸ written⟩
    simp only [relay, opened, CryptoHelper.pipePrepared, Pipe, stopped]

theorem sayStart_ok (c : CryptoHelper) (succeeds : Succeeds D) {startWorkConn : Bytes}
    (some_bytes : startWorkConn ≠ []) (small : startWorkConn.length ≤ MaxSegmentSize) (dst : τ) :
    ∃ dst', Frps.sayStart c env D startWorkConn dst = (.ok (), dst') := by
  have logged : Logged c.dstMode c.dstAead env.startRand (fun _ _ => True) (wrapped dst) [] :=
    .of_below c.dstMode c.dstAead env.startRand trivial
  have sends := NewReaderWriter_sends c.dstMode c.dstAead env.startRand succeeds.sends
  obtain ⟨ok, _⟩ := sends.put logged (fits_of_length some_bytes small)
  exact ⟨_, by rw [Frps.sayStart, CryptoHelper.DstCrypto, ok]⟩

end relay

/-- No backend stream is requested and nothing is passed on. -/
def Handled.Quiet (handled : Handled) : Prop := handled.requested = false ∧ handled.forwarded = []

/-- Any bytes on a framed input, cut anywhere: without a business handshake no service asks for
a backend; with one, each passes on the business payloads up to the first bad frame and answers
the valid requests among them, of all that arrives before a deadline. -/
theorem input_streams_decode (c : CryptoHelper) (frames : c.srcExtend.FrameHeaderEnable = true)
    (env : Surroundings) (D : Stream τ) (startWorkConn : Bytes)
    (packed : startWorkConn ≠ [] ∧ startWorkConn.length ≤ MaxSegmentSize) (chunks : List Bytes)
    (eofWithData : Bool) (before : Bytes) :
    let src : Conn := ⟨chunks.map .chunk, eofWithData, before⟩
    let v := decrypt c.srcMode c.srcAead chunks.flatten
    (handshakeRole v ≠ some .Business → ∀ custom : Option (CustomCopy τ),
      (∀ GetStream, (Server.handleInputStream c env D custom GetStream src).Quiet) ∧
      (∀ GetWorkConn, (Frps.handleInputStream c env D custom startWorkConn GetWorkConn src).Quiet) ∧
      ∀ GetStream, (Frpc.handleWorkerStream c env D custom GetStream (.ok src)).Quiet) ∧
    (handshakeRole v = some .Business → Succeeds D → ∀ dst : τ,
      Relays c env before chunks.flatten (Server.handleInputStream c env D none (.ok dst) src) ∧
      Relays c env before chunks.flatten
        (Frps.handleInputStream c env D none startWorkConn (some (.ok dst)) src) ∧
      Relays c env before chunks.flatten
        (Frpc.handleWorkerStream c env D none (.ok dst) (.ok src))) := by
  intro src v
  have held : src.Holds chunks.flatten := Conn.arrived_chunks chunks
  have enough (named : handshakeRole v = some .Business) : 6 ≤ v.length := by
    by_contra short
    rw [handshakeRole, if_pos (Nat.lt_of_not_le short)] at named
    cases named
  refine ⟨fun other custom => ⟨fun _ => ?_, fun _ => ?_, fun _ => ?_⟩,
    fun named succeeds dst => ⟨?_, ?_, ?_⟩⟩
  · exact dispatch_other env frames held other _
  · exact dispatch_other env frames held other _
  · exact dispatch_other env frames held other _
  · obtain ⟨t, handled, left, logged⟩ := dispatch_business env frames held named fun srcStream =>
      relay c env D none dst srcStream
    rw [Server.handleInputStream]
    exact handled ▸ relay_relays env succeeds dst (enough named) left logged
  · obtain ⟨dst', started⟩ := sayStart_ok env c succeeds packed.1 packed.2 dst
    obtain ⟨t, handled, left, logged⟩ := dispatch_business env frames held named fun srcStream =>
      relay c env D none dst' srcStream
    simp only [Frps.handleInputStream, started]
    exact handled ▸ relay_relays env succeeds dst' (enough named) left logged
  · obtain ⟨t, handled, left, logged⟩ := dispatch_business env frames held named fun srcStream =>
      relay c env D none dst srcStream
    rw [Frpc.handleWorkerStream]
    exact handled ▸ relay_relays env succeeds dst (enough named) left logged

/-- A plain framed input and a plain backend without frames. -/
def plainHelper : CryptoHelper :=
  let aead := streamAEAD 12 16 (fun _ _ => 0) fun _ _ _ => 0
  ⟨.None, .None, aead, aead, ⟨true⟩, ⟨false⟩⟩

/-- A return direction that ends after so many arrivals, if at all. -/
def endsAfter (returnEnds : Option Nat) : Surroundings :=
  ⟨nines, nines, nines, fun _ => 0, 0, returnEnds⟩

/-- A business handshake and one business frame, in two pieces. -/
def oneFrame : List Bytes := [handshakeBytes .Business, frameBytes frameTypeBusiness [1, 2]]

theorem succeeds_conn : Succeeds Conn.stream := fun _ _ => ⟨rfl, rfl⟩

/-- The backend ends its direction between two frames: the first one is passed on. -/
theorem one_frame_forwarded :
    (Server.handleInputStream plainHelper (endsAfter (some 1)) Conn.stream none (.ok ⟨[], false, []⟩)
      ⟨(oneFrame ++ [frameBytes frameTypeBusiness [3]]).map .chunk, false, []⟩).forwarded.flatten =
        [1, 2] := by
  obtain ⟨_, early, whole, forwarded, _⟩ := ((input_streams_decode plainHelper rfl (endsAfter (some 1))
    Conn.stream [115] (by decide) (oneFrame ++ [frameBytes frameTypeBusiness [3]]) false []).2
    (by decide) succeeds_conn ⟨[], false, []⟩).1
  have late : (Server.handleInputStream plainHelper (endsAfter (some 1)) Conn.stream none
    (.ok ⟨[], false, []⟩)
      ⟨(oneFrame ++ [frameBytes frameTypeBusiness [3]]).map .chunk, false, []⟩).late =
        frameBytes frameTypeBusiness [3] := by decide
  rw [late, List.flatten_append, List.flatten_singleton] at whole
  obtain rfl := List.append_cancel_right whole
  rw [forwarded]
  decide

/-- The backend ends its direction before the frame is read: the frame is not passed on. -/
theorem one_frame_stopped :
    handshakeRole (decrypt plainHelper.srcMode plainHelper.srcAead oneFrame.flatten) = some .Business ∧
    Succeeds Conn.stream ∧
    (businessPayloads
      ((decrypt plainHelper.srcMode plainHelper.srcAead oneFrame.flatten).drop 6)).flatten =
      [1, 2] ∧
    (Server.handleInputStream plainHelper (endsAfter (some 0)) Conn.stream none (.ok ⟨[], false, []⟩)
      ⟨oneFrame.map .chunk, false, []⟩).forwarded.flatten = [] :=
  ⟨by decide, succeeds_conn, by decide, by decide⟩

end Gotun.Tun
