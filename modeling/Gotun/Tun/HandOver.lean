import Gotun.Tun.FrpsController
import Gotun.Tun.InputHandlers

/-! The worker streams between `tun/frps.go` and `tun/frpc.go`. Each side exchanges messages over the
raw stream through a wrapper that it then throws away, wraps the stream again and copies business
bytes over it. -/

namespace Gotun.Tun
open Gotun.Lib Gotun.Core Gotun.Crypto

variable {σ τ : Type}

/-- `pkg/msg`: the bytes of the one `Write` of a message, and how a message is read. -/
structure MsgLibrary where
  Pack : Message → Bytes
  ReadMsg : (σ : Type) → Stream σ → Action σ Message

/-- The messages that go over a worker stream. -/
def workerMessages : List Message := [.NewWorkConn, .StartWorkConn]

/-- `ReadMsg` reads exactly the bytes of one message, and fails where they end before it does. -/
structure MsgLibrary.Lawful (lib : MsgLibrary) : Prop where
  packs : ∀ m ∈ workerMessages, lib.Pack m ≠ [] ∧ (lib.Pack m).length ≤ MaxSegmentSize
  reads : ∀ m ∈ workerMessages, ∀ {σ : Type} {S : Stream σ} {Holds : σ → Bytes → Prop},
    Delivers S Holds →
    ∀ {s rest}, Holds s (lib.Pack m ++ rest) → ∃ t, lib.ReadMsg σ S s = (.ok m, t) ∧ Holds t rest
  fails : ∀ m ∈ workerMessages, ∀ {σ : Type} {S : Stream σ} {Holds : σ → Bytes → Prop},
    Delivers S Holds →
    ∀ {s w}, Holds s w → w <+: lib.Pack m → w ≠ lib.Pack m → ∃ e t, lib.ReadMsg σ S s = (.error e, t)
  keeps : ∀ {σ : Type} {S : Stream σ} {P : σ → Prop}, (∀ n s, P s → P (S.read n s).next) →
    Action.Keeps P (lib.ReadMsg σ S)

def Frpc.sayHelloAndWait (c : CryptoHelper) (lib : MsgLibrary) (rand : Rand) (S : Stream σ)
    (src : σ) : Except Err Unit × σ :=
  let rw := c.SrcCrypto rand S
  let exchange : Action (CryptoStream σ) Unit := do
    put rw (lib.Pack .NewWorkConn)
    let rawMsg ← lib.ReadMsg _ rw
    if rawMsg = .StartWorkConn then pure () else Action.fail (.failed "not StartWorkConn")
  let (result, g) := exchange (wrapped src)
  (result, g.base.rw)

/-- What becomes of a stream of the worker port: a controller goes on with the wrapper, a worker is
registered without it. -/
inductive Frps.Admitted (σ : Type) where
  | controller (rw : CryptoStream σ)
  | worker (src : σ)
  | ignored

def Frps.handleWorkerStream (c : CryptoHelper) (lib : MsgLibrary) (rand : Rand) (S : Stream σ)
    (hasController : Bool) (src : σ) :
    Except Err (Frps.Admitted σ) :=
  let rw := c.DstCrypto rand S
  match lib.ReadMsg _ rw (wrapped src) with
  | (.error e, _) => .error e
  | (.ok (.Login _), g) =>
    match put rw (lib.Pack (.LoginResp "" "")) g with
    | (.error e, _) => .error e
    | (.ok _, g) => .ok (.controller g)
  | (.ok .NewWorkConn, g) =>
    if hasController then .ok (.worker g.base.rw) else .error (.failed "no controller")
  | (.ok _, _) => .ok .ignored

/-- What one side does with a worker stream: whether it gets to copy, all it puts on the stream, the
buffers it copies from the client on and towards the client, what the direction that reads the
worker stream puts on it, and what arrives on the worker stream only behind a deadline. -/
structure WorkerSide where
  copies : Bool
  sent : Bytes
  forth : List Bytes
  back : List Bytes
  answered : Bytes
  late : Bytes
  deriving DecidableEq, Repr

def WorkerSide.idle (sent : Bytes) : WorkerSide := ⟨false, sent, [], [], [], []⟩

/-- `handleWorkerStream`, then `handleInputStream` for a wrapped client stream that gets this worker. -/
def Frps.serve (c : CryptoHelper) (lib : MsgLibrary) (env : Surroundings) (rand : Rand)
    (S : Stream σ) (stopClient : WrappedStream σ → WrappedStream σ) (client : WrappedStream σ)
    (src : Conn) : WorkerSide :=
  match Frps.handleWorkerStream c lib rand Conn.stream true src with
  | .error _ => .idle src.sent
  | .ok .ignored => .idle src.sent
  | .ok (.controller rw) => .idle rw.base.rw.sent
  | .ok (.worker dst) =>
    match Frps.sayStart c env Conn.stream (lib.Pack .StartWorkConn) dst with
    | (.error _, dst) => .idle dst.sent
    | (.ok _, dst) =>
      match c.WrapDst env.dstRand Conn.stream dst with
      | .error _ => .idle dst.sent
      | .ok dstStream =>
        let forth := Pipe (c.srcStream env.srcRand env.clock S)
          (c.dstStream env.dstRand env.clock Conn.stream) stopClient client dstStream
        let back := Pipe (c.dstStream env.dstRand env.clock Conn.stream)
          (c.srcStream env.srcRand env.clock S) env.stop dstStream client
        ⟨true, sentOf forth.dst, forth.passed, back.passed,
          (sentOf back.src).drop (sentOf dstStream).length,
          env.late dstStream⟩

/-- `handleWorkerStream`, with an output stream that `GetStream` returned. Probe and bandwidth streams
are not copied; `dispatch` serves them. -/
def Frpc.serve (c : CryptoHelper) (lib : MsgLibrary) (env : Surroundings) (rand : Rand) (D : Stream τ)
    (stopOutput : WrappedStream τ → WrappedStream τ) (output : τ) (src : Conn) : Option WorkerSide :=
  match Frpc.sayHelloAndWait c lib rand Conn.stream src with
  | (.error _, src) => some (.idle src.sent)
  | (.ok _, src) =>
    match c.WrapSrcWithRole env.srcRand Conn.stream src with
    | .error _ => some (.idle src.sent)
    | .ok (_, .Probe) => none
    | .ok (_, .Bandwidth) => none
    | .ok (srcStream, .Business) =>
      match c.WrapDst env.dstRand D output with
      | .error _ => some (.idle (sentOf srcStream))
      | .ok dstStream =>
        let forth := Pipe (c.srcStream env.srcRand env.clock Conn.stream)
          (c.dstStream env.dstRand env.clock D) env.stop srcStream dstStream
        let back := Pipe (c.dstStream env.dstRand env.clock D)
          (c.srcStream env.srcRand env.clock Conn.stream) stopOutput dstStream srcStream
        some ⟨true, sentOf back.dst, forth.passed, back.passed,
          (sentOf forth.src).drop (sentOf srcStream).length,
          env.late srcStream⟩

/-! Where no deadline is set, nothing is late. -/

theorem Frps.serve_in_time (c : CryptoHelper) (lib : MsgLibrary) {env : Surroundings}
    (never : env.returnEnds = none) (rand : Rand) (S : Stream σ)
    (stopClient : WrappedStream σ → WrappedStream σ) (client : WrappedStream σ) (src : Conn) :
    (Frps.serve c lib env rand S stopClient client src).late = [] := by
  unfold Frps.serve
  rcases Frps.handleWorkerStream c lib rand Conn.stream true src with e | (_ | dst | _)
  · rfl
  · rfl
  · dsimp only
    rcases Frps.sayStart c env Conn.stream (lib.Pack .StartWorkConn) dst with ⟨_ | _, dst'⟩
    · rfl
    dsimp only
    cases c.WrapDst env.dstRand Conn.stream dst' with
    | error e => rfl
    | ok dstStream => exact env.late_of_none never dstStream
  · rfl

theorem Frpc.serve_in_time (c : CryptoHelper) (lib : MsgLibrary) {env : Surroundings}
    (never : env.returnEnds = none) (rand : Rand) (D : Stream τ)
    (stopOutput : WrappedStream τ → WrappedStream τ) (output : τ) (src : Conn) {side : WorkerSide}
    (served : Frpc.serve c lib env rand D stopOutput output src = some side) : side.late = [] := by
  unfold Frpc.serve at served
  split at served
  · cases served
    rfl
  split at served
  · cases served
    rfl
  · contradiction
  · contradiction
  split at served
  · cases served
    rfl
  · cases served
    exact env.late_of_none never _

/-! The two models of a handler agree on what goes from the client on. -/

theorem Frpc.serve_forth (c : CryptoHelper) (lib : MsgLibrary) (env : Surroundings) (rand : Rand)
    (D : Stream τ) (stopOutput : WrappedStream τ → WrappedStream τ) (output : τ) {src left : Conn}
    (started : Frpc.sayHelloAndWait c lib rand Conn.stream src = (.ok (), left)) :
    (Frpc.serve c lib env rand D stopOutput output src).elim [] WorkerSide.forth =
      (Frpc.handleWorkerStream c env D none (.ok output) (.ok left)).forwarded := by
  simp only [Frpc.serve, started, Frpc.handleWorkerStream, dispatch]
  rcases c.WrapSrcWithRole env.srcRand Conn.stream left with e | ⟨g | b, _ | _ | _⟩
  · rfl
  · simp only [relay]
    cases c.WrapDst env.dstRand D output with
    | error e => rfl
    | ok dstStream => rfl
  · rfl
  · rfl
  · simp only [relay]
    cases c.WrapDst env.dstRand D output with
    | error e => rfl
    | ok dstStream => rfl
  · rfl
  · rfl

theorem Frps.serve_forth (c : CryptoHelper) (lib : MsgLibrary) (env : Surroundings) (rand : Rand)
    {src worker input : Conn} {client : WrappedStream Conn}
    (admitted : Frps.handleWorkerStream c lib rand Conn.stream true src = .ok (.worker worker))
    (opened : c.WrapSrcWithRole env.srcRand Conn.stream input = .ok (client, .Business)) :
    (Frps.serve c lib env rand Conn.stream env.stop client src).forth =
      (Frps.handleInputStream c env Conn.stream none (lib.Pack .StartWorkConn)
        (some (.ok worker)) input).forwarded := by
  have business (f : WrappedStream Conn → Handled) : dispatch c env input f = f client := by
    rw [dispatch, opened]
    cases client <;> rfl
  simp only [Frps.serve, admitted, Frps.handleInputStream, business]
  rcases Frps.sayStart c env Conn.stream (lib.Pack .StartWorkConn) worker with ⟨e | _, dst⟩
  · rfl
  · simp only [relay]
    cases c.WrapDst env.dstRand Conn.stream dst with
    | error e => rfl
    | ok dstStream => rfl

/-! What is written to a worker stream. -/

section worker

variable {mode : Mode} {aead : AEAD} {rand : Rand} {clock : FrameStream.Clock} {before : Bytes}
  {head log : List Bytes}
variable {frames : Bool} {t : WrappedStream Conn} {u v : Bytes}

theorem packed_fits (mode : Mode) (frames : Bool) (each : ∀ b ∈ log, b ≠ [] ∧ b.length ≤ SocketBufSize) :
    ∀ b ∈ packed frames log, Fits mode b := by
  intro b member
  cases frames with
  | false =>
    obtain ⟨some_bytes, short⟩ := each b member
    exact fits_of_length some_bytes (short.trans (by decide))
  | true =>
    obtain ⟨p, there, rfl⟩ := List.mem_map.mp member
    have short := (each p there).2
    refine fits_of_length (by simp [frameBytes]) ?_
    rw [frameBytes_length]
    unfold SocketBufSize at short
    unfold MaxSegmentSize
    omega

theorem Carries.sentOf (carries : Carries mode aead rand (Conn.Sent before) head frames t log) :
    Tun.sentOf t = before ++ (sealed mode aead rand (head ++ packed frames log)).flatten :=
  carries.logged.1

theorem wrappedStream_takes (mode : Mode) (aead : AEAD) (rand : Rand) (clock : FrameStream.Clock)
    (before : Bytes) (head : List Bytes) (frames : Bool) :
    Takes SocketBufSize (wrappedStream mode aead rand clock Conn.stream)
      (Carries mode aead rand (Conn.Sent before) head frames) := by
  have sends := NewReaderWriter_sends mode aead rand (Conn.sends before)
  exact Carries.takes clock head frames
    (sends.takes fun b some_bytes small => fits_of_length some_bytes (small.trans (by decide)))

/-! What is read from a worker stream. -/

def HoldsWorker (mode : Mode) (aead : AEAD) : WrappedStream Conn → Bytes → Prop :=
  Sum.elim (HoldsPlain mode aead Conn.Holds)
    (Buffered.HoldsBlocks businessDecoder (FrameStream.HoldsPayloads (HoldsPlain mode aead Conn.Holds)))

theorem wrappedStream_ends (mode : Mode) (aead : AEAD) (rand : Rand) (clock : FrameStream.Clock) :
    Ends (wrappedStream mode aead rand clock Conn.stream) (HoldsWorker mode aead) (fun _ => True) := by
  have delivers := NewReaderWriter_delivers mode aead rand Conn.drains.toDelivers
  have framed := (FrameStream.payloads_fetches clock delivers).delivers
  have plain : Ends _ _ fun _ => True := ⟨delivers, fun _ _ _ _ => trivial⟩
  have payloads : Ends _ _ fun _ => True := ⟨framed, fun _ _ _ _ => trivial⟩
  have ends := plain.sum payloads
  exact ⟨ends.toDelivers, fun _ _ _ _ => trivial⟩

/-- A stream that no frame has been read from. -/
def Unread (t : WrappedStream Conn) : Prop := ∀ b, t = .inr b → b.rest = []

theorem Unread.plain (g : CryptoStream Conn) : Unread (.inl g) :=
  fun _ same => (Sum.inl_ne_inr same).elim

theorem Unread.framed (g : CryptoStream Conn) (role : StreamRole) :
    Unread (.inr (NewFrameStream g role)) := by
  intro b same
  rw [← Sum.inr.inj same]
  rfl

/-- What arrives of the buffers of a peer is held as a prefix of their bytes, with all of the buffers
that have arrived as a whole. -/
theorem HoldsWorker.of_cut (kind : t.isRight = frames) (unread : Unread t)
    (held : HoldsPlain mode aead Conn.Holds (cryptoOf t) u)
    (each : ∀ b ∈ log, b ≠ [] ∧ b.length ≤ SocketBufSize) (cut : u <+: (packed frames log).flatten) :
    ∃ v, HoldsWorker mode aead t v ∧ v <+: log.flatten ∧
      ∀ buffers, buffers <+: log → (packed frames buffers).flatten <+: u → buffers.flatten <+: v := by
  subst kind
  rcases t with g | b
  · exact ⟨u, held, cut, fun buffers _ arrived => arrived⟩
  · have valid : ∀ frame ∈ log.map Frame.business, frameCodec.Valid frame := by
      intro frame member
      obtain ⟨p, there, rfl⟩ := List.mem_map.mp member
      exact (each p there).2.trans (by decide)
    have wire (buffers : List Bytes) :
        (packed true buffers).flatten = (buffers.map Frame.business).flatMap frameCodec.encode := by
      rw [List.flatMap_def, List.map_map]
      rfl
    rw [Sum.isRight_inr, wire] at cut
    obtain ⟨got, written, begins, _⟩ := Codec.Written.of_cut (C := frameCodec) _ valid cut
    obtain ⟨arrived, arrives, rfl⟩ := List.prefix_map_iff.mp begins
    have payloads (buffers : List Bytes) :
        (buffers.map Frame.business).filterMap Frame.payload? = buffers := by
      rw [List.filterMap_map]
      exact List.filterMap_some
    have decoded : businessDecoder.plain u = arrived.flatten := by
      have blocks : frameDecoder.blocks u = (arrived.map Frame.business).map id := written.blocks
      rw [businessDecoder_plain, businessPayloads, blocks, List.map_id, payloads]
    refine ⟨arrived.flatten, ⟨u, ⟨held, arrived, written⟩, by rw [decoded, unread b rfl]; rfl⟩,
      arrives.flatten, ?_⟩
    rintro buffers begun ⟨more, rfl⟩
    have valid' : ∀ frame ∈ buffers.map Frame.business, frameCodec.Valid frame :=
      fun frame member => valid frame ((begun.map Frame.business).subset member)
    have blocks : frameDecoder.blocks ((packed true buffers).flatten ++ more) =
        (buffers.map Frame.business).map id ++ frameDecoder.blocks more := by
      rw [wire]
      exact Codec.blocks_whole (C := frameCodec) _ valid' more
    rw [← decoded, Sum.isRight_inr, businessDecoder_plain, businessPayloads, blocks, List.map_id,
      List.filterMap_append, payloads, List.flatten_append]
    exact List.prefix_append _ _

/-- A deadline cuts off what is read, and nothing else. -/
theorem Surroundings.stop_cut (env : Surroundings)
    (held : HoldsPlain mode aead Conn.Holds (cryptoOf t) u) :
    ∃ u', u' <+: u ∧ (env.returnEnds = none → u' = u) ∧
      HoldsPlain mode aead Conn.Holds (cryptoOf (env.stop t)) u' := by
  unfold stop
  cases env.returnEnds with
  | none => exact ⟨u, List.prefix_rfl, fun _ => rfl, held⟩
  | some after =>
    obtain ⟨u', begins, held'⟩ := held.cut (Conn.SetReadDeadline after) fun {conn w} held =>
      ⟨_, held ▸ Conn.arrived_deadline after conn.inbound, rfl⟩
    refine ⟨u', begins, fun none_set => absurd none_set (Option.some_ne_none after), ?_⟩
    cases t <;> exact held'

theorem Surroundings.stop_keeps (env : Surroundings) (mode : Mode) (aead : AEAD) (rand : Rand)
    (before : Bytes) (unread : Unread t) :
    (env.stop t).isRight = t.isRight ∧ Unread (env.stop t) ∧
      ∀ {log}, Logged mode aead rand (Conn.Sent before) (cryptoOf t) log →
        Logged mode aead rand (Conn.Sent before) (cryptoOf (env.stop t)) log := by
  unfold stop
  cases env.returnEnds with
  | none => exact ⟨rfl, unread, id⟩
  | some after =>
    rcases t with g | b
    · exact ⟨rfl, .plain _, id⟩
    · refine ⟨rfl, fun b' same => ?_, id⟩
      rw [← Sum.inr.inj same]
      exact unread b rfl

/-- The copy from a worker stream. It passes on a prefix of what its peer sent, with all of the buffers
that arrive as a whole, and puts nothing on the stream. -/
theorem Pipe_passes {D : Stream τ} {Ready : τ → Prop} (env : Surroundings)
    (clock : FrameStream.Clock) (accepts : Accepts D Ready) (dst : τ) (ready : Ready dst)
    (kind : t.isRight = frames) (unread : Unread t)
    (held : HoldsPlain mode aead Conn.Holds (cryptoOf (env.stop t)) u)
    (each : ∀ b ∈ log, b ≠ [] ∧ b.length ≤ SocketBufSize) (cut : u <+: (packed frames log).flatten)
    {wrote : List Bytes} (logged : Logged mode aead rand (Conn.Sent before) (cryptoOf t) wrote) :
    let copied := Pipe (wrappedStream mode aead rand clock Conn.stream) D env.stop t dst
    copied.passed.flatten <+: log.flatten ∧
      (∀ buffers, buffers <+: log → (packed frames buffers).flatten <+: u →
        buffers.flatten <+: copied.passed.flatten) ∧
      Tun.sentOf copied.src = Tun.sentOf t := by
  obtain ⟨sameKind, unread', kept⟩ := env.stop_keeps mode aead rand before unread
  obtain ⟨v, holds, part, all⟩ := HoldsWorker.of_cut (sameKind.trans kind) unread' held each cut
  have ends := wrappedStream_ends mode aead rand clock
  obtain ⟨passed, _⟩ := unidirectionalStream_passed ends accepts holds ready
  have sends := NewReaderWriter_sends mode aead rand (Conn.sends before)
  have delivers := NewReaderWriter_delivers mode aead rand Conn.drains.toDelivers
  have silent : Logged mode aead rand (Conn.Sent before)
      (cryptoOf (unidirectionalStream D (wrappedStream mode aead rand clock Conn.stream) dst
        (env.stop t)).src) wrote := by
    refine copyLoop_keeps D ends.toDelivers (P := fun t => Logged mode aead rand (Conn.Sent before)
      (cryptoOf t) wrote) (fun {s w} holds logged => ?_) _ holds (kept logged)
    rcases s with g | b
    · exact sends.read SocketBufSize logged
    · exact FrameStream.payloads_keep clock delivers
        (P := fun g => Logged mode aead rand (Conn.Sent before) g wrote)
        (fun n _ logged => sends.read n logged) SocketBufSize holds logged
  have same : (unidirectionalStream D (wrappedStream mode aead rand clock Conn.stream) dst
      (env.stop t)).passed.flatten = v :=
    passed
  refine ⟨?_, fun buffers begun arrived => ?_, silent.1.trans logged.1.symm⟩
  · exact same.symm ▸ part
  · exact same.symm ▸ all buffers begun arrived

/-- The same of a peer that has written `start` first: all of its buffers that have arrived before the
deadline, if one is set, are passed on. -/
theorem Pipe_early {D : Stream τ} {Ready : τ → Prop} (env : Surroundings)
    (clock : FrameStream.Clock) (accepts : Accepts D Ready) (dst : τ) (ready : Ready dst)
    (kind : t.isRight = frames) (unread : Unread t) (lawful : aead.Lawful) {rand' : Rand}
    {start wrote : List Bytes} (startFits : ∀ b ∈ start, Fits mode b) {w : Bytes}
    (held : HoldsSince mode aead Conn.Holds w (cryptoOf t) u)
    (split : decrypt mode aead w = start.flatten ++ u)
    (each : ∀ b ∈ log, b ≠ [] ∧ b.length ≤ SocketBufSize)
    (cut : w <+: (sealed mode aead rand' (start ++ packed frames log)).flatten)
    (logged : Logged mode aead rand (Conn.Sent before) (cryptoOf t) wrote) :
    let copied := Pipe (wrappedStream mode aead rand clock Conn.stream) D env.stop t dst
    copied.passed.flatten <+: log.flatten ∧ Tun.sentOf copied.src = Tun.sentOf t ∧
      ∃ early, w = early ++ env.late t ∧ ∀ buffers, buffers <+: log →
        (sealed mode aead rand' (start ++ packed frames buffers)).flatten <+: early →
        buffers.flatten <+: copied.passed.flatten := by
  obtain ⟨early, done, u', arrives, whole, decrypted, held'⟩ := env.stop_reads held
  obtain rfl : done = start.flatten := List.append_cancel_right (whole.symm.trans split)
  have begun : early <+: w := arrives ▸ List.prefix_append _ _
  have fits (buffers : List Bytes) (some_of : buffers <+: log) :
      ∀ b ∈ start ++ packed frames buffers, Fits mode b :=
    List.forall_mem_append.mpr
      ⟨startFits, packed_fits mode frames fun b member => each b (some_of.subset member)⟩
  have part := (decrypt_cut mode lawful rand' (fits log List.prefix_rfl) (begun.trans cut)).1
  rw [decrypted, List.flatten_append, List.prefix_append_right_inj] at part
  obtain ⟨begins, all, silent⟩ :=
    Pipe_passes env clock accepts dst ready kind unread held' each part logged
  refine ⟨begins, silent, early, arrives, ?_⟩
  rintro buffers some_of ⟨more, arrived⟩
  have opened := decrypt_sealed mode lawful rand' (fits buffers some_of) more
  rw [arrived, decrypted, List.flatten_append, List.prefix_append_right_inj] at opened
  exact all buffers some_of opened

/-- Where all that is held is what the peer sent, and no deadline is set. -/
theorem Pipe_worker {D : Stream τ} {Ready : τ → Prop} (env : Surroundings)
    (clock : FrameStream.Clock) (accepts : Accepts D Ready) (dst : τ) (ready : Ready dst)
    (kind : t.isRight = frames) (unread : Unread t)
    (held : HoldsPlain mode aead Conn.Holds (cryptoOf t) u)
    (each : ∀ b ∈ log, b ≠ [] ∧ b.length ≤ SocketBufSize) (cut : u <+: (packed frames log).flatten)
    {wrote : List Bytes} (logged : Logged mode aead rand (Conn.Sent before) (cryptoOf t) wrote) :
    let copied := Pipe (wrappedStream mode aead rand clock Conn.stream) D env.stop t dst
    copied.passed.flatten <+: log.flatten ∧
      (u = (packed frames log).flatten → env.returnEnds = none → copied.passed.flatten = log.flatten) ∧
      Tun.sentOf copied.src = Tun.sentOf t := by
  obtain ⟨u', begins, whole, held'⟩ := env.stop_cut held
  obtain ⟨part, all, silent⟩ :=
    Pipe_passes env clock accepts dst ready kind unread held' each (begins.trans cut) logged
  refine ⟨part, fun arrived free => part.eq_of_length_le ?_, silent⟩
  exact (all log List.prefix_rfl (by rw [whole free, arrived])).length_le

end worker

/-! The exchange of messages. -/

section exchange

variable {mode : Mode} {aead : AEAD} {rand : Rand} {lib : MsgLibrary} {m : Message} {before : Bytes}
  {log : List Bytes}
variable {g : CryptoStream Conn}

theorem ReadMsg_whole (known : lib.Lawful) (lawful : aead.Lawful) (member : m ∈ workerMessages)
    (rand' : Rand) {tail : Bytes} (empty : g.rest = [])
    (held : Conn.Holds g.base.rw ((sealed mode aead rand' [lib.Pack m]).flatten ++ tail))
    (logged : Logged mode aead rand (Conn.Sent before) g log) :
    ∃ t, lib.ReadMsg _ (NewReaderWriter Conn.stream mode aead rand) g = (.ok m, t) ∧
      Logged mode aead rand (Conn.Sent before) t log ∧
      ∀ {rand'' : Rand} {writes : List Bytes}, (∀ b ∈ writes, Fits mode b) →
        tail <+: (sealed mode aead rand'' writes).flatten → Conn.Holds t.base.rw tail := by
  have fit := known.packs m member
  have delivers := NewReaderWriter_delivers mode aead rand Conn.drains.toDelivers
  have plain : HoldsPlain mode aead Conn.Holds g (lib.Pack m ++ decrypt mode aead tail) := by
    rw [← decrypt_first mode lawful rand' tail fit.2]
    exact .of_empty mode aead empty held
  obtain ⟨t, ok, _⟩ := known.reads m member delivers plain
  have kept := known.keeps (P := fun g => Logged mode aead rand (Conn.Sent before) g log)
    (fun n _ logged => (NewReaderWriter_sends mode aead rand (Conn.sends before)).read n logged) g logged
  rw [ok] at kept
  refine ⟨t, ok, kept, fun {rand'' writes} fits cut => ?_⟩
  obtain ⟨t', ok', left⟩ := leaves_below Conn.drains.toDelivers lawful
    (fun delivers _ _ held => known.reads m member delivers held) fit rand' rand'' fits cut empty held
  rw [ok] at ok'
  obtain ⟨_, rfl⟩ := Prod.mk.inj ok'
  exact left

theorem ReadMsg_short (known : lib.Lawful) (lawful : aead.Lawful) (member : m ∈ workerMessages)
    (rand' : Rand) {w : Bytes} (empty : g.rest = []) (held : Conn.Holds g.base.rw w)
    (cut : w <+: (sealed mode aead rand' [lib.Pack m]).flatten)
    (short : w ≠ (sealed mode aead rand' [lib.Pack m]).flatten)
    (logged : Logged mode aead rand (Conn.Sent before) g log) :
    ∃ e t, lib.ReadMsg _ (NewReaderWriter Conn.stream mode aead rand) g = (.error e, t) ∧
      Logged mode aead rand (Conn.Sent before) t log := by
  have delivers := NewReaderWriter_delivers mode aead rand Conn.drains.toDelivers
  obtain ⟨part, missing⟩ := decrypt_short mode lawful rand' (known.packs m member) cut short
  obtain ⟨e, t, failed⟩ := known.fails m member delivers (.of_empty mode aead empty held) part missing
  have kept := known.keeps (P := fun g => Logged mode aead rand (Conn.Sent before) g log)
    (fun n _ logged => (NewReaderWriter_sends mode aead rand (Conn.sends before)).read n logged) g logged
  rw [failed] at kept
  exact ⟨e, t, failed, kept⟩

end exchange

/-- What a message is on the wire, under a wrapper of its own. -/
def MsgLibrary.wire (lib : MsgLibrary) (mode : Mode) (aead : AEAD) (rand : Rand) (m : Message) : Bytes :=
  (sealed mode aead rand [lib.Pack m]).flatten

theorem logged_wrapped (mode : Mode) (aead : AEAD) (rand : Rand) (conn : Conn) :
    Logged mode aead rand (Conn.Sent conn.sent) (wrapped conn) [] :=
  .of_below mode aead rand (by simp [Conn.Sent])

/-- Writing takes nothing from what is to be read. -/
theorem holds_write (mode : Mode) (aead : AEAD) (rand : Rand) (b : Bytes) {g : CryptoStream Conn}
    {w : Bytes} (held : Conn.Holds g.base.rw w) :
    Conn.Holds ((NewReaderWriter Conn.stream mode aead rand).write b g).next.base.rw w := by
  cases mode with
  | None => exact held
  | GCM => exact writer.Write_holds aead rand Conn.drains.toDelivers b held

section frps

variable {c : CryptoHelper} {lib : MsgLibrary} {rand : Rand} {src : Conn}

theorem Frps.handleWorkerStream_short (known : lib.Lawful) (lawful : c.dstAead.Lawful)
    (rand rand' : Rand) {w : Bytes} (held : src.Holds w)
    (cut : w <+: lib.wire c.dstMode c.dstAead rand' .NewWorkConn)
    (short : w ≠ lib.wire c.dstMode c.dstAead rand' .NewWorkConn) :
    ∃ e, Frps.handleWorkerStream c lib rand Conn.stream true src = .error e := by
  obtain ⟨e, t, failed, _⟩ := ReadMsg_short known lawful List.mem_cons_self rand'
    (g := wrapped src) rfl held cut short (logged_wrapped c.dstMode c.dstAead rand src)
  exact ⟨e, by simp only [Frps.handleWorkerStream, CryptoHelper.DstCrypto, failed]⟩

/-- A stream that begins with `NewWorkConn` is registered, with all that comes after the message. -/
theorem Frps.handleWorkerStream_whole (known : lib.Lawful) (lawful : c.dstAead.Lawful)
    (rand rand' : Rand) {tail : Bytes}
    (held : src.Holds (lib.wire c.dstMode c.dstAead rand' .NewWorkConn ++ tail)) :
    ∃ worker, Frps.handleWorkerStream c lib rand Conn.stream true src = .ok (.worker worker) ∧
      worker.sent = src.sent ∧
      ∀ {rand'' : Rand} {writes : List Bytes}, (∀ b ∈ writes, Fits c.dstMode b) →
        tail <+: (sealed c.dstMode c.dstAead rand'' writes).flatten → worker.Holds tail := by
  obtain ⟨t, ok, logged, left⟩ := ReadMsg_whole known lawful List.mem_cons_self rand'
    (g := wrapped src) rfl held (logged_wrapped c.dstMode c.dstAead rand src)
  refine ⟨t.base.rw,
    by simp only [Frps.handleWorkerStream, CryptoHelper.DstCrypto, ok, if_true], ?_, left⟩
  have sent := logged.1
  cases mode : c.dstMode <;> rw [mode] at sent <;> simpa [Conn.Sent, sealed, sealedItems] using sent

theorem Frps.sayStart_sent (known : lib.Lawful) (env : Surroundings) (worker : Conn) :
    ∃ dst, Frps.sayStart c env Conn.stream (lib.Pack .StartWorkConn) worker = (.ok (), dst) ∧
      dst.sent = worker.sent ++ lib.wire c.dstMode c.dstAead env.startRand .StartWorkConn ∧
      ∀ {w}, worker.Holds w → dst.Holds w := by
  have fit := known.packs .StartWorkConn (by decide)
  obtain ⟨ok, after⟩ :=
    (NewReaderWriter_sends c.dstMode c.dstAead env.startRand (Conn.sends worker.sent)).put
    (logged_wrapped c.dstMode c.dstAead env.startRand worker) (fits_of_length fit.1 fit.2)
  exact ⟨_, by rw [Frps.sayStart, CryptoHelper.DstCrypto, ok], after.1,
    fun held => holds_write _ _ _ _ held⟩

theorem WrapDst_carries (c : CryptoHelper) (rand : Rand) (dst : Conn) :
    ∃ dstStream, c.WrapDst rand Conn.stream dst = .ok dstStream ∧
      Carries c.dstMode c.dstAead rand (Conn.Sent dst.sent) (opening c.dstExtend.FrameHeaderEnable)
        c.dstExtend.FrameHeaderEnable dstStream [] ∧
      Unread dstStream ∧
      ∀ {w}, dst.Holds w →
        HoldsSince c.dstMode c.dstAead Conn.Holds w (cryptoOf dstStream)
          (decrypt c.dstMode c.dstAead w) := by
  have logged := logged_wrapped c.dstMode c.dstAead rand dst
  unfold CryptoHelper.WrapDst CryptoHelper.wrapDstWithRole
  cases frames : c.dstExtend.FrameHeaderEnable with
  | false =>
    exact ⟨.inl (wrapped dst), if_pos rfl, ⟨rfl, logged⟩, .plain _, fun held => .of_holds _ _ held⟩
  | true =>
    obtain ⟨ok, after⟩ := (NewReaderWriter_sends c.dstMode c.dstAead rand (Conn.sends dst.sent)).put
      logged (fits_of_length (b := handshakeBytes .Business) (by simp [handshakeBytes])
      (by simp [MaxSegmentSize]))
    refine ⟨.inr (NewFrameStream _ .Business), ?_, ⟨rfl, after⟩, .framed _ _, fun held => ?_⟩
    · rw [if_neg (by decide), writeStreamHandshake, CryptoHelper.DstCrypto, ok]
    · exact (NewReaderWriter_since c.dstMode c.dstAead rand Conn.drains.toDelivers _).write _
        (.of_holds _ _ held)

/-- A side that has written nothing but the buffers it copied, and has copied a prefix of its peer's. -/
structure Copies (mode : Mode) (aead : AEAD) (rand : Rand) (before : Bytes) (head : List Bytes)
    (frames : Bool) (side : WorkerSide) (written : List Bytes) : Prop where
  copies : side.copies = true
  each : ∀ b ∈ written, b ≠ [] ∧ b.length ≤ SocketBufSize
  sent : side.sent = before ++ (sealed mode aead rand (head ++ packed frames written)).flatten

/-- Of the buffers of its peer, which puts them on the stream as `puts` says, a side has passed on those
that arrived before its deadline. -/
structure Reads (puts : List Bytes → Bytes) (w : Bytes) (side : WorkerSide)
    (got sent : List Bytes) : Prop where
  begins : got.flatten <+: sent.flatten
  silent : side.answered = []
  early : ∃ early, w = early ++ side.late ∧ ∀ buffers, buffers <+: sent → puts buffers <+: early →
    buffers.flatten <+: got.flatten

theorem accepts_any {S : Stream σ} (mode : Mode) (aead : AEAD) (rand : Rand)
    (clock : FrameStream.Clock) (succeeds : Succeeds S) :
    Accepts (wrappedStream mode aead rand clock S) (fun _ => True) := by
  intro t b _ some_bytes short
  let c : CryptoHelper := ⟨mode, mode, aead, aead, ⟨false⟩, ⟨false⟩⟩
  have ready : Ready c rand t :=
    ⟨List.replicate (cryptoOf t).base.draws [], trivial, fun _ => List.length_replicate.symm⟩
  obtain ⟨n, ok, _⟩ := dstStream_accepts c rand clock succeeds b ready some_bytes short
  exact ⟨n, ok, trivial⟩

theorem Frps.serve_whole (known : lib.Lawful) (lawful : c.dstAead.Lawful) (env : Surroundings)
    (rand rand' : Rand) {S : Stream σ} (succeeds : Succeeds S)
    (stopClient : WrappedStream σ → WrappedStream σ) (client : WrappedStream σ) {tail : Bytes}
    (fresh : src.sent = [])
    (held : src.Holds (lib.wire c.dstMode c.dstAead rand' .NewWorkConn ++ tail)) :
    let side := Frps.serve c lib env rand S stopClient client src
    Copies c.dstMode c.dstAead env.dstRand (lib.wire c.dstMode c.dstAead env.startRand .StartWorkConn)
      (opening c.dstExtend.FrameHeaderEnable) c.dstExtend.FrameHeaderEnable side side.forth ∧
    ∀ {rand'' : Rand} {log : List Bytes}, (∀ b ∈ log, b ≠ [] ∧ b.length ≤ SocketBufSize) →
      tail <+: (sealed c.dstMode c.dstAead rand'' (packed c.dstExtend.FrameHeaderEnable log)).flatten →
      Reads (fun buffers => (sealed c.dstMode c.dstAead rand''
        (packed c.dstExtend.FrameHeaderEnable buffers)).flatten) tail
        side side.back log := by
  obtain ⟨worker, registered, unsent, left⟩ := Frps.handleWorkerStream_whole known lawful rand rand' held
  obtain ⟨dst, started, sent, kept⟩ := Frps.sayStart_sent (c := c) known env worker
  obtain ⟨dstStream, opened, carries, unread, holds⟩ := WrapDst_carries c env.dstRand dst
  rw [sent, unsent, fresh, List.nil_append] at carries
  simp only [Frps.serve, registered, started, opened]
  have takes := wrappedStream_takes c.dstMode c.dstAead env.dstRand env.clock
    (lib.wire c.dstMode c.dstAead env.startRand .StartWorkConn)
      (opening c.dstExtend.FrameHeaderEnable) c.dstExtend.FrameHeaderEnable
  obtain ⟨each, last⟩ := unidirectionalStream_logged (c.srcStream env.srcRand env.clock S) takes
    (stopClient client) carries
  refine ⟨⟨rfl, each, last.sentOf⟩, fun {rand'' log} each cut => ?_⟩
  have fits := packed_fits c.dstMode c.dstExtend.FrameHeaderEnable each
  obtain ⟨part, silent, early⟩ := Pipe_early env env.clock
    (accepts_any c.srcMode c.srcAead env.srcRand env.clock succeeds) client trivial
      carries.kind unread lawful
    (List.forall_mem_nil _) (holds (kept (left fits cut))) rfl each cut carries.logged
  exact ⟨part, List.drop_eq_nil_iff.mpr (congrArg List.length silent).le, early⟩

theorem Frps.serve_short (known : lib.Lawful) (lawful : c.dstAead.Lawful) (env : Surroundings)
    (rand rand' : Rand) (S : Stream σ) (stopClient : WrappedStream σ → WrappedStream σ)
    (client : WrappedStream σ) {w : Bytes} (held : src.Holds w)
    (cut : w <+: lib.wire c.dstMode c.dstAead rand' .NewWorkConn)
    (short : w ≠ lib.wire c.dstMode c.dstAead rand' .NewWorkConn) :
    Frps.serve c lib env rand S stopClient client src = .idle src.sent := by
  obtain ⟨e, refused⟩ := Frps.handleWorkerStream_short known lawful rand rand' held cut short
  simp only [Frps.serve, refused]

end frps

section frpc

variable {c : CryptoHelper} {lib : MsgLibrary} {rand : Rand} {src left : Conn}

/-- The wrapper of the exchange, after its one write. -/
theorem Frpc.hello_put (known : lib.Lawful) (c : CryptoHelper) (rand : Rand) (src : Conn) :
    ∃ g : CryptoStream Conn, put (c.SrcCrypto rand Conn.stream) (lib.Pack .NewWorkConn)
      (wrapped src) = (.ok (), g) ∧ g.rest = [] ∧
      Logged c.srcMode c.srcAead rand (Conn.Sent src.sent) g [lib.Pack .NewWorkConn] ∧
      ∀ {w}, src.Holds w → Conn.Holds g.base.rw w := by
  have fit := known.packs .NewWorkConn (by decide)
  obtain ⟨ok, after⟩ := (NewReaderWriter_sends c.srcMode c.srcAead rand (Conn.sends src.sent)).put
    (logged_wrapped c.srcMode c.srcAead rand src) (fits_of_length fit.1 fit.2)
  refine ⟨_, ok, ?_, after, fun held => holds_write _ _ _ _ held⟩
  cases c.srcMode <;> rfl

theorem Frpc.sayHelloAndWait_sent (known : lib.Lawful) (c : CryptoHelper) (rand : Rand) (src : Conn) :
    (Frpc.sayHelloAndWait c lib rand Conn.stream src).2.sent =
      src.sent ++ lib.wire c.srcMode c.srcAead rand .NewWorkConn := by
  obtain ⟨g, written, _, logged, _⟩ := Frpc.hello_put known c rand src
  have kept := known.keeps (P := fun g => Logged c.srcMode c.srcAead rand
    (Conn.Sent src.sent) g [lib.Pack .NewWorkConn]) (fun n _ logged =>
    (NewReaderWriter_sends c.srcMode c.srcAead rand (Conn.sends src.sent)).read n logged) g logged
  simp only [Frpc.sayHelloAndWait, Action.bind_ok _ written]
  rcases read : lib.ReadMsg _ (c.SrcCrypto rand Conn.stream) g with ⟨e | m, t⟩
  · rw [Action.bind_error _ read]
    rw [CryptoHelper.SrcCrypto] at read
    rw [read] at kept
    exact kept.1
  · rw [Action.bind_ok _ read]
    rw [CryptoHelper.SrcCrypto] at read
    rw [read] at kept
    split_ifs
    · exact kept.1
    · exact kept.1

theorem Frpc.sayHelloAndWait_short (known : lib.Lawful) (lawful : c.srcAead.Lawful)
    (rand rand' : Rand) {w : Bytes} (held : src.Holds w)
    (cut : w <+: lib.wire c.srcMode c.srcAead rand' .StartWorkConn)
    (short : w ≠ lib.wire c.srcMode c.srcAead rand' .StartWorkConn) :
    ∃ e left, Frpc.sayHelloAndWait c lib rand Conn.stream src = (.error e, left) := by
  obtain ⟨g, written, empty, logged, kept⟩ := Frpc.hello_put known c rand src
  obtain ⟨e, t, failed, _⟩ := ReadMsg_short (m := .StartWorkConn) known lawful
    (by decide) rand' empty (kept held) cut short logged
  rw [← CryptoHelper.SrcCrypto] at failed
  refine ⟨e, t.base.rw, ?_⟩
  simp only [Frpc.sayHelloAndWait, Action.bind_ok _ written, Action.bind_error _ failed]

theorem Frpc.sayHelloAndWait_whole (known : lib.Lawful) (lawful : c.srcAead.Lawful)
    (rand rand' : Rand) {tail : Bytes}
    (held : src.Holds (lib.wire c.srcMode c.srcAead rand' .StartWorkConn ++ tail)) :
    ∃ left, Frpc.sayHelloAndWait c lib rand Conn.stream src = (.ok (), left) ∧
      ∀ {rand'' : Rand} {writes : List Bytes}, (∀ b ∈ writes, Fits c.srcMode b) →
        tail <+: (sealed c.srcMode c.srcAead rand'' writes).flatten → left.Holds tail := by
  obtain ⟨g, written, empty, logged, kept⟩ := Frpc.hello_put known c rand src
  obtain ⟨t, ok, _, after⟩ :=
    ReadMsg_whole (m := .StartWorkConn) known lawful (by decide) rand' empty (kept held) logged
  rw [← CryptoHelper.SrcCrypto] at ok
  refine ⟨t.base.rw, ?_, after⟩
  simp only [Frpc.sayHelloAndWait, Action.bind_ok _ written, Action.bind_ok _ ok, if_true]
  rfl

theorem WrapSrc_carries {srcStream : WrappedStream Conn} {role : StreamRole}
    (opened : c.WrapSrcWithRole rand Conn.stream src = .ok (srcStream, role)) :
    Carries c.srcMode c.srcAead rand (Conn.Sent src.sent) [] c.srcExtend.FrameHeaderEnable srcStream
      [] ∧ Unread srcStream := by
  have logged := logged_wrapped c.srcMode c.srcAead rand src
  unfold CryptoHelper.WrapSrcWithRole at opened
  cases frames : c.srcExtend.FrameHeaderEnable with
  | false =>
    rw [if_pos frames, Except.ok.injEq, Prod.mk.injEq] at opened
    obtain ⟨rfl, _⟩ := opened
    exact ⟨⟨rfl, logged⟩, .plain _⟩
  | true =>
    rw [if_neg (by simp [frames])] at opened
    have sends := NewReaderWriter_sends c.srcMode c.srcAead rand (Conn.sends src.sent)
    have kept := readStreamHandshake_keeps (P := fun g => Logged c.srcMode c.srcAead rand
      (Conn.Sent src.sent) g []) (fun n _ logged => sends.read n logged) _ logged
    rw [← CryptoHelper.SrcCrypto] at kept
    rcases read : readStreamHandshake (c.SrcCrypto rand Conn.stream) (wrapped src) with ⟨e | found, t⟩
    · rw [read] at opened
      cases opened
    · rw [read] at opened kept
      cases opened
      exact ⟨⟨rfl, kept⟩, .framed _ _⟩

theorem handshakeRole_opening {v : Bytes} {log : List Bytes}
    (cut : v <+: (opening true ++ packed true log).flatten) :
    (v.length < 6 → handshakeRole v = none) ∧
      (6 ≤ v.length → handshakeRole v = some .Business ∧ v.drop 6 <+: (packed true log).flatten) := by
  constructor
  · exact fun short => if_pos short
  · intro enough
    have wire : opening true ++ packed true log =
        handshakeBytes .Business :: (log.map Frame.business).map Frame.bytes := by
      rw [List.map_map]
      rfl
    rw [wire] at cut
    obtain ⟨first, rest⟩ := flatten_wire_cut enough cut
    rw [handshakeRole, if_neg (Nat.not_lt.mpr enough), first, parseHandshake_bytes]
    refine ⟨rfl, ?_⟩
    rwa [List.flatMap_def, List.map_map] at rest

theorem opening_fits (mode : Mode) (frames : Bool) : ∀ b ∈ opening frames, Fits mode b := by
  intro b member
  unfold opening at member
  split_ifs at member
  · rw [List.mem_singleton.mp member]
    exact fits_of_length (by simp [handshakeBytes]) (by simp [MaxSegmentSize])
  · exact absurd member List.not_mem_nil

/-- Of what a `Frps` sends after its message, a receiver takes the handshake and holds the rest; it
waits only as long as nothing has come after the handshake. -/
theorem WrapSrc_reads (lawful : c.srcAead.Lawful) (env : Surroundings) {rand'' : Rand}
    {tail : Bytes} {log : List Bytes} (held : src.Holds tail)
    (fits : ∀ b ∈ opening c.srcExtend.FrameHeaderEnable ++ packed c.srcExtend.FrameHeaderEnable log,
      Fits c.srcMode b)
    (cut : tail <+: (sealed c.srcMode c.srcAead rand''
      (opening c.srcExtend.FrameHeaderEnable ++ packed c.srcExtend.FrameHeaderEnable log)).flatten) :
    (∃ e, c.WrapSrcWithRole env.srcRand Conn.stream src = .error e ∧ ∀ buffers, buffers <+: log →
      ¬ (sealed c.srcMode c.srcAead rand''
        (opening c.srcExtend.FrameHeaderEnable ++
          packed c.srcExtend.FrameHeaderEnable buffers)).flatten <+: tail) ∨
    ∃ srcStream u, c.WrapSrcWithRole env.srcRand Conn.stream src = .ok (srcStream, .Business) ∧
      HoldsSince c.srcMode c.srcAead Conn.Holds tail (cryptoOf srcStream) u ∧
      decrypt c.srcMode c.srcAead tail = (opening c.srcExtend.FrameHeaderEnable).flatten ++ u := by
  obtain ⟨begins, _⟩ := decrypt_cut c.srcMode lawful rand'' fits cut
  cases frames : c.srcExtend.FrameHeaderEnable with
  | false => exact Or.inr ⟨.inl (wrapped src), _, if_pos frames, .of_holds _ _ held, rfl⟩
  | true =>
    rw [frames] at begins
    obtain ⟨early, named⟩ := handshakeRole_opening begins
    by_cases short : (decrypt c.srcMode c.srcAead tail).length < 6
    · obtain ⟨e, refused⟩ := wrapSrc_refused env frames held (early short)
      refine Or.inl ⟨e, refused, ?_⟩
      rintro buffers some_of ⟨more, arrived⟩
      have opened : (opening true).flatten <+: decrypt c.srcMode c.srcAead tail := by
        obtain ⟨rest, longer⟩ :=
          sealed_append c.srcMode c.srcAead rand'' (opening true) (packed true buffers)
        rw [← arrived, ← longer, List.append_assoc]
        exact decrypt_sealed c.srcMode lawful rand'' (opening_fits c.srcMode true) _
      have six := opened.length_le
      simp only [opening, if_true, List.flatten_singleton, handshakeBytes_length] at six
      omega
    · obtain ⟨business, _⟩ := named (Nat.not_lt.mp short)
      obtain ⟨t, opened, left, _⟩ := wrapSrc_role env frames held business
      refine Or.inr ⟨_, _, opened, left, ?_⟩
      have first : (opening true).flatten <+: decrypt c.srcMode c.srcAead tail := by
        refine List.prefix_of_prefix_length_le ?_ begins ?_
        · rw [List.flatten_append]
          exact List.prefix_append _ _
        · simp only [opening, if_true, List.flatten_singleton, handshakeBytes_length]
          omega
      obtain ⟨rest, whole⟩ := first
      rw [← whole, List.drop_left' (by simp [opening])]

/-- What is held after the opening is a part of the buffers, all of them when all has arrived. -/
theorem decrypt_opened {mode : Mode} {aead : AEAD} (lawful : aead.Lawful) {rand'' : Rand}
    {frames : Bool} {tail u : Bytes} {log : List Bytes}
    (fits : ∀ b ∈ opening frames ++ packed frames log, Fits mode b)
    (cut : tail <+: (sealed mode aead rand'' (opening frames ++ packed frames log)).flatten)
    (split : decrypt mode aead tail = (opening frames).flatten ++ u) :
    u <+: (packed frames log).flatten ∧
      (tail = (sealed mode aead rand'' (opening frames ++ packed frames log)).flatten →
        u = (packed frames log).flatten) := by
  obtain ⟨begins, all⟩ := decrypt_cut mode lawful rand'' fits cut
  rw [split, List.flatten_append] at begins all
  exact ⟨(List.prefix_append_right_inj _).mp begins, fun whole => List.append_cancel_left (all whole)⟩

theorem Frpc.serve_business (known : lib.Lawful) (env : Surroundings) {D : Stream τ}
    (succeeds : Succeeds D) (stopOutput : WrappedStream τ → WrappedStream τ) (output : τ)
    (fresh : src.sent = [])
    (started : Frpc.sayHelloAndWait c lib rand Conn.stream src = (.ok (), left))
    {srcStream : WrappedStream Conn}
    (opened : c.WrapSrcWithRole env.srcRand Conn.stream left = .ok (srcStream, .Business)) :
    ∃ side, Frpc.serve c lib env rand D stopOutput output src = some side ∧
      Copies c.srcMode c.srcAead env.srcRand (lib.wire c.srcMode c.srcAead rand .NewWorkConn)
        [] c.srcExtend.FrameHeaderEnable
        side side.back ∧
      ∀ {tail u : Bytes} {rand'' : Rand} {log : List Bytes}, c.srcAead.Lawful →
        HoldsSince c.srcMode c.srcAead Conn.Holds tail (cryptoOf srcStream) u →
        decrypt c.srcMode c.srcAead tail = (opening c.srcExtend.FrameHeaderEnable).flatten ++ u →
        (∀ b ∈ log, b ≠ [] ∧ b.length ≤ SocketBufSize) →
        tail <+: (sealed c.srcMode c.srcAead rand''
          (opening c.srcExtend.FrameHeaderEnable ++ packed c.srcExtend.FrameHeaderEnable log)).flatten →
        Reads (fun buffers => (sealed c.srcMode c.srcAead rand''
          (opening c.srcExtend.FrameHeaderEnable ++
            packed c.srcExtend.FrameHeaderEnable buffers)).flatten) tail
          side side.forth log := by
  have sent := Frpc.sayHelloAndWait_sent known c rand src
  rw [started, fresh, List.nil_append] at sent
  obtain ⟨carries, unread⟩ := WrapSrc_carries opened
  rw [sent] at carries
  obtain ⟨dstStream, ready, _⟩ := wrapDst_ready c env.dstRand succeeds output
  have takes := wrappedStream_takes c.srcMode c.srcAead env.srcRand env.clock
    (lib.wire c.srcMode c.srcAead rand .NewWorkConn) [] c.srcExtend.FrameHeaderEnable
  obtain ⟨each, last⟩ := unidirectionalStream_logged (c.dstStream env.dstRand env.clock D) takes
    (stopOutput dstStream) carries
  refine ⟨_, by simp only [Frpc.serve, started, opened, ready]; rfl, ⟨rfl, each, last.sentOf⟩,
    fun {tail u rand'' log} lawful held split each cut => ?_⟩
  obtain ⟨part, silent, early⟩ := Pipe_early env env.clock
    (accepts_any c.dstMode c.dstAead env.dstRand env.clock succeeds) dstStream trivial carries.kind
    unread lawful (opening_fits c.srcMode _) held split each cut carries.logged
  exact ⟨part, List.drop_eq_nil_iff.mpr (congrArg List.length silent).le, early⟩

/-- The first thing on a worker stream is `NewWorkConn`. -/
theorem Frpc.serve_begins (known : lib.Lawful) (env : Surroundings) {D : Stream τ}
    (succeeds : Succeeds D) (stopOutput : WrappedStream τ → WrappedStream τ) (output : τ)
    (fresh : src.sent = []) {side : WorkerSide}
    (served : Frpc.serve c lib env rand D stopOutput output src = some side) :
    lib.wire c.srcMode c.srcAead rand .NewWorkConn <+: side.sent := by
  have sent := Frpc.sayHelloAndWait_sent known c rand src
  rw [fresh, List.nil_append] at sent
  rcases started : Frpc.sayHelloAndWait c lib rand Conn.stream src with ⟨e | _, left⟩
  · rw [started] at sent
    simp only [Frpc.serve, started, Option.some.injEq] at served
    rw [← served, ← sent]
    exact List.prefix_rfl
  · rw [started] at sent
    rcases opened : c.WrapSrcWithRole env.srcRand Conn.stream left with e | ⟨srcStream, _ | _ | _⟩
    · simp only [Frpc.serve, started, opened, Option.some.injEq] at served
      rw [← served, ← sent]
      exact List.prefix_rfl
    · obtain ⟨side', same, copies, _⟩ :=
        Frpc.serve_business known env succeeds stopOutput output fresh started opened
      obtain rfl := Option.some.inj (same.symm.trans served)
      rw [copies.sent]
      exact List.prefix_append _ _
    · simp [Frpc.serve, started, opened] at served
    · simp [Frpc.serve, started, opened] at served

theorem Frpc.serve_short (known : lib.Lawful) (lawful : c.srcAead.Lawful) (env : Surroundings)
    (rand rand' : Rand) (D : Stream τ) (stopOutput : WrappedStream τ → WrappedStream τ) (output : τ)
    (fresh : src.sent = []) {w : Bytes} (held : src.Holds w)
    (cut : w <+: lib.wire c.srcMode c.srcAead rand' .StartWorkConn)
    (short : w ≠ lib.wire c.srcMode c.srcAead rand' .StartWorkConn) :
    Frpc.serve c lib env rand D stopOutput output src =
      some (.idle (lib.wire c.srcMode c.srcAead rand .NewWorkConn)) := by
  have sent := Frpc.sayHelloAndWait_sent known c rand src
  obtain ⟨e, left, failed⟩ := Frpc.sayHelloAndWait_short known lawful rand rand' held cut short
  rw [failed, fresh, List.nil_append] at sent
  dsimp only at sent
  simp only [Frpc.serve, failed, sent]

/-- After `StartWorkConn`, a `Frpc` passes on what its peer has copied, and sends what it copies
itself. -/
theorem Frpc.serve_whole (known : lib.Lawful) (lawful : c.srcAead.Lawful) (env : Surroundings)
    (rand rand' : Rand) {D : Stream τ} (succeeds : Succeeds D)
    (stopOutput : WrappedStream τ → WrappedStream τ) (output : τ) (fresh : src.sent = [])
    {tail : Bytes} {rand'' : Rand} {log : List Bytes}
    (held : src.Holds (lib.wire c.srcMode c.srcAead rand' .StartWorkConn ++ tail))
    (each : ∀ b ∈ log, b ≠ [] ∧ b.length ≤ SocketBufSize)
    (cut : tail <+: (sealed c.srcMode c.srcAead rand''
      (opening c.srcExtend.FrameHeaderEnable ++ packed c.srcExtend.FrameHeaderEnable log)).flatten) :
    (Frpc.serve c lib env rand D stopOutput output src =
      some (.idle (lib.wire c.srcMode c.srcAead rand .NewWorkConn)) ∧
      ∀ buffers, buffers <+: log → ¬ (sealed c.srcMode c.srcAead rand''
        (opening c.srcExtend.FrameHeaderEnable ++
          packed c.srcExtend.FrameHeaderEnable buffers)).flatten <+: tail) ∨
    ∃ side, Frpc.serve c lib env rand D stopOutput output src = some side ∧
      Copies c.srcMode c.srcAead env.srcRand (lib.wire c.srcMode c.srcAead rand .NewWorkConn)
        [] c.srcExtend.FrameHeaderEnable
        side side.back ∧
      Reads (fun buffers => (sealed c.srcMode c.srcAead rand''
        (opening c.srcExtend.FrameHeaderEnable ++
          packed c.srcExtend.FrameHeaderEnable buffers)).flatten) tail
        side side.forth log := by
  have sent := Frpc.sayHelloAndWait_sent known c rand src
  obtain ⟨left, started, kept⟩ := Frpc.sayHelloAndWait_whole known lawful rand rand' held
  rw [started, fresh, List.nil_append] at sent
  dsimp only at sent
  have fits := List.forall_mem_append.mpr ⟨opening_fits c.srcMode c.srcExtend.FrameHeaderEnable,
    packed_fits c.srcMode c.srcExtend.FrameHeaderEnable each⟩
  rcases WrapSrc_reads lawful env (kept fits cut) fits cut with
    ⟨e, refused, part⟩ | ⟨srcStream, u, opened, holds, split⟩
  · exact Or.inl ⟨by simp only [Frpc.serve, started, refused, sent], part⟩
  · obtain ⟨side, served, copies, reads⟩ :=
      Frpc.serve_business known env succeeds stopOutput output fresh started opened
    exact Or.inr ⟨side, served, copies, reads lawful holds split each cut⟩

end frpc

theorem MsgLibrary.wire_ne_nil (lib : MsgLibrary) (known : lib.Lawful) {aead : AEAD}
    (lawful : aead.Lawful) (mode : Mode) (rand : Rand) {m : Message} (member : m ∈ workerMessages) :
    lib.wire mode aead rand m ≠ [] := by
  intro empty
  have fit := known.packs m member
  have opened := decrypt_first mode lawful rand [] fit.2
  rw [← wire, empty, List.nil_append] at opened
  exact fit.1 (List.self_eq_append_left.mp opened)

/-- A prefix of what begins with `first` is a part of `first`, or begins with it. -/
theorem prefix_cases {w first rest : Bytes} (cut : w <+: first ++ rest) :
    (w <+: first ∧ w ≠ first) ∨ ∃ tail, w = first ++ tail ∧ tail <+: rest := by
  by_cases whole : first.length ≤ w.length
  · obtain ⟨tail, rfl⟩ := List.prefix_of_prefix_length_le (List.prefix_append _ _) cut whole
    exact Or.inr ⟨tail, rfl, (List.prefix_append_right_inj _).mp cut⟩
  · refine Or.inl
      ⟨List.prefix_of_prefix_length_le cut (List.prefix_append _ _) (Nat.le_of_not_le whole), ?_⟩
    rintro rfl
    exact whole le_rfl

/-- What a `Frps` puts on a worker stream up to the end of `buffers`. -/
def Frps.puts (c : CryptoHelper) (lib : MsgLibrary) (env : Surroundings)
    (buffers : List Bytes) : Bytes :=
  lib.wire c.dstMode c.dstAead env.startRand .StartWorkConn ++ (sealed c.dstMode c.dstAead env.dstRand
    (opening c.dstExtend.FrameHeaderEnable ++ packed c.dstExtend.FrameHeaderEnable buffers)).flatten

/-- What a `Frpc` does. -/
def Frpc.puts (d : CryptoHelper) (lib : MsgLibrary) (env : Surroundings) (rand : Rand)
    (buffers : List Bytes) : Bytes :=
  lib.wire d.srcMode d.srcAead rand .NewWorkConn ++
    (sealed d.srcMode d.srcAead env.srcRand (packed d.srcExtend.FrameHeaderEnable buffers)).flatten

/-- Of `arrived`, what a side reads before its deadline holds no buffer of `sent` that it has not
passed on. -/
def PassedOn (puts : List Bytes → Bytes) (arrived late : Bytes) (sent got : List Bytes) : Prop :=
  ∃ early, arrived = early ++ late ∧ ∀ buffers, buffers <+: sent → puts buffers <+: early →
    buffers.flatten <+: got.flatten

theorem Reads.passedOn {puts puts' : List Bytes → Bytes} {first w : Bytes} {side : WorkerSide}
    {got sent : List Bytes} (reads : Reads puts w side got sent)
    (same : ∀ buffers, puts' buffers = first ++ puts buffers) :
    PassedOn puts' (first ++ w) side.late sent got := by
  obtain ⟨early, rfl, all⟩ := reads.early
  refine ⟨first ++ early, (List.append_assoc ..).symm,
    fun buffers some_of arrived => all buffers some_of ?_⟩
  rw [same] at arrived
  exact (List.prefix_append_right_inj first).mp arrived

/-- When everything has arrived and nothing is late, everything is passed on. -/
theorem PassedOn.all {puts : List Bytes → Bytes} {arrived late : Bytes} {sent got : List Bytes}
    (passed : PassedOn puts arrived late sent got) (begins : got.flatten <+: sent.flatten)
    (whole : arrived = puts sent) (none_late : late = []) : got.flatten = sent.flatten := by
  obtain ⟨early, split, all⟩ := passed
  rw [none_late, List.append_nil] at split
  refine begins.eq_of_length_le (all sent List.prefix_rfl ?_).length_le
  rw [← split, whole]

/-- Whatever part of what the other side puts on the stream has arrived, a `Frpc` waits for the message
and the handshake, or copies. -/
theorem Frpc.serve_cases {c : CryptoHelper} {lib : MsgLibrary} (known : lib.Lawful)
    (lawful : c.srcAead.Lawful) (env : Surroundings) {rand rand' rand'' : Rand} {D : Stream τ}
    (succeeds : Succeeds D) (stopOutput : WrappedStream τ → WrappedStream τ) (output : τ) {src : Conn}
    (fresh : src.sent = []) {w : Bytes} (held : src.Holds w) {puts : List Bytes → Bytes}
    (same : ∀ buffers, puts buffers = lib.wire c.srcMode c.srcAead rand' .StartWorkConn ++
      (sealed c.srcMode c.srcAead rand'' (opening c.srcExtend.FrameHeaderEnable ++
        packed c.srcExtend.FrameHeaderEnable buffers)).flatten)
    {log : List Bytes} (each : ∀ b ∈ log, b ≠ [] ∧ b.length ≤ SocketBufSize) (cut : w <+: puts log)
    {side : WorkerSide}
    (serves : Frpc.serve c lib env rand D stopOutput output src = some side) :
    (side = .idle (lib.wire c.srcMode c.srcAead rand .NewWorkConn) ∧
        ∀ buffers, buffers <+: log → ¬ puts buffers <+: w) ∨
      Copies c.srcMode c.srcAead env.srcRand (lib.wire c.srcMode c.srcAead rand .NewWorkConn)
        [] c.srcExtend.FrameHeaderEnable
        side side.back ∧ side.forth.flatten <+: log.flatten ∧ side.answered = [] ∧
        PassedOn puts w side.late log side.forth := by
  rw [same] at cut
  rcases prefix_cases cut with ⟨part, missing⟩ | ⟨tail, rfl, rest⟩
  · have waits :=
      Frpc.serve_short known lawful env rand rand' D stopOutput output fresh held part missing
    refine Or.inl ⟨Option.some.inj (serves.symm.trans waits), fun buffers _ arrived => missing ?_⟩
    rw [same] at arrived
    exact part.eq_of_length_le ((List.prefix_append _ _).trans arrived).length_le
  rcases Frpc.serve_whole known lawful env rand rand' succeeds stopOutput output fresh held each
    rest with ⟨waits, part⟩ | ⟨side', served, sends, read⟩
  · refine Or.inl ⟨Option.some.inj (serves.symm.trans waits),
      fun buffers some_of arrived => part buffers some_of ?_⟩
    rw [same] at arrived
    exact (List.prefix_append_right_inj _).mp arrived
  · obtain rfl := Option.some.inj (served.symm.trans serves)
    exact Or.inr ⟨sends, read.begins, read.silent, read.passedOn same⟩

/-- One worker stream between a `Frps` and a `Frpc` that agree on mode, key and frames, cut anywhere on
its way. Of what one side has copied from its end the other side always has passed on a prefix, with
every buffer that it could read before a deadline, and the direction that reads the stream has put
nothing on it. When everything has arrived both sides copy, and each has passed on all of it unless
some of it came only behind a deadline, which it cannot where none is set. -/
theorem hand_over (c d : CryptoHelper) (sameMode : c.dstMode = d.srcMode)
    (sameKey : c.dstAead = d.srcAead)
    (sameFrames : c.dstExtend.FrameHeaderEnable = d.srcExtend.FrameHeaderEnable)
    (lawful : d.srcAead.Lawful) (lib : MsgLibrary) (known : lib.Lawful) (env env' : Surroundings)
    (rand rand' : Rand) (S : Stream σ) (clientTakes : Succeeds S)
    (stopClient : WrappedStream σ → WrappedStream σ) (client : WrappedStream σ) (D : Stream τ)
    (outputTakes : Succeeds D) (stopOutput : WrappedStream τ → WrappedStream τ) (output : τ)
    (up down : List Bytes) (upEof downEof : Bool) (frps frpc : WorkerSide)
    (frpsServes : Frps.serve c lib env rand S stopClient client ⟨up.map .chunk, upEof, []⟩ = frps)
    (frpcServes : Frpc.serve d lib env' rand' D stopOutput output
      ⟨down.map .chunk, downEof, []⟩ = some frpc)
    (upward : up.flatten <+: frpc.sent) (downward : down.flatten <+: frps.sent) :
    frpc.forth.flatten <+: frps.forth.flatten ∧ frps.back.flatten <+: frpc.back.flatten ∧
      frps.answered = [] ∧ frpc.answered = [] ∧
      (env.returnEnds = none → frps.late = []) ∧ (env'.returnEnds = none → frpc.late = []) ∧
      PassedOn (Frps.puts c lib env) down.flatten frpc.late frps.forth frpc.forth ∧
      PassedOn (Frpc.puts d lib env' rand') up.flatten frps.late frpc.back frps.back ∧
      (up.flatten = frpc.sent → down.flatten = frps.sent → frps.copies = true ∧ frpc.copies = true ∧
        (frpc.late = [] → frpc.forth.flatten = frps.forth.flatten) ∧
        (frps.late = [] → frps.back.flatten = frpc.back.flatten)) := by
  have lawful' : c.dstAead.Lawful := sameKey ▸ lawful
  have frpsInTime : env.returnEnds = none → frps.late = [] :=
    fun never => frpsServes ▸ Frps.serve_in_time c lib never rand S stopClient client _
  have frpcInTime : env'.returnEnds = none → frpc.late = [] :=
    fun never => Frpc.serve_in_time d lib never rand' D stopOutput output _ frpcServes
  have upHeld : Conn.Holds ⟨up.map .chunk, upEof, []⟩ up.flatten := Conn.arrived_chunks up
  have downHeld : Conn.Holds ⟨down.map .chunk, downEof, []⟩ down.flatten := Conn.arrived_chunks down
  have nothing_sent (puts : List Bytes → Bytes) (w : Bytes) : PassedOn puts w [] [] [] :=
    ⟨w, (List.append_nil w).symm, fun buffers some_of _ => List.prefix_nil.mp some_of ▸ List.prefix_rfl⟩
  obtain ⟨more, begins⟩ := Frpc.serve_begins known env' outputTakes stopOutput output rfl frpcServes
  rcases prefix_cases (begins ▸ upward) with ⟨part, missing⟩ | ⟨upTail, hello, upRest⟩
  · -- `NewWorkConn` has not arrived, so nothing is sent back.
    rw [← sameMode, ← sameKey] at part
    have refused := Frps.serve_short known lawful' env rand rand' S stopClient client upHeld part
      (by rwa [sameMode, sameKey])
    obtain rfl : WorkerSide.idle [] = frps := refused.symm.trans frpsServes
    have nothing : down.flatten = [] := List.prefix_nil.mp downward
    have start := lib.wire_ne_nil known lawful d.srcMode env.startRand (m := .StartWorkConn) (by decide)
    have waits := Frpc.serve_short known lawful env' rand' env.startRand D stopOutput output rfl downHeld
      (nothing ▸ List.nil_prefix) (nothing ▸ start.symm)
    obtain rfl := Option.some.inj (waits.symm.trans frpcServes)
    exact ⟨List.prefix_rfl, List.prefix_rfl, rfl, rfl, frpsInTime, frpcInTime, nothing_sent _ _,
      nothing_sent _ _,
      fun whole => absurd whole missing⟩
  rw [hello, ← sameMode, ← sameKey] at upHeld
  obtain ⟨copies, reads⟩ :=
    Frps.serve_whole known lawful' env rand rand' clientTakes stopClient client rfl upHeld
  rw [frpsServes] at copies reads
  have puts (buffers : List Bytes) :
    Frps.puts c lib env buffers = lib.wire d.srcMode d.srcAead env.startRand .StartWorkConn ++
      (sealed d.srcMode d.srcAead env.dstRand
        (opening d.srcExtend.FrameHeaderEnable ++
          packed d.srcExtend.FrameHeaderEnable buffers)).flatten := by
    rw [Frps.puts, sameMode, sameKey, sameFrames]
  simp only [sameMode, sameKey, sameFrames] at copies reads
  have frpsSent : frps.sent = Frps.puts c lib env frps.forth := copies.sent.trans (puts frps.forth).symm
  rcases Frpc.serve_cases known lawful env' outputTakes stopOutput output rfl downHeld puts copies.each
    (frpsSent ▸ downward) frpcServes with
    ⟨rfl, part⟩ | ⟨sends, forthBegins, forthSilent, forthPassed⟩
  · have none_left : upTail = [] := by
      have short := upward.length_le
      rw [hello, List.length_append] at short
      exact List.length_eq_zero_iff.mp (by simp only [WorkerSide.idle] at short; omega)
    have back := @reads env'.srcRand [] (by simp) (none_left ▸ List.nil_prefix)
    refine ⟨List.nil_prefix, back.begins, back.silent, rfl, frpsInTime, frpcInTime, ?_,
      hello ▸ back.passedOn fun buffers => rfl, fun _ whole => ?_⟩
    · exact ⟨down.flatten, (List.append_nil _).symm,
        fun buffers some_of arrived => absurd arrived (part buffers some_of)⟩
    · refine absurd ?_ (part frps.forth List.prefix_rfl)
      rw [whole, frpsSent]
  · rw [hello, sends.sent, List.nil_append] at upward
    have back := reads sends.each ((List.prefix_append_right_inj _).mp upward)
    have backPassed : PassedOn (Frpc.puts d lib env' rand') up.flatten frps.late frpc.back frps.back :=
      hello ▸ back.passedOn fun buffers => rfl
    refine ⟨forthBegins, back.begins, back.silent, forthSilent, frpsInTime, frpcInTime, forthPassed,
      backPassed,
      fun upWhole downWhole =>
      ⟨copies.copies, sends.copies, forthPassed.all forthBegins ?_, backPassed.all back.begins ?_⟩⟩
    · rw [downWhole, frpsSent]
    · rw [upWhole, sends.sent]
      rfl

/-! A library that packs messages without fields: the type, the length in eight bytes, and JSON. -/

def typeByte : Message → UInt8
  | .Login _ => 0x6f
  | .LoginResp _ _ => 0x31
  | .NewWorkConn => 0x77
  | .StartWorkConn => 0x73
  | .ReqWorkConn _ => 0x72
  | .Ping => 0x68
  | .Pong => 0x34
  | .Socks5XReq _ => 0x71
  | .Socks5XResp _ => 0x70

def emptyMessages : List Message :=
  [.Login "", .LoginResp "" "", .NewWorkConn, .StartWorkConn, .ReqWorkConn 0, .Ping, .Pong,
    .Socks5XReq "", .Socks5XResp 0]

def emptyObject : Bytes := [0x7b, 0x7d]

def readBody (σ : Type) (S : Stream σ) (m : Message) : Action σ Message := do
  let length ← readFull S 8
  if 10240 < ofBigEndian length then .fail (.failed "message length exceed the limit")
  else do
    let body ← readFull S (ofBigEndian length)
    if body = emptyObject then pure m else .fail (.failed "invalid character")

def emptyLibrary : MsgLibrary where
  Pack m := typeByte m :: bigEndian 8 2 ++ emptyObject
  ReadMsg σ S := do
    let buffer ← readFull S 1
    match emptyMessages.find? (typeByte · = buffer.getD 0 0) with
    | none => .fail (.failed "message type error")
    | some m => readBody σ S m

theorem emptyLibrary_length (m : Message) : (emptyLibrary.Pack m).length = 11 := by
  simp [emptyLibrary, bigEndian_length, emptyObject]

section emptyLibrary

variable {S : Stream σ} {Holds : σ → Bytes → Prop} {m : Message}

theorem readBody_ok (delivers : Delivers S Holds) (m : Message) {s : σ} {rest : Bytes}
    (held : Holds s (bigEndian 8 2 ++ (emptyObject ++ rest))) :
    ∃ t, readBody σ S m s = (.ok m, t) ∧ Holds t rest := by
  obtain ⟨s1, first, held1⟩ := delivers.readFull_ok 8 held (by simp [bigEndian_length])
  rw [List.take_left' (bigEndian_length 8 2)] at first
  rw [List.drop_left' (bigEndian_length 8 2)] at held1
  obtain ⟨s2, second, held2⟩ := delivers.readFull_ok 2 held1 (by simp [emptyObject])
  have body : (emptyObject ++ rest).take 2 = emptyObject := rfl
  rw [body] at second
  refine ⟨s2, ?_, held2⟩
  have size : ofBigEndian (bigEndian 8 2) = 2 := by decide
  rw [readBody, Action.bind_ok _ first, size, if_neg (by decide), Action.bind_ok _ second,
    if_pos rfl, Action.pure_apply]

theorem readBody_short (delivers : Delivers S Holds) (m : Message) {s : σ} {w : Bytes}
    (held : Holds s w) (cut : w <+: bigEndian 8 2 ++ emptyObject) (short : w.length < 10) :
    ∃ e t, readBody σ S m s = (.error e, t) := by
  by_cases early : w.length < 8
  · obtain ⟨e, t, failed⟩ := delivers.readFull_short 8 held early
    exact ⟨e, t, Action.bind_error _ failed⟩
  · obtain ⟨s1, first, held1⟩ := delivers.readFull_ok 8 held (Nat.not_lt.mp early)
    have size : w.take 8 = bigEndian 8 2 := by
      rw [List.prefix_iff_eq_take.mp cut, List.take_take, min_eq_left (Nat.not_lt.mp early)]
      exact List.take_left' (bigEndian_length 8 2)
    rw [size] at first
    obtain ⟨e, t, failed⟩ := delivers.readFull_short 2 held1 (by rw [List.length_drop]; omega)
    refine ⟨e, t, ?_⟩
    have two : ofBigEndian (bigEndian 8 2) = 2 := by decide
    rw [readBody, Action.bind_ok _ first, two, if_neg (by decide), Action.bind_error _ failed]

theorem emptyLibrary_first (member : m ∈ workerMessages) {s t : σ} {buffer : Bytes}
    (first : readFull S 1 s = (.ok buffer, t)) (named : buffer = [typeByte m]) :
    emptyLibrary.ReadMsg σ S s = readBody σ S m t := by
  subst named
  have found : emptyMessages.find? (typeByte · = ([typeByte m] : Bytes).getD 0 0) = some m := by
    rcases List.mem_pair.mp member with rfl | rfl
    · decide
    · decide
  show (readFull S 1 >>= _) s = _
  rw [Action.bind_ok _ first, found]

end emptyLibrary

theorem emptyLibrary_lawful : emptyLibrary.Lawful where
  packs m _ := by
    have length := emptyLibrary_length m
    exact ⟨fun empty => by simp [empty] at length, by rw [length]; decide⟩
  reads m member σ S Holds delivers s rest held := by
    obtain ⟨s1, first, held1⟩ :=
      delivers.readFull_ok 1 held (by rw [List.length_append, emptyLibrary_length]; omega)
    rw [emptyLibrary_first member first rfl]
    exact readBody_ok delivers m held1
  fails m member σ S Holds delivers s w held cut missing := by
    have short : w.length < 11 := by
      refine lt_of_le_of_ne (emptyLibrary_length m ▸ cut.length_le) fun same =>
        missing (cut.eq_of_length ?_)
      rw [same, emptyLibrary_length]
    cases w with
    | nil =>
      obtain ⟨e, t, failed⟩ := delivers.readFull_short 1 held (by decide)
      exact ⟨e, t, Action.bind_error _ failed⟩
    | cons b w =>
      obtain ⟨rfl, rest⟩ := List.cons_prefix_cons.mp cut
      obtain ⟨s1, first, held1⟩ := delivers.readFull_ok 1 held (by simp)
      rw [emptyLibrary_first member first rfl]
      exact readBody_short delivers m held1 rest (Nat.lt_of_succ_lt_succ short)
  keeps {σ S P} kept := by
    refine .bind (readFull_keeps kept 1) fun buffer => ?_
    split
    · exact .fail _
    · refine .bind (readFull_keeps kept 8) fun length => ?_
      split_ifs
      · exact .fail _
      · refine .bind (readFull_keeps kept _) fun body => ?_
        split_ifs
        · exact .pure _
        · exact .fail _

/-- A client that sends three bytes. -/
def threeBytes : WrappedStream Conn := .inl (wrapped ⟨[.chunk [1, 2, 3]], false, []⟩)

/-- An output that answers with one. -/
def oneByte : Conn := ⟨[.chunk [4]], false, []⟩

/-- A `Frps` with clear input and a worker side under GCM with frames. -/
def workerHelper : CryptoHelper :=
  ⟨.None, .GCM, framedHelper.srcAead, framedHelper.srcAead, ⟨false⟩, ⟨true⟩⟩

/-- Its `Frpc`, with a clear output. -/
def outputHelper : CryptoHelper :=
  ⟨.GCM, .None, framedHelper.srcAead, framedHelper.srcAead, ⟨true⟩, ⟨false⟩⟩

def threeBytesTo (up : List Bytes) : WorkerSide :=
  Frps.serve workerHelper emptyLibrary (endsAfter none) nines Conn.stream id threeBytes
    ⟨up.map .chunk, false, []⟩

/-- All that the `Frps` sends once `NewWorkConn` has arrived. -/
def startAndBytes : List Bytes :=
  [(threeBytesTo [emptyLibrary.wire .GCM framedHelper.srcAead nines .NewWorkConn]).sent]

def oneByteFrom (returnEnds : Option Nat) : Option WorkerSide :=
  Frpc.serve outputHelper emptyLibrary (endsAfter returnEnds) nines Conn.stream id oneByte
    ⟨startAndBytes.map .chunk, false, []⟩

def helloAndByte (returnEnds : Option Nat) : List Bytes :=
  [(oneByteFrom returnEnds).elim [] WorkerSide.sent]

theorem framedHelper_lawful : framedHelper.srcAead.Lawful := streamAEAD_lawful 12 16 _ _

/-- The output ends its direction once everything has arrived. -/
theorem hand_over_bytes : ∃ frpc, oneByteFrom (some 1) = some frpc ∧ frpc.forth.flatten = [1, 2, 3] ∧
    (threeBytesTo (helloAndByte (some 1))).back.flatten = frpc.back.flatten := by
  have played : (oneByteFrom (some 1)).any (fun frpc => frpc.late = []) = true := by decide +kernel
  obtain ⟨frpc, served, in_time⟩ := (Option.any_eq_true ..).mp played
  have up : (helloAndByte (some 1)).flatten = frpc.sent := by
    rw [helloAndByte, served]
    exact List.append_nil _
  have down : startAndBytes.flatten = (threeBytesTo (helloAndByte (some 1))).sent := by decide +kernel
  have read : (threeBytesTo (helloAndByte (some 1))).forth.flatten = [1, 2, 3] := by decide +kernel
  obtain ⟨_, _, _, _, frpsInTime, _, _, _, all⟩ := hand_over workerHelper outputHelper rfl rfl rfl
    framedHelper_lawful emptyLibrary emptyLibrary_lawful (endsAfter none) (endsAfter (some 1))
    nines nines Conn.stream succeeds_conn id threeBytes Conn.stream succeeds_conn id oneByte
    (helloAndByte (some 1)) startAndBytes false false _ frpc rfl served (up ▸ List.prefix_rfl)
    (down ▸ List.prefix_rfl)
  obtain ⟨_, _, forth, back⟩ := all up down
  exact ⟨frpc, served, (forth (of_decide_eq_true in_time)).trans read, back (frpsInTime rfl)⟩

/-- The output ends its direction before the bytes are read: the `Frps` has read them from its client,
everything has arrived, and they are not passed on. -/
theorem hand_over_stopped :
    workerHelper.dstMode = outputHelper.srcMode ∧ workerHelper.dstAead = outputHelper.srcAead ∧
    workerHelper.dstExtend = outputHelper.srcExtend ∧ outputHelper.srcAead.Lawful ∧ emptyLibrary.Lawful ∧
    ∃ frpc, oneByteFrom (some 0) = some frpc ∧ frpc.copies = true ∧
      (threeBytesTo (helloAndByte (some 0))).copies = true ∧
      (helloAndByte (some 0)).flatten = frpc.sent ∧
        startAndBytes.flatten = (threeBytesTo (helloAndByte (some 0))).sent ∧
      (threeBytesTo (helloAndByte (some 0))).forth.flatten = [1, 2, 3] ∧ frpc.forth.flatten = [] := by
  refine ⟨rfl, rfl, rfl, framedHelper_lawful, emptyLibrary_lawful, ?_⟩
  have played : (oneByteFrom (some 0)).any
    (fun frpc => frpc.copies ∧ (threeBytesTo (helloAndByte (some 0))).copies = true ∧
      (helloAndByte (some 0)).flatten = frpc.sent ∧
        startAndBytes.flatten = (threeBytesTo (helloAndByte (some 0))).sent ∧
      (threeBytesTo (helloAndByte (some 0))).forth.flatten = [1, 2, 3] ∧ frpc.forth.flatten = []) =
        true := by decide +kernel
  obtain ⟨frpc, served, facts⟩ := (Option.any_eq_true ..).mp played
  exact ⟨frpc, served, of_decide_eq_true facts⟩

end Gotun.Tun
