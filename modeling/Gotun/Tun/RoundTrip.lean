import Gotun.Crypto.Security
import Gotun.Tun.WrappedMessages

/-! A sender and a receiver that agree on mode, key and frames, over a connection that keeps
the order of its bytes: what the receiver reads is what the sender wrote. -/

namespace Gotun.Tun
open Gotun.Lib Gotun.Core Gotun.Crypto

/-- The calls on a sender. The probe calls need a `FrameStream`. -/
inductive Call where
  | Write (p : Bytes)
  | WriteProbeReq (req : ProbeReq)
  | WriteProbeResp (resp : ProbeResp)
  deriving DecidableEq, Repr

def notFrameStream : Err := .failed "probe stream is not frame stream"

/-- A probe call, after the type assertion on the stream. -/
def onFrameStream {σ : Type} (x : Action (FrameStream (CryptoStream σ)) Unit) :
    WrappedStream σ → Option Err × WrappedStream σ
  | .inl s => (some notFrameStream, .inl s)
  | .inr b =>
      match x b.base with
      | (.error e, f) => (some e, .inr { b with base := f })
      | (.ok _, f) => (none, .inr { b with base := f })

namespace Call

variable {σ : Type}

/-- The error a call returns, and the sender after it. -/
def apply (c : CryptoHelper) (rand : Rand) (clock : FrameStream.Clock) (S : Stream σ) :
    Call → WrappedStream σ → Option Err × WrappedStream σ
  | .Write p, s =>
    (((c.dstStream rand clock S).write p s).err, ((c.dstStream rand clock S).write p s).next)
  | .WriteProbeReq req, s => onFrameStream (FrameStream.WriteProbeReq (c.DstCrypto rand S) req) s
  | .WriteProbeResp resp, s => onFrameStream (FrameStream.WriteProbeResp (c.DstCrypto rand S) resp) s

/-- The payload of a `Write` that returned no error. -/
def written : Call × Option Err → Bytes
  | (.Write p, none) => p
  | _ => []

def runAll (c : CryptoHelper) (rand : Rand) (clock : FrameStream.Clock) (S : Stream σ) :
    List Call → WrappedStream σ → List (Call × Option Err) × WrappedStream σ
  | [], s => ([], s)
  | call :: calls, s =>
      let (err, s) := call.apply c rand clock S s
      let (results, last) := runAll c rand clock S calls s
      ((call, err) :: results, last)

end Call

def sentOf (s : WrappedStream Conn) : Bytes := (cryptoOf s).base.rw.sent

/-- No byte is left on the connection, and none in a leftover buffer. -/
def consumed (s : WrappedStream Conn) : Prop :=
  Conn.arrived (cryptoOf s).base.rw.inbound = [] ∧ (cryptoOf s).rest = [] ∧
    ∀ b, s = .inr b → b.rest = []

section sender

variable (c : CryptoHelper) (rand : Rand) (clock : FrameStream.Clock) (role : StreamRole)

/-- The writes to the crypto layer for a handshake and a sequence of frames, or for the payloads
alone. -/
def wire (items : List Frame) : List Bytes :=
  if c.dstExtend.FrameHeaderEnable then handshakeBytes role :: items.map Frame.bytes
  else items.filterMap Frame.payload?

/-- What a sender has put on its connection. -/
structure Wrote (items : List Frame) (s : WrappedStream Conn) : Prop where
  kind : s.isRight = c.dstExtend.FrameHeaderEnable
  logged : Logged c.dstMode c.dstAead rand (Conn.Sent []) (cryptoOf s)
    (wire c role items)
  fits : ∀ b ∈ wire c role items, Fits c.dstMode b
  valid : c.dstExtend.FrameHeaderEnable = true → ∀ frame ∈ items, frameCodec.Valid frame

/-- What a call has sent when it returned: its own payload if it returned no error, and nothing
otherwise. -/
def Adds (items : List Frame) (call : Call) (result : Option Err × WrappedStream Conn) : Prop :=
  ∃ more, Wrote c rand role (items ++ more) result.2 ∧
    (more.filterMap Frame.payload?).flatten = Call.written (call, result.1) ∧
      (result.1 ≠ none → more = [])

theorem DstCrypto_sends : Sends (c.DstCrypto rand Conn.stream) (Fits c.dstMode)
    (Logged c.dstMode c.dstAead rand (Conn.Sent [])) :=
  NewReaderWriter_sends c.dstMode c.dstAead rand (Conn.sends [])

theorem fits_of_length {mode : Mode} {b : Bytes} (some_bytes : b ≠ [])
    (small : b.length ≤ MaxSegmentSize) :
    Fits mode b := by
  cases mode with
  | None => trivial
  | GCM => exact ⟨some_bytes, small⟩

/-- A crypto write that does not fit is refused, unless it is empty. -/
theorem DstCrypto_refused {p : Bytes} {g : CryptoStream Conn} (unfit : ¬ Fits c.dstMode p)
    (ok : ((c.DstCrypto rand Conn.stream).write p g).err = none) : p = [] := by
  unfold CryptoHelper.DstCrypto at ok
  rcases mode : c.dstMode with _ | _
  · rw [mode] at unfit
    exact absurd trivial unfit
  · rw [mode] at ok unfit
    by_contra some_bytes
    have large : MaxSegmentSize < p.length := Nat.lt_of_not_le fun small => unfit ⟨some_bytes, small⟩
    have refused := writer.Write_refused c.dstAead rand Conn.stream p g.base large
    simp [NewReaderWriter, gcm.stream, Buffered.stream, Buffered.write, gcm.source, refused] at ok

theorem writeFrame_logged (frame : Frame) {g : CryptoStream Conn} {log : List Bytes}
    (logged : Logged c.dstMode c.dstAead rand (Conn.Sent []) g log) :
    (∃ t, writeFrame (c.DstCrypto rand Conn.stream) frame.raw.1 frame.raw.2 g = (.ok (), t) ∧
      Fits c.dstMode frame.bytes ∧ frameCodec.Valid frame ∧
      Logged c.dstMode c.dstAead rand (Conn.Sent []) t (log ++ [frame.bytes])) ∨
    (∃ e t, writeFrame (c.DstCrypto rand Conn.stream) frame.raw.1 frame.raw.2 g = (.error e, t) ∧
      Logged c.dstMode c.dstAead rand (Conn.Sent []) t log) := by
  have sends := DstCrypto_sends c rand
  unfold writeFrame
  split_ifs with large
  · exact Or.inr ⟨_, _, Action.fail_apply _ _, logged⟩
  by_cases fit : Fits c.dstMode frame.bytes
  · obtain ⟨ok, after⟩ := sends.put logged fit
    exact Or.inl ⟨_, ok, fit, Nat.not_lt.mp large, after⟩
  · refine Or.inr ?_
    have kept := sends.refused _ logged fit
    rcases failed : ((c.DstCrypto rand Conn.stream).write frame.bytes g).err with _ | e
    · have empty := congrArg List.length (DstCrypto_refused c rand fit failed)
      rw [Frame.bytes, frameBytes_length] at empty
      simp at empty
    · exact ⟨e, _, put_error failed, kept⟩

variable {c rand role} {items : List Frame}

theorem wire_frames (role : StreamRole) (frames : c.dstExtend.FrameHeaderEnable = true)
    (items : List Frame) :
    wire c role items = handshakeBytes role :: items.map Frame.bytes := if_pos frames

theorem wire_plain (role : StreamRole) (frames : c.dstExtend.FrameHeaderEnable = false)
    (items : List Frame) :
    wire c role items = items.filterMap Frame.payload? := by
  rw [wire, frames]
  rfl

theorem Wrote.frames {b : Buffered (FrameStream (CryptoStream Conn))}
    (wrote : Wrote c rand role items (.inr b)) :
    c.dstExtend.FrameHeaderEnable = true := wrote.kind.symm

theorem Wrote.plain {g : CryptoStream Conn} (wrote : Wrote c rand role items (.inl g)) :
    c.dstExtend.FrameHeaderEnable = false := wrote.kind.symm

/-- A frame write goes out as a whole, or fails and leaves the connection as it was. -/
theorem Wrote.onFrameStream {x : Action (FrameStream (CryptoStream Conn)) Unit}
    {b : Buffered (FrameStream (CryptoStream Conn))} (frame : Frame)
    (result : (x b.base).1 =
      (writeFrame (c.DstCrypto rand Conn.stream) frame.raw.1 frame.raw.2 b.base.stream).1)
    (next : (x b.base).2.stream =
      (writeFrame (c.DstCrypto rand Conn.stream) frame.raw.1 frame.raw.2 b.base.stream).2)
    (wrote : Wrote c rand role items (.inr b)) :
    ((onFrameStream x (.inr b)).1 = none ∧
      Wrote c rand role (items ++ [frame]) (onFrameStream x (.inr b)).2) ∨
      ((onFrameStream x (.inr b)).1 ≠ none ∧ Wrote c rand role items (onFrameStream x (.inr b)).2) := by
  have frames := wrote.frames
  have concat : wire c role (items ++ [frame]) = wire c role items ++ [frame.bytes] := by
    rw [wire_frames role frames, wire_frames role frames, List.map_append]
    rfl
  rcases writeFrame_logged c rand frame wrote.logged with
    ⟨t, ok, fit, valid, after⟩ | ⟨e, t, failed, after⟩
  · rw [show b.base.stream = cryptoOf (.inr b) from rfl, ok] at result next
    have call : Tun.onFrameStream x (.inr b) = (none, .inr { b with base := (x b.base).2 }) := by
      rw [Tun.onFrameStream, ← Prod.mk.eta (p := x b.base), result]
    rw [call]
    refine Or.inl ⟨rfl, wrote.kind, ?_, ?_, fun _ => ?_⟩
    · have same : cryptoOf (.inr { b with base := (x b.base).2 }) = t := next
      rwa [concat, same]
    · rw [concat]
      exact List.forall_mem_append.mpr ⟨wrote.fits, List.forall_mem_singleton.mpr fit⟩
    · exact List.forall_mem_append.mpr ⟨wrote.valid frames, List.forall_mem_singleton.mpr valid⟩
  · rw [show b.base.stream = cryptoOf (.inr b) from rfl, failed] at result next
    have call : Tun.onFrameStream x (.inr b) = (some e, .inr { b with base := (x b.base).2 }) := by
      rw [Tun.onFrameStream, ← Prod.mk.eta (p := x b.base), result]
    rw [call]
    have same : cryptoOf (.inr { b with base := (x b.base).2 }) = t := next
    exact Or.inr ⟨by simp, wrote.kind, by rwa [same], wrote.fits, wrote.valid⟩

theorem WriteProbeResp_result (S : Stream (CryptoStream Conn)) (resp : ProbeResp)
    (f : FrameStream (CryptoStream Conn)) :
    (FrameStream.WriteProbeResp S resp f).1 =
      (writeFrame S frameTypeProbeResp (encodeProbeResp resp) f.stream).1 ∧
      (FrameStream.WriteProbeResp S resp f).2.stream =
        (writeFrame S frameTypeProbeResp (encodeProbeResp resp) f.stream).2 := by
  rcases result : writeFrame S frameTypeProbeResp (encodeProbeResp resp) f.stream with ⟨e | _, t⟩
  · rw [FrameStream.WriteProbeResp, Action.bind_error _ (FrameStream.onStream_error result)]
    exact ⟨rfl, rfl⟩
  · rw [FrameStream.WriteProbeResp, Action.bind_ok _ (FrameStream.onStream_ok result)]
    exact ⟨rfl, rfl⟩

theorem apply_Write_frames (p : Bytes) (some_bytes : p ≠ [])
    (b : Buffered (FrameStream (CryptoStream Conn))) :
    (Call.Write p).apply c rand clock Conn.stream (.inr b) =
      onFrameStream (FrameStream.onStream
        (writeFrame (c.DstCrypto rand Conn.stream) frameTypeBusiness p)) (.inr b) := by
  have call : (Call.Write p).apply c rand clock Conn.stream (.inr b) =
      ((FrameStream.Write (c.DstCrypto rand Conn.stream) p b.base).err,
        .inr { b with base := (FrameStream.Write (c.DstCrypto rand Conn.stream) p b.base).next }) := rfl
  rw [call, FrameStream.Write, if_neg some_bytes, onFrameStream]
  rcases FrameStream.onStream
    (writeFrame (c.DstCrypto rand Conn.stream) frameTypeBusiness p) b.base with ⟨e | _, f⟩
  · rfl
  · rfl

theorem Wrote.adds_nothing {call : Call} {err : Option Err} {s : WrappedStream Conn}
    (wrote : Wrote c rand role items s) (nothing : Call.written (call, err) = []) :
    Adds c rand role items call (err, s) :=
  ⟨[], by rwa [List.append_nil], by simp [nothing], fun _ => rfl⟩

/-- A call that writes one frame. -/
theorem Wrote.adds_frame {call : Call} {x : Action (FrameStream (CryptoStream Conn)) Unit}
    {b : Buffered (FrameStream (CryptoStream Conn))} (frame : Frame)
    (wrote : Wrote c rand role items (.inr b))
    (result : (x b.base).1 =
      (writeFrame (c.DstCrypto rand Conn.stream) frame.raw.1 frame.raw.2 b.base.stream).1)
    (next : (x b.base).2.stream =
      (writeFrame (c.DstCrypto rand Conn.stream) frame.raw.1 frame.raw.2 b.base.stream).2)
    (sends : frame.payload?.getD [] = Call.written (call, none))
    (fails : ∀ e, Call.written (call, some e) = []) :
    Adds c rand role items call (Tun.onFrameStream x (.inr b)) := by
  rcases wrote.onFrameStream frame result next with ⟨ok, after⟩ | ⟨failed, after⟩
  · refine ⟨[frame], after, ?_, fun failed => absurd ok failed⟩
    rw [ok, ← sends]
    cases frame <;> simp [Frame.payload?]
  · obtain ⟨e, failed⟩ := Option.ne_none_iff_exists'.mp failed
    exact after.adds_nothing (failed ▸ fails e)

/-- Without frames a write goes to the crypto layer as it is. -/
theorem Wrote.adds_plain {g : CryptoStream Conn} (p : Bytes) (wrote : Wrote c rand role items (.inl g)) :
    Adds c rand role items (.Write p) ((Call.Write p).apply c rand clock Conn.stream (.inl g)) := by
  have frames := wrote.plain
  have sends := DstCrypto_sends c rand
  by_cases fit : Fits c.dstMode p
  · obtain ⟨_, ok, after⟩ := sends.write p wrote.logged fit
    have concat : wire c role (items ++ [.business p]) = wire c role items ++ [p] := by
      rw [wire_plain role frames, wire_plain role frames, List.filterMap_append]
      rfl
    refine ⟨[.business p], ⟨wrote.kind, concat ▸ after, ?_, by simp [frames]⟩, ?_,
      fun failed => absurd ok failed⟩
    · rw [concat]
      exact List.forall_mem_append.mpr ⟨wrote.fits, List.forall_mem_singleton.mpr fit⟩
    · have ok : ((Call.Write p).apply c rand clock Conn.stream (.inl g)).1 = none := ok
      rw [ok]
      exact List.append_nil p
  · refine Wrote.adds_nothing ⟨wrote.kind, sends.refused p wrote.logged fit, wrote.fits, wrote.valid⟩ ?_
    rcases failed : ((c.dstStream rand clock Conn.stream).write p (.inl g)).err with _ | e
    · exact DstCrypto_refused c rand fit failed
    · rfl

/-- One call sends its frame if it returns no error, and nothing otherwise. -/
theorem Wrote.apply {s : WrappedStream Conn} (call : Call) (wrote : Wrote c rand role items s) :
    Adds c rand role items call (call.apply c rand clock Conn.stream s) := by
  rcases s with g | b
  · cases call with
    | WriteProbeReq req => exact wrote.adds_nothing rfl
    | WriteProbeResp resp => exact wrote.adds_nothing rfl
    | Write p => exact wrote.adds_plain clock p
  · cases call with
    | WriteProbeReq req => exact wrote.adds_frame (.probeReq req) rfl rfl rfl fun _ => rfl
    | WriteProbeResp resp =>
      obtain ⟨result, next⟩ := WriteProbeResp_result (c.DstCrypto rand Conn.stream) resp b.base
      exact wrote.adds_frame (.probeResp resp) result next rfl fun _ => rfl
    | Write p =>
      by_cases empty : p = []
      · subst empty
        exact wrote.adds_nothing rfl
      · rw [apply_Write_frames clock p empty b]
        exact wrote.adds_frame (.business p) rfl rfl rfl fun _ => rfl

theorem Wrote.runAll {s : WrappedStream Conn} (calls : List Call) (wrote : Wrote c rand role items s) :
    ∃ more, Wrote c rand role (items ++ more) (Call.runAll c rand clock Conn.stream calls s).2 ∧
      (more.filterMap Frame.payload?).flatten =
        (Call.runAll c rand clock Conn.stream calls s).1.flatMap Call.written := by
  induction calls generalizing items s with
  | nil => exact ⟨[], by rwa [List.append_nil], rfl⟩
  | cons call calls ih =>
    obtain ⟨first, after, sent, _⟩ := wrote.apply clock call
    obtain ⟨later, last, sentLater⟩ := ih after
    refine ⟨first ++ later, by rwa [← List.append_assoc], ?_⟩
    rw [List.filterMap_append, List.flatten_append, sent, sentLater]
    rfl

theorem Wrote.sentOf {s : WrappedStream Conn} (wrote : Wrote c rand role items s) :
    Tun.sentOf s = (sealed c.dstMode c.dstAead rand (wire c role items)).flatten := wrote.logged.1

/-- A fresh sender has written its handshake. -/
theorem wrapDstWithRole_wrote (c : CryptoHelper) (rand : Rand) (role : StreamRole) (conn : Conn)
    (fresh : conn.sent = []) :
    ∃ start, c.wrapDstWithRole rand Conn.stream role conn = .ok start ∧ Wrote c rand role [] start := by
  have logged : Logged c.dstMode c.dstAead rand (Conn.Sent []) (wrapped conn) [] :=
    .of_below c.dstMode c.dstAead rand fresh
  cases frames : c.dstExtend.FrameHeaderEnable with
  | false =>
    refine ⟨.inl (wrapped conn),
      by rw [CryptoHelper.wrapDstWithRole, if_pos frames], frames.symm, ?_, ?_, by simp⟩
    · rw [wire_plain role frames]
      exact logged
    · rw [wire_plain role frames]
      exact fun _ absent => absurd absent List.not_mem_nil
  | true =>
    have fit : Fits c.dstMode (handshakeBytes role) :=
      fits_of_length (by simp [handshakeBytes]) (by simp [MaxSegmentSize])
    obtain ⟨ok, after⟩ := (DstCrypto_sends c rand).put logged fit
    refine ⟨.inr (NewFrameStream ((c.DstCrypto rand Conn.stream).write (handshakeBytes role)
      (wrapped conn)).next role), ?_, frames.symm, ?_, ?_, by simp⟩
    · rw [CryptoHelper.wrapDstWithRole, if_neg (by simp [frames]), writeStreamHandshake, ok]
    · rw [wire_frames role frames]
      exact after
    · rw [wire_frames role frames]
      exact List.forall_mem_singleton.mpr fit

end sender

section receiver

variable (d : CryptoHelper) (lawful : d.srcAead.Lawful) (rand : Rand) (clock : FrameStream.Clock)

/-- What a receiver still has to return of an honest sender's bytes. -/
def HoldsSrc (before : Bytes) : WrappedStream Conn → Bytes → Prop :=
  Sum.elim (HoldsSealed d.srcMode lawful Conn.Holds)
    (FrameStream.HoldsFrames (HoldsSealed d.srcMode lawful Conn.Holds)
      (Logged d.srcMode d.srcAead rand (Conn.Sent before)))

theorem responses_fit (mode : Mode) (resp : ProbeResp) : Fits mode (Frame.probeResp resp).bytes := by
  have length : (Frame.probeResp resp).bytes.length = 27 := by
    rw [Frame.bytes, frameBytes_length, Frame.raw, encodeProbeResp_length]
  refine fits_of_length (fun empty => ?_) (by rw [length]; decide)
  rw [empty] at length
  simp at length

theorem srcStream_drains (before : Bytes) :
    Drains (d.srcStream rand clock Conn.stream) (HoldsSrc d lawful rand before) := by
  have drains := NewReaderWriter_drains d.srcMode lawful rand Conn.drains
  have sends := NewReaderWriter_sends d.srcMode d.srcAead rand (Conn.sends before)
  exact Drains.sum drains (FrameStream.asStream_drains clock drains sends (responses_fit d.srcMode))

variable {d lawful rand} {conn : Conn} {role : StreamRole} {items : List Frame}

theorem flatten_wire_cut {v : Bytes} (short : 6 ≤ v.length) {frames : List Frame}
    (cut : v <+: (handshakeBytes role :: frames.map Frame.bytes).flatten) :
    v.take 6 = handshakeBytes role ∧ v.drop 6 <+: frames.flatMap Frame.bytes := by
  rw [List.flatten_cons] at cut
  obtain ⟨rest, rfl⟩ : ∃ rest, v = handshakeBytes role ++ rest :=
    (List.prefix_of_prefix_length_le (List.prefix_append _ _) cut short).imp fun _ h => h.symm
  rw [List.take_left' (handshakeBytes_length role), List.drop_left' (handshakeBytes_length role)]
  rw [List.flatMap_def]
  exact ⟨rfl, (List.prefix_append_right_inj _).mp cut⟩

/-- With frames, a receiver accepts the sender's handshake once it is whole, takes over its role,
and holds a prefix of the payloads. -/
theorem receives_frames (rand : Rand) (frames : d.srcExtend.FrameHeaderEnable = true) {v : Bytes}
    (held : HoldsSealed d.srcMode lawful Conn.Holds (wrapped conn) v)
    (valid : ∀ frame ∈ items, frameCodec.Valid frame)
    (cut : v <+: (handshakeBytes role :: items.map Frame.bytes).flatten) :
    (v = (handshakeBytes role :: items.map Frame.bytes).flatten →
      ∃ receiver, d.WrapSrcWithRole rand Conn.stream conn = .ok receiver) ∧
    ∀ stream role', d.WrapSrcWithRole rand Conn.stream conn = .ok (stream, role') → role' = role ∧
      ∃ got, HoldsSrc d lawful rand conn.sent stream got ∧
        got <+: (items.filterMap Frame.payload?).flatten ∧
        (v = (handshakeBytes role :: items.map Frame.bytes).flatten →
          got = (items.filterMap Frame.payload?).flatten) := by
  have drains := NewReaderWriter_drains d.srcMode lawful rand Conn.drains
  have sends := NewReaderWriter_sends d.srcMode d.srcAead rand (Conn.sends conn.sent)
  by_cases short : v.length < 6
  · obtain ⟨e, t, failed⟩ := readStreamHandshake_error drains.toDelivers held fun _ enough => by omega
    have refused : d.WrapSrcWithRole rand Conn.stream conn = .error e := by
      rw [CryptoHelper.WrapSrcWithRole, if_neg (by simp [frames]), CryptoHelper.SrcCrypto, failed]
    refine ⟨fun whole => ?_, by simp [refused]⟩
    rw [whole, List.flatten_cons, List.length_append, handshakeBytes_length] at short
    omega
  obtain ⟨head, tail⟩ := flatten_wire_cut (Nat.not_lt.mp short) cut
  obtain ⟨t, ok, left⟩ := readStreamHandshake_ok drains.toDelivers held (Nat.not_lt.mp short)
    (head ▸ parseHandshake_bytes role)
  have accepted : d.WrapSrcWithRole rand Conn.stream conn =
      .ok (.inr (NewFrameStream t role), role) := by
    rw [CryptoHelper.WrapSrcWithRole, if_neg (by simp [frames]), CryptoHelper.SrcCrypto, ok]
  refine ⟨fun _ => ⟨_, accepted⟩, fun stream role' same => ?_⟩
  rw [accepted, Except.ok.injEq, Prod.mk.injEq] at same
  obtain ⟨rfl, rfl⟩ := same
  have logged : Logged d.srcMode d.srcAead rand (Conn.Sent conn.sent) (wrapped conn) [] :=
    .of_below d.srcMode d.srcAead rand (by simp [Conn.Sent])
  have kept := readStreamHandshake_keeps (P := fun g => Logged d.srcMode d.srcAead rand
    (Conn.Sent conn.sent) g []) (fun n _ logged => sends.read n logged) _ logged
  rw [ok] at kept
  obtain ⟨got, written, begins, all⟩ := Codec.Written.of_cut (C := frameCodec) items valid tail
  have payloads : businessDecoder.plain (v.drop 6) = (got.filterMap Frame.payload?).flatten := by
    have decoded : frameDecoder.blocks (v.drop 6) = got.map id := written.blocks
    rw [businessDecoder_plain, businessPayloads, decoded, List.map_id]
  refine ⟨rfl, (got.filterMap Frame.payload?).flatten, ⟨v.drop 6,
    ⟨⟨probeRequests (v.drop 6), left, ⟨[], kept, rfl⟩, rfl⟩, got, written⟩, by rw [payloads]; rfl⟩,
    ?_, fun whole => ?_⟩
  · exact (begins.filterMap Frame.payload?).flatten
  · rw [all ?_]
    rw [whole, List.flatten_cons, List.drop_left' (handshakeBytes_length role), List.flatMap_def]
    rfl

/-- Without frames a receiver is open at once. -/
theorem receives_plain (rand : Rand) (frames : d.srcExtend.FrameHeaderEnable = false) {v : Bytes}
    (held : HoldsSealed d.srcMode lawful Conn.Holds (wrapped conn) v) :
    (∃ receiver, d.WrapSrcWithRole rand Conn.stream conn = .ok receiver) ∧
    ∀ stream role', d.WrapSrcWithRole rand Conn.stream conn = .ok (stream, role') →
      HoldsSrc d lawful rand conn.sent stream v := by
  have accepted : d.WrapSrcWithRole rand Conn.stream conn = .ok (.inl (wrapped conn), .Business) := by
    rw [CryptoHelper.WrapSrcWithRole, if_pos frames]
  refine ⟨⟨_, accepted⟩, fun stream role' same => ?_⟩
  rw [accepted, Except.ok.injEq, Prod.mk.injEq] at same
  obtain ⟨rfl, _⟩ := same
  exact held

theorem HoldsSrc.of_consumed {before : Bytes} {s : WrappedStream Conn} {v : Bytes}
    (held : HoldsSrc d lawful rand before s v) (done : consumed s) : v = [] := by
  obtain ⟨arrived, rest, pending⟩ := done
  have crypto {g : CryptoStream Conn} {w : Bytes} (held : HoldsSealed d.srcMode lawful Conn.Holds g w)
      (arrived : Conn.arrived g.base.rw.inbound = []) (rest : g.rest = []) : w = [] := by
    cases mode : d.srcMode with
    | None =>
      rw [mode] at held
      exact held.symm.trans arrived
    | GCM =>
      rw [mode] at held
      obtain ⟨below, ⟨same, _⟩, split⟩ := held
      rw [split, rest, show below = [] from same.symm.trans arrived]
      rfl
  rcases s with g | b
  · exact crypto held arrived rest
  · obtain ⟨w, ⟨⟨requests, serves⟩, _⟩, split⟩ := held
    rw [split, pending b rfl, crypto serves.below arrived rest]
    rfl

/-- A receiver returns a prefix of what it holds, and all of it when nothing is left or after enough
reads. -/
theorem HoldsSrc.readMany {before got payloads : Bytes} {stream : WrappedStream Conn}
    (clock : FrameStream.Clock) (held : HoldsSrc d lawful rand before stream got)
    (begins : got <+: payloads) (sizes : List Nat) (wanted : ∀ n ∈ sizes, 0 < n) :
    (Lib.readMany (d.srcStream rand clock Conn.stream) sizes stream).1 <+: payloads ∧
    (got = payloads → consumed (Lib.readMany (d.srcStream rand clock Conn.stream) sizes stream).2 ∨
        (d.srcStream rand clock Conn.stream).rank stream < sizes.length →
      (Lib.readMany (d.srcStream rand clock Conn.stream) sizes stream).1 = payloads) := by
  obtain ⟨rest, split, left, enough⟩ :=
    (srcStream_drains d lawful rand clock before).readMany sizes wanted held
  constructor
  · exact (split ▸ List.prefix_append _ _ : _ <+: got).trans begins
  · intro all finished
    have empty : rest = [] := finished.elim left.of_consumed enough
    rw [empty, List.append_nil] at split
    rw [← split, all]

end receiver

/-- From any part of what a sender has put on its connection, cut anywhere, a matching receiver takes
its role and returns a prefix of the payloads; from all of it, it returns all of them. -/
theorem Wrote.received {c d : CryptoHelper} {rand : Rand} {role : StreamRole} {items : List Frame}
    {s : WrappedStream Conn} (wrote : Wrote c rand role items s) (sameMode : c.dstMode = d.srcMode)
    (sameKey : c.dstAead = d.srcAead)
    (sameFrames : c.dstExtend.FrameHeaderEnable = d.srcExtend.FrameHeaderEnable)
    (lawful : d.srcAead.Lawful) (rand' : Rand) (clock' : FrameStream.Clock) (chunks : List Bytes)
    (eofWithData : Bool) (before : Bytes) (cut : chunks.flatten <+: Tun.sentOf s) :
    (chunks.flatten = Tun.sentOf s →
      ∃ opened,
        d.WrapSrcWithRole rand' Conn.stream ⟨chunks.map .chunk, eofWithData, before⟩ = .ok opened) ∧
    ∀ stream role', d.WrapSrcWithRole rand' Conn.stream ⟨chunks.map .chunk, eofWithData, before⟩ =
      .ok (stream, role') →
      (d.srcExtend.FrameHeaderEnable = true → role' = role) ∧
      ∀ sizes : List Nat, (∀ n ∈ sizes, 0 < n) →
        (readMany (d.srcStream rand' clock' Conn.stream) sizes stream).1 <+:
          (items.filterMap Frame.payload?).flatten ∧
        (chunks.flatten = Tun.sentOf s →
          consumed (readMany (d.srcStream rand' clock' Conn.stream) sizes stream).2 ∨
            (d.srcStream rand' clock' Conn.stream).rank stream < sizes.length →
          (readMany (d.srcStream rand' clock' Conn.stream) sizes stream).1 =
            (items.filterMap Frame.payload?).flatten) := by
  have held : Conn.Holds ⟨chunks.map .chunk, eofWithData, before⟩ chunks.flatten :=
    Conn.arrived_chunks chunks
  have fits := wrote.fits
  rw [wrote.sentOf, sameMode, sameKey] at cut
  rw [sameMode] at fits
  obtain ⟨v, held, begins, all⟩ := HoldsSealed.of_cut d.srcMode lawful rand fits held cut
  have whole (same : chunks.flatten = Tun.sentOf s) : v = (wire c role items).flatten := by
    rw [wrote.sentOf, sameMode, sameKey] at same
    exact all same
  cases frames : d.srcExtend.FrameHeaderEnable with
  | false =>
    rw [frames] at sameFrames
    rw [wire_plain role sameFrames] at begins whole
    obtain ⟨opened, holds⟩ := receives_plain rand' frames held
    refine ⟨fun _ => opened, fun stream role' same => ⟨nofun, fun sizes wanted => ?_⟩⟩
    obtain ⟨part, all⟩ := (holds stream role' same).readMany clock' begins sizes wanted
    exact ⟨part, fun same => all (whole same)⟩
  | true =>
    rw [frames] at sameFrames
    rw [wire_frames role sameFrames] at begins whole
    obtain ⟨opened, holds⟩ := receives_frames rand' frames held (wrote.valid sameFrames) begins
    refine ⟨fun same => opened (whole same), fun stream role' same => ?_⟩
    obtain ⟨rfl, got, held, begins, all⟩ := holds stream role' same
    refine ⟨fun _ => rfl, fun sizes wanted => ?_⟩
    obtain ⟨part, enough⟩ := held.readMany clock' begins sizes wanted
    exact ⟨part, fun same => enough (all (whole same))⟩

/-- For matching ends and any calls: the sender is set up, a call that fails sends nothing, and
from any part of what was sent, cut anywhere, the receiver takes the sender's role and returns a
prefix of the payloads written without error, whatever the sizes it reads with. From all of it,
it returns all of them once nothing is left, which enough reads reach. -/
theorem round_trip (c d : CryptoHelper) (sameMode : c.dstMode = d.srcMode)
    (sameKey : c.dstAead = d.srcAead)
    (sameFrames : c.dstExtend.FrameHeaderEnable = d.srcExtend.FrameHeaderEnable)
    (lawful : d.srcAead.Lawful) (rand rand' : Rand) (clock clock' : FrameStream.Clock)
    (role : StreamRole) (calls : List Call) (conn : Conn) (fresh : conn.sent = []) :
    ∃ start, c.wrapDstWithRole rand Conn.stream role conn = .ok start ∧
      let run := Call.runAll c rand clock Conn.stream calls start
      let payloads := run.1.flatMap Call.written
      (∀ call : Call, (call.apply c rand clock Conn.stream run.2).1 ≠ none →
        sentOf (call.apply c rand clock Conn.stream run.2).2 = sentOf run.2) ∧
      ∀ (chunks : List Bytes) (eofWithData : Bool) (before : Bytes), chunks.flatten <+: sentOf run.2 →
        let receiver := d.WrapSrcWithRole rand' Conn.stream ⟨chunks.map .chunk, eofWithData, before⟩
        (chunks.flatten = sentOf run.2 → ∃ opened, receiver = .ok opened) ∧
        ∀ stream role', receiver = .ok (stream, role') →
          (d.srcExtend.FrameHeaderEnable = true → role' = role) ∧
          ∀ sizes : List Nat, (∀ n ∈ sizes, 0 < n) →
            let reads := readMany (d.srcStream rand' clock' Conn.stream) sizes stream
            reads.1 <+: payloads ∧
            (chunks.flatten = sentOf run.2 →
              consumed reads.2 ∨ (d.srcStream rand' clock' Conn.stream).rank stream < sizes.length →
              reads.1 = payloads) := by
  obtain ⟨start, ok, wrote⟩ := wrapDstWithRole_wrote c rand role conn fresh
  obtain ⟨items, wrote, sent⟩ := wrote.runAll clock calls
  refine ⟨start, ok, fun call failed => ?_, fun chunks eofWithData before cut => ?_⟩
  · obtain ⟨more, after, _, nothing⟩ := wrote.apply clock call
    rw [nothing failed, List.append_nil] at after
    rw [after.sentOf, wrote.sentOf]
  dsimp only
  rw [← sent]
  exact wrote.received sameMode sameKey sameFrames lawful rand' clock' chunks eofWithData before cut

/-- Both ends under GCM with frames. -/
def framedHelper : CryptoHelper :=
  let aead := streamAEAD 12 16 (fun _ i => UInt8.ofNat i) fun _ _ _ => 1
  ⟨.GCM, .GCM, aead, aead, ⟨true⟩, ⟨true⟩⟩

theorem round_trip_framed :
    ∃ start, framedHelper.wrapDstWithRole nines Conn.stream .Probe ⟨[], false, []⟩ = .ok start ∧
      ∀ chunks : List Bytes,
        chunks.flatten <+: sentOf (Call.runAll framedHelper nines (fun _ => 0) Conn.stream
          [.Write [1, 2], .WriteProbeReq ⟨7, 8⟩, .Write [3]] start).2 →
        ∀ stream role, framedHelper.WrapSrcWithRole nines Conn.stream
          ⟨chunks.map .chunk, true, []⟩ = .ok (stream, role) →
          role = .Probe := by
  obtain ⟨start, ok, _, receives⟩ := round_trip framedHelper framedHelper rfl rfl rfl
    (streamAEAD_lawful 12 16 _ _) nines nines (fun _ => 0) (fun _ => 0) .Probe
    [.Write [1, 2], .WriteProbeReq ⟨7, 8⟩, .Write [3]] ⟨[], false, []⟩ rfl
  refine ⟨start, ok, fun chunks cut stream role same => ?_⟩
  exact (((receives chunks true [] cut).2 stream role same).1 rfl)

end Gotun.Tun
