import Gotun.Core.Pipe
import Gotun.Lib.BigEndian
import Gotun.Lib.Buffered

/-! `tun/stream_handshake.go` and `tun/frame_stream.go`: the handshake that names the role
of a stream, frames of type, size and payload, and the read loop that returns business
payloads, answers probe requests and hands probe responses to their waiters. -/

namespace Gotun.Tun
open Gotun.Lib Gotun.Core

inductive StreamRole where
  | Business
  | Probe
  | Bandwidth
  deriving DecidableEq, Repr

def StreamRole.byte : StreamRole → UInt8
  | .Business => 0x00
  | .Probe => 0x01
  | .Bandwidth => 0x02

def StreamRole.ofByte (byte : UInt8) : Option StreamRole :=
  if byte = 0x00 then some .Business
  else if byte = 0x01 then some .Probe
  else if byte = 0x02 then some .Bandwidth
  else none

variable {σ : Type}

/-- The bytes of `GTH1`. -/
def streamHandshakeMagic : Bytes := [0x47, 0x54, 0x48, 0x31]

def handshakeBytes (role : StreamRole) : Bytes := streamHandshakeMagic ++ [0x01, role.byte]

def writeStreamHandshake (S : Stream σ) (role : StreamRole) : Action σ Unit :=
  put S (handshakeBytes role)

/-- The checks of `readStreamHandshake` on its six bytes. -/
def parseHandshake (buf : Bytes) : Except Err StreamRole :=
  if buf.take 4 ≠ streamHandshakeMagic then .error (.failed "invalid stream handshake magic")
  else if buf.getD 4 0 ≠ 0x01 then .error (.failed "unsupported stream handshake version")
  else match StreamRole.ofByte (buf.getD 5 0) with
    | some role => .ok role
    | none => .error (.failed "invalid stream handshake role")

def readStreamHandshake (S : Stream σ) : Action σ StreamRole := do
  let buf ← readFull S 6
  .lift (parseHandshake buf)

theorem parseHandshake_bytes (role : StreamRole) : parseHandshake (handshakeBytes role) = .ok role := by
  cases role <;> rfl

@[simp] theorem handshakeBytes_length (role : StreamRole) : (handshakeBytes role).length = 6 := rfl

/-! Frames. -/

def frameTypeBusiness : UInt8 := 0x00
def frameTypeProbeReq : UInt8 := 0x01
def frameTypeProbeResp : UInt8 := 0x02
def frameTypeBandwidthDone : UInt8 := 0x03

structure ProbeReq where
  Seq : UInt64
  SentUnixNano : Int64
  deriving DecidableEq, Repr

structure ProbeResp where
  Seq : UInt64
  SentUnixNano : Int64
  RecvUnixNano : Int64
  deriving DecidableEq, Repr

def putUint64 (value : UInt64) : Bytes := bigEndian 8 value.toNat
def uint64 (bytes : Bytes) : UInt64 := UInt64.ofNat (ofBigEndian bytes)

theorem uint64_putUint64 (value : UInt64) : uint64 (putUint64 value) = value := by
  rw [uint64, putUint64, ofBigEndian_bigEndian_of_lt 8 _ value.toNat_lt, UInt64.ofNat_toNat]

@[simp] theorem putUint64_length (value : UInt64) : (putUint64 value).length = 8 := bigEndian_length 8 _

def encodeProbeReq (req : ProbeReq) : Bytes := putUint64 req.Seq ++ putUint64 req.SentUnixNano.toUInt64

def decodeProbeReq (payload : Bytes) : Except Err ProbeReq :=
  if payload.length ≠ 16 then .error (.failed "invalid probe request payload")
  else .ok ⟨uint64 (payload.take 8), (uint64 (payload.drop 8)).toInt64⟩

def encodeProbeResp (resp : ProbeResp) : Bytes :=
  putUint64 resp.Seq ++ putUint64 resp.SentUnixNano.toUInt64 ++ putUint64 resp.RecvUnixNano.toUInt64

def decodeProbeResp (payload : Bytes) : Except Err ProbeResp :=
  if payload.length ≠ 24 then .error (.failed "invalid probe response payload")
  else .ok ⟨uint64 (payload.take 8), (uint64 ((payload.drop 8).take 8)).toInt64,
    (uint64 (payload.drop 16)).toInt64⟩

@[simp] theorem encodeProbeReq_length (req : ProbeReq) : (encodeProbeReq req).length = 16 := by
  simp [encodeProbeReq]

@[simp] theorem encodeProbeResp_length (resp : ProbeResp) : (encodeProbeResp resp).length = 24 := by
  simp [encodeProbeResp]

theorem decodeProbeReq_encode (req : ProbeReq) : decodeProbeReq (encodeProbeReq req) = .ok req := by
  rw [decodeProbeReq, if_neg (not_not.mpr (encodeProbeReq_length req))]
  simp only [encodeProbeReq, List.take_left' (putUint64_length _), List.drop_left' (putUint64_length _),
    uint64_putUint64]
  rfl

theorem decodeProbeResp_encode (resp : ProbeResp) :
    decodeProbeResp (encodeProbeResp resp) = .ok resp := by
  have two : (putUint64 resp.Seq ++ putUint64 resp.SentUnixNano.toUInt64).length = 16 := by simp
  rw [decodeProbeResp, if_neg (not_not.mpr (encodeProbeResp_length resp))]
  simp only [encodeProbeResp, List.drop_left' two]
  simp only [List.append_assoc, List.take_left' (putUint64_length _),
    List.drop_left' (putUint64_length _), uint64_putUint64]
  rfl

def frameBytes (frameType : UInt8) (payload : Bytes) : Bytes :=
  frameType :: bigEndian 2 payload.length ++ payload

def writeFrame (S : Stream σ) (frameType : UInt8) (payload : Bytes) : Action σ Unit :=
  if MaxSegmentSize < payload.length then .fail (.failed "frame payload too large")
  else put S (frameBytes frameType payload)

def readFrame (S : Stream σ) : Action σ (UInt8 × Bytes) := do
  let header ← readFull S 3
  let size := ofBigEndian (header.drop 1)
  let payload ← readFull S size
  pure (header.getD 0 0, payload)

/-- The stream below a `FrameStream` and what it keeps itself; `pending` is the buffer over
it. `probeWaiters` holds each waiting probe with its one-slot channel. `clock` counts the
readings of the time, and `replied` lists the probe responses written so far. -/
structure FrameStream (σ : Type) where
  stream : σ
  role : StreamRole
  probeWaiters : List (UInt64 × Option ProbeResp)
  clock : Nat
  replied : List ProbeResp
  deriving DecidableEq, Repr

def NewFrameStream (stream : σ) (role : StreamRole) : Buffered (FrameStream σ) :=
  ⟨⟨stream, role, [], 0, []⟩, []⟩

namespace FrameStream

/-- The readings of `time.Now().UnixNano()`. -/
abbrev Clock := Nat → Int64

def onStream {α : Type} (x : Action σ α) : Action (FrameStream σ) α := fun f =>
  let (result, stream) := x f.stream
  (result, { f with stream })

def WriteProbeReq (S : Stream σ) (req : ProbeReq) : Action (FrameStream σ) Unit :=
  onStream (writeFrame S frameTypeProbeReq (encodeProbeReq req))

def WriteProbeResp (S : Stream σ) (resp : ProbeResp) : Action (FrameStream σ) Unit := do
  onStream (writeFrame S frameTypeProbeResp (encodeProbeResp resp))
  .modify fun f => { f with replied := f.replied ++ [resp] }

def WriteBandwidthDone (S : Stream σ) : Action (FrameStream σ) Unit :=
  onStream (writeFrame S frameTypeBandwidthDone [])

/-- A full channel or an unknown sequence number drops the response. -/
def notifyProbeWaiter (resp : ProbeResp) : Action (FrameStream σ) Unit :=
  .modify fun f => { f with probeWaiters := f.probeWaiters.map fun waiter =>
    if waiter.1 = resp.Seq ∧ waiter.2 = none then (waiter.1, some resp) else waiter }

/-- The answer to a probe request, with the time it was received. -/
def answer (clock : Clock) (S : Stream σ) (payload : Bytes) : Action (FrameStream σ) Unit := fun f =>
  match decodeProbeReq payload with
  | .error e => (.error e, f)
  | .ok req =>
    WriteProbeResp S ⟨req.Seq, req.SentUnixNano, clock f.clock⟩ { f with clock := f.clock + 1 }

def notify (payload : Bytes) : Action (FrameStream σ) Unit := fun f =>
  match decodeProbeResp payload with
  | .error e => (.error e, f)
  | .ok resp => notifyProbeWaiter resp f

/-- A bandwidth-done frame ends a bandwidth stream, and is an error on any other. -/
def bandwidthDone : Action (FrameStream σ) Bytes := fun f =>
  (.error (if f.role = .Bandwidth then .eof else .failed "unexpected bandwidth done frame"), f)

/-- The loop of `Read` without a pending rest: the payload of the next business frame. -/
def readLoop (clock : Clock) (S : Stream σ) : Nat → Action (FrameStream σ) Bytes
  | 0 => .fail .unexpectedEOF
  | fuel + 1 => do
      let (frameType, payload) ← onStream (readFrame S)
      if frameType = frameTypeBusiness then pure payload
      else if frameType = frameTypeProbeReq then do
        answer clock S payload
        readLoop clock S fuel
      else if frameType = frameTypeProbeResp then do
        notify payload
        readLoop clock S fuel
      else if frameType = frameTypeBandwidthDone then bandwidthDone
      else .fail (.failed "unknown frame type")

def fetch (clock : Clock) (S : Stream σ) : Action (FrameStream σ) Bytes := fun f =>
  readLoop clock S (S.rank f.stream + 1) f

def Write (S : Stream σ) (p : Bytes) (f : FrameStream σ) : WriteRes (FrameStream σ) :=
  if p = [] then ⟨0, none, f⟩
  else
    match onStream (writeFrame S frameTypeBusiness p) f with
    | (.error e, f) => ⟨0, some e, f⟩
    | (.ok _, f) => ⟨p.length, none, f⟩

/-- The loop that serves a probe stream: it only ever ends with an error. -/
def serveLoop (clock : Clock) (S : Stream σ) : Nat → FrameStream σ → Err × FrameStream σ
  | 0, f => (.unexpectedEOF, f)
  | fuel + 1, f =>
      match onStream (readFrame S) f with
      | (.error e, f) => (e, f)
      | (.ok (frameType, payload), f) =>
        if frameType = frameTypeProbeReq then
          match answer clock S payload f with
          | (.error e, f) => (e, f)
          | (.ok _, f) => serveLoop clock S fuel f
        else if frameType = frameTypeProbeResp then
          match notify payload f with
          | (.error e, f) => (e, f)
          | (.ok _, f) => serveLoop clock S fuel f
        else if frameType = frameTypeBusiness then
          (.failed "unexpected business frame on probe stream", f)
        else (.failed "unknown frame type", f)

def ServeControlLoop (clock : Clock) (S : Stream σ) (f : FrameStream σ) : Err × FrameStream σ :=
  serveLoop clock S (S.rank f.stream + 1) f

/-! Reading a frame costs the stream below at least its header, so the loops end. -/

theorem readFrame_lowers (S : Stream σ) : Action.Lowers S.rank (readFrame S) :=
  .bind (readFull_lowers S 3) fun _ => .bind (readFull_lowers S _) fun _ => .pure _

theorem readFrame_ok {S : Stream σ} {s t : σ} {frame : UInt8 × Bytes}
    (ok : readFrame S s = (.ok frame, t)) :
    S.rank t < S.rank s ∧ frame.2.length ≤ MaxSegmentSize := by
  obtain ⟨header, s1, first, ok⟩ := Action.of_bind_ok ok
  obtain ⟨payload, s2, second, ok⟩ := Action.of_bind_ok ok
  simp only [Action.pure_apply, Prod.mk.injEq, Except.ok.injEq] at ok
  obtain ⟨rfl, rfl⟩ := ok
  have header_inv := readFull_inv first
  have low := readFull_lowers S (ofBigEndian (header.drop 1)) s1
  rw [second] at low
  have small := ofBigEndian_lt (header.drop 1)
  rw [List.length_drop, header_inv.1] at small
  have lower := header_inv.2 (by decide)
  exact ⟨low.trans_lt lower, by rw [(readFull_inv second).1]; unfold MaxSegmentSize; omega⟩

theorem onStream_ok {α : Type} {x : Action σ α} {f : FrameStream σ} {a : α} {t : σ}
    (ok : x f.stream = (.ok a, t)) :
    onStream x f = (.ok a, { f with stream := t }) := by
  simp only [onStream, ok]

theorem onStream_error {α : Type} {x : Action σ α} {f : FrameStream σ} {e : Err} {t : σ}
    (failed : x f.stream = (.error e, t)) : onStream x f = (.error e, { f with stream := t }) := by
  simp only [onStream, failed]

/-- The rank of a frame stream is that of the stream below. -/
def rankOf (S : Stream σ) (f : FrameStream σ) : Nat := S.rank f.stream

theorem writeFrame_lowers (S : Stream σ) (frameType : UInt8) (payload : Bytes) :
    Action.Lowers S.rank (writeFrame S frameType payload) := by
  unfold writeFrame
  split_ifs
  · exact .fail _
  · exact put_lowers S _

theorem onStream_lowers {α : Type} {S : Stream σ} {x : Action σ α} (lowers : Action.Lowers S.rank x) :
    Action.Lowers (rankOf S) (onStream x) := fun f => lowers f.stream

theorem answer_lowers (clock : Clock) (S : Stream σ) (payload : Bytes) :
    Action.Lowers (rankOf S) (answer clock S payload) := by
  intro f
  unfold answer
  split
  · exact le_rfl
  · exact Action.Lowers.bind (onStream_lowers (writeFrame_lowers S _ _)) (fun _ _ => le_rfl) _

theorem notify_lowers (S : Stream σ) (payload : Bytes) :
    Action.Lowers (rankOf S) (notify payload : Action (FrameStream σ) Unit) := by
  intro f
  unfold notify
  split <;> exact le_rfl

theorem readLoop_lowers (clock : Clock) (S : Stream σ) (fuel : Nat) :
    Action.Lowers (rankOf S) (readLoop clock S fuel) := by
  induction fuel with
  | zero => exact .fail _
  | succ fuel ih =>
    refine .bind (onStream_lowers (readFrame_lowers S)) fun frame => ?_
    dsimp only
    split_ifs
    · exact .pure _
    · exact .bind (answer_lowers clock S _) fun _ => ih
    · exact .bind (notify_lowers S _) fun _ => ih
    · exact fun _ => le_rfl
    · exact .fail _

/-- The first frame is read in any case; what comes after it only lowers the rank. -/
theorem readLoop_ok {clock : Clock} {S : Stream σ} {fuel : Nat} {f g : FrameStream σ} {data : Bytes}
    (ok : readLoop clock S fuel f = (.ok data, g)) :
    rankOf S g < rankOf S f ∧ data.length ≤ MaxSegmentSize := by
  induction fuel generalizing f with
  | zero => simp [readLoop, Action.fail_apply] at ok
  | succ fuel ih =>
    obtain ⟨⟨frameType, payload⟩, f1, first, ok⟩ := Action.of_bind_ok ok
    simp only [onStream, Prod.mk.injEq] at first
    have inv := readFrame_ok (Prod.ext first.1 (congrArg FrameStream.stream first.2))
    dsimp only at ok
    split_ifs at ok
    · simp only [Action.pure_apply, Prod.mk.injEq, Except.ok.injEq] at ok
      obtain ⟨rfl, rfl⟩ := ok
      exact inv
    · obtain ⟨_, f2, second, ok⟩ := Action.of_bind_ok ok
      have low := answer_lowers clock S payload f1
      rw [second] at low
      have later := ih ok
      exact ⟨(later.1.trans_le low).trans inv.1, later.2⟩
    · obtain ⟨_, f2, second, ok⟩ := Action.of_bind_ok ok
      have low := notify_lowers S payload f1
      rw [second] at low
      have later := ih ok
      exact ⟨(later.1.trans_le low).trans inv.1, later.2⟩
    · simp [bandwidthDone] at ok
    · simp [Action.fail_apply] at ok

def source (clock : Clock) (S : Stream σ) : Buffered.Source (FrameStream σ) where
  fetch := fetch clock S
  write := Write S
  rank := rankOf S
  limit := MaxSegmentSize
  fetch_rank_le f := readLoop_lowers clock S _ f
  fetch_ok _ _ _ ok := readLoop_ok ok
  write_rank p f := by
    have low := onStream_lowers (writeFrame_lowers S frameTypeBusiness p) f
    unfold Write
    split_ifs
    · exact le_rfl
    · split <;> rename_i result <;> rw [result] at low <;> exact low

/-- `FrameStream.Read` and `FrameStream.Write` as a stream. -/
def asStream (clock : Clock) (S : Stream σ) : Stream (Buffered (FrameStream σ)) :=
  Buffered.stream (source clock S)

end FrameStream

end Gotun.Tun
