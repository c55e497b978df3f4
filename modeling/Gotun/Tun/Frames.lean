import Gotun.Tun.FrameStream

/-! What the read loop of a `FrameStream` computes: a pure decoder of frames, of which the
business payloads are returned, the valid probe requests answered in order, and the first
frame that is cut off, unknown or malformed ends the stream. -/

namespace Gotun.Tun
open Gotun.Lib Gotun.Core

variable {σ : Type}

/-- The frames that a read loop accepts. -/
inductive Frame where
  | business (payload : Bytes)
  | probeReq (req : ProbeReq)
  | probeResp (resp : ProbeResp)
  deriving DecidableEq, Repr

/-- Type and payload. -/
def Frame.raw : Frame → UInt8 × Bytes
  | .business payload => (frameTypeBusiness, payload)
  | .probeReq req => (frameTypeProbeReq, encodeProbeReq req)
  | .probeResp resp => (frameTypeProbeResp, encodeProbeResp resp)

def Frame.bytes (frame : Frame) : Bytes := frameBytes frame.raw.1 frame.raw.2

def Frame.payload? : Frame → Option Bytes
  | .business payload => some payload
  | _ => none

def Frame.request? : Frame → Option ProbeReq
  | .probeReq req => some req
  | _ => none

/-- One frame off the front, whatever its type. -/
def decodeFrame (w : Bytes) : Option ((UInt8 × Bytes) × Bytes) :=
  if w.length < 3 then none
  else
    let size := ofBigEndian ((w.take 3).drop 1)
    if (w.drop 3).length < size then none
    else some (((w.take 3).getD 0 0, (w.drop 3).take size), (w.drop 3).drop size)

def acceptFrame (frame : UInt8 × Bytes) : Option Frame :=
  if frame.1 = frameTypeBusiness then some (.business frame.2)
  else if frame.1 = frameTypeProbeReq then (decodeProbeReq frame.2).toOption.map .probeReq
  else if frame.1 = frameTypeProbeResp then (decodeProbeResp frame.2).toOption.map .probeResp
  else none

theorem decodeFrame_shrinks {w rest : Bytes} {frame : UInt8 × Bytes}
    (found : decodeFrame w = some (frame, rest)) :
    rest.length < w.length := by
  unfold decodeFrame at found
  dsimp only at found
  split_ifs at found with short shortBody
  simp only [Option.some.injEq, Prod.mk.injEq] at found
  obtain ⟨_, rfl⟩ := found
  simp only [List.length_drop]
  omega

/-- The accepted frames, up to the first one that is not. -/
def frameDecoder : Decoder Frame where
  decode w := (decodeFrame w).bind fun found => (acceptFrame found.1).map fun frame => (frame, found.2)
  shrinks {w block rest} found := by
    obtain ⟨⟨raw, tail⟩, first, accepted⟩ := Option.bind_eq_some_iff.mp found
    obtain ⟨frame, _, same⟩ := Option.map_eq_some_iff.mp accepted
    obtain ⟨_, rfl⟩ := Prod.mk.inj same
    exact decodeFrame_shrinks first

theorem frameDecoder_short {w : Bytes} (short : decodeFrame w = none) :
    frameDecoder.decode w = none := by
  simp only [frameDecoder, short, Option.bind_none]

theorem frameDecoder_accepted {w rest : Bytes} {raw : UInt8 × Bytes} {frame : Frame}
    (found : decodeFrame w = some (raw, rest)) (accepted : acceptFrame raw = some frame) :
    frameDecoder.decode w = some (frame, rest) := by
  simp only [frameDecoder, found, Option.bind_some, accepted, Option.map_some]

theorem frameDecoder_rejected {w rest : Bytes} {raw : UInt8 × Bytes}
    (found : decodeFrame w = some (raw, rest)) (rejected : acceptFrame raw = none) :
    frameDecoder.decode w = none := by
  simp only [frameDecoder, found, Option.bind_some, rejected, Option.map_none]

/-- The business payloads that can be read from `w`. -/
def businessDecoder : Decoder Bytes := frameDecoder.filterMap Frame.payload?

def businessPayloads (w : Bytes) : List Bytes := (frameDecoder.blocks w).filterMap Frame.payload?

/-- The valid probe requests among the accepted frames of `w`. -/
def probeRequests (w : Bytes) : List ProbeReq := (frameDecoder.blocks w).filterMap Frame.request?

theorem businessDecoder_plain (w : Bytes) : businessDecoder.plain w = (businessPayloads w).flatten := by
  rw [Decoder.plain, businessDecoder, frameDecoder.filterMap_blocks, businessPayloads]

theorem probeRequests_stuck {w : Bytes}
    (stuck : frameDecoder.decode w = none) : probeRequests w = [] := by
  rw [probeRequests, frameDecoder.blocks_none stuck, List.filterMap_nil]

theorem probeRequests_some {w rest : Bytes} {frame : Frame}
    (found : frameDecoder.decode w = some (frame, rest)) :
    probeRequests w = frame.request?.toList ++ probeRequests rest := by
  rw [probeRequests, frameDecoder.blocks_some found, List.filterMap_cons]
  cases frame.request? <;> rfl

/-! Written frames decode again. -/

theorem frameBytes_length (frameType : UInt8) (payload : Bytes) :
    (frameBytes frameType payload).length = 3 + payload.length := by
  simp [frameBytes, bigEndian_length]
  omega

private theorem frameBytes_header (frameType : UInt8) (payload : Bytes) :
    frameBytes frameType payload = (frameType :: bigEndian 2 payload.length) ++ payload := rfl

private theorem header_length (frameType : UInt8) (size : Nat) :
    (frameType :: bigEndian 2 size).length = 3 := by
  simp [bigEndian_length]

theorem decodeFrame_bytes (frameType : UInt8) (payload rest : Bytes)
    (fits : payload.length ≤ MaxSegmentSize) :
    decodeFrame (frameBytes frameType payload ++ rest) = some ((frameType, payload), rest) := by
  have size : ofBigEndian (bigEndian 2 payload.length) = payload.length :=
    ofBigEndian_bigEndian_of_lt 2 _ (by unfold MaxSegmentSize at fits; omega)
  have header := header_length frameType payload.length
  rw [frameBytes_header, List.append_assoc]
  simp only [decodeFrame, List.take_left' header, List.drop_left' header, List.drop_succ_cons,
    List.drop_zero, size, List.getD_cons_zero, List.take_left', List.drop_left',
    List.length_append, header]
  rw [if_neg (by omega), if_neg (by omega)]

theorem decodeFrame_cut (frameType : UInt8) (payload : Bytes)
    (fits : payload.length ≤ MaxSegmentSize) (k : Nat)
    (short : k < (frameBytes frameType payload).length) :
    decodeFrame ((frameBytes frameType payload).take k) = none := by
  have size : ofBigEndian (bigEndian 2 payload.length) = payload.length :=
    ofBigEndian_bigEndian_of_lt 2 _ (by unfold MaxSegmentSize at fits; omega)
  have header := header_length frameType payload.length
  rw [frameBytes_length] at short
  unfold decodeFrame
  dsimp only
  split_ifs with shortHeader shortBody
  · rfl
  · rfl
  · rw [List.length_take, frameBytes_length] at shortHeader
    refine absurd shortBody (not_not.mpr ?_)
    rw [List.take_take, min_eq_left (by omega), frameBytes_header, List.take_left' header,
      List.drop_succ_cons, List.drop_zero, size, List.length_drop, List.length_take,
      List.length_append, header]
    omega

@[simp] theorem acceptFrame_business (payload : Bytes) :
    acceptFrame (frameTypeBusiness, payload) = some (.business payload) := rfl

theorem acceptFrame_probeReq (payload : Bytes) :
    acceptFrame (frameTypeProbeReq, payload) = (decodeProbeReq payload).toOption.map .probeReq := rfl

theorem acceptFrame_probeResp (payload : Bytes) :
    acceptFrame (frameTypeProbeResp, payload) = (decodeProbeResp payload).toOption.map .probeResp := rfl

theorem acceptFrame_other {frameType : UInt8} (payload : Bytes)
    (business : frameType ≠ frameTypeBusiness) (asks : frameType ≠ frameTypeProbeReq)
    (answers : frameType ≠ frameTypeProbeResp) :
    acceptFrame (frameType, payload) = none := by
  rw [acceptFrame, if_neg business, if_neg asks, if_neg answers]

theorem acceptFrame_raw (frame : Frame) : acceptFrame frame.raw = some frame := by
  cases frame with
  | business payload => rfl
  | probeReq req =>
    rw [Frame.raw, acceptFrame_probeReq, decodeProbeReq_encode]
    rfl
  | probeResp resp =>
    rw [Frame.raw, acceptFrame_probeResp, decodeProbeResp_encode]
    rfl

def frameCodec : Codec Frame Frame where
  toDecoder := frameDecoder
  encode := Frame.bytes
  value := id
  Valid frame := frame.raw.2.length ≤ MaxSegmentSize
  decode_encode {frame} rest valid :=
    frameDecoder_accepted (decodeFrame_bytes frame.raw.1 frame.raw.2 rest valid) (acceptFrame_raw frame)
  decode_cut {frame} k valid short :=
    frameDecoder_short (decodeFrame_cut frame.raw.1 frame.raw.2 valid k short)

/-- A cut frame is short, not malformed. -/
theorem frameCodec_cut {w : Bytes} (cut : frameCodec.Cut w) : decodeFrame w = none := by
  cases cut with
  | nil => rfl
  | @within frame k valid short => exact decodeFrame_cut frame.raw.1 frame.raw.2 valid k short

/-! The read loop refines the decoder. -/

section refinement

variable {S : Stream σ} {Holds : σ → Bytes → Prop} {End : σ → Prop} {Fits : Bytes → Prop}
variable {Logged : σ → List Bytes → Prop}

theorem readFrame_some (delivers : Delivers S Holds) {s : σ} {w rest : Bytes} {raw : UInt8 × Bytes}
    (held : Holds s w) (found : decodeFrame w = some (raw, rest)) :
    ∃ t, readFrame S s = (.ok raw, t) ∧ Holds t rest := by
  unfold decodeFrame at found
  dsimp only at found
  split_ifs at found with short shortBody
  simp only [Option.some.injEq, Prod.mk.injEq] at found
  obtain ⟨rfl, rfl⟩ := found
  obtain ⟨s1, first, held1⟩ := delivers.readFull_ok 3 held (Nat.not_lt.mp short)
  obtain ⟨s2, second, held2⟩ := delivers.readFull_ok _ held1 (Nat.not_lt.mp shortBody)
  refine ⟨s2, ?_, held2⟩
  rw [readFrame, Action.bind_ok _ first, Action.bind_ok _ second, Action.pure_apply]

/-- A frame that is cut off is read up to its end. -/
theorem readFrame_none (ends : Ends S Holds End) {s : σ} {w : Bytes} (held : Holds s w)
    (short : decodeFrame w = none) : ∃ e t, readFrame S s = (.error e, t) ∧ End t := by
  unfold decodeFrame at short
  dsimp only at short
  rw [readFrame]
  split_ifs at short with shortHeader shortBody
  · obtain ⟨e, t, failed, ended⟩ := ends.readFull_short 3 held shortHeader
    exact ⟨e, t, Action.bind_error _ failed, ended⟩
  · obtain ⟨s1, first, held1⟩ := ends.readFull_ok 3 held (Nat.not_lt.mp shortHeader)
    obtain ⟨e, t, failed, ended⟩ := ends.readFull_short _ held1 shortBody
    rw [Action.bind_ok _ first]
    exact ⟨e, t, Action.bind_error _ failed, ended⟩

theorem readFrame_keeps (sends : Sends S Fits Logged) (log : List Bytes) :
    Action.Keeps (fun s => Logged s log) (readFrame S) :=
  .bind (sends.readFull log 3) fun _ => .bind (sends.readFull log _) fun _ => .pure _

/-- The request that a response echoes. -/
def ProbeResp.request (resp : ProbeResp) : ProbeReq := ⟨resp.Seq, resp.SentUnixNano⟩

/-- The probe responses among the writes to the stream below. -/
def responsesIn (log : List Bytes) : List Bytes :=
  log.filter fun bytes => bytes.head? = some frameTypeProbeResp

namespace FrameStream

/-- A frame stream with `w` below it has written exactly the responses in `replied`, and with
those still to be asked for by `w` it will have answered `requests`. -/
structure Serves (Holds : σ → Bytes → Prop) (Logged : σ → List Bytes → Prop) (requests : List ProbeReq)
    (f : FrameStream σ) (w : Bytes) : Prop where
  below : Holds f.stream w
  written : ∃ log, Logged f.stream log ∧
    responsesIn log = f.replied.map fun resp => (Frame.probeResp resp).bytes
  answered : f.replied.map ProbeResp.request ++ probeRequests w = requests

theorem WriteProbeResp_ok (sends : Sends S Fits Logged)
    (fits : ∀ resp, Fits (Frame.probeResp resp).bytes) {f : FrameStream σ} {log : List Bytes}
    (resp : ProbeResp) (logged : Logged f.stream log) :
    WriteProbeResp S resp f = (.ok (), { f with
      stream := (S.write (Frame.probeResp resp).bytes f.stream).next,
        replied := f.replied ++ [resp] }) := by
  have out : writeFrame S frameTypeProbeResp (encodeProbeResp resp) f.stream =
      (.ok (), (S.write (Frame.probeResp resp).bytes f.stream).next) := by
    rw [writeFrame, if_neg (by simp [MaxSegmentSize])]
    exact (sends.put logged (fits resp)).1
  exact Action.bind_ok _ (onStream_ok out)

theorem answer_ok (clock : Clock) (delivers : Delivers S Holds) (sends : Sends S Fits Logged)
    (fits : ∀ resp, Fits (Frame.probeResp resp).bytes) {requests : List ProbeReq}
    {f : FrameStream σ} {w rest : Bytes} {payload : Bytes} {req : ProbeReq}
    (decoded : decodeProbeReq payload = .ok req)
    (first : frameDecoder.decode w = some (.probeReq req, rest)) (held : Holds f.stream rest)
    (written : ∃ log, Logged f.stream log ∧
      responsesIn log = f.replied.map fun resp => (Frame.probeResp resp).bytes)
    (answered : f.replied.map ProbeResp.request ++ probeRequests w = requests) :
    ∃ g, answer clock S payload f = (.ok (), g) ∧ Serves Holds Logged requests g rest := by
  obtain ⟨log, logged, responses⟩ := written
  let resp : ProbeResp := ⟨req.Seq, req.SentUnixNano, clock f.clock⟩
  have accepted := sends.put logged (fits resp)
  refine ⟨⟨(S.write (Frame.probeResp resp).bytes f.stream).next, f.role, f.probeWaiters, f.clock + 1,
    f.replied ++ [resp]⟩, ?_, ⟨delivers.write _ held, ⟨_, accepted.2, ?_⟩, ?_⟩⟩
  · rw [answer, decoded]
    exact WriteProbeResp_ok sends fits (f := { f with clock := f.clock + 1 }) resp logged
  · simp only [responsesIn, List.filter_append, List.map_append, List.map_cons, List.map_nil]
    rw [← responsesIn, responses]
    rfl
  · rw [← answered, probeRequests_some first, List.map_append, List.append_assoc]
    rfl

theorem notify_ok {requests : List ProbeReq} {f : FrameStream σ} {w : Bytes} {payload : Bytes}
    {resp : ProbeResp} (decoded : decodeProbeResp payload = .ok resp)
    (serves : Serves Holds Logged requests f w) :
    ∃ g, notify payload f = (.ok (), g) ∧ Serves Holds Logged requests g w := by
  refine ⟨(notifyProbeWaiter resp f).2, ?_, ⟨serves.below, serves.written, serves.answered⟩⟩
  rw [notify, decoded]
  rfl

/-- The state in which a read loop that fails on `w` leaves the stream: every request is
answered, and where a cut frame was the reason, the stream below has ended. -/
structure Served (Logged : σ → List Bytes → Prop) (End : σ → Prop) (requests : List ProbeReq) (w : Bytes)
    (g : FrameStream σ) : Prop where
  written : ∃ log, Logged g.stream log ∧
    responsesIn log = g.replied.map fun resp => (Frame.probeResp resp).bytes
  answered : g.replied.map ProbeResp.request = requests
  ended : decodeFrame (frameDecoder.tail w) = none → End g.stream

/-- What a read loop on `w` has to do: return the next business payload and serve the rest, or
fail for want of one. -/
def Reads (Holds : σ → Bytes → Prop) (Logged : σ → List Bytes → Prop) (End : σ → Prop)
    (requests : List ProbeReq) (w : Bytes) (result : Except Err Bytes × FrameStream σ) : Prop :=
  match businessDecoder.decode w with
  | some (payload, rest) => result.1 = .ok payload ∧ Serves Holds Logged requests result.2 rest
  | none => (∃ e, result.1 = .error e) ∧ Served Logged End requests w result.2

variable {requests : List ProbeReq} {f : FrameStream σ} {w rest : Bytes} {frame : Frame}

theorem Reads.of_business {payload : Bytes}
    (first : frameDecoder.decode w = some (.business payload, rest))
    (serves : Serves Holds Logged requests f rest) :
    Reads Holds Logged End requests w (.ok payload, f) := by
  have picked : Frame.payload? (.business payload) = some payload := rfl
  rw [Reads, businessDecoder, frameDecoder.filterMap_picked first picked]
  exact ⟨rfl, serves⟩

theorem Reads.of_skipped {result : Except Err Bytes × FrameStream σ}
    (first : frameDecoder.decode w = some (frame, rest)) (skipped : frame.payload? = none)
    (reads : Reads Holds Logged End requests rest result) :
    Reads Holds Logged End requests w result := by
  rw [Reads, businessDecoder, frameDecoder.filterMap_skipped first skipped]
  unfold Reads at reads
  revert reads
  rw [businessDecoder]
  cases (frameDecoder.filterMap Frame.payload?).decode rest with
  | some found => exact id
  | none =>
    rintro ⟨failed, served⟩
    exact ⟨failed, served.written, served.answered, frameDecoder.tail_some first ▸ served.ended⟩

theorem Reads.of_stuck {e : Err} (stuck : frameDecoder.decode w = none)
    (answered : f.replied.map ProbeResp.request = requests)
    (written : ∃ log, Logged f.stream log ∧
      responsesIn log = f.replied.map fun resp => (Frame.probeResp resp).bytes)
    (ended : decodeFrame w = none → End f.stream) :
    Reads Holds Logged End requests w (.error e, f) := by
  rw [Reads, businessDecoder, frameDecoder.filterMap_none _ stuck]
  exact ⟨⟨e, rfl⟩, written, answered, (frameDecoder.tail_none stuck).symm ▸ ended⟩

theorem readLoop_reads (clock : Clock) (ends : Ends S Holds End) (sends : Sends S Fits Logged)
    (fits : ∀ resp, Fits (Frame.probeResp resp).bytes) (fuel : Nat) (enough : rankOf S f < fuel)
    (serves : Serves Holds Logged requests f w) :
    Reads Holds Logged End requests w (readLoop clock S fuel f) := by
  induction fuel generalizing f w with
  | zero => omega
  | succ fuel ih =>
    obtain ⟨log, logged, responses⟩ := serves.written
    have kept := readFrame_keeps sends log _ logged
    rcases found : decodeFrame w with _ | ⟨⟨frameType, payload⟩, rest⟩
    · obtain ⟨e, t, failed, ended⟩ := readFrame_none ends serves.below found
      have stuck := frameDecoder_short found
      rw [failed] at kept
      rw [readLoop, Action.bind_error _ (onStream_error failed)]
      refine .of_stuck stuck ?_ ⟨log, kept, responses⟩ fun _ => ended
      rw [← serves.answered, probeRequests_stuck stuck, List.append_nil]
    obtain ⟨t, ok, held⟩ := readFrame_some ends.toDelivers serves.below found
    rw [ok] at kept
    have lower := (readFrame_ok ok).1
    have full : decodeFrame w = none → End t := by simp [found]
    have rejected (none_accepted : acceptFrame (frameType, payload) = none) (e : Err) :
        Reads Holds Logged End requests w (.error e, { f with stream := t }) := by
      have stuck := frameDecoder_rejected found none_accepted
      refine .of_stuck stuck ?_ ⟨log, kept, responses⟩ full
      rw [← serves.answered, probeRequests_stuck stuck, List.append_nil]
    rw [readLoop, Action.bind_ok _ (onStream_ok ok)]
    dsimp only
    split_ifs with business asks answers done
    · subst business
      have first := frameDecoder_accepted found (acceptFrame_business payload)
      refine .of_business first ⟨held, ⟨log, kept, responses⟩, ?_⟩
      rw [← serves.answered, probeRequests_some first]
      rfl
    · subst asks
      rcases decoded : decodeProbeReq payload with e | req
      · rw [Action.bind_error _ (by rw [answer, decoded])]
        exact rejected (by rw [acceptFrame_probeReq, decoded]; rfl) e
      · have first := frameDecoder_accepted found (by rw [acceptFrame_probeReq, decoded]; rfl)
        obtain ⟨g, replied, after⟩ := answer_ok clock ends.toDelivers sends fits
          (f := { f with stream := t }) decoded first held ⟨log, kept, responses⟩ serves.answered
        have low := answer_lowers clock S payload { f with stream := t }
        rw [replied] at low
        rw [Action.bind_ok _ replied]
        exact .of_skipped first rfl (ih (low.trans_lt (lower.trans_le (Nat.le_of_lt_succ enough))) after)
    · subst answers
      rcases decoded : decodeProbeResp payload with e | resp
      · rw [Action.bind_error _ (by rw [notify, decoded])]
        exact rejected (by rw [acceptFrame_probeResp, decoded]; rfl) e
      · have first := frameDecoder_accepted found (by rw [acceptFrame_probeResp, decoded]; rfl)
        have answered := serves.answered
        rw [probeRequests_some first] at answered
        have serves : Serves Holds Logged requests { f with stream := t } rest :=
          ⟨held, ⟨log, kept, responses⟩, answered⟩
        obtain ⟨g, told, after⟩ := notify_ok decoded serves
        have low := notify_lowers S payload { f with stream := t }
        rw [told] at low
        rw [Action.bind_ok _ told]
        exact .of_skipped first rfl (ih (low.trans_lt (lower.trans_le (Nat.le_of_lt_succ enough))) after)
    · exact rejected (acceptFrame_other payload business asks answers) _
    · exact rejected (acceptFrame_other payload business asks answers) _

theorem Write_next (S : Stream σ) (p : Bytes) (f : FrameStream σ) :
    (Write S p f).next = if p = [] ∨ MaxSegmentSize < p.length then f
      else { f with stream := (S.write (frameBytes frameTypeBusiness p) f.stream).next } := by
  by_cases empty : p = []
  · rw [if_pos (Or.inl empty), Write, if_pos empty]
  have next :
      (Write S p f).next = { f with stream := (writeFrame S frameTypeBusiness p f.stream).2 } := by
    rcases result : writeFrame S frameTypeBusiness p f.stream with ⟨e | _, t⟩
    · rw [Write, if_neg empty, onStream_error result]
    · rw [Write, if_neg empty, onStream_ok result]
  rw [next, writeFrame]
  split_ifs with large refused refused
  · rfl
  · exact absurd (Or.inr large) refused
  · exact absurd refused (not_or.mpr ⟨empty, large⟩)
  · rw [put_next]

theorem Write_sent {p : Bytes} {t : σ} (some_bytes : p ≠ []) (small : p.length ≤ MaxSegmentSize)
    (ok : put S (frameBytes frameTypeBusiness p) f.stream = (.ok (), t)) :
    Write S p f = ⟨p.length, none, { f with stream := t }⟩ := by
  have sent : writeFrame S frameTypeBusiness p f.stream = (.ok (), t) := by
    rw [writeFrame, if_neg (Nat.not_lt.mpr small)]
    exact ok
  rw [Write, if_neg some_bytes, onStream_ok sent]

/-- Each business write goes out in a write of its own. -/
theorem asStream_takes (clock : Clock) (before : List Bytes) {limit : Nat}
    (small : limit ≤ MaxSegmentSize) (takes : Takes (limit + 3) S Logged) :
    Takes limit (asStream clock S)
      fun b log => Logged b.base.stream (before ++ log.map (frameBytes frameTypeBusiness)) where
  write {b log} p logged some_bytes fits := by
    have length := frameBytes_length frameTypeBusiness p
    have some_frame : frameBytes frameTypeBusiness p ≠ [] := List.cons_ne_nil _ _
    obtain ⟨ok, next⟩ := takes.put logged some_frame (by omega)
    have sent := Write_sent (S := S) (f := b.base) some_bytes (fits.trans small) ok
    simp only [asStream, Buffered.stream, Buffered.write, source, sent]
    refine ⟨trivial, trivial, ?_⟩
    rwa [List.map_append, ← List.append_assoc]

/-- A business write puts a frame below that is no response. -/
theorem Write_serves (delivers : Delivers S Holds) (sends : Sends S Fits Logged) (p : Bytes)
    (serves : Serves Holds Logged requests f w) : Serves Holds Logged requests (Write S p f).next w := by
  obtain ⟨log, logged, responses⟩ := serves.written
  rw [Write_next]
  split_ifs with refused
  · exact serves
  refine ⟨delivers.write _ serves.below, ?_, serves.answered⟩
  by_cases fit : Fits (frameBytes frameTypeBusiness p)
  · refine ⟨_, (sends.write _ logged fit).2.2, ?_⟩
    rw [responsesIn, List.filter_append, ← responsesIn, responses, List.filter_singleton]
    exact List.append_nil _
  · exact ⟨log, sends.refused _ logged fit, responses⟩

theorem fetch_reads (clock : Clock) (ends : Ends S Holds End) (sends : Sends S Fits Logged)
    (fits : ∀ resp, Fits (Frame.probeResp resp).bytes) (serves : Serves Holds Logged requests f w) :
    Reads Holds Logged End requests w (fetch clock S f) :=
  readLoop_reads clock ends sends fits _ (Nat.lt_succ_self _) serves

theorem source_fetches (clock : Clock) (ends : Ends S Holds End) (sends : Sends S Fits Logged)
    (fits : ∀ resp, Fits (Frame.probeResp resp).bytes) (requests : List ProbeReq) :
    Buffered.Fetches (source clock S) businessDecoder (Serves Holds Logged requests) where
  some_block {f w block rest} serves found := by
    have reads := fetch_reads clock ends sends fits serves
    rw [Reads, found] at reads
    exact ⟨_, Prod.ext reads.1 rfl, reads.2⟩
  no_block {f w} serves stuck := by
    have reads := fetch_reads clock ends sends fits serves
    rw [Reads, stuck] at reads
    obtain ⟨⟨e, failed⟩, _⟩ := reads
    exact ⟨e, _, Prod.ext failed rfl⟩
  write p serves := Write_serves ends.toDelivers sends p serves

theorem fetch_served (clock : Clock) (ends : Ends S Holds End) (sends : Sends S Fits Logged)
    (fits : ∀ resp, Fits (Frame.probeResp resp).bytes) {g : FrameStream σ} {e : Err}
    (serves : Serves Holds Logged requests f w) (stuck : businessDecoder.decode w = none)
    (failed : (source clock S).fetch f = (.error e, g)) : Served Logged End requests w g := by
  have reads := fetch_reads clock ends sends fits serves
  rw [Reads, stuck] at reads
  have same : g = (fetch clock S f).2 := (congrArg Prod.snd failed).symm
  exact same ▸ reads.2

/-- Whatever arrives, a frame stream delivers the business payloads of the accepted frames, and
when a read fails every valid request among them has been answered. -/
theorem asStream_ends (clock : Clock) (delivers : Delivers S Holds) (sends : Sends S Fits Logged)
    (fits : ∀ resp, Fits (Frame.probeResp resp).bytes) (requests : List ProbeReq) :
    Ends (asStream clock S) (Buffered.HoldsBlocks businessDecoder (Serves Holds Logged requests))
      (fun b => b.rest = [] ∧ ∃ w, Served Logged (fun _ => True) requests w b.base) := by
  have ends : Ends S Holds (fun _ => True) := ⟨delivers, fun _ _ _ _ => trivial⟩
  have served {f : FrameStream σ} {w : Bytes} {e : Err} {g : FrameStream σ}
    (serves : Serves Holds Logged requests f w)
      (stuck : businessDecoder.decode w = none) (failed : (source clock S).fetch f = (.error e, g)) :
      ∃ w, Served Logged (fun _ => True) requests w g :=
    ⟨w, fetch_served clock ends sends fits serves stuck failed⟩
  exact (source_fetches clock ends sends fits requests).ends served

/-- What a frame stream holds when its peer is an honest writer. -/
def HoldsFrames (Holds : σ → Bytes → Prop) (Logged : σ → List Bytes → Prop)
    (b : Buffered (FrameStream σ)) (v : Bytes) : Prop :=
  Buffered.HoldsBlocks businessDecoder
    (fun f w => (∃ requests, Serves Holds Logged requests f w) ∧ ∃ items, frameCodec.Written w items) b v

/-- On the bytes of an honest writer a frame stream fails for want of bytes only. -/
theorem asStream_drains (clock : Clock) (drains : Drains S Holds) (sends : Sends S Fits Logged)
    (fits : ∀ resp, Fits (Frame.probeResp resp).bytes) :
    Drains (asStream clock S) (HoldsFrames Holds Logged) := by
  show Drains (Buffered.stream (source clock S)) (Buffered.HoldsBlocks businessDecoder fun f w =>
    (∃ requests, Serves Holds Logged requests f w) ∧ ∃ items, frameCodec.Written w items)
  refine Buffered.Fetches.drains ⟨?_, ?_, ?_⟩ ?_
  · rintro f w block rest ⟨⟨requests, serves⟩, items, written⟩ found
    obtain ⟨g, ok, after⟩ := (source_fetches clock drains sends fits requests).some_block serves found
    exact ⟨g, ok, ⟨requests, after⟩, written.rest_filterMap found⟩
  · rintro f w ⟨⟨requests, serves⟩, _⟩ stuck
    exact (source_fetches clock drains sends fits requests).no_block serves stuck
  · rintro f w p ⟨⟨requests, serves⟩, written⟩
    exact ⟨⟨requests, Write_serves drains.toDelivers sends p serves⟩, written⟩
  · rintro f w e g ⟨⟨requests, serves⟩, items, written⟩ stuck failed
    have served := fetch_served clock drains sends fits serves stuck failed
    refine ⟨⟨g.replied.map ProbeResp.request, served.ended (frameCodec_cut written.tail),
      served.written, ?_⟩, [], .cut .nil⟩
    rw [probeRequests_stuck frameDecoder.decode_nil, List.append_nil]

/-- What a frame stream holds when its peer only ever writes payloads. -/
def HoldsPayloads (Holds : σ → Bytes → Prop) (f : FrameStream σ) (w : Bytes) : Prop :=
  Holds f.stream w ∧ ∃ payloads : List Bytes, frameCodec.Written w (payloads.map .business)

/-- A read of payloads is one read of a frame, whatever comes of it. -/
theorem fetch_payloads (clock : Clock) (delivers : Delivers S Holds) (held : HoldsPayloads Holds f w) :
    (∃ p rest t, businessDecoder.decode w = some (p, rest) ∧
      readFrame S f.stream = (.ok (frameTypeBusiness, p), t) ∧
      fetch clock S f = (.ok p, { f with stream := t }) ∧
        HoldsPayloads Holds { f with stream := t } rest) ∨
    ∃ e t, businessDecoder.decode w = none ∧ readFrame S f.stream = (.error e, t) ∧
      fetch clock S f = (.error e, { f with stream := t }) := by
  obtain ⟨below, payloads, written⟩ := held
  cases payloads with
  | nil =>
    cases written with
    | cut cut =>
      have ends : Ends S Holds (fun _ => True) := ⟨delivers, fun _ _ _ _ => trivial⟩
      obtain ⟨e, t, failed, _⟩ := readFrame_none ends below (frameCodec_cut cut)
      refine Or.inr ⟨e, t, frameDecoder.filterMap_none _ cut.decode, failed, ?_⟩
      exact Action.bind_error _ (onStream_error failed)
  | cons p payloads =>
    cases written with
    | @whole _ rest _ valid written =>
      obtain ⟨t, ok, left⟩ :=
        readFrame_some delivers below (decodeFrame_bytes frameTypeBusiness p rest valid)
      have found : businessDecoder.decode (frameCodec.encode (.business p) ++ rest) = some (p, rest) :=
        frameDecoder.filterMap_picked (frameCodec.decode_encode rest valid) rfl
      refine Or.inl ⟨p, rest, t, found, ok, ?_, left, payloads, written⟩
      rw [fetch, readLoop, Action.bind_ok _ (onStream_ok ok)]
      rfl

theorem payloads_fetches (clock : Clock) (delivers : Delivers S Holds) :
    Buffered.Fetches (source clock S) businessDecoder (HoldsPayloads Holds) where
  some_block {f w block rest} held found := by
    rcases fetch_payloads clock delivers held with ⟨p, rest', t, found', _, ok, left⟩ | ⟨e, t, stuck, _⟩
    · obtain ⟨rfl, rfl⟩ := Prod.mk.inj (Option.some.inj (found.symm.trans found'))
      exact ⟨_, ok, left⟩
    · rw [stuck] at found
      cases found
  no_block {f w} held stuck := by
    rcases fetch_payloads clock delivers held with ⟨p, rest, t, found, _⟩ | ⟨e, t, _, _, failed⟩
    · rw [stuck] at found
      cases found
    · exact ⟨e, _, failed⟩
  write {f w} p held := by
    show HoldsPayloads Holds (Write S p f).next w
    rw [Write_next]
    split_ifs
    · exact held
    · exact ⟨delivers.write _ held.1, held.2⟩

/-- Payloads are read without a write below. -/
theorem payloads_keep (clock : Clock) (delivers : Delivers S Holds) {P : σ → Prop}
    (kept : ∀ n s, P s → P (S.read n s).next) (n : Nat) {b : Buffered (FrameStream σ)} {v : Bytes}
    (held : Buffered.HoldsBlocks businessDecoder (HoldsPayloads Holds) b v)
    (first : P b.base.stream) :
    P ((asStream clock S).read n b).next.base.stream := by
  obtain ⟨w, below, _⟩ := held
  have reads : Action.Keeps P (readFrame S) :=
    .bind (readFull_keeps kept 3) fun _ => .bind (readFull_keeps kept _) fun _ => .pure _
  have after := reads _ first
  show P (Buffered.read (fetch clock S) n b).next.base.stream
  by_cases empty : b.rest = []
  · rcases fetch_payloads clock delivers below with
      ⟨p, rest, t, _, frame, ok, _⟩ | ⟨e, t, _, frame, failed⟩
    · rw [frame] at after
      rw [Buffered.read_ok n empty ok]
      exact after
    · rw [frame] at after
      rw [Buffered.read_error n empty failed]
      exact after
  · rw [Buffered.read_rest _ n b empty]
    exact first

end FrameStream

end refinement

end Gotun.Tun
