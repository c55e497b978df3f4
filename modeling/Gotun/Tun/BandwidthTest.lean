import Gotun.Tun.HandOver

/-! `RunBandwidthTest` of `tun/bandwidth.go` against the `ServeBandwidthLoop` of its peer: what the
client counts of what the server has sent. -/

namespace Gotun.Tun
open Gotun.Lib Gotun.Core Gotun.Crypto

variable {σ : Type}

inductive BandwidthStatus where
  | Disabled
  | Idle
  | OK
  | Error
  deriving DecidableEq, Repr

/-- `totalBytes` stands for `Mbps`, which divides it by the time the reads took; `LastError` is
shown by its text. -/
structure BandwidthSummary where
  Status : BandwidthStatus
  totalBytes : Nat
  LastError : Option Err
  deriving DecidableEq, Repr

/-- The ten seconds of `bandwidthTestDuration`, in milliseconds. -/
def bandwidthTestDuration : Nat := 10000

def bandwidthChunkSize : Nat := 32768

/-- What a test asks of an output. -/
structure BandwidthOutput (σ : Type) where
  FrameHeaderEnabled : Bool
  GetBandwidthStream : Except Err σ

def requestBytes (req : bandwidthRequest) : Bytes :=
  req.Mode :: bigEndian 4 req.DurationMS ++ bigEndian 4 req.ChunkSize

def writeBandwidthRequest (S : Stream σ) (req : bandwidthRequest) : Action σ Unit :=
  put S (requestBytes req)

def openBandwidthStream (out : BandwidthOutput σ) (helper : CryptoHelper) (rand : Rand) (S : Stream σ) :
    Except Err (Buffered (FrameStream (CryptoStream σ))) :=
  match out.GetBandwidthStream with
  | .error e => .error e
  | .ok raw =>
    match helper.WrapBandwidthDst rand S raw with
    | .error e => .error e
    | .ok (.inl _) => .error (.failed "bandwidth stream is not frame stream")
    | .ok (.inr frameStream) => .ok frameStream

/-- The loop of the client: it adds up what it reads until a read fails. -/
def countLoop (S : Stream σ) (size : Nat) : Nat → Nat → σ → Except Err Nat × σ
  | 0, _, s => (.error .unexpectedEOF, s)
  | fuel + 1, totalBytes, s =>
      let r := S.read size s
      match r.err with
      | none => countLoop S size fuel (totalBytes + r.data.length) r.next
      | some readErr =>
        if readErr = .eof then (.ok (totalBytes + r.data.length), r.next)
        else (.error readErr, r.next)

/-- A summary, the error returned with it, and the stream at its end where one was opened. -/
structure BandwidthRun (σ : Type) where
  summary : BandwidthSummary
  err : Option Err
  stream : Option (Buffered (FrameStream (CryptoStream σ)))

def BandwidthRun.failed (e : Err)
    (stream : Option (Buffered (FrameStream (CryptoStream σ)))) : BandwidthRun σ :=
  ⟨⟨.Error, 0, some e⟩, some e, stream⟩

def downloadRequest : bandwidthRequest :=
  ⟨bandwidthModeDownload, bandwidthTestDuration, bandwidthChunkSize⟩

/-- What the client makes of its loop. -/
def BandwidthRun.ofLoop : Except Err Nat × Buffered (FrameStream (CryptoStream σ)) → BandwidthRun σ
  | (.error e, stream) => .failed e (some stream)
  | (.ok totalBytes, stream) => ⟨⟨.OK, totalBytes, none⟩, none, some stream⟩

theorem BandwidthRun.ofLoop_ok {result : Except Err Nat × Buffered (FrameStream (CryptoStream σ))}
    (fine : (ofLoop result).summary.Status = .OK) :
    result.1 = .ok (ofLoop result).summary.totalBytes := by
  obtain ⟨e | totalBytes, stream⟩ := result
  · exact absurd fine (by simp [ofLoop, failed])
  · rfl

theorem BandwidthRun.ofLoop_whole
    {result : Except Err Nat × Buffered (FrameStream (CryptoStream σ))} {totalBytes : Nat}
    (counts : result.1 = .ok totalBytes) :
    (ofLoop result).summary = ⟨.OK, totalBytes, none⟩ ∧ (ofLoop result).err = none := by
  obtain ⟨_, stream⟩ := result
  obtain rfl := counts
  exact ⟨rfl, rfl⟩

def RunBandwidthTest (out : Option (BandwidthOutput σ)) (helper : Option CryptoHelper) (rand : Rand)
    (clock : FrameStream.Clock) (S : Stream σ) : BandwidthRun σ :=
  match out, helper with
  | some out, some helper =>
    if out.FrameHeaderEnabled = false then
      ⟨⟨.Disabled, 0, some (.failed "frame_header_enable disabled")⟩, none, none⟩
    else match openBandwidthStream out helper rand S with
      | .error e => .failed e none
      | .ok stream =>
        let frames := FrameStream.asStream clock (helper.DstCrypto rand S)
        match writeBandwidthRequest frames downloadRequest stream with
        | (.error e, stream) => .failed e (some stream)
        | (.ok _, stream) =>
          .ofLoop (countLoop frames downloadRequest.ChunkSize (frames.rank stream + 1) 0 stream)
  | _, _ => .failed (.failed "bandwidth test not ready") none

/-- What a run has put on its connection. -/
def BandwidthRun.sent (run : BandwidthRun Conn) : Bytes := run.stream.elim [] fun b => sentOf (.inr b)

theorem BandwidthRun.ofLoop_sent (result : Except Err Nat × Buffered (FrameStream (CryptoStream Conn))) :
    (ofLoop result).sent = result.2.base.stream.base.rw.sent := by
  obtain ⟨e | totalBytes, stream⟩ := result
  · rfl
  · rfl

/-- What a handler has put on the connection of an input stream. -/
def Handled.sent (handled : Handled) : Bytes := handled.src.elim [] sentOf

/-! One frame. -/

def chunkFrame (size : Nat) : Bytes := frameBytes frameTypeBusiness (List.replicate size 0)

def doneFrame : Bytes := frameBytes frameTypeBandwidthDone []

section frames

variable {S : Stream σ} {Holds : σ → Bytes → Prop} {Fits : Bytes → Prop} {Logged : σ → List Bytes → Prop}
variable (clock : FrameStream.Clock) {f : FrameStream σ} {t : σ} {p u : Bytes} {log : List Bytes}

theorem fetch_business (read : readFrame S f.stream = (.ok (frameTypeBusiness, p), t)) :
    FrameStream.fetch clock S f = (.ok p, { f with stream := t }) := by
  rw [FrameStream.fetch, FrameStream.readLoop, Action.bind_ok _ (FrameStream.onStream_ok read)]
  rfl

theorem fetch_done (role : f.role = .Bandwidth)
    (read : readFrame S f.stream = (.ok (frameTypeBandwidthDone, p), t)) :
    FrameStream.fetch clock S f = (.error .eof, { f with stream := t }) := by
  have named : FrameStream.bandwidthDone { f with stream := t } =
      (.error .eof, { f with stream := t }) := by
    rw [FrameStream.bandwidthDone, if_pos role]
  rw [FrameStream.fetch, FrameStream.readLoop, Action.bind_ok _ (FrameStream.onStream_ok read)]
  exact named

theorem fetch_failed {e : Err} (read : readFrame S f.stream = (.error e, t)) :
    FrameStream.fetch clock S f = (.error e, { f with stream := t }) := by
  rw [FrameStream.fetch, FrameStream.readLoop, Action.bind_error _ (FrameStream.onStream_error read)]

theorem read_fetched {data : Bytes} {n : Nat} (small : data.length ≤ n)
    (ok : FrameStream.fetch clock S f = (.ok data, { f with stream := t })) :
    (FrameStream.asStream clock S).read n ⟨f, []⟩ = ⟨data, none, ⟨{ f with stream := t }, []⟩⟩ := by
  have whole : Buffered.read (FrameStream.fetch clock S) n ⟨f, []⟩ =
      ⟨data.take n, none, ⟨{ f with stream := t }, data.drop n⟩⟩ := Buffered.read_ok n rfl ok
  rw [List.take_of_length_le small, List.drop_eq_nil_of_le small] at whole
  exact whole

theorem read_failed {e : Err} (n : Nat)
    (failed : FrameStream.fetch clock S f = (.error e, { f with stream := t })) :
    (FrameStream.asStream clock S).read n ⟨f, []⟩ = ⟨[], some e, ⟨{ f with stream := t }, []⟩⟩ := by
  show Buffered.read (FrameStream.fetch clock S) n ⟨f, []⟩ = _
  exact Buffered.read_error n rfl failed

/-- A frame that has not arrived as a whole. -/
theorem readFrame_cut (delivers : Delivers S Holds) (sends : Sends S Fits Logged) {s : σ}
    (frameType : UInt8) (small : p.length ≤ MaxSegmentSize) (held : Holds s u)
    (logged : Logged s log) (cut : u <+: frameBytes frameType p)
    (short : u ≠ frameBytes frameType p) : ∃ e t, readFrame S s = (.error e, t) ∧ Logged t log := by
  have ends : Ends S Holds (fun _ => True) := ⟨delivers, fun _ _ _ _ => trivial⟩
  have less : u.length < (frameBytes frameType p).length :=
    lt_of_le_of_ne cut.length_le fun same => short (cut.eq_of_length same)
  have stuck : decodeFrame u = none := by
    rw [List.prefix_iff_eq_take.mp cut]
    exact decodeFrame_cut frameType p small u.length less
  obtain ⟨e, t, failed, _⟩ := readFrame_none ends held stuck
  have kept := readFrame_keeps sends log s logged
  rw [failed] at kept
  exact ⟨e, t, failed, kept⟩

/-- The first of the frames that have arrived. -/
theorem readFrame_first (delivers : Delivers S Holds) (sends : Sends S Fits Logged) {s : σ}
    (frameType : UInt8) {rest : Bytes} (small : p.length ≤ MaxSegmentSize)
    (held : Holds s (frameBytes frameType p ++ rest)) (logged : Logged s log) :
    ∃ t, readFrame S s = (.ok (frameType, p), t) ∧ Holds t rest ∧ Logged t log := by
  obtain ⟨t, ok, left⟩ := readFrame_some delivers held (decodeFrame_bytes frameType p rest small)
  have kept := readFrame_keeps sends log s logged
  rw [ok] at kept
  exact ⟨t, ok, left, kept⟩

theorem put_frame (sends : Sends S Fits Logged) (some_bytes : p ≠ []) (small : p.length ≤ MaxSegmentSize)
    (fit : Fits (frameBytes frameTypeBusiness p)) (logged : Logged f.stream log) :
    put (FrameStream.asStream clock S) p ⟨f, []⟩ =
        (.ok (), ⟨{ f with stream := (S.write (frameBytes frameTypeBusiness p) f.stream).next }, []⟩) ∧
      Logged (S.write (frameBytes frameTypeBusiness p) f.stream).next
        (log ++ [frameBytes frameTypeBusiness p]) := by
  obtain ⟨ok, after⟩ := sends.put logged fit
  have wrote := FrameStream.Write_sent some_bytes small ok
  have written : (FrameStream.asStream clock S).write p ⟨f, []⟩ =
      ⟨(FrameStream.Write S p f).n, (FrameStream.Write S p f).err,
        ⟨(FrameStream.Write S p f).next, []⟩⟩ := rfl
  rw [wrote] at written
  refine ⟨?_, after⟩
  rw [put_ok (by rw [written]), written]

/-! The server. -/

theorem sendChunks_logged (sends : Sends S Fits Logged) (some_bytes : p ≠ [])
    (small : p.length ≤ MaxSegmentSize) (fit : Fits (frameBytes frameTypeBusiness p)) (rounds : Nat)
    (logged : Logged f.stream log) :
    ∃ t, sendChunks (FrameStream.asStream clock S) p rounds ⟨f, []⟩ =
      (.ok (), ⟨{ f with stream := t }, []⟩) ∧
      Logged t (log ++ List.replicate rounds (frameBytes frameTypeBusiness p)) := by
  induction rounds generalizing f log with
  | zero => exact ⟨f.stream, rfl, by rwa [List.replicate_zero, List.append_nil]⟩
  | succ rounds ih =>
    obtain ⟨sent, after⟩ := put_frame clock sends some_bytes small fit logged
    obtain ⟨last, rest, final⟩ :=
      ih (f := { f with stream := (S.write (frameBytes frameTypeBusiness p) f.stream).next }) after
    refine ⟨last, ?_, ?_⟩
    · rw [sendChunks, Action.bind_ok _ sent]
      exact rest
    · rw [List.append_assoc] at final
      exact final

/-- The whole answer to a request that can be served. -/
theorem serveBandwidthDownload_logged (sends : Sends S Fits Logged) (req : bandwidthRequest)
    (some_bytes : req.ChunkSize ≠ 0) (small : req.ChunkSize ≤ MaxSegmentSize)
    (lasts : req.DurationMS ≠ 0) (fit : Fits (chunkFrame req.ChunkSize)) (fitDone : Fits doneFrame)
    (rounds : Nat) (logged : Logged f.stream log) :
    ∃ t, serveBandwidthDownload clock S rounds req ⟨f, []⟩ = (.ok (), ⟨{ f with stream := t }, []⟩) ∧
      Logged t (log ++ (List.replicate rounds (chunkFrame req.ChunkSize) ++ [doneFrame])) := by
  have chunk : (List.replicate req.ChunkSize (0 : UInt8)).length = req.ChunkSize := List.length_replicate
  obtain ⟨t, sent, after⟩ := sendChunks_logged clock sends (by simpa using some_bytes)
    (chunk.le.trans small) fit rounds logged
  obtain ⟨done, last⟩ := sends.put after fitDone
  have wrote : writeFrame S frameTypeBandwidthDone [] t = (.ok (), (S.write doneFrame t).next) := by
    rw [writeFrame, if_neg (by simp)]
    exact done
  refine ⟨_, ?_, by rwa [← List.append_assoc]⟩
  rw [serveBandwidthDownload, if_neg (by simp [some_bytes, small]), if_neg lasts,
    Action.bind_ok _ sent, onFrames, FrameStream.WriteBandwidthDone, FrameStream.onStream_ok wrote]

theorem requestBytes_length (req : bandwidthRequest) : (requestBytes req).length = 9 := by
  simp [requestBytes, bigEndian_length]

theorem requestBytes_decoded (req : bandwidthRequest) (duration : req.DurationMS < 2 ^ 32)
    (size : req.ChunkSize < 2 ^ 32) :
    (⟨(requestBytes req).getD 0 0, ofBigEndian (((requestBytes req).drop 1).take 4),
      ofBigEndian ((requestBytes req).drop 5)⟩ :
      bandwidthRequest) = req := by
  have four (value : Nat) : (bigEndian 4 value).length = 4 := bigEndian_length 4 value
  have first : ((requestBytes req).drop 1).take 4 = bigEndian 4 req.DurationMS :=
    List.take_left' (four _)
  have second : (requestBytes req).drop 5 = bigEndian 4 req.ChunkSize := by
    rw [requestBytes, List.cons_append, List.drop_succ_cons, List.drop_left' (four _)]
  rw [first, second, ofBigEndian_bigEndian_of_lt 4 _ duration, ofBigEndian_bigEndian_of_lt 4 _ size]
  rfl

theorem readBandwidthRequest_whole (delivers : Delivers S Holds) (sends : Sends S Fits Logged)
    (req : bandwidthRequest) (duration : req.DurationMS < 2 ^ 32) (size : req.ChunkSize < 2 ^ 32)
    {rest : Bytes} (held : Holds f.stream (frameBytes frameTypeBusiness (requestBytes req) ++ rest))
    (logged : Logged f.stream log) :
    ∃ t, readBandwidthRequest (FrameStream.asStream clock S) ⟨f, []⟩ =
      (.ok req, ⟨{ f with stream := t }, []⟩) ∧ Logged t log := by
  have length := requestBytes_length req
  obtain ⟨t, ok, _, kept⟩ :=
    readFrame_first delivers sends frameTypeBusiness (length.le.trans (by decide)) held logged
  have read := read_fetched clock (n := 9) length.le (fetch_business clock ok)
  refine ⟨t, ?_, kept⟩
  rw [readBandwidthRequest, Action.bind_ok _ (readFull_once (by decide) length read), Action.pure_apply,
    requestBytes_decoded req duration size]

theorem readBandwidthRequest_cut (delivers : Delivers S Holds) (sends : Sends S Fits Logged)
    (req : bandwidthRequest) (held : Holds f.stream u) (logged : Logged f.stream log)
    (cut : u <+: frameBytes frameTypeBusiness (requestBytes req))
    (short : u ≠ frameBytes frameTypeBusiness (requestBytes req)) :
    ∃ e t, readBandwidthRequest (FrameStream.asStream clock S) ⟨f, []⟩ =
      (.error e, ⟨{ f with stream := t }, []⟩) ∧
      Logged t log := by
  have small : (requestBytes req).length ≤ MaxSegmentSize :=
    (requestBytes_length req).le.trans (by decide)
  obtain ⟨e, t, failed, kept⟩ :=
    readFrame_cut delivers sends frameTypeBusiness small held logged cut short
  have read := read_failed clock 9 (fetch_failed clock failed)
  refine ⟨e, t, ?_, kept⟩
  rw [readBandwidthRequest, Action.bind_error _ (readFull_fails (by decide) read)]

/-- All that the server writes for a request that it can serve. -/
def answerTo (req : bandwidthRequest) (rounds : Nat) : List Bytes :=
  List.replicate rounds (chunkFrame req.ChunkSize) ++ [doneFrame]

/-- Of a part of a request, or of one with anything after it, the server answers all or nothing. -/
theorem ServeBandwidthLoop_logged (delivers : Delivers S Holds) (sends : Sends S Fits Logged)
    (req : bandwidthRequest) (duration : req.DurationMS < 2 ^ 32)
    (download : req.Mode = bandwidthModeDownload) (some_bytes : req.ChunkSize ≠ 0)
    (small : req.ChunkSize ≤ MaxSegmentSize) (lasts : req.DurationMS ≠ 0)
    (fit : Fits (chunkFrame req.ChunkSize)) (fitDone : Fits doneFrame) (rounds : Nat)
    (held : Holds f.stream u) (logged : Logged f.stream [])
    (comes : u <+: frameBytes frameTypeBusiness (requestBytes req) ∨
      frameBytes frameTypeBusiness (requestBytes req) <+: u) :
    ∃ t log, (ServeBandwidthLoop clock S rounds ⟨f, []⟩).2 =
      ⟨{ f with stream := t }, []⟩ ∧ Logged t log ∧
      (log = [] ∨ log = answerTo req rounds) ∧
      (frameBytes frameTypeBusiness (requestBytes req) <+: u → log = answerTo req rounds) := by
  by_cases whole : frameBytes frameTypeBusiness (requestBytes req) <+: u
  · obtain ⟨rest, rfl⟩ := whole
    obtain ⟨t, ok, kept⟩ := readBandwidthRequest_whole clock delivers sends req duration
      (small.trans_lt (by decide)) held logged
    obtain ⟨last, served, sent⟩ := serveBandwidthDownload_logged clock
      (f := { f with stream := t }) sends req some_bytes small lasts fit fitDone rounds kept
    refine ⟨last, _, ?_, sent, Or.inr rfl, fun _ => rfl⟩
    rw [ServeBandwidthLoop, Action.bind_ok _ ok, if_pos download, served]
  · have cut := comes.resolve_right whole
    have short : u ≠ frameBytes frameTypeBusiness (requestBytes req) :=
      fun same => whole (same ▸ List.prefix_rfl)
    obtain ⟨e, t, failed, kept⟩ :=
      readBandwidthRequest_cut clock delivers sends req held logged cut short
    refine ⟨t, [], ?_, kept, Or.inl rfl, fun arrived => absurd arrived whole⟩
    rw [ServeBandwidthLoop, Action.bind_error _ failed]

/-! The client. -/

theorem countLoop_none {size fuel totalBytes : Nat} {b next : Buffered (FrameStream σ)} {data : Bytes}
    (read : (FrameStream.asStream clock S).read size b = ⟨data, none, next⟩) :
    countLoop (FrameStream.asStream clock S) size (fuel + 1) totalBytes b =
      countLoop (FrameStream.asStream clock S) size fuel (totalBytes + data.length) next := by
  rw [countLoop, read]

theorem countLoop_some {size fuel totalBytes : Nat} {b next : Buffered (FrameStream σ)} {e : Err}
    (read : (FrameStream.asStream clock S).read size b = ⟨[], some e, next⟩) :
    countLoop (FrameStream.asStream clock S) size (fuel + 1) totalBytes b =
      (if e = .eof then .ok totalBytes else .error e, next) := by
  rw [countLoop, read]
  dsimp only
  split_ifs
  · rfl
  · rfl

/-- What a client makes of the answer of a server, of which a part has arrived. -/
structure Counts (Logged : σ → List Bytes → Prop) (f : FrameStream σ) (log : List Bytes)
    (k size totalBytes : Nat) (whole : Prop)
    (result : Except Err Nat × Buffered (FrameStream σ)) : Prop where
  kept : ∃ t, result.2 = ⟨{ f with stream := t }, []⟩ ∧ Logged t log
  counted : ∀ total, result.1 = .ok total → ∃ j ≤ k, total = totalBytes + j * size
  all : whole → result.1 = .ok (totalBytes + k * size)

theorem Counts.of_cut (sends : Sends S Fits Logged) (delivers : Delivers S Holds)
    {size k fuel totalBytes : Nat} (frameType : UInt8) {frames : Bytes}
    (small : p.length ≤ MaxSegmentSize) (held : Holds f.stream u) (logged : Logged f.stream log)
    (cut : u <+: frameBytes frameType p) (short : u ≠ frameBytes frameType p)
    (begins : frameBytes frameType p <+: frames) :
    Counts Logged f log k size totalBytes (u = frames)
      (countLoop (FrameStream.asStream clock S) size (fuel + 1) totalBytes ⟨f, []⟩) := by
  obtain ⟨e, t, failed, kept⟩ := readFrame_cut delivers sends frameType small held logged cut short
  rw [countLoop_some clock (read_failed clock size (fetch_failed clock failed))]
  refine ⟨⟨t, rfl, kept⟩, fun total ok => ?_, fun whole => ?_⟩
  · dsimp only at ok
    split_ifs at ok
    exact ⟨0, Nat.zero_le k, by rw [← Except.ok.inj ok, Nat.zero_mul, Nat.add_zero]⟩
  · subst whole
    exact absurd (cut.eq_of_length (le_antisymm cut.length_le begins.length_le)) short

theorem countLoop_counts (sends : Sends S Fits Logged) (delivers : Delivers S Holds)
    (role : f.role = .Bandwidth) {size : Nat} (some_bytes : 0 < size)
    (small : size ≤ MaxSegmentSize) (k fuel totalBytes : Nat) (held : Holds f.stream u)
    (logged : Logged f.stream log)
    (cut : u <+: (List.replicate k (chunkFrame size)).flatten ++ doneFrame)
    (enough : (FrameStream.asStream clock S).rank ⟨f, []⟩ < fuel) :
    Counts Logged f log k size totalBytes (u = (List.replicate k (chunkFrame size)).flatten ++ doneFrame)
      (countLoop (FrameStream.asStream clock S) size fuel totalBytes ⟨f, []⟩) := by
  obtain ⟨fuel, rfl⟩ := Nat.exists_eq_succ_of_ne_zero (Nat.ne_zero_of_lt enough)
  induction k generalizing f u fuel totalBytes with
  | zero =>
    rw [List.replicate_zero, List.flatten_nil, List.nil_append] at cut ⊢
    by_cases whole : u = doneFrame
    · rw [whole, ← List.append_nil doneFrame] at held
      obtain ⟨t, ok, _, kept⟩ :=
        readFrame_first delivers sends frameTypeBandwidthDone (by simp) held logged
      rw [countLoop_some clock (read_failed clock size (fetch_done clock role ok)), if_pos rfl]
      refine ⟨⟨t, rfl, kept⟩, fun total ok => ⟨0, le_rfl, ?_⟩, fun _ => ?_⟩
      · rw [← Except.ok.inj ok, Nat.zero_mul, Nat.add_zero]
      · rw [Nat.zero_mul, Nat.add_zero]
    · exact .of_cut clock sends delivers frameTypeBandwidthDone
        (by simp) held logged cut whole List.prefix_rfl
  | succ k ih =>
    have length : (List.replicate size (0 : UInt8)).length = size := List.length_replicate
    rw [List.replicate_succ, List.flatten_cons, List.append_assoc] at cut ⊢
    by_cases whole : (chunkFrame size).length ≤ u.length
    · obtain ⟨rest, rfl⟩ : ∃ rest, u = chunkFrame size ++ rest :=
        (List.prefix_of_prefix_length_le (List.prefix_append _ _) cut whole).imp fun _ h => h.symm
      obtain ⟨t, ok, left, kept⟩ :=
        readFrame_first delivers sends frameTypeBusiness (length.le.trans small) held logged
      have read := read_fetched clock (n := size) length.le (fetch_business clock ok)
      have lower :=
        (FrameStream.asStream clock S).read_rank_lt size ⟨f, []⟩ some_bytes (Or.inl (by rw [read]))
      rw [read] at lower
      rw [countLoop_none clock read, length]
      obtain ⟨fuel, rfl⟩ := Nat.exists_eq_succ_of_ne_zero (n := fuel) (by omega)
      obtain ⟨kept, counted, all⟩ := ih (f := { f with stream := t }) role (totalBytes + size) left kept
        ((List.prefix_append_right_inj _).mp cut) fuel
          (Nat.lt_of_lt_of_le lower (Nat.le_of_lt_succ enough))
      refine ⟨kept, fun total ok => ?_, fun arrived => ?_⟩
      · obtain ⟨j, most, sum⟩ := counted total ok
        exact ⟨j + 1, Nat.succ_le_succ most, by rw [sum, Nat.succ_mul]; omega⟩
      · rw [all (List.append_cancel_left arrived), Nat.succ_mul]
        exact congrArg Except.ok (by omega)
    · have part : u <+: chunkFrame size :=
        List.prefix_of_prefix_length_le cut (List.prefix_append _ _) (Nat.le_of_not_le whole)
      have short : u ≠ chunkFrame size := fun same => whole (congrArg List.length same).ge
      exact .of_cut clock sends delivers frameTypeBusiness
        (length.le.trans small) held logged part short (List.prefix_append _ _)

/-! Whatever a client reads, it only adds to what it has written. -/

/-- At least `log` has been written. -/
def More (Logged : σ → List Bytes → Prop) (log : List Bytes) (s : σ) : Prop :=
  ∃ more, Logged s (log ++ more)

theorem More.write (sends : Sends S Fits Logged) (bytes : Bytes) {s : σ} (more : More Logged log s) :
    More Logged log (S.write bytes s).next := by
  obtain ⟨more, logged⟩ := more
  by_cases fit : Fits bytes
  · obtain ⟨_, _, after⟩ := sends.write bytes logged fit
    exact ⟨more ++ [bytes], by rwa [← List.append_assoc]⟩
  · exact ⟨more, sends.refused bytes logged fit⟩

theorem More.writeFrame (sends : Sends S Fits Logged) (frameType : UInt8) (payload : Bytes) :
    Action.Keeps (More Logged log) (Tun.writeFrame S frameType payload) := by
  unfold Tun.writeFrame
  split_ifs
  · exact .fail _
  · intro s more
    rw [put_next]
    exact more.write sends _

theorem More.readFrame (sends : Sends S Fits Logged) :
    Action.Keeps (More Logged log) (Tun.readFrame S) := by
  rintro s ⟨more, logged⟩
  exact ⟨more, readFrame_keeps sends _ s logged⟩

theorem More.onStream {α : Type} {x : Action σ α} (keeps : Action.Keeps (More Logged log) x) :
    Action.Keeps (fun f : FrameStream σ => More Logged log f.stream) (FrameStream.onStream x) :=
  fun f more => keeps f.stream more

theorem More.answer (sends : Sends S Fits Logged) (payload : Bytes) :
    Action.Keeps (fun f : FrameStream σ => More Logged log f.stream)
      (FrameStream.answer clock S payload) := by
  intro f more
  unfold FrameStream.answer
  split
  · exact more
  · exact Action.Keeps.bind (More.onStream (More.writeFrame sends _ _)) (fun _ _ more => more) _ more

theorem More.notify (payload : Bytes) :
    Action.Keeps (fun f : FrameStream σ => More Logged log f.stream) (FrameStream.notify payload) := by
  intro f more
  unfold FrameStream.notify
  split
  · exact more
  · exact more

theorem More.readLoop (sends : Sends S Fits Logged) (fuel : Nat) :
    Action.Keeps (fun f : FrameStream σ => More Logged log f.stream)
      (FrameStream.readLoop clock S fuel) := by
  induction fuel with
  | zero => exact .fail _
  | succ fuel ih =>
    refine .bind (More.onStream (More.readFrame sends)) fun frame => ?_
    dsimp only
    split_ifs
    · exact .pure _
    · exact .bind (More.answer clock sends _) fun _ => ih
    · exact .bind (More.notify _) fun _ => ih
    · exact fun _ more => more
    · exact .fail _

theorem More.read (sends : Sends S Fits Logged) (n : Nat) {b : Buffered (FrameStream σ)}
    (more : More Logged log b.base.stream) :
    More Logged log ((FrameStream.asStream clock S).read n b).next.base.stream := by
  have kept := More.readLoop clock sends (S.rank b.base.stream + 1) b.base more
  show More Logged log (Buffered.read (FrameStream.fetch clock S) n b).next.base.stream
  by_cases empty : b.rest = []
  · rcases result : FrameStream.fetch clock S b.base with ⟨e | data, f⟩
    · rw [Buffered.read_error n empty result]
      rw [FrameStream.fetch] at result
      rwa [result] at kept
    · rw [Buffered.read_ok n empty result]
      rw [FrameStream.fetch] at result
      rwa [result] at kept
  · rw [Buffered.read_rest _ n b empty]
    exact more

theorem More.countLoop (sends : Sends S Fits Logged) (size fuel totalBytes : Nat)
    {b : Buffered (FrameStream σ)} (more : More Logged log b.base.stream) :
    More Logged log
      (Tun.countLoop (FrameStream.asStream clock S) size fuel totalBytes b).2.base.stream := by
  induction fuel generalizing b totalBytes with
  | zero => exact more
  | succ fuel ih =>
    have after := more.read clock sends size
    simp only [Tun.countLoop]
    cases ((FrameStream.asStream clock S).read size b).err with
    | none => exact ih _ after
    | some readErr =>
      dsimp only
      split_ifs
      · exact after
      · exact after

end frames

/-! The two sides. -/

/-- The two writes of a client. -/
def requestLog : List Bytes :=
  [handshakeBytes .Bandwidth, frameBytes frameTypeBusiness (requestBytes downloadRequest)]

theorem requestLog_fits (mode : Mode) : ∀ b ∈ requestLog, Fits mode b := by
  have frame := frameBytes_length frameTypeBusiness (requestBytes downloadRequest)
  rw [requestBytes_length] at frame
  intro b member
  rcases List.mem_pair.mp member with rfl | rfl
  · exact fits_of_length (by simp [handshakeBytes]) (by simp [MaxSegmentSize])
  · exact fits_of_length (by simp [frameBytes]) (frame.le.trans (by decide))

theorem answerTo_fits (mode : Mode) (rounds : Nat) :
    ∀ b ∈ answerTo downloadRequest rounds, Fits mode b := by
  have chunk : Fits mode (chunkFrame downloadRequest.ChunkSize) := by
    refine fits_of_length (by simp [chunkFrame, frameBytes]) ?_
    rw [chunkFrame, frameBytes_length, List.length_replicate]
    decide
  have done : Fits mode doneFrame := fits_of_length (by simp [doneFrame, frameBytes]) (by decide)
  refine List.forall_mem_append.mpr ⟨fun b member => ?_, List.forall_mem_singleton.mpr done⟩
  rwa [List.eq_of_mem_replicate member]

section sides

variable {c d : CryptoHelper}

theorem openBandwidthStream_ok (frames : c.dstExtend.FrameHeaderEnable = true) (rand : Rand)
    {conn : Conn} (fresh : conn.sent = []) {w : Bytes} (held : conn.Holds w) :
    ∃ g, openBandwidthStream ⟨true, .ok conn⟩ c rand Conn.stream = .ok (NewFrameStream g .Bandwidth) ∧
      Logged c.dstMode c.dstAead rand (Conn.Sent []) g [handshakeBytes .Bandwidth] ∧
      HoldsPlain c.dstMode c.dstAead Conn.Holds g (decrypt c.dstMode c.dstAead w) := by
  have fit : Fits c.dstMode (handshakeBytes .Bandwidth) := requestLog_fits c.dstMode _ List.mem_cons_self
  have logged := logged_wrapped c.dstMode c.dstAead rand conn
  rw [fresh] at logged
  obtain ⟨ok, after⟩ := (NewReaderWriter_sends c.dstMode c.dstAead rand (Conn.sends [])).put logged fit
  have holds := (NewReaderWriter_delivers c.dstMode c.dstAead rand Conn.drains.toDelivers).write
    (handshakeBytes .Bandwidth) (.of_holds c.dstMode c.dstAead held)
  refine ⟨_, ?_, after, holds⟩
  simp only [openBandwidthStream, CryptoHelper.WrapBandwidthDst, CryptoHelper.wrapDstWithRole,
    frames, writeStreamHandshake, CryptoHelper.DstCrypto, ok, Bool.true_eq_false, if_false]

/-- A client writes its request in any case, and counts what has arrived of an answer. -/
theorem RunBandwidthTest_counts (frames : c.dstExtend.FrameHeaderEnable = true)
    (lawful : c.dstAead.Lawful) (rand rand' : Rand) (clock : FrameStream.Clock) {conn : Conn}
    (fresh : conn.sent = []) {w : Bytes} (held : conn.Holds w) :
    let client := RunBandwidthTest (some ⟨true, .ok conn⟩) (some c) rand clock Conn.stream
    ((sealed c.dstMode c.dstAead rand requestLog).flatten <+: client.sent) ∧
    ∀ rounds, w <+: (sealed c.dstMode c.dstAead rand' (answerTo downloadRequest rounds)).flatten →
      client.sent = (sealed c.dstMode c.dstAead rand requestLog).flatten ∧
      (client.summary.Status = .OK → ∃ k ≤ rounds, client.summary.totalBytes = k * bandwidthChunkSize) ∧
      (w = (sealed c.dstMode c.dstAead rand' (answerTo downloadRequest rounds)).flatten →
        client.summary = ⟨.OK, rounds * bandwidthChunkSize, none⟩ ∧ client.err = none) := by
  have sends := NewReaderWriter_sends c.dstMode c.dstAead rand (Conn.sends [])
  have delivers := NewReaderWriter_delivers c.dstMode c.dstAead rand Conn.drains.toDelivers
  obtain ⟨g, opened, logged, holds⟩ := openBandwidthStream_ok frames rand fresh held
  have fit := requestLog_fits c.dstMode _ (List.mem_cons_of_mem _ List.mem_cons_self)
  obtain ⟨wrote, after⟩ := put_frame clock (f := ⟨g, .Bandwidth, [], 0, []⟩) sends
    (by simp [requestBytes]) ((requestBytes_length downloadRequest).le.trans (by decide)) fit logged
  have holds := delivers.write (frameBytes frameTypeBusiness (requestBytes downloadRequest)) holds
  generalize ((NewReaderWriter Conn.stream c.dstMode c.dstAead rand).write
    (frameBytes frameTypeBusiness (requestBytes downloadRequest)) g).next = t at wrote after holds
  have run : RunBandwidthTest (some ⟨true, .ok conn⟩) (some c) rand clock Conn.stream =
      .ofLoop (countLoop (FrameStream.asStream clock
        (NewReaderWriter Conn.stream c.dstMode c.dstAead rand)) downloadRequest.ChunkSize
        ((FrameStream.asStream clock (NewReaderWriter Conn.stream c.dstMode c.dstAead rand)).rank
          (NewFrameStream t .Bandwidth) + 1)
        0 (NewFrameStream t .Bandwidth)) := by
    have request : writeBandwidthRequest (FrameStream.asStream clock (c.DstCrypto rand Conn.stream))
        downloadRequest (NewFrameStream g .Bandwidth) = (.ok (), NewFrameStream t .Bandwidth) :=
      wrote
    simp only [RunBandwidthTest, opened, request, Bool.true_eq_false, if_false]
    rfl
  rw [run]
  have request : More (Logged c.dstMode c.dstAead rand (Conn.Sent [])) requestLog t := ⟨[], after⟩
  have some_bytes : 0 < downloadRequest.ChunkSize := by decide
  generalize enough : (FrameStream.asStream clock
    (NewReaderWriter Conn.stream c.dstMode c.dstAead rand)).rank
    (NewFrameStream t .Bandwidth) = fuel
  obtain ⟨more, stays⟩ := More.countLoop clock sends downloadRequest.ChunkSize (fuel + 1) 0
    (b := NewFrameStream t .Bandwidth) request
  refine ⟨?_, fun rounds cut => ?_⟩
  · rw [BandwidthRun.ofLoop_sent, stays.1]
    exact sealed_append c.dstMode c.dstAead rand requestLog more
  · obtain ⟨begins, all⟩ := decrypt_cut c.dstMode lawful rand' (answerTo_fits c.dstMode rounds) cut
    have answer : (answerTo downloadRequest rounds).flatten =
        (List.replicate rounds (chunkFrame downloadRequest.ChunkSize)).flatten ++ doneFrame := by
      rw [answerTo, List.flatten_append, List.flatten_singleton]
    rw [answer] at begins all
    obtain ⟨⟨last, stream, kept⟩, counted, whole⟩ :=
      countLoop_counts clock (f := ⟨t, .Bandwidth, [], 0, []⟩) sends delivers rfl some_bytes
      (by decide) rounds (fuel + 1) 0 holds after begins (Nat.lt_succ_of_le enough.le)
    refine ⟨?_, fun fine => ?_, fun arrived => ?_⟩
    · rw [BandwidthRun.ofLoop_sent]
      exact (congrArg (fun b : Buffered (FrameStream (CryptoStream Conn)) =>
        b.base.stream.base.rw.sent) stream).trans kept.1
    · obtain ⟨k, most, sum⟩ := counted _ (BandwidthRun.ofLoop_ok fine)
      exact ⟨k, most, sum.trans (Nat.zero_add _)⟩
    · have counts := whole (all arrived)
      rw [Nat.zero_add] at counts
      exact BandwidthRun.ofLoop_whole counts

/-- The first write of a client names the role, as soon as it is there. -/
theorem requestLog_role {v : Bytes} (comes : v <+: requestLog.flatten ∨ requestLog.flatten <+: v) :
    handshakeRole v = none ∧ ¬ requestLog.flatten <+: v ∨
    ∃ r, v = handshakeBytes .Bandwidth ++ r ∧ handshakeRole v = some .Bandwidth ∧
      (r <+: frameBytes frameTypeBusiness (requestBytes downloadRequest) ∨
        frameBytes frameTypeBusiness (requestBytes downloadRequest) <+: r) := by
  have split : requestLog.flatten = handshakeBytes .Bandwidth ++
      frameBytes frameTypeBusiness (requestBytes downloadRequest) := by
    rw [requestLog, List.flatten_cons, List.flatten_singleton]
  rw [split] at comes ⊢
  by_cases short : v.length < 6
  · refine Or.inl ⟨if_pos short, fun whole => ?_⟩
    have long := whole.length_le
    rw [List.length_append, handshakeBytes_length] at long
    omega
  · have begins : ∃ r, v = handshakeBytes .Bandwidth ++ r ∧
      (r <+: frameBytes frameTypeBusiness (requestBytes downloadRequest) ∨
        frameBytes frameTypeBusiness (requestBytes downloadRequest) <+: r) := by
      rcases comes with part | ⟨rest, rfl⟩
      · obtain ⟨r, rfl⟩ := List.prefix_of_prefix_length_le (List.prefix_append _ _) part
          (by rw [handshakeBytes_length]; omega)
        exact ⟨r, rfl, Or.inl ((List.prefix_append_right_inj _).mp part)⟩
      · exact ⟨_, List.append_assoc _ _ _, Or.inr (List.prefix_append _ _)⟩
    obtain ⟨r, rfl, either⟩ := begins
    refine Or.inr ⟨r, rfl, ?_, either⟩
    rw [handshakeRole, if_neg short, List.take_left' (handshakeBytes_length _), parseHandshake_bytes]
    rfl

theorem dispatch_bandwidth (frames : d.srcExtend.FrameHeaderEnable = true) (env : Surroundings)
    (business : WrappedStream Conn → Handled) {src : Conn} (fresh : src.sent = []) {w : Bytes}
    (held : src.Holds w)
    (comes : decrypt d.srcMode d.srcAead w <+: requestLog.flatten ∨
      requestLog.flatten <+: decrypt d.srcMode d.srcAead w) :
    (dispatch d env src business).requested = false ∧
      ∃ log, (dispatch d env src business).sent = (sealed d.srcMode d.srcAead env.srcRand log).flatten ∧
        (log = [] ∨ log = answerTo downloadRequest env.rounds) ∧
        (requestLog.flatten <+: decrypt d.srcMode d.srcAead w →
          log = answerTo downloadRequest env.rounds) := by
  have nothing : (sealed d.srcMode d.srcAead env.srcRand []).flatten = [] := by
    cases d.srcMode <;> rfl
  rcases requestLog_role comes with ⟨unnamed, part⟩ | ⟨r, begins, named, either⟩
  · obtain ⟨e, refused⟩ := wrapSrc_refused env frames held unnamed
    rw [dispatch, refused]
    exact ⟨rfl, [], nothing.symm, Or.inl rfl, fun whole => absurd whole part⟩
  · obtain ⟨t, opened, left, logged⟩ := wrapSrc_role env frames held named
    rw [begins, List.drop_left' (handshakeBytes_length _)] at left
    rw [fresh] at logged
    have sends := NewReaderWriter_sends d.srcMode d.srcAead env.srcRand (Conn.sends [])
    have delivers := NewReaderWriter_delivers d.srcMode d.srcAead env.srcRand Conn.drains.toDelivers
    have fits := answerTo_fits d.srcMode 1
    obtain ⟨last, log, served, kept, all, whole⟩ := ServeBandwidthLoop_logged env.clock
      (f := ⟨t, .Bandwidth, [], 0, []⟩) delivers sends downloadRequest (by decide) rfl
      (by decide) (by decide) (by decide) (fits _ (by simp [answerTo]))
      (fits _ (by simp [answerTo])) env.rounds left.plain logged either
    have handled : dispatch d env src business =
        ⟨false, [], some (.inr ⟨⟨last, .Bandwidth, [], 0, []⟩, []⟩), []⟩ := by
      rw [dispatch, opened]
      dsimp only
      rw [CryptoHelper.SrcCrypto, NewFrameStream, served]
    rw [handled]
    refine ⟨rfl, log, kept.1, all, fun arrived => whole ?_⟩
    · rw [begins, requestLog, List.flatten_cons, List.flatten_singleton] at arrived
      exact (List.prefix_append_right_inj _).mp arrived

end sides

/-- A bandwidth test between a client and a server that agree on mode and key and use frames, cut
anywhere on the way. The server never asks for a backend. A test that succeeds has counted whole
chunks, no more than were written; when everything arrives it succeeds and has counted all of
them. -/
theorem bandwidth_measured (c d : CryptoHelper) (sameMode : c.dstMode = d.srcMode)
    (sameKey : c.dstAead = d.srcAead) (frames : c.dstExtend.FrameHeaderEnable = true)
    (frames' : d.srcExtend.FrameHeaderEnable = true) (lawful : d.srcAead.Lawful) (rand : Rand)
    (clock : FrameStream.Clock) (env : Surroundings) (business : WrappedStream Conn → Handled)
    (up down : List Bytes) (upEof downEof : Bool) (client : BandwidthRun Conn) (server : Handled)
    (runs : RunBandwidthTest (some ⟨true, .ok ⟨down.map .chunk, downEof, []⟩⟩)
      (some c) rand clock Conn.stream = client)
    (serves : dispatch d env ⟨up.map .chunk, upEof, []⟩ business = server)
    (upward : up.flatten <+: client.sent) (downward : down.flatten <+: server.sent) :
    server.requested = false ∧
    (client.summary.Status = .OK → ∃ k ≤ env.rounds,
      client.summary.totalBytes = k * bandwidthChunkSize) ∧
    (up.flatten = client.sent → down.flatten = server.sent →
      client.summary = ⟨.OK, env.rounds * bandwidthChunkSize, none⟩ ∧ client.err = none) := by
  have upHeld : Conn.Holds ⟨up.map .chunk, upEof, []⟩ up.flatten := Conn.arrived_chunks up
  have downHeld : Conn.Holds ⟨down.map .chunk, downEof, []⟩ down.flatten := Conn.arrived_chunks down
  have lawful' : c.dstAead.Lawful := sameKey ▸ lawful
  obtain ⟨first, counts⟩ := RunBandwidthTest_counts frames lawful' rand env.srcRand clock rfl downHeld
  rw [runs] at first counts
  rw [sameMode, sameKey] at first counts
  have fits := requestLog_fits d.srcMode
  have comes : decrypt d.srcMode d.srcAead up.flatten <+: requestLog.flatten ∨
      requestLog.flatten <+: decrypt d.srcMode d.srcAead up.flatten := by
    rcases List.prefix_or_prefix_of_prefix upward first with part | ⟨tail, whole⟩
    · exact Or.inl (decrypt_cut d.srcMode lawful rand fits part).1
    · exact Or.inr (whole ▸ decrypt_sealed d.srcMode lawful rand fits tail)
  obtain ⟨quiet, log, sent, either, answers⟩ := dispatch_bandwidth frames' env business rfl upHeld comes
  rw [serves] at quiet sent
  have cut : down.flatten <+:
      (sealed d.srcMode d.srcAead env.srcRand (answerTo downloadRequest env.rounds)).flatten := by
    rcases either with rfl | rfl
    · exact (sent ▸ downward).trans (sealed_append d.srcMode d.srcAead env.srcRand [] _)
    · exact sent ▸ downward
  obtain ⟨wrote, counted, all⟩ := counts env.rounds cut
  refine ⟨quiet, counted, fun upWhole downWhole => all ?_⟩
  have arrived : requestLog.flatten <+: decrypt d.srcMode d.srcAead up.flatten := by
    rw [upWhole, wrote, ← List.append_nil (sealed d.srcMode d.srcAead rand requestLog).flatten]
    exact decrypt_sealed d.srcMode lawful rand fits []
  rw [downWhole, sent, answers arrived]

/-- A server that writes three chunks before its deadline. -/
def threeRounds : Surroundings := ⟨nines, nines, nines, fun _ => 0, 3, none⟩

theorem bandwidth_measured_three : ∃ up down : List Bytes,
    (RunBandwidthTest (some ⟨true, .ok ⟨down.map .chunk, false, []⟩⟩) (some framedHelper) nines
      (fun _ => 0) Conn.stream).summary =
      ⟨.OK, 98304, none⟩ ∧
    (dispatch framedHelper threeRounds ⟨up.map .chunk, false, []⟩ fun s =>
      ⟨true, [], some s, []⟩).requested = false := by
  have lawful : framedHelper.srcAead.Lawful := streamAEAD_lawful 12 16 _ _
  let request := (sealed .GCM framedHelper.srcAead nines requestLog).flatten
  let answer := (sealed .GCM framedHelper.srcAead nines (answerTo downloadRequest 3)).flatten
  have requestHeld : Conn.Holds ⟨[request].map .chunk, false, []⟩ request := List.append_nil request
  have answerHeld : Conn.Holds ⟨[answer].map .chunk, false, []⟩ answer := List.append_nil answer
  have clientSent := ((RunBandwidthTest_counts (c := framedHelper) rfl lawful nines nines
    (fun _ => 0) rfl answerHeld).2 3 List.prefix_rfl).1
  have arrived : requestLog.flatten <+: decrypt .GCM framedHelper.srcAead request := by
    rw [← List.append_nil request]
    exact decrypt_sealed .GCM lawful nines (requestLog_fits .GCM) []
  obtain ⟨_, log, serverSent, _, answers⟩ := dispatch_bandwidth (d := framedHelper) rfl threeRounds
    (fun s => ⟨true, [], some s, []⟩) rfl requestHeld (Or.inr arrived)
  rw [answers arrived] at serverSent
  have upWhole : [request].flatten = _ := (List.append_nil request).trans clientSent.symm
  have downWhole : [answer].flatten = _ := (List.append_nil answer).trans serverSent.symm
  obtain ⟨quiet, _, all⟩ := bandwidth_measured framedHelper framedHelper rfl rfl rfl rfl
    lawful nines (fun _ => 0) threeRounds (fun s => ⟨true, [], some s, []⟩) [request]
    [answer] false false _ _ rfl rfl (upWhole ▸ List.prefix_rfl) (downWhole ▸ List.prefix_rfl)
  exact ⟨[request], [answer], (all upWhole downWhole).1, quiet⟩

end Gotun.Tun
