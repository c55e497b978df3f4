import Gotun.Tun.InputHandlers

/-! Which payloads a `FrameStream` can send over a `CryptoStream`, and which bandwidth tests can be
served. The frame layer and the crypto layer both limit a write to `MaxSegmentSize`, and the frame
header comes between the two. -/

namespace Gotun.Tun
open Gotun.Lib Gotun.Core Gotun.Crypto

variable {σ : Type}

section layers

variable {S : Stream σ} (succeeds : Succeeds S) (mode : Mode) (aead : AEAD) (rand : Rand)

/-- Any state of a wrapped transport is one that has written as often as nonces were drawn. -/
theorem logged_any (g : CryptoStream σ) :
    Logged mode aead rand (fun _ _ => True) g (List.replicate g.base.draws []) :=
  ⟨trivial, fun _ => List.length_replicate.symm⟩

theorem fits_frame_iff (frameType : UInt8) (p : Bytes) :
    Fits mode (frameBytes frameType p) ↔ mode = .None ∨ p.length + 3 ≤ MaxSegmentSize := by
  have length := frameBytes_length frameType p
  cases mode with
  | None => simp [Fits]
  | GCM =>
    have some_bytes : frameBytes frameType p ≠ [] := by simp [frameBytes]
    simp only [Fits, some_bytes, length, ne_eq, not_false_eq_true, true_and, reduceCtorEq, false_or]
    omega

include succeeds in
theorem writeFrame_ok_iff (frameType : UInt8) {p : Bytes} (small : p.length ≤ MaxSegmentSize)
    (g : CryptoStream σ) :
    (writeFrame (NewReaderWriter S mode aead rand) frameType p g).1 = .ok () ↔
      mode = .None ∨ p.length + 3 ≤ MaxSegmentSize := by
  have sends := NewReaderWriter_sends mode aead rand succeeds.sends
  rw [writeFrame, if_neg (Nat.not_lt.mpr small), ← fits_frame_iff mode frameType p]
  constructor
  · intro ok
    by_contra unfit
    cases mode with
    | None => exact unfit trivial
    | GCM =>
      have large : MaxSegmentSize < (frameBytes frameType p).length := by
        refine Nat.lt_of_not_le fun fits => unfit ⟨by simp [frameBytes], fits⟩
      have refused := writer.Write_refused aead rand S _ g.base large
      simp [put, NewReaderWriter, gcm.stream, Buffered.stream, Buffered.write, gcm.source, refused] at ok
  · intro fit
    rw [(sends.put (logged_any mode aead rand g) fit).1]

include succeeds in
theorem Write_ok_iff {p : Bytes} (some_bytes : p ≠ []) (small : p.length ≤ MaxSegmentSize)
    (f : FrameStream (CryptoStream σ)) :
    (FrameStream.Write (NewReaderWriter S mode aead rand) p f).err = none ↔
      mode = .None ∨ p.length + 3 ≤ MaxSegmentSize := by
  rw [← writeFrame_ok_iff succeeds mode aead rand frameTypeBusiness small f.stream,
    FrameStream.Write, if_neg some_bytes]
  rcases written : writeFrame (NewReaderWriter S mode aead rand) frameTypeBusiness p f.stream with
    ⟨_ | _, t⟩
  · rw [FrameStream.onStream_error written]
    simp
  · rw [FrameStream.onStream_ok written]
    exact ⟨fun _ => rfl, fun _ => rfl⟩

/-! A bandwidth test. -/

include succeeds in
theorem sendChunks_ok (clock : FrameStream.Clock) {buf : Bytes} (some_bytes : buf ≠ [])
    (small : buf.length ≤ MaxSegmentSize) (fits : mode = .None ∨ buf.length + 3 ≤ MaxSegmentSize)
    (rounds : Nat) (b : Buffered (FrameStream (CryptoStream σ))) :
    ∃ t, sendChunks (FrameStream.asStream clock (NewReaderWriter S mode aead rand)) buf rounds b =
      (.ok (), t) := by
  induction rounds generalizing b with
  | zero => exact ⟨b, rfl⟩
  | succ rounds ih =>
    have sent := (Write_ok_iff succeeds mode aead rand some_bytes small b.base).mpr fits
    have first : put (FrameStream.asStream clock (NewReaderWriter S mode aead rand)) buf b =
        (.ok (),
          ((FrameStream.asStream clock (NewReaderWriter S mode aead rand)).write buf b).next) :=
          put_ok sent
    obtain ⟨t, rest⟩ :=
      ih ((FrameStream.asStream clock (NewReaderWriter S mode aead rand)).write buf b).next
    refine ⟨t, ?_⟩
    rw [sendChunks, Action.bind_ok _ first]
    exact rest

include succeeds in
theorem served_iff (clock : FrameStream.Clock) (req : bandwidthRequest)
    (some_bytes : req.ChunkSize ≠ 0) (small : req.ChunkSize ≤ MaxSegmentSize)
    (lasts : req.DurationMS ≠ 0) (b : Buffered (FrameStream (CryptoStream σ))) :
    (∀ rounds,
      (serveBandwidthDownload clock (NewReaderWriter S mode aead rand) rounds req b).1 = .ok ()) ↔
      mode = .None ∨ req.ChunkSize + 3 ≤ MaxSegmentSize := by
  have chunk : (List.replicate req.ChunkSize (0 : UInt8)).length = req.ChunkSize := List.length_replicate
  have some_chunk : List.replicate req.ChunkSize (0 : UInt8) ≠ [] := by simpa using some_bytes
  have accepted (rounds : Nat) :
    serveBandwidthDownload clock (NewReaderWriter S mode aead rand) rounds req = (do
      sendChunks (FrameStream.asStream clock (NewReaderWriter S mode aead rand))
        (List.replicate req.ChunkSize 0) rounds
      onFrames (FrameStream.WriteBandwidthDone (NewReaderWriter S mode aead rand))) := by
    rw [serveBandwidthDownload, if_neg (by simp [some_bytes, small]), if_neg lasts]
  simp only [accepted]
  constructor
  · intro served
    by_contra unfit
    -- One round is enough: its write is the first that is refused.
    have refused : (FrameStream.Write (NewReaderWriter S mode aead rand)
        (List.replicate req.ChunkSize 0) b.base).err ≠ none := by
      rw [Ne, Write_ok_iff succeeds mode aead rand some_chunk (chunk.le.trans small), chunk]
      exact unfit
    obtain ⟨e, failed⟩ := Option.ne_none_iff_exists'.mp refused
    have first : put (FrameStream.asStream clock (NewReaderWriter S mode aead rand))
      (List.replicate req.ChunkSize 0) b =
        (.error e, ((FrameStream.asStream clock (NewReaderWriter S mode aead rand)).write
          (List.replicate req.ChunkSize 0) b).next) :=
      put_error failed
    have result := served 1
    rw [sendChunks, Action.bind_error _ (Action.bind_error _ first)] at result
    cases result
  · intro fits rounds
    obtain ⟨t, sent⟩ := sendChunks_ok succeeds mode aead rand clock some_chunk (chunk.le.trans small)
      (by rwa [chunk]) rounds b
    have done := (writeFrame_ok_iff succeeds mode aead rand frameTypeBandwidthDone (p := [])
      (Nat.zero_le _) t.base.stream).mpr (Or.inr (by decide))
    rw [Action.bind_ok _ sent]
    exact done

end layers

/-! Payload by payload. -/

/-- A `Write` succeeds, and a peer to whom everything sent so far arrives reads the payload after the
earlier ones. -/
def Carried (c d : CryptoHelper) (rand rand' : Rand) (clock clock' : FrameStream.Clock)
    (s : WrappedStream Conn) (earlier p : Bytes) : Prop :=
  ((Call.Write p).apply c rand clock Conn.stream s).1 = none ∧
  ∀ (chunks : List Bytes) (eofWithData : Bool) (before : Bytes),
    chunks.flatten = sentOf ((Call.Write p).apply c rand clock Conn.stream s).2 →
    ∃ stream role, d.WrapSrcWithRole rand' Conn.stream ⟨chunks.map .chunk, eofWithData, before⟩ =
      .ok (stream, role) ∧
      ∀ sizes : List Nat, (∀ n ∈ sizes, 0 < n) →
        (d.srcStream rand' clock' Conn.stream).rank stream < sizes.length →
        (readMany (d.srcStream rand' clock' Conn.stream) sizes stream).1 = earlier ++ p

theorem Conn.succeeds : Succeeds Conn.stream := fun _ _ => ⟨rfl, rfl⟩

theorem Call.Write_ok_iff (c : CryptoHelper) (rand : Rand) (clock : FrameStream.Clock) {p : Bytes}
    (some_bytes : p ≠ []) (small : p.length ≤ MaxSegmentSize)
    (b : Buffered (FrameStream (CryptoStream Conn))) :
    ((Call.Write p).apply c rand clock Conn.stream (.inr b)).1 = none ↔ c.dstMode = .None ∨
      p.length + 3 ≤ MaxSegmentSize :=
  Tun.Write_ok_iff Conn.succeeds c.dstMode c.dstAead rand some_bytes small b.base

/-- Under GCM the frame header must fit as well. -/
theorem payload_carried_iff (c d : CryptoHelper) (sameMode : c.dstMode = d.srcMode)
    (sameKey : c.dstAead = d.srcAead) (frames : c.dstExtend.FrameHeaderEnable = true)
    (frames' : d.srcExtend.FrameHeaderEnable = true) (lawful : d.srcAead.Lawful) (rand rand' : Rand)
    (clock clock' : FrameStream.Clock) (role : StreamRole) (calls : List Call) (conn : Conn)
    (fresh : conn.sent = []) :
    (∃ start, c.wrapDstWithRole rand Conn.stream role conn = .ok start ∧
      ∀ p : Bytes, 1 ≤ p.length → p.length ≤ MaxSegmentSize →
        (Carried c d rand rand' clock clock' (Call.runAll c rand clock Conn.stream calls start).2
            ((Call.runAll c rand clock Conn.stream calls start).1.flatMap Call.written) p ↔
          c.dstMode = .None ∨ p.length + 3 ≤ MaxSegmentSize)) ∧
    ∀ (σ : Type) (S : Stream σ), Succeeds S →
      ∀ (b : Buffered (FrameStream (CryptoStream σ))) (req : bandwidthRequest),
      req.ChunkSize ≠ 0 → req.ChunkSize ≤ MaxSegmentSize → req.DurationMS ≠ 0 →
        ((∀ rounds, (serveBandwidthDownload clock' (d.SrcCrypto rand' S) rounds req b).1 = .ok ()) ↔
          d.srcMode = .None ∨ req.ChunkSize + 3 ≤ MaxSegmentSize) := by
  obtain ⟨start, ok, wrote⟩ := wrapDstWithRole_wrote c rand role conn fresh
  obtain ⟨items, wrote, sent⟩ := wrote.runAll clock calls
  rw [List.nil_append] at wrote
  refine ⟨⟨start, ok, fun p some_bytes small => ?_⟩, fun σ S succeeds b req some_chunk small lasts => ?_⟩
  · generalize Call.runAll c rand clock Conn.stream calls start = run at wrote sent
    obtain ⟨results, g | b⟩ := run
    · have kind := wrote.kind
      rw [frames] at kind
      cases kind
    have nonempty : p ≠ [] := List.ne_nil_of_length_pos some_bytes
    rw [← Call.Write_ok_iff c rand clock nonempty small b]
    constructor
    · rintro ⟨success, _⟩
      exact success
    · intro success
      refine ⟨success, fun chunks eofWithData before all => ?_⟩
      obtain ⟨more, after, payload, _⟩ := wrote.apply clock (.Write p)
      obtain ⟨opened, reads⟩ := after.received sameMode sameKey
        (frames.trans frames'.symm) lawful rand' clock' chunks eofWithData before (by rw [all])
      obtain ⟨⟨stream, role'⟩, wraps⟩ := opened all
      refine ⟨stream, role', wraps, fun sizes wanted enough => ?_⟩
      rw [((reads stream role' wraps).2 sizes wanted).2 all (Or.inr enough), List.filterMap_append,
        List.flatten_append, sent, payload, success]
      rfl
  · exact served_iff succeeds d.srcMode d.srcAead rand' clock' req some_chunk small lasts b

/-- The largest payload under GCM, after a handshake and another payload. -/
def fullPayload : Bytes := List.replicate 65532 0

theorem fullPayload_carried : fullPayload.length = 65532 ∧
    (∃ start, framedHelper.wrapDstWithRole nines Conn.stream .Bandwidth ⟨[], false, []⟩ = .ok start ∧
      Carried framedHelper framedHelper nines nines (fun _ => 0) (fun _ => 0)
        (Call.runAll framedHelper nines (fun _ => 0) Conn.stream [.Write [7]] start).2
        ((Call.runAll framedHelper nines (fun _ => 0) Conn.stream [.Write [7]] start).1.flatMap
          Call.written) fullPayload) ∧
    ∀ rounds, (serveBandwidthDownload (fun _ => 0)
      (framedHelper.SrcCrypto nines Conn.stream) rounds ⟨1, 10, 65532⟩
      (NewFrameStream (wrapped ⟨[], false, []⟩) .Bandwidth)).1 = .ok () := by
  have length : fullPayload.length = 65532 := List.length_replicate
  obtain ⟨⟨start, ok, carried⟩, served⟩ := payload_carried_iff framedHelper framedHelper rfl rfl rfl rfl
    (streamAEAD_lawful 12 16 _ _) nines nines (fun _ => 0) (fun _ => 0) .Bandwidth [.Write [7]]
      ⟨[], false, []⟩ rfl
  refine ⟨length, ⟨start, ok, ?_⟩, ?_⟩
  · exact (carried fullPayload (by omega) (length.le.trans (by decide))).mpr
      (Or.inr (by rw [length]; decide))
  · exact (served Conn Conn.stream Conn.succeeds _ ⟨1, 10, 65532⟩ (by decide) (by decide)
      (by decide)).mpr (Or.inr (by decide))

/-- Both layers admit a payload of this size, but the frame around it is too large for the second. -/
def largePayload : Bytes := List.replicate 65533 0

theorem largePayload_refused : largePayload.length = 65533 ∧
    (∃ start, framedHelper.wrapDstWithRole nines Conn.stream .Bandwidth ⟨[], false, []⟩ = .ok start ∧
      ¬ Carried framedHelper framedHelper nines nines (fun _ => 0) (fun _ => 0) start [] largePayload) ∧
    ∃ rounds, (serveBandwidthDownload (fun _ => 0)
      (framedHelper.SrcCrypto nines Conn.stream) rounds ⟨1, 10, 65533⟩
      (NewFrameStream (wrapped ⟨[], false, []⟩) .Bandwidth)).1 ≠ .ok () := by
  have length : largePayload.length = 65533 := List.length_replicate
  have nonempty : largePayload ≠ [] := List.ne_nil_of_length_pos (by omega)
  refine ⟨length, ?_, ?_⟩
  · obtain ⟨start, ok, wrote⟩ := wrapDstWithRole_wrote framedHelper nines .Bandwidth ⟨[], false, []⟩ rfl
    refine ⟨start, ok, fun carried => ?_⟩
    rcases start with g | b
    · cases wrote.kind
    have fits := (Call.Write_ok_iff framedHelper nines (fun _ => 0) nonempty
      (length.le.trans (by decide)) b).mp carried.1
    rw [length] at fits
    exact absurd fits (by decide)
  · by_contra all
    have fits :=
      (served_iff Conn.succeeds .GCM framedHelper.srcAead nines (fun _ => 0) ⟨1, 10, 65533⟩
      (by decide) (by decide) (by decide) (NewFrameStream (wrapped ⟨[], false, []⟩) .Bandwidth)).mp
      fun rounds => by_contra fun failed => all ⟨rounds, failed⟩
    exact absurd fits (by decide)

end Gotun.Tun
