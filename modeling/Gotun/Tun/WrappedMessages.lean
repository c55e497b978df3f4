import Gotun.Tun.CryptoHelper

/-! Wrapped streams, write by write: between two ends under GCM with one key, with frame headers or
without, a write of one end is one message at the other. -/

namespace Gotun.Tun
open Gotun.Lib Gotun.Core Gotun.Crypto

/-- The crypto stream inside a wrapped one. -/
def cryptoOf {σ : Type} : WrappedStream σ → CryptoStream σ := Sum.elim id (fun b => b.base.stream)

variable {σ : Type} {S : Stream σ} {Holds : σ → Bytes → Prop} {Below : σ → List Bytes → Prop}
  {Fits : Bytes → Prop}

/-- Either kind of stream that wrapping returns. -/
def wrappedStream (mode : Mode) (aead : AEAD) (rand : Rand) (clock : FrameStream.Clock) (S : Stream σ) :
    Stream (WrappedStream σ) :=
  (NewReaderWriter S mode aead rand).sum (FrameStream.asStream clock (NewReaderWriter S mode aead rand))

/-- What goes before the buffers on a stream that is opened for business. -/
def opening (frames : Bool) : List Bytes := if frames then [handshakeBytes .Business] else []

def packed (frames : Bool) (log : List Bytes) : List Bytes :=
  if frames then log.map (frameBytes frameTypeBusiness) else log

theorem mem_packed {frames : Bool} {log : List Bytes} {limit : Nat} {b : Bytes}
    (fit : ∀ p ∈ log, p ≠ [] ∧ p.length ≤ limit) (member : b ∈ packed frames log) :
    b ≠ [] ∧ b.length ≤ limit + 3 := by
  cases frames with
  | false => exact ⟨(fit b member).1, (fit b member).2.trans (Nat.le_add_right ..)⟩
  | true =>
    obtain ⟨p, there, rfl⟩ := List.mem_map.mp member
    have length := frameBytes_length frameTypeBusiness p
    have small := (fit p there).2
    exact ⟨List.cons_ne_nil _ _, by omega⟩

theorem opening_small (frames : Bool) (limit : Nat) (room : 3 ≤ limit) :
    ∀ b ∈ opening frames, b ≠ [] ∧ b.length ≤ limit + 3 := by
  cases frames with
  | false => exact List.forall_mem_nil _
  | true =>
    refine List.forall_mem_singleton.mpr ⟨List.cons_ne_nil _ _, ?_⟩
    rw [handshakeBytes_length]
    omega

/-- A prefix of the writes is that of fewer buffers, or only a part of what goes before them. -/
theorem prefix_packed {frames : Bool} {head log got : List Bytes}
    (begins : got <+: head ++ packed frames log) :
    (∃ part, part <+: log ∧ got = head ++ packed frames part ∧
      (got = head ++ packed frames log → part = log)) ∨
      got.length < head.length := by
  by_cases short : got.length < head.length
  · exact Or.inr short
  have opens : head <+: got :=
    List.prefix_of_prefix_length_le (List.prefix_append ..) begins (Nat.not_lt.mp short)
  obtain ⟨rest, rfl⟩ := opens
  have later := (List.prefix_append_right_inj head).mp begins
  refine Or.inl ?_
  cases frames with
  | false => exact ⟨rest, later, rfl, fun same => List.append_cancel_left same⟩
  | true =>
    obtain ⟨part, fewer, rfl⟩ := List.prefix_map_iff.mp later
    refine ⟨part, fewer, rfl, fun same => fewer.eq_of_length ?_⟩
    have lengths := congrArg List.length (List.append_cancel_left same)
    rwa [packed, if_pos rfl, List.length_map, List.length_map] at lengths

/-- A wrapped stream has put `head` and then the buffers of `log` on the stream below. -/
structure Carries (mode : Mode) (aead : AEAD) (rand : Rand) (Below : σ → List Bytes → Prop)
    (head : List Bytes) (frames : Bool) (t : WrappedStream σ) (log : List Bytes) : Prop where
  kind : t.isRight = frames
  logged : Logged mode aead rand Below (cryptoOf t) (head ++ packed frames log)

/-- What a wrapped stream under GCM still hands out, payload by payload. -/
def SealedIn (aead : AEAD) (Holds : σ → Bytes → Prop) : WrappedStream σ → List Bytes → Prop :=
  Sum.elim (Buffered.HoldsEach (recordDecoder aead) fun g w => Holds g.rw w)
    (Buffered.HoldsEach businessDecoder (FrameStream.HoldsPayloads (HoldsPlain .GCM aead Holds)))

section streams

variable {mode : Mode} {aead : AEAD} {rand : Rand} (clock : FrameStream.Clock)

theorem Carries.takes {mode' : Mode} (head : List Bytes) (frames : Bool)
    (crypto : Takes (SocketBufSize + 3) (NewReaderWriter S mode aead rand)
      (Logged mode' aead rand Below)) :
    Takes SocketBufSize (wrappedStream mode aead rand clock S)
      (Carries mode' aead rand Below head frames) where
  write {t log} bytes carries some_bytes fits := by
    obtain ⟨rfl, logged⟩ := carries
    cases t with
    | inl g =>
      obtain ⟨n, ok, after⟩ := crypto.write bytes logged some_bytes (fits.trans (Nat.le_add_right ..))
      exact ⟨n, ok, rfl, by rwa [List.append_assoc] at after⟩
    | inr b =>
      have framed := FrameStream.asStream_takes clock head (by decide) crypto
      obtain ⟨n, ok, after⟩ := framed.write bytes logged some_bytes fits
      exact ⟨n, ok, rfl, after⟩

variable (aead rand) in
theorem sealed_messages (encrypts : mode = .GCM) (delivers : Delivers S Holds) :
    Messages (wrappedStream mode aead rand clock S) (SealedIn aead Holds) := by
  subst encrypts
  have crypto := NewReaderWriter_delivers .GCM aead rand delivers
  exact (NewReaderWriter_messages_sealed aead rand rfl delivers).sum
    (FrameStream.payloads_fetches clock crypto).messages

end streams

variable {aead : AEAD} {w : Bytes} {part : List Bytes}

/-- Records that carry payloads as they are. -/
theorem SealedIn.plain {s : σ} (held : Holds s w) (found : (recordDecoder aead).blocks w = part)
    (fit : ∀ b ∈ part, b ≠ [] ∧ b.length ≤ MaxSegmentSize) :
    SealedIn aead Holds (.inl (wrapped s)) part :=
  ⟨⟨w, held, found.symm⟩, fun b member => (fit b member).1⟩

/-- Records that carry frames, once the greeting has been read. -/
theorem SealedIn.framed {g : CryptoStream σ} (role : StreamRole)
    (held : HoldsPlain .GCM aead Holds g (part.map (frameBytes frameTypeBusiness)).flatten)
    (fit : ∀ b ∈ part, b ≠ [] ∧ b.length ≤ MaxSegmentSize) :
    SealedIn aead Holds (.inr (NewFrameStream g role)) part := by
  have wire : (part.map Frame.business).flatMap frameCodec.encode =
      (part.map (frameBytes frameTypeBusiness)).flatten := by
    rw [List.flatMap_map, List.flatMap_def]
    rfl
  have written : frameCodec.Written (part.map (frameBytes frameTypeBusiness)).flatten
      (part.map .business) := by
    refine wire ▸ Codec.Written.of_whole fun frame member => ?_
    obtain ⟨b, there, rfl⟩ := List.mem_map.mp member
    exact (fit b there).2
  have decoded : frameDecoder.blocks (part.map (frameBytes frameTypeBusiness)).flatten =
      (part.map Frame.business).map id :=
    written.blocks
  refine ⟨⟨_, ⟨held, part, written⟩, ?_⟩, fun b member => (fit b member).1⟩
  have payloads : (part.map Frame.business).filterMap Frame.payload? = part := by
    rw [List.filterMap_map]
    exact List.filterMap_some
  have fresh : (NewFrameStream g role).rest = [] := rfl
  rw [if_pos fresh, businessDecoder, Decoder.filterMap_blocks, decoded, List.map_id, payloads]

section ends

variable {c : CryptoHelper} (rand : Rand)

/-- The dialling end greets and is then ready for both directions. -/
theorem WrapDst_sealed {dst : σ} {limit : Nat} (encrypts : c.dstMode = .GCM) (room : 6 ≤ limit)
    (crypto : Takes limit (c.DstCrypto rand S) (Logged .GCM c.dstAead rand Below))
    (start : Below dst []) :
    ∃ right, c.WrapDst rand S dst = .ok right ∧
      Carries .GCM c.dstAead rand Below
        (opening c.dstExtend.FrameHeaderEnable) c.dstExtend.FrameHeaderEnable right [] ∧
      ∀ {Holds : σ → Bytes → Prop} {w part}, Delivers S Holds → Holds dst w →
        (recordDecoder c.dstAead).blocks w = packed c.dstExtend.FrameHeaderEnable part →
        (∀ b ∈ part, b ≠ [] ∧ b.length ≤ MaxSegmentSize) → SealedIn c.dstAead Holds right part := by
  have logged : Logged .GCM c.dstAead rand Below (wrapped dst) [] := .of_below .GCM c.dstAead rand start
  cases frames : c.dstExtend.FrameHeaderEnable with
  | false =>
    refine ⟨.inl (wrapped dst), ?_, ⟨rfl, logged⟩, fun _ held found fit => .plain held found fit⟩
    rw [CryptoHelper.WrapDst, CryptoHelper.wrapDstWithRole, if_pos frames]
  | true =>
    have some_bytes : handshakeBytes .Business ≠ [] := List.cons_ne_nil _ _
    obtain ⟨ok, after⟩ := crypto.put logged some_bytes room
    refine ⟨.inr (NewFrameStream _ .Business), ?_, ⟨rfl, after⟩,
      fun {Holds w part} delivers held found fit => ?_⟩
    · rw [CryptoHelper.WrapDst, CryptoHelper.wrapDstWithRole, if_neg (by simp [frames]),
        writeStreamHandshake, ok]
    · have below : HoldsPlain .GCM c.dstAead Holds (wrapped dst) (decrypt .GCM c.dstAead w) :=
        .of_holds _ _ held
      have bytes : decrypt .GCM c.dstAead w = (packed true part).flatten := congrArg List.flatten found
      rw [bytes] at below
      refine .framed .Business ?_ fit
      rw [CryptoHelper.DstCrypto, encrypts]
      exact (NewReaderWriter_delivers .GCM c.dstAead rand delivers).write _ below

/-- The accepting end takes the greeting and is then ready for both directions. -/
theorem WrapSrc_sealed {src : σ} (encrypts : c.srcMode = .GCM) (sends : Sends S Fits Below)
    (start : Below src []) (delivers : Delivers S Holds) (held : Holds src w)
    (found : (recordDecoder c.srcAead).blocks w = opening c.srcExtend.FrameHeaderEnable ++
      packed c.srcExtend.FrameHeaderEnable part)
    (fit : ∀ b ∈ part, b ≠ [] ∧ b.length ≤ MaxSegmentSize) :
    ∃ left, c.WrapSrcWithRole rand S src = .ok (left, .Business) ∧ SealedIn c.srcAead Holds left part ∧
      Carries .GCM c.srcAead rand Below [] c.srcExtend.FrameHeaderEnable left [] := by
  have logged : Logged .GCM c.srcAead rand Below (wrapped src) [] := .of_below .GCM c.srcAead rand start
  cases frames : c.srcExtend.FrameHeaderEnable with
  | false =>
    rw [frames] at found
    refine ⟨.inl (wrapped src), ?_, .plain held found fit, rfl, logged⟩
    rw [CryptoHelper.WrapSrcWithRole, if_pos frames]
  | true =>
    rw [frames] at found
    have below : HoldsPlain .GCM c.srcAead Holds (wrapped src) (decrypt .GCM c.srcAead w) :=
      .of_holds _ _ held
    have bytes : decrypt .GCM c.srcAead w = handshakeBytes .Business ++ (packed true part).flatten :=
      congrArg List.flatten found
    rw [bytes] at below
    have crypto := NewReaderWriter_delivers .GCM c.srcAead rand delivers
    have length := handshakeBytes_length .Business
    obtain ⟨t, ok, left⟩ :=
      readStreamHandshake_ok crypto below (by rw [List.length_append, length]; omega)
      (by rw [List.take_left' length]; exact parseHandshake_bytes .Business)
    rw [List.drop_left' length] at left
    have kept := readStreamHandshake_keeps (P := fun g => Logged .GCM c.srcAead rand Below g [])
      (fun n _ logged => logged.read sends n) _ logged
    rw [ok] at kept
    refine ⟨.inr (NewFrameStream t .Business), ?_, .framed .Business left fit, rfl, kept⟩
    rw [CryptoHelper.WrapSrcWithRole, if_neg (by simp [frames]), CryptoHelper.SrcCrypto, encrypts, ok]

/-- Where the greeting does not arrive, nothing is accepted. -/
theorem WrapSrc_refused {src : σ} (encrypts : c.srcMode = .GCM)
    (frames : c.srcExtend.FrameHeaderEnable = true) (delivers : Delivers S Holds)
    (held : Holds src w) (found : (recordDecoder c.srcAead).blocks w = []) :
    ∃ e, c.WrapSrcWithRole rand S src = .error e := by
  have below : HoldsPlain .GCM c.srcAead Holds (wrapped src) (decrypt .GCM c.srcAead w) :=
    .of_holds _ _ held
  have nothing : decrypt .GCM c.srcAead w = [] := congrArg List.flatten found
  rw [nothing] at below
  have crypto := NewReaderWriter_delivers .GCM c.srcAead rand delivers
  obtain ⟨e, t, failed⟩ :=
    readStreamHandshake_error crypto below fun role enough => absurd enough (by simp)
  refine ⟨e, ?_⟩
  rw [CryptoHelper.WrapSrcWithRole, if_neg (by simp [frames]), CryptoHelper.SrcCrypto, encrypts, failed]

end ends

end Gotun.Tun
