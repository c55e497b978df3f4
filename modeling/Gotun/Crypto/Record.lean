import Gotun.Crypto.Gcm
import Gotun.Lib.Conn

/-! What the GCM reader computes: a pure decoder of one record at a time. On any input
the reader refines it; on what a writer wrote, cut off anywhere, it gives the payloads
back and ends for want of bytes only. -/

namespace Gotun.Crypto
open Gotun.Lib Gotun.Core

variable {σ : Type}

def decodeRecord (aead : AEAD) (w : Bytes) : Option (Bytes × Bytes) :=
  if w.length < aead.NonceSize then none
  else
    let nonce := w.take aead.NonceSize
    let w := w.drop aead.NonceSize
    if w.length < 2 + aead.Overhead then none
    else
      let head := w.take (2 + aead.Overhead)
      let w := w.drop (2 + aead.Overhead)
      match aead.Open nonce head with
      | none => none
      | some plain =>
        let size := sizeOf (overwrite plain head)
        if MaxSegmentSize < size then none
        else if w.length < size + aead.Overhead then none
        else
          let body := w.take (size + aead.Overhead)
          match aead.Open nonce body with
          | none => none
          | some plain => some ((overwrite plain body).take size, w.drop (size + aead.Overhead))

theorem decodeRecord_shrinks (aead : AEAD) {w block rest : Bytes}
    (found : decodeRecord aead w = some (block, rest)) : rest.length < w.length := by
  unfold decodeRecord at found
  dsimp only at found
  split_ifs at found with short shortHead
  split at found
  · cases found
  · split_ifs at found with large shortBody
    split at found
    · cases found
    · simp only [Option.some.injEq, Prod.mk.injEq] at found
      obtain ⟨_, rfl⟩ := found
      simp only [List.length_drop] at shortHead ⊢
      omega

def recordDecoder (aead : AEAD) : Decoder Bytes := ⟨decodeRecord aead, decodeRecord_shrinks aead⟩

/-- A record is decoded from its own bytes only. -/
theorem decodeRecord_append (aead : AEAD) {w block rest : Bytes} (more : Bytes)
    (found : decodeRecord aead w = some (block, rest)) :
    decodeRecord aead (w ++ more) = some (block, rest ++ more) := by
  unfold decodeRecord at found ⊢
  dsimp only at found ⊢
  split_ifs at found with short shortHead
  rw [if_neg (by simp only [List.length_append]; omega), List.take_append_of_le_length
    (Nat.not_lt.mp short), List.drop_append_of_le_length (Nat.not_lt.mp short)]
  rw [if_neg (by simp only [List.length_append]; omega), List.take_append_of_le_length
    (Nat.not_lt.mp shortHead), List.drop_append_of_le_length (Nat.not_lt.mp shortHead)]
  split at found
  · cases found
  · rename_i plain opened
    split_ifs at found with large shortBody
    split at found
    · cases found
    · rename_i last openedLast
      simp only [Option.some.injEq, Prod.mk.injEq] at found
      obtain ⟨rfl, rfl⟩ := found
      simp only [if_neg large, List.take_append_of_le_length (Nat.not_lt.mp shortBody),
        List.drop_append_of_le_length (Nat.not_lt.mp shortBody), openedLast]
      rw [if_neg (by simp only [List.length_append]; omega)]

/-- The record that is found lies at the front, and is found without what comes after it. -/
theorem decodeRecord_own (aead : AEAD) {w block rest : Bytes}
    (found : decodeRecord aead w = some (block, rest)) :
    ∃ own, w = own ++ rest ∧ decodeRecord aead own = some (block, []) := by
  unfold decodeRecord at found
  dsimp only at found
  split_ifs at found with short shortHead
  split at found
  · cases found
  rename_i plain opened
  split_ifs at found with large shortBody
  split at found
  · cases found
  rename_i last openedLast
  simp only [Option.some.injEq, Prod.mk.injEq] at found
  obtain ⟨rfl, rfl⟩ := found
  generalize size : sizeOf (overwrite plain ((w.drop aead.NonceSize).take (2 + aead.Overhead))) = n at *
  refine ⟨w.take (aead.NonceSize + (2 + aead.Overhead + (n + aead.Overhead))), ?_, ?_⟩
  · rw [List.drop_drop, List.drop_drop, List.take_append_drop]
  · simp only [List.length_drop] at shortHead shortBody
    simp only [decodeRecord, List.take_take, List.drop_take, List.length_take, List.length_drop]
    rw [if_neg (by omega), if_neg (by omega), min_eq_left (by omega), min_eq_left (by omega), opened]
    dsimp only
    rw [size, if_neg large, if_neg (by omega), min_eq_left (by omega), openedLast]
    simp only [Option.some.injEq, Prod.mk.injEq, true_and, List.take_eq_nil_iff]
    omega

theorem recordDecoder_local (aead : AEAD) : (recordDecoder aead).Local := by
  intro w block rest found
  obtain ⟨own, whole, alone⟩ := decodeRecord_own aead found
  exact ⟨own, whole, fun more => decodeRecord_append aead more alone⟩

theorem openPart_some {aead : AEAD} {nonce buf plain : Bytes}
    (opened : aead.Open nonce buf = some plain) :
    (reader.openPart aead nonce buf : Action σ Bytes) = pure (overwrite plain buf) := by
  rw [reader.openPart, opened]

theorem openPart_none {aead : AEAD} {nonce buf : Bytes} (refused : aead.Open nonce buf = none) :
    (reader.openPart aead nonce buf : Action σ Bytes) = .fail openFailed := by
  rw [reader.openPart, refused]

section refinement

variable {S : Stream σ} {Holds : σ → Bytes → Prop} (aead : AEAD)

/-- The reader up to its size, and what it does from there on. -/
private def readBody (S : Stream σ) (nonce head : Bytes) : Action σ Bytes :=
  if MaxSegmentSize < sizeOf head then .fail (.failed "payload size too large")
  else do
    let body ← readFull S (sizeOf head + aead.Overhead)
    let body ← reader.openPart aead nonce body
    pure (body.take (sizeOf head))

private theorem read_eq (S : Stream σ) : reader.read aead S = (do
    let nonce ← readFull S aead.NonceSize
    let head ← readFull S (2 + aead.Overhead)
    let head ← reader.openPart aead nonce head
    readBody aead S nonce head) := rfl

/-- Where the decoder finds a record, the reader returns it and leaves the rest. -/
theorem read_some (delivers : Delivers S Holds) {s : σ} {w block rest : Bytes} (held : Holds s w)
    (found : decodeRecord aead w = some (block, rest)) :
    ∃ t, reader.read aead S s = (.ok block, t) ∧ Holds t rest := by
  unfold decodeRecord at found
  dsimp only at found
  split_ifs at found with short shortHead
  obtain ⟨s1, first, held1⟩ := delivers.readFull_ok aead.NonceSize held (by omega)
  obtain ⟨s2, second, held2⟩ := delivers.readFull_ok (2 + aead.Overhead) held1 (by omega)
  split at found
  · cases found
  · rename_i plain opened
    split_ifs at found with large shortBody
    obtain ⟨s3, third, held3⟩ := delivers.readFull_ok _ held2 (Nat.not_lt.mp shortBody)
    split at found
    · cases found
    · rename_i last openedLast
      simp only [Option.some.injEq, Prod.mk.injEq] at found
      obtain ⟨rfl, rfl⟩ := found
      refine ⟨s3, ?_, held3⟩
      rw [read_eq, Action.bind_ok _ first, Action.bind_ok _ second, openPart_some opened,
        Action.bind_ok _ (Action.pure_apply _ _), readBody, if_neg large, Action.bind_ok _ third,
        openPart_some openedLast, Action.bind_ok _ (Action.pure_apply _ _), Action.pure_apply]

/-- Where the decoder finds none, the reader fails. -/
theorem read_none (delivers : Delivers S Holds) {s : σ} {w : Bytes} (held : Holds s w)
    (stuck : decodeRecord aead w = none) : ∃ e t, reader.read aead S s = (.error e, t) := by
  rw [read_eq]
  by_cases short : w.length < aead.NonceSize
  · obtain ⟨e, t, first⟩ := delivers.readFull_short _ held short
    exact ⟨e, t, Action.bind_error _ first⟩
  obtain ⟨s1, first, held1⟩ := delivers.readFull_ok aead.NonceSize held (Nat.not_lt.mp short)
  rw [Action.bind_ok _ first]
  by_cases shortHead : (w.drop aead.NonceSize).length < 2 + aead.Overhead
  · obtain ⟨e, t, second⟩ := delivers.readFull_short _ held1 shortHead
    exact ⟨e, t, Action.bind_error _ second⟩
  obtain ⟨s2, second, held2⟩ := delivers.readFull_ok _ held1 (Nat.not_lt.mp shortHead)
  rw [Action.bind_ok _ second]
  simp only [decodeRecord, if_neg short, if_neg shortHead] at stuck
  split at stuck
  · rename_i refused
    rw [openPart_none refused]
    exact ⟨_, _, Action.bind_error _ (Action.fail_apply _ _)⟩
  rename_i plain opened
  rw [openPart_some opened, Action.bind_ok _ (Action.pure_apply _ _), readBody]
  split_ifs at stuck ⊢ with large shortBody
  · exact ⟨_, _, Action.fail_apply _ _⟩
  · obtain ⟨e, t, third⟩ := delivers.readFull_short _ held2 shortBody
    exact ⟨e, t, Action.bind_error _ third⟩
  obtain ⟨s3, third, _⟩ := delivers.readFull_ok _ held2 (Nat.not_lt.mp shortBody)
  rw [Action.bind_ok _ third]
  split at stuck
  · rename_i refused
    rw [openPart_none refused]
    exact ⟨_, _, Action.bind_error _ (Action.fail_apply _ _)⟩
  · cases stuck

theorem onRw_ok {α : Type} {x : Action σ α} {g : gcm σ} {a : α} {t : σ} (ok : x g.rw = (.ok a, t)) :
    gcm.onRw x g = (.ok a, { g with rw := t }) := by
  simp only [gcm.onRw, ok]

theorem onRw_error {α : Type} {x : Action σ α} {g : gcm σ} {e : Err} {t : σ}
    (failed : x g.rw = (.error e, t)) :
    gcm.onRw x g = (.error e, { g with rw := t }) := by
  simp only [gcm.onRw, failed]

theorem writer.Write_holds (rand : Rand) (delivers : Delivers S Holds) {g : gcm σ} {w : Bytes}
    (b : Bytes) (held : Holds g.rw w) : Holds (writer.Write aead rand S b g).next.rw w := by
  unfold writer.Write writer.write
  split_ifs
  · exact held
  · exact held
  · exact delivers.write _ held

theorem gcm_fetches (rand : Rand) (delivers : Delivers S Holds) :
    Buffered.Fetches (gcm.source aead rand S) (recordDecoder aead) (fun g w => Holds g.rw w) where
  some_block held found := by
    obtain ⟨t, ok, left⟩ := read_some aead delivers held found
    exact ⟨_, onRw_ok ok, left⟩
  no_block held stuck := by
    obtain ⟨e, t, failed⟩ := read_none aead delivers held stuck
    exact ⟨e, _, onRw_error failed⟩
  write b held := writer.Write_holds aead rand delivers b held

/-- Whatever arrives, a GCM stream delivers the payloads of the records decoded from it. -/
theorem gcm_delivers (rand : Rand) (delivers : Delivers S Holds) :
    Delivers (gcm.stream aead rand S)
      (Buffered.HoldsBlocks (recordDecoder aead) (fun g w => Holds g.rw w)) :=
  (gcm_fetches aead rand delivers).delivers

end refinement

section written

variable {aead : AEAD}

theorem sizeOf_sizeBytes (n : Nat) (rest : Bytes) (fits : n ≤ MaxSegmentSize) :
    sizeOf (sizeBytes n ++ rest) = n := by
  simp only [sizeOf, sizeBytes, List.cons_append, List.nil_append, List.getD_cons_zero,
    List.getD_cons_succ, UInt8.toNat_ofNat', Nat.shiftRight_eq_div_pow, Nat.shiftLeft_eq]
  unfold MaxSegmentSize at fits
  omega

@[simp] theorem sizeBytes_length (n : Nat) : (sizeBytes n).length = 2 := rfl

theorem overwrite_self (plain buf : Bytes) : (overwrite plain buf).take plain.length = plain :=
  List.take_left' rfl

theorem record_length (lawful : aead.Lawful) (nonce b : Bytes) :
    (record aead nonce b).length = nonce.length + (2 + aead.Overhead) + (b.length + aead.Overhead) := by
  simp only [record, List.length_append, lawful.seal_length, sizeBytes_length]

theorem decodeRecord_record (lawful : aead.Lawful) (nonce b rest : Bytes)
    (sized : nonce.length = aead.NonceSize) (fits : b.length ≤ MaxSegmentSize) :
    decodeRecord aead (record aead nonce b ++ rest) = some (b, rest) := by
  have head := lawful.seal_length nonce (sizeBytes b.length)
  have body := lawful.seal_length nonce b
  rw [sizeBytes_length] at head
  have size :
      sizeOf (overwrite (sizeBytes b.length) (aead.Seal nonce (sizeBytes b.length))) = b.length :=
    sizeOf_sizeBytes _ _ fits
  simp only [record, List.append_assoc]
  simp only [decodeRecord, List.take_left' sized, List.drop_left' sized, List.take_left' head,
    List.drop_left' head, lawful.open_seal, size, List.take_left' body, List.drop_left' body,
    overwrite_self, List.length_append, head, body, sized]
  rw [if_neg (by omega), if_neg (by omega), if_neg (Nat.not_lt.mpr fits), if_neg (by omega)]

/-- The reader runs out of bytes on a cut record, and leaves none. -/
theorem read_cut (lawful : aead.Lawful) {S : Stream σ} {Holds : σ → Bytes → Prop}
    (drains : Drains S Holds) {s : σ} {nonce b : Bytes} (k : Nat)
    (sized : nonce.length = aead.NonceSize) (fits : b.length ≤ MaxSegmentSize)
    (short : k < (record aead nonce b).length) (held : Holds s ((record aead nonce b).take k)) :
    ∃ e t, reader.read aead S s = (.error e, t) ∧ Holds t [] := by
  have total := record_length lawful nonce b
  have head := lawful.seal_length nonce (sizeBytes b.length)
  rw [sizeBytes_length] at head
  rw [read_eq]
  by_cases shortNonce : k < aead.NonceSize
  · obtain ⟨e, t, first, left⟩ := drains.readFull_short aead.NonceSize held
      ((List.length_take_le _ _).trans_lt shortNonce)
    exact ⟨e, t, Action.bind_error _ first, left⟩
  obtain ⟨s1, first, held1⟩ := drains.readFull_ok aead.NonceSize held (by simp; omega)
  have nonceRead : ((record aead nonce b).take k).take aead.NonceSize = nonce := by
    rw [List.take_take, min_eq_left (Nat.not_lt.mp shortNonce), record, List.append_assoc,
      List.take_left' sized]
  have afterNonce : ((record aead nonce b).take k).drop aead.NonceSize =
      (aead.Seal nonce (sizeBytes b.length) ++ aead.Seal nonce b).take (k - aead.NonceSize) := by
    rw [List.drop_take, record, List.append_assoc, List.drop_left' sized]
  rw [nonceRead] at first
  rw [afterNonce] at held1
  rw [Action.bind_ok _ first]
  by_cases shortHead : k - aead.NonceSize < 2 + aead.Overhead
  · obtain ⟨e, t, second, left⟩ := drains.readFull_short (2 + aead.Overhead) held1
      ((List.length_take_le _ _).trans_lt shortHead)
    exact ⟨e, t, Action.bind_error _ second, left⟩
  obtain ⟨s2, second, held2⟩ := drains.readFull_ok (2 + aead.Overhead) held1 (by simp; omega)
  rw [List.take_take, min_eq_left (Nat.not_lt.mp shortHead), List.take_left' head] at second
  rw [List.drop_take, List.drop_left' head] at held2
  rw [Action.bind_ok _ second, openPart_some (lawful.open_seal _ _),
    Action.bind_ok _ (Action.pure_apply _ _), readBody]
  have size :
      sizeOf (overwrite (sizeBytes b.length) (aead.Seal nonce (sizeBytes b.length))) = b.length :=
    sizeOf_sizeBytes _ _ fits
  rw [size, if_neg (Nat.not_lt.mpr fits)]
  obtain ⟨e, t, third, left⟩ := drains.readFull_short (b.length + aead.Overhead) held2
    ((List.length_take_le _ _).trans_lt (by omega))
  exact ⟨e, t, Action.bind_error _ third, left⟩

theorem decodeRecord_cut (lawful : aead.Lawful) {nonce b : Bytes} (k : Nat)
    (sized : nonce.length = aead.NonceSize) (fits : b.length ≤ MaxSegmentSize)
    (short : k < (record aead nonce b).length) :
    decodeRecord aead ((record aead nonce b).take k) = none := by
  -- A decoder success would be a success of the reader on a connection that holds these bytes.
  rcases found : decodeRecord aead ((record aead nonce b).take k) with _ | ⟨block, rest⟩
  · rfl
  · have held : Conn.arrived [.chunk ((record aead nonce b).take k)] = (record aead nonce b).take k := by
      simp [Conn.arrived]
    obtain ⟨t, ok, _⟩ := read_some aead Conn.drains.toDelivers (s := ⟨_, false, []⟩) held found
    obtain ⟨e, u, failed, _⟩ := read_cut lawful Conn.drains (s := ⟨_, false, []⟩) k sized fits short held
    rw [ok] at failed
    simp at failed

/-- Records, as pairs of nonce and payload. -/
def recordCodec (lawful : aead.Lawful) : Codec (Bytes × Bytes) Bytes where
  toDecoder := recordDecoder aead
  encode r := record aead r.1 r.2
  value := Prod.snd
  Valid r := r.1.length = aead.NonceSize ∧ r.2.length ≤ MaxSegmentSize
  decode_encode rest valid := decodeRecord_record lawful _ _ rest valid.1 valid.2
  decode_cut k valid short := decodeRecord_cut lawful k valid.1 valid.2 short

theorem read_stuck (lawful : aead.Lawful) {S : Stream σ} {Holds : σ → Bytes → Prop}
    (drains : Drains S Holds) {s : σ} {w : Bytes} (cut : (recordCodec lawful).Cut w)
    (held : Holds s w) :
    ∃ e t, reader.read aead S s = (.error e, t) ∧ Holds t [] := by
  cases cut with
  | within k valid short => exact read_cut lawful drains k valid.1 valid.2 short held
  | nil =>
    -- No bytes at all are the start of any record.
    have sized : (List.replicate aead.NonceSize (0 : UInt8)).length = aead.NonceSize :=
      List.length_replicate
    refine read_cut lawful drains (b := []) 0 sized (by simp) ?_ held
    rw [record_length lawful]
    omega

/-- What a GCM state holds when its peer is an honest writer: `v` is still to be read. -/
def HoldsWritten (lawful : aead.Lawful) (Holds : σ → Bytes → Prop) (g : Buffered (gcm σ))
    (v : Bytes) : Prop :=
  Buffered.HoldsBlocks (recordDecoder aead)
    (fun g w => Holds g.rw w ∧ ∃ items, (recordCodec lawful).Written w items) g v

theorem gcm_drains (lawful : aead.Lawful) (rand : Rand) {S : Stream σ} {Holds : σ → Bytes → Prop}
    (drains : Drains S Holds) : Drains (gcm.stream aead rand S) (HoldsWritten lawful Holds) := by
  show Drains (Buffered.stream (gcm.source aead rand S)) (Buffered.HoldsBlocks (recordDecoder aead)
    fun g w => Holds g.rw w ∧ ∃ items, (recordCodec lawful).Written w items)
  refine Buffered.Fetches.drains ⟨?_, ?_, ?_⟩ ?_
  · rintro g w block rest ⟨held, items, written⟩ found
    obtain ⟨t, ok, left⟩ := read_some aead drains.toDelivers held found
    exact ⟨_, onRw_ok ok, left, written.rest found⟩
  · rintro g w ⟨held, _⟩ stuck
    obtain ⟨e, t, failed⟩ := read_none aead drains.toDelivers held stuck
    exact ⟨e, _, onRw_error failed⟩
  · rintro g w b ⟨held, written⟩
    exact ⟨writer.Write_holds aead rand drains.toDelivers b held, written⟩
  · rintro g w e t ⟨held, items, written⟩ stuck failed
    have cut := written.tail
    rw [(recordCodec lawful).tail_none stuck] at cut
    obtain ⟨e', t', exhausted, left⟩ := read_stuck lawful drains cut held
    have same : t = { g with rw := t' } := (Prod.mk.inj (failed.symm.trans (onRw_error exhausted))).2
    rw [same]
    exact ⟨left, [], .cut .nil⟩

theorem HoldsWritten.of_written (lawful : aead.Lawful) {Holds : σ → Bytes → Prop} {s : σ} {w : Bytes}
    {items : List (Bytes × Bytes)} (held : Holds s w) (written : (recordCodec lawful).Written w items) :
    HoldsWritten lawful Holds (wrapped s) (items.flatMap Prod.snd) := by
  refine ⟨w, ⟨held, items, written⟩, ?_⟩
  have decoded : (recordDecoder aead).plain w = (items.map Prod.snd).flatten :=
    congrArg List.flatten written.blocks
  rw [decoded, List.flatMap_def]
  rfl

end written

end Gotun.Crypto
