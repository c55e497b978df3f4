import Gotun.Crypto.Record
import Mathlib.Data.List.Nodup

/-! What one nonce per record gives an attacker who sees and rearranges the wire. The size
and the payload of a record are sealed under the same nonce, so a sealed size also opens
as a payload of two bytes, and the first two keystream bytes are used twice. -/

namespace Gotun.Crypto
open Gotun.Lib Gotun.Core

/-- The records that a sequence of `Write` calls puts on the wire: nonce and payload. -/
def records (aead : AEAD) (rand : Rand) : Nat → List Bytes → List (Bytes × Bytes)
  | _, [] => []
  | draw, b :: rest =>
      if b = [] ∨ MaxSegmentSize < b.length then records aead rand draw rest
      else (nonceOf aead rand draw, b) :: records aead rand (draw + 1) rest

def writeAll {σ : Type} (aead : AEAD) (rand : Rand) (S : Stream σ) (payloads : List Bytes)
    (g : gcm σ) : gcm σ :=
  payloads.foldl (fun g b => (writer.Write aead rand S b g).next) g

theorem writeAll_sent (aead : AEAD) (rand : Rand) (payloads : List Bytes) (g : gcm Conn) :
    (writeAll aead rand Conn.stream payloads g).rw.sent =
      g.rw.sent ++ (records aead rand g.draws payloads).flatMap fun r => record aead r.1 r.2 := by
  induction payloads generalizing g with
  | nil => simp [writeAll, records]
  | cons b rest ih =>
    have step : writeAll aead rand Conn.stream (b :: rest) g =
        writeAll aead rand Conn.stream rest (writer.Write aead rand Conn.stream b g).next := rfl
    rw [step, ih]
    by_cases large : MaxSegmentSize < b.length
    · rw [writer.Write_refused _ _ _ _ _ large, records, if_pos (Or.inr large)]
    · by_cases empty : b = []
      · simp [records, empty, writer.Write, writer.write]
      · rw [writer.Write_sent _ _ _ _ _ empty (Nat.not_lt.mp large), records,
          if_neg (fun skipped => skipped.elim empty large)]
        simp [Conn.stream, Conn.write, List.append_assoc]

/-- Every `Seal` call behind a list of records. -/
def sealCalls (written : List (Bytes × Bytes)) : List (Bytes × Bytes) :=
  written.flatMap fun r => [(r.1, sizeBytes r.2.length), (r.1, r.2)]

theorem mem_records {aead : AEAD} {rand : Rand} {draw : Nat} {payloads : List Bytes} {nonce b : Bytes}
    (member : (nonce, b) ∈ records aead rand draw payloads) :
    b ∈ payloads ∧ nonce.length = aead.NonceSize ∧ b.length ≤ MaxSegmentSize := by
  induction payloads generalizing draw with
  | nil => simp [records] at member
  | cons first rest ih =>
    simp only [records] at member
    split_ifs at member with skipped
    · have later := ih member
      exact ⟨by simp [later.1], later.2⟩
    · rcases List.mem_cons.mp member with same | later
      · obtain ⟨rfl, rfl⟩ := Prod.mk.inj same
        exact ⟨by simp, by simp, Nat.not_lt.mp fun large => skipped (Or.inr large)⟩
      · have later := ih later
        exact ⟨by simp [later.1], later.2⟩

theorem exists_record (aead : AEAD) (rand : Rand) {payloads : List Bytes} {b : Bytes} (draw : Nat)
    (member : b ∈ payloads) (some_bytes : b ≠ []) (fits : b.length ≤ MaxSegmentSize) :
    ∃ nonce, (nonce, b) ∈ records aead rand draw payloads := by
  induction payloads generalizing draw with
  | nil => simp at member
  | cons first rest ih =>
    simp only [records]
    split_ifs with skipped
    · rcases List.mem_cons.mp member with same | later
      · subst same
        rcases skipped with empty | large
        · exact absurd empty some_bytes
        · omega
      · exact ih draw later
    · rcases List.mem_cons.mp member with same | later
      · subst same
        exact ⟨_, List.mem_cons_self⟩
      · obtain ⟨nonce, found⟩ := ih (draw + 1) later
        exact ⟨nonce, List.mem_cons_of_mem _ found⟩

theorem mem_sealCalls {written : List (Bytes × Bytes)} {nonce plain : Bytes}
    (member : (nonce, plain) ∈ sealCalls written) :
    ∃ b, (nonce, b) ∈ written ∧ (plain = sizeBytes b.length ∨ plain = b) := by
  obtain ⟨r, found, inside⟩ := List.mem_flatMap.mp member
  simp only [List.mem_cons, Prod.mk.injEq, List.not_mem_nil, or_false] at inside
  rcases inside with ⟨rfl, rfl⟩ | ⟨rfl, rfl⟩
  · exact ⟨r.2, found, Or.inl rfl⟩
  · exact ⟨r.2, found, Or.inr rfl⟩

theorem size_mem_sealCalls {written : List (Bytes × Bytes)} {nonce b : Bytes}
    (member : (nonce, b) ∈ written) :
    (nonce, sizeBytes b.length) ∈ sealCalls written :=
  List.mem_flatMap.mpr ⟨(nonce, b), member, by simp⟩

/-- An ideal AEAD after the listed `Seal` calls: nothing else opens. -/
structure AEAD.Ideal (aead : AEAD) (calls : List (Bytes × Bytes)) : Prop where
  seal_length : ∀ nonce plain, (aead.Seal nonce plain).length = plain.length + aead.Overhead
  open_iff : ∀ nonce sealed plain, aead.Open nonce sealed = some plain ↔
    (nonce, plain) ∈ calls ∧ sealed = aead.Seal nonce plain

/-- With one record per nonce, the plain parts under a nonce are those of that record. -/
theorem record_of_nonce {written : List (Bytes × Bytes)} (distinct : (written.map Prod.fst).Nodup)
    {nonce b b' : Bytes} (first : (nonce, b) ∈ written) (second : (nonce, b') ∈ written) : b = b' :=
  congrArg Prod.snd (List.inj_on_of_nodup_map distinct first second rfl)

theorem openPart_ok {σ : Type} {aead : AEAD} {nonce buf data : Bytes} {s t : σ}
    (ok : reader.openPart aead nonce buf s = (.ok data, t)) :
    ∃ plain, aead.Open nonce buf = some plain ∧ data = overwrite plain buf := by
  rcases opened : aead.Open nonce buf with _ | plain
  · simp [reader.openPart, opened, Action.fail_apply] at ok
  · simp only [reader.openPart, opened, Action.pure_apply, Prod.mk.injEq, Except.ok.injEq] at ok
    exact ⟨plain, rfl, ok.1.symm⟩

/-- A record the reader returns is a plain part of `Seal` calls under one nonce: one of
two bytes that was taken for the size, and one of that size. -/
theorem read_ideal {σ : Type} {aead : AEAD} {S : Stream σ} {calls : List (Bytes × Bytes)} {s t : σ}
    {data : Bytes} (ideal : aead.Ideal calls) (ok : reader.read aead S s = (.ok data, t)) :
    ∃ nonce size, (nonce, size) ∈ calls ∧ (nonce, data) ∈ calls ∧ size.length = 2 ∧
      data.length = sizeOf size := by
  obtain ⟨nonce, s1, first, ok⟩ := Action.of_bind_ok ok
  obtain ⟨head, s2, second, ok⟩ := Action.of_bind_ok ok
  obtain ⟨plain, s3, third, ok⟩ := Action.of_bind_ok ok
  dsimp only at ok
  split_ifs at ok with large
  · simp [Action.fail_apply] at ok
  obtain ⟨body, s4, fourth, ok⟩ := Action.of_bind_ok ok
  obtain ⟨last, s5, fifth, ok⟩ := Action.of_bind_ok ok
  simp only [Action.pure_apply, Prod.mk.injEq, Except.ok.injEq] at ok
  obtain ⟨size, opened, rfl⟩ := openPart_ok third
  obtain ⟨payload, openedLast, rfl⟩ := openPart_ok fifth
  obtain ⟨sizeCall, rfl⟩ := (ideal.open_iff _ _ _).mp opened
  obtain ⟨payloadCall, rfl⟩ := (ideal.open_iff _ _ _).mp openedLast
  have headLength := (readFull_inv second).1
  have bodyLength := (readFull_inv fourth).1
  rw [ideal.seal_length] at headLength bodyLength
  have two : size.length = 2 := by omega
  have sizes : sizeOf (overwrite size (aead.Seal nonce size)) = sizeOf size := by
    obtain ⟨high, low, rfl⟩ := List.length_eq_two.mp two
    rfl
  rw [sizes] at bodyLength ok
  have payloadLength : payload.length = sizeOf size := by omega
  have returned : payload = data := by
    rw [← ok.1, ← payloadLength, overwrite_self]
  exact ⟨nonce, size, sizeCall, returned ▸ payloadCall, two, returned ▸ payloadLength⟩

/-- The splice: a sealed size of two, put into both slots, is read as the payload `[0, 2]`. -/
theorem read_splice {aead : AEAD} {calls : List (Bytes × Bytes)} {nonce : Bytes}
    (ideal : aead.Ideal calls) (sized : nonce.length = aead.NonceSize)
    (call : (nonce, [0, 2]) ∈ calls) :
    ∃ t, reader.read aead Conn.stream
      ⟨[.chunk (nonce ++ aead.Seal nonce [0, 2] ++ aead.Seal nonce [0, 2])], false, []⟩ =
        (.ok [0, 2], t) := by
  have opens : aead.Open nonce (aead.Seal nonce [0, 2]) = some [0, 2] :=
    (ideal.open_iff _ _ _).mpr ⟨call, rfl⟩
  have length : (aead.Seal nonce [0, 2]).length = 2 + aead.Overhead := ideal.seal_length _ _
  have size : sizeOf (overwrite [0, 2] (aead.Seal nonce [0, 2])) = 2 := rfl
  have found : decodeRecord aead (nonce ++ aead.Seal nonce [0, 2] ++ aead.Seal nonce [0, 2]) =
      some ([0, 2], []) := by
    rw [List.append_assoc]
    simp only [decodeRecord, List.take_left' sized, List.drop_left' sized, List.take_left' length,
      List.drop_left' length, opens, size, List.take_of_length_le length.le,
        List.drop_of_length_le length.le,
      List.length_append, sized, length]
    rw [if_neg (by omega), if_neg (by omega), if_neg (by decide), if_neg (by omega)]
    rfl
  obtain ⟨t, ok, _⟩ := read_some aead Conn.drains.toDelivers
    (s := ⟨[.chunk (nonce ++ aead.Seal nonce [0, 2] ++ aead.Seal nonce [0, 2])], false, []⟩)
    (by simp [Conn.Holds, Conn.arrived]) found
  exact ⟨t, ok⟩

/-- Every record read from any bytes is a payload that was written, exactly when no
payload of two bytes was written or `[0, 2]` itself was. -/
theorem records_authentic_iff (aead : AEAD) (rand : Rand) (payloads : List Bytes)
    (ideal : aead.Ideal (sealCalls (records aead rand 0 payloads)))
    (distinct : ((records aead rand 0 payloads).map Prod.fst).Nodup) :
    (∀ (conn next : Conn) (data : Bytes), reader.read aead Conn.stream conn = (.ok data, next) →
      data ≠ [] → data ∈ payloads) ↔ ((∀ b ∈ payloads, b.length ≠ 2) ∨ [0, 2] ∈ payloads) := by
  constructor
  · intro authentic
    by_contra neither
    push Not at neither
    obtain ⟨⟨b, member, two⟩, absent⟩ := neither
    obtain ⟨nonce, found⟩ := exists_record aead rand 0 member
      (by rintro rfl; simp at two) (by rw [two]; decide)
    have call : (nonce, [0, 2]) ∈ sealCalls (records aead rand 0 payloads) := by
      have sized := size_mem_sealCalls found
      rwa [two] at sized
    obtain ⟨t, spliced⟩ := read_splice ideal (mem_records found).2.1 call
    exact absent (authentic _ _ _ spliced (by simp))
  · intro holds conn next data ok some_bytes
    obtain ⟨nonce, size, sizeCall, dataCall, two, length⟩ := read_ideal ideal ok
    obtain ⟨b, written, size_eq⟩ := mem_sealCalls sizeCall
    obtain ⟨b', written', data_eq⟩ := mem_sealCalls dataCall
    obtain rfl := record_of_nonce distinct written written'
    rcases data_eq with spliced | rfl
    · -- The size part sits in the payload slot, so whichever part sits in the size slot says two.
      have bytes : sizeOf size = 2 := by rw [← length, spliced, sizeBytes_length]
      have short : b.length = 2 := by
        rcases size_eq with rfl | rfl
        · rw [← List.append_nil (sizeBytes b.length),
            sizeOf_sizeBytes _ _ (mem_records written).2.2] at bytes
          exact bytes
        · exact two
      rcases holds with none_two | present
      · exact absurd short (none_two b (mem_records written).1)
      · rw [spliced, short]
        exact present
    · exact (mem_records written).1

/-- An ideal AEAD by table lookup: one byte of nonce, one byte of tag. -/
def tableAEAD (calls : List (Bytes × Bytes)) : AEAD where
  NonceSize := 1
  Overhead := 1
  Seal nonce plain := plain ++ [nonce.headD 0]
  Open nonce sealed :=
    (calls.find? fun call => call.1 = nonce ∧ call.2 ++ [nonce.headD 0] = sealed).map Prod.snd

theorem tableAEAD_ideal (calls : List (Bytes × Bytes)) : (tableAEAD calls).Ideal calls where
  seal_length nonce plain := by simp [tableAEAD]
  open_iff nonce sealed plain := by
    simp only [tableAEAD, Option.map_eq_some_iff]
    constructor
    · rintro ⟨⟨nonce', plain'⟩, found, rfl⟩
      have hit := List.find?_some found
      simp only [decide_eq_true_eq] at hit
      obtain ⟨rfl, rfl⟩ := hit
      exact ⟨List.mem_of_find?_eq_some found, rfl⟩
    · rintro ⟨member, rfl⟩
      rcases missing : calls.find? (fun call => call.1 = nonce ∧
        call.2 ++ [nonce.headD 0] = plain ++ [nonce.headD 0]) with _ | call
      · exact absurd (List.find?_eq_none.mp missing _ member) (by simp)
      · have hit := List.find?_some missing
        simp only [decide_eq_true_eq, List.append_cancel_right_eq] at hit
        exact ⟨call, by simpa using missing, hit.2⟩

def nines : Rand := fun _ _ => 9

/-- The table AEAD after one record with payload `[7, 7]` under the nonce `[9]`. -/
def sevens : AEAD := tableAEAD [([9], [0, 2]), ([9], [7, 7])]

/-- Only `[7, 7]` was written; its sealed size, sent in both slots, is read as `[0, 2]`. -/
theorem records_spliced :
    sevens.Ideal (sealCalls (records sevens nines 0 [[7, 7]])) ∧
    ((records sevens nines 0 [[7, 7]]).map Prod.fst).Nodup ∧
    (writeAll sevens nines Conn.stream [[7, 7]] ⟨⟨[], false, []⟩, 0⟩).rw.sent =
      [9] ++ [0, 2, 9] ++ [7, 7, 9] ∧
    (reader.read sevens Conn.stream
      ⟨[.chunk ([9] ++ [0, 2, 9] ++ [0, 2, 9])], false, []⟩).1.toOption = some [0, 2] ∧
    [0, 2] ∉ [([7, 7] : Bytes)] :=
  ⟨tableAEAD_ideal _, by decide, (writeAll_sent sevens nines [[7, 7]] _).trans (by decide),
    by decide, by decide⟩

def counting : Rand := fun draw _ => UInt8.ofNat draw

/-- The table AEAD after the records of `[5]` under the nonce `[0]` and of `[6, 6, 6]` under the
nonce `[1]`. -/
def counted : AEAD := tableAEAD [([0], [0, 1]), ([0], [5]), ([1], [0, 3]), ([1], [6, 6, 6])]

theorem counted_authentic :
    counted.Ideal (sealCalls (records counted counting 0 [[5], [6, 6, 6]])) ∧
    ((records counted counting 0 [[5], [6, 6, 6]]).map Prod.fst).Nodup ∧
    ∀ (conn next : Conn) (data : Bytes), reader.read counted Conn.stream conn = (.ok data, next) →
      data ≠ [] → data ∈ [([5] : Bytes), [6, 6, 6]] := by
  have ideal : counted.Ideal (sealCalls (records counted counting 0 [[5], [6, 6, 6]])) :=
    tableAEAD_ideal _
  have distinct : ((records counted counting 0 [[5], [6, 6, 6]]).map Prod.fst).Nodup := by decide
  exact ⟨ideal, distinct, (records_authentic_iff counted counting
    [[5], [6, 6, 6]] ideal distinct).mpr (Or.inl (by decide))⟩

/-! Counter mode as a stream cipher: the plaintext is added to a keystream that depends on
the nonce only. -/

def xorStream (key : Nat → UInt8) (plain : Bytes) : Bytes := plain.mapIdx fun i byte => byte ^^^ key i

@[simp] theorem xorStream_length (key : Nat → UInt8) (plain : Bytes) :
    (xorStream key plain).length = plain.length :=
  List.length_mapIdx

theorem xorStream_xorStream (key : Nat → UInt8) (plain : Bytes) :
    xorStream key (xorStream key plain) = plain := by
  apply List.ext_getElem (by simp)
  intro i _ _
  simp only [xorStream, List.getElem_mapIdx]
  rw [UInt8.xor_assoc, UInt8.xor_self, UInt8.xor_zero]

/-- Seals with a keystream and `overhead` bytes of tag. -/
def streamAEAD (nonceSize overhead : Nat) (keystream : Bytes → Nat → UInt8)
    (tag : Bytes → Bytes → Nat → UInt8) :
    AEAD where
  NonceSize := nonceSize
  Overhead := overhead
  Seal nonce plain := xorStream (keystream nonce) plain ++ (List.range overhead).map (tag nonce plain)
  Open nonce sealed :=
    let plain := xorStream (keystream nonce) (sealed.take (sealed.length - overhead))
    if sealed.drop (sealed.length - overhead) = (List.range overhead).map (tag nonce plain) then
      some plain
    else none

theorem streamAEAD_lawful (nonceSize overhead : Nat) (keystream : Bytes → Nat → UInt8)
    (tag : Bytes → Bytes → Nat → UInt8) : (streamAEAD nonceSize overhead keystream tag).Lawful where
  open_seal nonce plain := by
    have split :
      (xorStream (keystream nonce) plain ++ (List.range overhead).map (tag nonce plain)).length
        - overhead = (xorStream (keystream nonce) plain).length := by simp
    simp only [streamAEAD]
    rw [split, List.take_left, List.drop_left, xorStream_xorStream, if_pos rfl]
  seal_length nonce plain := by simp [streamAEAD]

/-- What one `Write` on a fresh writer puts on the wire. -/
def wireOf (aead : AEAD) (rand : Rand) (b : Bytes) : Bytes :=
  (writer.Write aead rand Conn.stream b ⟨⟨[], false, []⟩, 0⟩).next.rw.sent

/-- The wire of one record with both tags left out. -/
def withoutTags (aead : AEAD) (wire : Bytes) : Bytes :=
  wire.take (aead.NonceSize + 2) ++
    (wire.drop (aead.NonceSize + 2 + aead.Overhead)).take
      (wire.length - (aead.NonceSize + 2 + aead.Overhead) - aead.Overhead)

theorem withoutTags_parts (aead : AEAD) {nonce size first payload second : Bytes}
    (sized : nonce.length = aead.NonceSize) (two : size.length = 2)
    (tagged : first.length = aead.Overhead) (tagged' : second.length = aead.Overhead) :
    withoutTags aead (nonce ++ size ++ first ++ (payload ++ second)) = nonce ++ size ++ payload := by
  have head : (nonce ++ size).length = aead.NonceSize + 2 := by simp [sized, two]
  have front : (nonce ++ size ++ first).length = aead.NonceSize + 2 + aead.Overhead := by
    rw [List.length_append, head, tagged]
  have back :
    (nonce ++ size ++ first ++ (payload ++ second)).length - (aead.NonceSize + 2 + aead.Overhead)
      - aead.Overhead = payload.length := by
    rw [List.length_append, front, List.length_append, tagged']
    omega
  rw [withoutTags, back, List.drop_left' front, List.take_left, List.append_assoc (nonce ++ size),
    List.take_left' head]

section confidentiality

variable (nonceSize overhead : Nat) (tag : Bytes → Bytes → Nat → UInt8) (rand : Rand)

/-- An observer sees the nonce, and the size and the payload under the same keystream. -/
theorem wire_withoutTags (keystream : Bytes → Nat → UInt8) (b : Bytes) (some_bytes : b ≠ [])
    (fits : b.length ≤ MaxSegmentSize) :
    withoutTags (streamAEAD nonceSize overhead keystream tag)
      (wireOf (streamAEAD nonceSize overhead keystream tag) rand b) =
    nonceOf (streamAEAD nonceSize overhead keystream tag) rand 0 ++
      xorStream (keystream (nonceOf (streamAEAD nonceSize overhead keystream tag) rand 0))
        (sizeBytes b.length) ++
      xorStream (keystream (nonceOf (streamAEAD nonceSize overhead keystream tag) rand 0)) b := by
  rw [wireOf, writer.Write_sent _ _ _ _ _ some_bytes fits]
  have sized := nonceOf_length (streamAEAD nonceSize overhead keystream tag) rand 0
  generalize nonceOf (streamAEAD nonceSize overhead keystream tag) rand 0 = nonce at sized ⊢
  have wire : record (streamAEAD nonceSize overhead keystream tag) nonce b =
      nonce ++ xorStream (keystream nonce) (sizeBytes b.length) ++
        (List.range overhead).map (tag nonce (sizeBytes b.length)) ++
      (xorStream (keystream nonce) b ++ (List.range overhead).map (tag nonce b)) := by
    simp only [record, streamAEAD, List.append_assoc]
  show withoutTags _ ([] ++ record _ _ _) = _
  rw [List.nil_append, wire]
  exact withoutTags_parts _ sized (by simp) (by simp [streamAEAD]) (by simp [streamAEAD])

/-- The keystream that turns `b'` into what `b` gives, where the payloads can differ at all. -/
def shifted (keystream : Bytes → Nat → UInt8) (b b' : Bytes) : Bytes → Nat → UInt8 :=
  fun nonce i => keystream nonce i ^^^ (b.getD i 0 ^^^ b'.getD i 0)

theorem xorStream_shifted (keystream : Bytes → Nat → UInt8) (nonce b b' : Bytes)
    (same : b.length = b'.length) :
    xorStream (shifted keystream b b' nonce) b' = xorStream (keystream nonce) b := by
  apply List.ext_getElem (by simp [same])
  intro i _ bound
  have inside : i < b.length := by simpa using bound
  have inside' : i < b'.length := by omega
  have cancel (x y k : UInt8) : y ^^^ (k ^^^ (x ^^^ y)) = x ^^^ k := by
    rw [UInt8.xor_comm x y, ← UInt8.xor_assoc k, UInt8.xor_comm k y, UInt8.xor_assoc y k x,
      ← UInt8.xor_assoc, UInt8.xor_self, UInt8.zero_xor, UInt8.xor_comm]
  simp [xorStream, shifted, List.getD_eq_getElem?_getD, inside, inside', cancel]

theorem getD_of_take {b b' : Bytes} (same : b.take 2 = b'.take 2) (i : Nat) (small : i < 2) :
    b.getD i 0 = b'.getD i 0 := by
  have lookup (l : Bytes) : (l.take 2).getD i 0 = l.getD i 0 := by
    simp [List.getD_eq_getElem?_getD, small]
  rw [← lookup b, ← lookup b', same]

theorem xorStream_shifted_size (keystream : Bytes → Nat → UInt8) (nonce b b' : Bytes) (n : Nat)
    (same : b.take 2 = b'.take 2) :
    xorStream (shifted keystream b b' nonce) (sizeBytes n) =
      xorStream (keystream nonce) (sizeBytes n) := by
  have zero := getD_of_take same 0 (by decide)
  have one := getD_of_take same 1 (by decide)
  simp only [xorStream, sizeBytes, shifted, List.mapIdx_cons, List.mapIdx_nil, Nat.zero_add, zero,
    one, UInt8.xor_self, UInt8.xor_zero]

/-- A keystream that hides a known pair of bytes cannot hide two more. -/
theorem take_eq_of_xorStream {key key' : Nat → UInt8} {known b b' : Bytes} (two : known.length = 2)
    (same : b.length = b'.length) (sizes : xorStream key' known = xorStream key known)
    (payloads : xorStream key' b' = xorStream key b) : b.take 2 = b'.take 2 := by
  apply List.ext_getElem (by simp [same])
  intro i bound _
  have small : i < 2 ∧ i < b.length := by simpa using bound
  have inside : i < known.length := by omega
  have inside' : i < b'.length := by omega
  have keys : (xorStream key' known)[i]? = (xorStream key known)[i]? := by rw [sizes]
  have bytes : (xorStream key' b')[i]? = (xorStream key b)[i]? := by rw [payloads]
  simp only [xorStream, List.getElem?_mapIdx, List.getElem?_eq_getElem inside, Option.map_some,
    Option.some.injEq, UInt8.xor_right_inj] at keys
  simp only [xorStream, List.getElem?_mapIdx, List.getElem?_eq_getElem small.2,
    List.getElem?_eq_getElem inside',
    Option.map_some, Option.some.injEq, keys, UInt8.xor_left_inj] at bytes
  simpa using bytes.symm

/-- Writing `b'` can look like writing `b` only if they share their first two bytes. -/
theorem take_eq_of_seen (keystream keystream' : Bytes → Nat → UInt8) (b b' : Bytes)
    (same : b.length = b'.length) (some_bytes : 1 ≤ b.length) (fits : b.length ≤ MaxSegmentSize)
    (seen : withoutTags (streamAEAD nonceSize overhead keystream' tag)
      (wireOf (streamAEAD nonceSize overhead keystream' tag) rand b') =
      withoutTags (streamAEAD nonceSize overhead keystream tag)
      (wireOf (streamAEAD nonceSize overhead keystream tag) rand b)) : b.take 2 = b'.take 2 := by
  have nonempty : b ≠ [] := List.ne_nil_of_length_pos some_bytes
  have nonempty' : b' ≠ [] := List.ne_nil_of_length_pos (same ▸ some_bytes)
  have nonces : nonceOf (streamAEAD nonceSize overhead keystream' tag) rand 0 =
    nonceOf (streamAEAD nonceSize overhead keystream tag) rand 0 := rfl
  rw [wire_withoutTags nonceSize overhead tag rand keystream' b' nonempty' (same ▸ fits),
    wire_withoutTags nonceSize overhead tag rand keystream b nonempty fits, nonces, ← same,
    List.append_assoc, List.append_assoc] at seen
  have parts := List.append_inj (List.append_cancel_left seen) (by simp)
  exact take_eq_of_xorStream (sizeBytes_length _) same parts.1 parts.2

/-- A record hides its payload up to length, exactly where the payloads share their first
two bytes: those are hidden by the keystream that already hides the known size. -/
theorem record_hides_iff (keystream : Bytes → Nat → UInt8) (b b' : Bytes) (same : b.length = b'.length)
    (some_bytes : 1 ≤ b.length) (fits : b.length ≤ MaxSegmentSize) :
    (∃ keystream', withoutTags (streamAEAD nonceSize overhead keystream' tag)
        (wireOf (streamAEAD nonceSize overhead keystream' tag) rand b') =
      withoutTags (streamAEAD nonceSize overhead keystream tag)
        (wireOf (streamAEAD nonceSize overhead keystream tag) rand b)) ↔ b.take 2 = b'.take 2 := by
  constructor
  · rintro ⟨keystream', seen⟩
    exact take_eq_of_seen nonceSize overhead tag rand keystream keystream' b b' same some_bytes fits seen
  · intro agree
    have nonempty : b ≠ [] := List.ne_nil_of_length_pos some_bytes
    have nonempty' : b' ≠ [] := List.ne_nil_of_length_pos (same ▸ some_bytes)
    have nonces : nonceOf (streamAEAD nonceSize overhead (shifted keystream b b') tag) rand 0 =
      nonceOf (streamAEAD nonceSize overhead keystream tag) rand 0 := rfl
    refine ⟨shifted keystream b b', ?_⟩
    rw [wire_withoutTags nonceSize overhead tag rand _ b' nonempty' (same ▸ fits),
      wire_withoutTags nonceSize overhead tag rand keystream b nonempty fits, nonces,
      ← same, xorStream_shifted_size _ _ _ _ _ agree, xorStream_shifted _ _ _ _ same]

/-- Payloads that agree on two bytes: `[1, 2, 3]` can pass for `[1, 2, 4]`. -/
theorem record_hides_third : ∃ keystream', withoutTags (streamAEAD 12 16 keystream' fun _ _ _ => 0)
      (wireOf (streamAEAD 12 16 keystream' fun _ _ _ => 0) nines [1, 2, 4]) =
    withoutTags (streamAEAD 12 16 (fun _ _ => 0) fun _ _ _ => 0)
      (wireOf (streamAEAD 12 16 (fun _ _ => 0) fun _ _ _ => 0) nines [1, 2, 3]) :=
  (record_hides_iff 12 16 (fun _ _ _ => 0) nines (fun _ _ => 0) [1, 2, 3] [1, 2, 4] rfl (by decide)
    (by decide)).mpr rfl

/-- No keystream makes the record of `[2]` look like that of `[1]`. -/
theorem record_shows_first : ¬∃ keystream', withoutTags (streamAEAD 12 16 keystream' fun _ _ _ => 0)
      (wireOf (streamAEAD 12 16 keystream' fun _ _ _ => 0) nines [2]) =
    withoutTags (streamAEAD 12 16 (fun _ _ => 0) fun _ _ _ => 0)
      (wireOf (streamAEAD 12 16 (fun _ _ => 0) fun _ _ _ => 0) nines [1]) := by
  rintro ⟨keystream', seen⟩
  have heads := take_eq_of_seen 12 16 (fun _ _ _ => 0) nines (fun _ _ => 0) keystream' [1] [2] rfl
    (by decide) (by decide) seen
  exact absurd heads (by decide)

end confidentiality

end Gotun.Crypto
