import Gotun.Core.Pipe
import Gotun.Lib.BigEndian
import Gotun.Lib.Buffered

/-! `pkg/crypto`: the crypto modes and the record layer of the GCM mode. A record is a
nonce, the sealed payload size and the sealed payload. The reader keeps what a caller's
buffer could not take. -/

namespace Gotun.Crypto
open Gotun.Lib Gotun.Core

inductive Mode where
  | None
  | GCM
  deriving DecidableEq, Repr

def ToMode (s : String) : Except Err Mode :=
  if s = "" ∨ s = "none" ∨ s = "NONE" then .ok .None
  else if s = "gcm" ∨ s = "GCM" then .ok .GCM
  else .error (.failed "unknown mode")

/-- The part of `cipher.AEAD` in use; no additional data is ever passed. -/
structure AEAD where
  NonceSize : Nat
  Overhead : Nat
  Seal : Bytes → Bytes → Bytes
  Open : Bytes → Bytes → Option Bytes

/-- What `crypto/cipher` promises of an AEAD under one key. -/
structure AEAD.Lawful (aead : AEAD) : Prop where
  open_seal : ∀ nonce plain, aead.Open nonce (aead.Seal nonce plain) = some plain
  seal_length : ∀ nonce plain, (aead.Seal nonce plain).length = plain.length + aead.Overhead

/-- The random source: byte `i` of draw `k`. -/
abbrev Rand := Nat → Nat → UInt8

/-- One `rand.Read` of a whole nonce. -/
def nonceOf (aead : AEAD) (rand : Rand) (draw : Nat) : Bytes :=
  (List.range aead.NonceSize).map (rand draw)

@[simp] theorem nonceOf_length (aead : AEAD) (rand : Rand) (draw : Nat) :
    (nonceOf aead rand draw).length = aead.NonceSize := by simp [nonceOf]

def sizeBytes (nr : Nat) : Bytes := [UInt8.ofNat (nr >>> 8), UInt8.ofNat nr]

/-- The buffer of `writer.write`: nonce, payload size (encrypted), payload (encrypted).
Both parts are sealed under the one nonce. -/
def record (aead : AEAD) (nonce b : Bytes) : Bytes :=
  nonce ++ aead.Seal nonce (sizeBytes b.length) ++ aead.Seal nonce b

variable {σ : Type}

/-- The stream below a `gcm` and the number of nonces its writer has drawn. The reader's
leftover is the buffer over it. -/
structure gcm (σ : Type) where
  rw : σ
  draws : Nat
  deriving DecidableEq, Repr

namespace writer

/-- Empty writes put nothing on the wire and draw no nonce. -/
def write (aead : AEAD) (rand : Rand) (S : Stream σ) (b : Bytes) (g : gcm σ) : WriteRes (gcm σ) :=
  if b = [] then ⟨0, none, g⟩
  else
    let w := S.write (record aead (nonceOf aead rand g.draws) b) g.rw
    ⟨b.length, w.err, ⟨w.next, g.draws + 1⟩⟩

/-- Returns the length of `b`, not of what went out. -/
def Write (aead : AEAD) (rand : Rand) (S : Stream σ) (b : Bytes) (g : gcm σ) : WriteRes (gcm σ) :=
  if MaxSegmentSize < b.length then ⟨0, some (.failed "payload size too large"), g⟩
  else write aead rand S b g

theorem Write_refused (aead : AEAD) (rand : Rand) (S : Stream σ) (b : Bytes) (g : gcm σ)
    (large : MaxSegmentSize < b.length) :
    Write aead rand S b g = ⟨0, some (.failed "payload size too large"), g⟩ := if_pos large

theorem Write_sent (aead : AEAD) (rand : Rand) (S : Stream σ) (b : Bytes) (g : gcm σ)
    (some_bytes : b ≠ []) (fits : b.length ≤ MaxSegmentSize) :
    Write aead rand S b g =
      ⟨b.length, (S.write (record aead (nonceOf aead rand g.draws) b) g.rw).err,
        ⟨(S.write (record aead (nonceOf aead rand g.draws) b) g.rw).next, g.draws + 1⟩⟩ := by
  rw [Write, if_neg (Nat.not_lt.mpr fits), write, if_neg some_bytes]

end writer

/-- `Open` with its output laid over the buffer it decrypts. -/
def overwrite (plain buf : Bytes) : Bytes := plain ++ buf.drop plain.length

def sizeOf (buf : Bytes) : Nat := (buf.getD 0 0).toNat <<< 8 + (buf.getD 1 0).toNat

def openFailed : Err := .failed "cipher: message authentication failed"

namespace reader

def openPart (aead : AEAD) (nonce buf : Bytes) : Action σ Bytes :=
  match aead.Open nonce buf with
  | none => .fail openFailed
  | some plain => pure (overwrite plain buf)

def read (aead : AEAD) (S : Stream σ) : Action σ Bytes := do
  let nonce ← readFull S aead.NonceSize
  let head ← readFull S (2 + aead.Overhead)
  let head ← openPart aead nonce head
  let size := sizeOf head
  if MaxSegmentSize < size then .fail (.failed "payload size too large")
  else
    let body ← readFull S (size + aead.Overhead)
    let body ← openPart aead nonce body
    pure (body.take size)

theorem openPart_lowers (aead : AEAD) (S : Stream σ) (nonce buf : Bytes) :
    Action.Lowers S.rank (openPart aead nonce buf) := by
  unfold openPart
  split
  · exact .fail _
  · exact .pure _

theorem read_lowers (aead : AEAD) (S : Stream σ) : Action.Lowers S.rank (read aead S) := by
  refine .bind (readFull_lowers S _) fun nonce => .bind (readFull_lowers S _) fun head =>
    .bind (openPart_lowers aead S nonce head) fun head => ?_
  dsimp only
  split_ifs
  · exact .fail _
  · exact .bind (readFull_lowers S _) fun body =>
      .bind (openPart_lowers aead S nonce body) fun _ => .pure _

/-- A record that is returned took the base at least one read, and is no longer than its size says. -/
theorem read_ok {aead : AEAD} {S : Stream σ} {s t : σ} {data : Bytes}
    (ok : read aead S s = (.ok data, t)) :
    S.rank t < S.rank s ∧ data.length ≤ MaxSegmentSize := by
  obtain ⟨nonce, s1, first, ok⟩ := Action.of_bind_ok ok
  obtain ⟨head, s2, second, ok⟩ := Action.of_bind_ok ok
  obtain ⟨plain, s3, third, ok⟩ := Action.of_bind_ok ok
  have low1 := readFull_lowers S aead.NonceSize s
  have low2 := (readFull_inv second).2 (by omega)
  have low3 := openPart_lowers aead S nonce head s2
  dsimp only at ok
  split_ifs at ok with tooLarge
  · simp [Action.fail_apply] at ok
  · obtain ⟨body, s4, fourth, ok⟩ := Action.of_bind_ok ok
    obtain ⟨last, s5, fifth, ok⟩ := Action.of_bind_ok ok
    have low4 := readFull_lowers S (sizeOf plain + aead.Overhead) s3
    have low5 := openPart_lowers aead S nonce body s4
    rw [first] at low1
    rw [third] at low3
    rw [fourth] at low4
    rw [fifth] at low5
    simp only [Action.pure_apply, Prod.mk.injEq, Except.ok.injEq] at ok
    obtain ⟨rfl, rfl⟩ := ok
    refine ⟨by simp only at *; omega, (List.length_take_le _ _).trans (by omega)⟩

end reader

/-- An action of the stream below, on a `gcm`. -/
def gcm.onRw {α : Type} (x : Action σ α) : Action (gcm σ) α := fun g =>
  let (result, rw) := x g.rw
  (result, { g with rw })

def gcm.source (aead : AEAD) (rand : Rand) (S : Stream σ) : Buffered.Source (gcm σ) where
  fetch := gcm.onRw (reader.read aead S)
  write := writer.Write aead rand S
  rank g := S.rank g.rw
  limit := MaxSegmentSize
  fetch_rank_le g := reader.read_lowers aead S g.rw
  fetch_ok g t data ok := by
    simp only [gcm.onRw, Prod.mk.injEq] at ok
    exact reader.read_ok (Prod.ext ok.1 (congrArg gcm.rw ok.2))
  write_rank b g := by
    unfold writer.Write writer.write
    split_ifs
    · exact le_rfl
    · exact le_rfl
    · exact S.write_rank _ _

/-- `reader.Read`: the leftover first, else one record. -/
def reader.Read (aead : AEAD) (rand : Rand) (S : Stream σ) (n : Nat) (g : Buffered (gcm σ)) :
    ReadRes (Buffered (gcm σ)) :=
  Buffered.read (gcm.source aead rand S).fetch n g

def gcm.stream (aead : AEAD) (rand : Rand) (S : Stream σ) : Stream (Buffered (gcm σ)) :=
  Buffered.stream (gcm.source aead rand S)

/-- The plain stream, with the same state as the encrypted one. -/
def plain (S : Stream σ) : Stream (Buffered (gcm σ)) where
  read n g := let r := S.read n g.base.rw
    ⟨r.data, r.err, { g with base := { g.base with rw := r.next } }⟩
  write b g := let w := S.write b g.base.rw
    ⟨w.n, w.err, { g with base := { g.base with rw := w.next } }⟩
  rank g := S.rank g.base.rw
  read_length n g := S.read_length n g.base.rw
  read_rank_le n g := S.read_rank_le n g.base.rw
  read_rank_lt n g := S.read_rank_lt n g.base.rw
  write_rank b g := S.write_rank b g.base.rw

def NewReaderWriter (S : Stream σ) (mode : Mode) (aead : AEAD)
    (rand : Rand) : Stream (Buffered (gcm σ)) :=
  match mode with
  | .None => plain S
  | .GCM => gcm.stream aead rand S

/-- A fresh wrapper around a stream: nothing left over, no nonce drawn. -/
def wrapped (s : σ) : Buffered (gcm σ) := ⟨⟨s, 0⟩, []⟩

end Gotun.Crypto
