import Gotun.Crypto.Record
import Mathlib.Data.List.Indexes

/-! `crypto.NewReaderWriter`, in either mode: what a wrapped stream delivers of any bytes, what
it delivers of bytes that a wrapped peer wrote, and what its writes put on the stream below. -/

namespace Gotun.Crypto
open Gotun.Lib Gotun.Core

variable {σ : Type} {S : Stream σ} {Holds : σ → Bytes → Prop}

/-- The bytes that arrive, decrypted up to the first record that is cut off or does not open. -/
def decrypt (mode : Mode) (aead : AEAD) (w : Bytes) : Bytes :=
  match mode with
  | .None => w
  | .GCM => (recordDecoder aead).plain w

def HoldsPlain (mode : Mode) (aead : AEAD) (Holds : σ → Bytes → Prop) (g : Buffered (gcm σ))
    (v : Bytes) : Prop :=
  match mode with
  | .None => Holds g.base.rw v
  | .GCM => Buffered.HoldsBlocks (recordDecoder aead) (fun g w => Holds g.rw w) g v

theorem plain_ends {End : σ → Prop} (ends : Ends S Holds End) :
    Ends (plain S) (fun g v => Holds g.base.rw v) (fun g => End g.base.rw) where
  read n wanted held := ends.read n wanted held
  write b held := ends.write b held
  ended n wanted held failed := ends.ended n wanted held failed

theorem plain_delivers (delivers : Delivers S Holds) :
    Delivers (plain S) (fun g v => Holds g.base.rw v) where
  read n wanted held := delivers.read n wanted held
  write b held := delivers.write b held

theorem NewReaderWriter_delivers (mode : Mode) (aead : AEAD) (rand : Rand)
    (delivers : Delivers S Holds) :
    Delivers (NewReaderWriter S mode aead rand) (HoldsPlain mode aead Holds) := by
  cases mode with
  | None => exact plain_delivers delivers
  | GCM => exact gcm_delivers aead rand delivers

theorem HoldsPlain.of_empty (mode : Mode) (aead : AEAD) {g : Buffered (gcm σ)} {w : Bytes}
    (empty : g.rest = []) (held : Holds g.base.rw w) :
    HoldsPlain mode aead Holds g (decrypt mode aead w) := by
  cases mode with
  | None => exact held
  | GCM => exact ⟨w, held, by rw [empty]; rfl⟩

theorem HoldsPlain.of_holds (mode : Mode) (aead : AEAD) {s : σ} {w : Bytes} (held : Holds s w) :
    HoldsPlain mode aead Holds (wrapped s) (decrypt mode aead w) := .of_empty mode aead rfl held

/-- The stream below of a wrapped one, changed. -/
def onRaw (change : σ → σ) (g : Buffered (gcm σ)) : Buffered (gcm σ) :=
  { g with base := { g.base with rw := change g.base.rw } }

/-- Where less is held below, less is held above. -/
theorem HoldsPlain.cut {mode : Mode} {aead : AEAD} (change : σ → σ) {g : Buffered (gcm σ)}
    {v : Bytes} (cuts : ∀ {s w}, Holds s w → ∃ w', w' <+: w ∧ Holds (change s) w')
    (held : HoldsPlain mode aead Holds g v) :
    ∃ v', v' <+: v ∧ HoldsPlain mode aead Holds (onRaw change g) v' := by
  cases mode with
  | None => exact cuts held
  | GCM =>
    obtain ⟨w, below, rfl⟩ := held
    obtain ⟨w', ⟨more, rfl⟩, below'⟩ := cuts below
    refine ⟨g.rest ++ (recordDecoder aead).plain w', ?_, w', below', rfl⟩
    exact (List.prefix_append_right_inj _).mpr
      ((recordDecoder aead).plain_append (fun more found => decodeRecord_append aead more found) w' more)

/-- What is held above, of `start` bytes below in all. -/
def HoldsSince (mode : Mode) (aead : AEAD) (Holds : σ → Bytes → Prop) (start : Bytes)
    (g : Buffered (gcm σ)) (v : Bytes) :
    Prop :=
  match mode with
  | .None => Holds g.base.rw v ∧ ∃ taken, start = taken ++ v
  | .GCM => Buffered.HoldsSince (recordDecoder aead) (fun g w => Holds g.rw w) start g v

theorem NewReaderWriter_since (mode : Mode) (aead : AEAD) (rand : Rand)
    (delivers : Delivers S Holds) (start : Bytes) :
    Delivers (NewReaderWriter S mode aead rand) (HoldsSince mode aead Holds start) := by
  cases mode with
  | GCM => exact (gcm_fetches aead rand delivers).since (recordDecoder_local aead) start
  | None =>
    refine ⟨fun {g v} n wanted held => ?_, fun b held => ⟨delivers.write b held.1, held.2⟩⟩
    obtain ⟨below, taken, rfl⟩ := held
    obtain ⟨rest, rfl, live, last⟩ := delivers.read n wanted below
    exact ⟨rest, rfl, fun more => ⟨live more, _, (List.append_assoc ..).symm⟩, last⟩

theorem HoldsSince.of_holds (mode : Mode) (aead : AEAD) {s : σ} {w : Bytes} (held : Holds s w) :
    HoldsSince mode aead Holds w (wrapped s) (decrypt mode aead w) := by
  cases mode with
  | None => exact ⟨held, [], rfl⟩
  | GCM => exact ⟨[], w, rfl, held, rfl, [], fun _ => rfl⟩

theorem HoldsSince.plain {mode : Mode} {aead : AEAD} {start v : Bytes} {g : Buffered (gcm σ)}
    (held : HoldsSince mode aead Holds start g v) : HoldsPlain mode aead Holds g v := by
  cases mode with
  | None => exact held.1
  | GCM =>
    obtain ⟨_, w, _, below, whole, _⟩ := held
    exact ⟨w, below, whole⟩

/-- Where other bytes come after those taken below, their decryption comes after what was read above. -/
theorem HoldsSince.changed {mode : Mode} {aead : AEAD} {start v : Bytes} {g : Buffered (gcm σ)}
    (held : HoldsSince mode aead Holds start g v) :
    ∃ taken w done, start = taken ++ w ∧ Holds g.base.rw w ∧ decrypt mode aead start = done ++ v ∧
      ∀ (change : σ → σ) (w' : Bytes), Holds (change g.base.rw) w' →
        ∃ v', decrypt mode aead (taken ++ w') = done ++ v' ∧
          HoldsPlain mode aead Holds (onRaw change g) v' := by
  cases mode with
  | None =>
    obtain ⟨below, taken, whole⟩ := held
    exact ⟨taken, v, taken, whole, below, whole, fun change w' below' => ⟨w', rfl, below'⟩⟩
  | GCM =>
    obtain ⟨taken, w, whole, below, rfl, done, decodes⟩ := held
    refine ⟨taken, w, done, whole, below, ?_, fun change w' below' => ?_⟩
    · rw [whole]
      exact decodes w
    · exact ⟨g.rest ++ (recordDecoder aead).plain w', decodes w', w', below', rfl⟩

/-! The bytes of an honest peer. -/

def HoldsSealed (mode : Mode) {aead : AEAD} (lawful : aead.Lawful) (Holds : σ → Bytes → Prop)
    (g : Buffered (gcm σ)) (v : Bytes) : Prop :=
  match mode with
  | .None => Holds g.base.rw v
  | .GCM => HoldsWritten lawful Holds g v

theorem NewReaderWriter_drains (mode : Mode) {aead : AEAD} (lawful : aead.Lawful) (rand : Rand)
    (drains : Drains S Holds) :
    Drains (NewReaderWriter S mode aead rand) (HoldsSealed mode lawful Holds) := by
  cases mode with
  | None => exact plain_ends drains
  | GCM => exact gcm_drains lawful rand drains

/-- The records of a sequence of writes, each under the next nonce drawn. -/
def sealedItems (aead : AEAD) (rand : Rand) (log : List Bytes) : List (Bytes × Bytes) :=
  log.mapIdx fun draw b => (nonceOf aead rand draw, b)

def sealed (mode : Mode) (aead : AEAD) (rand : Rand) (log : List Bytes) : List Bytes :=
  match mode with
  | .None => log
  | .GCM => (sealedItems aead rand log).map fun r => record aead r.1 r.2

/-- The sizes that one write can have. -/
def Fits (mode : Mode) (b : Bytes) : Prop :=
  match mode with
  | .None => True
  | .GCM => b ≠ [] ∧ b.length ≤ MaxSegmentSize

instance (mode : Mode) (b : Bytes) : Decidable (Fits mode b) := by
  cases mode <;> unfold Fits <;> infer_instance

def Logged (mode : Mode) (aead : AEAD) (rand : Rand) (Below : σ → List Bytes → Prop)
    (g : Buffered (gcm σ)) (log : List Bytes) : Prop :=
  Below g.base.rw (sealed mode aead rand log) ∧ (mode = .GCM → g.base.draws = log.length)

theorem sealedItems_concat (aead : AEAD) (rand : Rand) (log : List Bytes) (b : Bytes) :
    sealedItems aead rand (log ++ [b]) = sealedItems aead rand log ++
      [(nonceOf aead rand log.length, b)] :=
  List.mapIdx_concat

theorem sealedItems_snd (aead : AEAD) (rand : Rand) (log : List Bytes) :
    (sealedItems aead rand log).map Prod.snd = log := by
  induction log using List.reverseRecOn with
  | nil => rfl
  | append_singleton log b ih =>
    rw [sealedItems_concat, List.map_append, ih, List.map_cons, List.map_nil]

theorem sealed_concat (aead : AEAD) (rand : Rand) (log : List Bytes) (b : Bytes) :
    sealed .GCM aead rand (log ++ [b]) =
      sealed .GCM aead rand log ++ [record aead (nonceOf aead rand log.length) b] := by
  simp only [sealed, sealedItems_concat, List.map_append, List.map_cons, List.map_nil]

section sends

variable {Below : σ → List Bytes → Prop}

/-- The reader only ever reads below. -/
theorem reader.read_keeps {FitsBelow : Bytes → Prop} (aead : AEAD) (sends : Sends S FitsBelow Below)
    (log : List Bytes) : Action.Keeps (fun s => Below s log) (reader.read aead S) := by
  have opens (nonce buf : Bytes) :
      Action.Keeps (fun s => Below s log) (reader.openPart aead nonce buf) := by
    unfold reader.openPart
    split
    · exact .fail _
    · exact .pure _
  refine .bind (sends.readFull log _) fun nonce => .bind (sends.readFull log _) fun head =>
    .bind (opens nonce head) fun head => ?_
  dsimp only
  split_ifs
  · exact .fail _
  · exact .bind (sends.readFull log _) fun body => .bind (opens nonce body) fun _ => .pure _

/-- Reading a wrapped stream puts nothing below. -/
theorem Logged.read {FitsBelow : Bytes → Prop} {mode : Mode} {aead : AEAD} {rand : Rand}
    {g : Buffered (gcm σ)} {log : List Bytes} (sends : Sends S FitsBelow Below) (n : Nat)
    (logged : Logged mode aead rand Below g log) :
    Logged mode aead rand Below ((NewReaderWriter S mode aead rand).read n g).next log := by
  obtain ⟨below, draws⟩ := logged
  cases mode with
  | None => exact ⟨sends.read n below, nofun⟩
  | GCM =>
    have kept := reader.read_keeps aead sends _ _ below
    simp only [NewReaderWriter, gcm.stream, Buffered.stream, Buffered.read, gcm.source, gcm.onRw]
    split_ifs
    · exact ⟨below, draws⟩
    · split <;> rename_i result <;> obtain ⟨-, rfl⟩ := Prod.mk.inj result <;> exact ⟨kept, draws⟩

theorem gcm_sends (aead : AEAD) (rand : Rand) (sends : Sends S (fun _ => True) Below) :
    Sends (gcm.stream aead rand S) (Fits .GCM) (Logged .GCM aead rand Below) where
  write {g log} b logged fits := by
    obtain ⟨below, draws⟩ := logged
    have sent := writer.Write_sent aead rand S b g.base fits.1 fits.2
    rw [draws rfl] at sent
    obtain ⟨_, accepted, next⟩ :=
      sends.write (record aead (nonceOf aead rand log.length) b) below trivial
    simp only [gcm.stream, Buffered.stream, Buffered.write, gcm.source, sent]
    exact ⟨trivial, accepted, (sealed_concat aead rand log b).symm ▸ next, by simp⟩
  refused {g log} b logged unfit := by
    have kept : (writer.Write aead rand S b g.base).next = g.base := by
      unfold writer.Write writer.write
      split_ifs with large empty
      · rfl
      · rfl
      · exact absurd ⟨empty, Nat.not_lt.mp large⟩ unfit
    simp only [gcm.stream, Buffered.stream, Buffered.write, gcm.source, kept]
    exact logged
  read n logged := logged.read sends n

/-- A wrapped stream puts its writes below, sealed in GCM mode under the nonces drawn so far. -/
theorem NewReaderWriter_sends (mode : Mode) (aead : AEAD) (rand : Rand)
    (sends : Sends S (fun _ => True) Below) :
    Sends (NewReaderWriter S mode aead rand) (Fits mode) (Logged mode aead rand Below) := by
  cases mode with
  | GCM => exact gcm_sends aead rand sends
  | None =>
    refine ⟨fun {g log} b logged _ => ?_, fun _ _ unfit => absurd trivial unfit,
      fun n logged => logged.read sends n⟩
    obtain ⟨n, accepted, next⟩ := sends.write b logged.1 trivial
    exact ⟨n, accepted, next, nofun⟩

theorem Logged.of_below (mode : Mode) (aead : AEAD) (rand : Rand) {s : σ} (below : Below s []) :
    Logged mode aead rand Below (wrapped s) [] := by
  refine ⟨?_, fun _ => rfl⟩
  cases mode <;> exact below

end sends

theorem sealedItems_valid {aead : AEAD} (lawful : aead.Lawful) (rand : Rand) {log : List Bytes}
    (small : ∀ b ∈ log, b.length ≤ MaxSegmentSize) :
    ∀ r ∈ sealedItems aead rand log, (recordCodec lawful).Valid r := by
  intro r member
  obtain ⟨draw, below, rfl⟩ := List.mem_mapIdx.mp member
  exact ⟨nonceOf_length aead rand draw, small _ (List.getElem_mem below)⟩

theorem sealed_wire {aead : AEAD} (lawful : aead.Lawful) (rand : Rand) (log : List Bytes) :
    (sealed .GCM aead rand log).flatten =
      (sealedItems aead rand log).flatMap (recordCodec lawful).encode :=
  (List.flatMap_def ..).symm

/-- What arrives of a wrapped peer's writes, cut off anywhere, is held as a prefix of them. -/
theorem HoldsSealed.of_cut (mode : Mode) {aead : AEAD} (lawful : aead.Lawful) (rand : Rand) {s : σ}
    {w : Bytes} {log : List Bytes} (fits : ∀ b ∈ log, Fits mode b) (held : Holds s w)
    (cut : w <+: (sealed mode aead rand log).flatten) :
    ∃ v, HoldsSealed mode lawful Holds (wrapped s) v ∧ v <+: log.flatten ∧
      (w = (sealed mode aead rand log).flatten → v = log.flatten) := by
  cases mode with
  | None => exact ⟨w, held, cut, id⟩
  | GCM =>
    have valid := sealedItems_valid lawful rand fun b member => (fits b member).2
    have wire := sealed_wire lawful rand log
    have payloads : (sealedItems aead rand log).flatMap Prod.snd = log.flatten := by
      rw [List.flatMap_def, sealedItems_snd]
    obtain ⟨got, written, begins, all⟩ := Codec.Written.of_cut _ valid (wire ▸ cut)
    refine ⟨got.flatMap Prod.snd, HoldsWritten.of_written lawful held written, ?_, fun whole => ?_⟩
    · rw [← payloads]
      exact begins.flatMap Prod.snd
    · rw [all (whole.trans wire), payloads]

/-- The same, block by block. -/
theorem blocks_cut {aead : AEAD} (lawful : aead.Lawful) (rand : Rand) {w : Bytes} {log : List Bytes}
    (fits : ∀ b ∈ log, Fits .GCM b) (cut : w <+: (sealed .GCM aead rand log).flatten) :
    (recordDecoder aead).blocks w <+: log ∧
      (w = (sealed .GCM aead rand log).flatten → (recordDecoder aead).blocks w = log) := by
  have valid := sealedItems_valid lawful rand fun b member => (fits b member).2
  have wire := sealed_wire lawful rand log
  obtain ⟨got, written, begins, all⟩ := Codec.Written.of_cut _ valid (wire ▸ cut)
  have decoded : (recordDecoder aead).blocks w = got.map Prod.snd := written.blocks
  rw [decoded]
  constructor
  · have payloads := begins.map Prod.snd
    rwa [sealedItems_snd] at payloads
  · intro whole
    rw [all (whole.trans wire), sealedItems_snd]

/-- Where no block is missing, no byte is. -/
theorem whole_of_blocks {aead : AEAD} (lawful : aead.Lawful) (rand : Rand) {w : Bytes} {log : List Bytes}
    (fits : ∀ b ∈ log, Fits .GCM b) (cut : w <+: (sealed .GCM aead rand log).flatten)
    (all : (recordDecoder aead).blocks w = log) : w = (sealed .GCM aead rand log).flatten := by
  have valid := sealedItems_valid lawful rand fun b member => (fits b member).2
  rw [sealed_wire lawful] at cut ⊢
  obtain ⟨got, written, begins, _⟩ := Codec.Written.of_cut _ valid cut
  have decoded : (recordDecoder aead).blocks w = got.map Prod.snd := written.blocks
  have same : got = sealedItems aead rand log := by
    refine begins.eq_of_length ?_
    have length :=
      congrArg List.length (decoded.symm.trans (all.trans (sealedItems_snd aead rand log).symm))
    rwa [List.length_map, List.length_map] at length
  exact cut.eq_of_length_le (same ▸ written.encoded).length_le

theorem decrypt_cut (mode : Mode) {aead : AEAD} (lawful : aead.Lawful) (rand : Rand) {w : Bytes}
    {log : List Bytes} (fits : ∀ b ∈ log, Fits mode b)
    (cut : w <+: (sealed mode aead rand log).flatten) :
    decrypt mode aead w <+: log.flatten ∧
      (w = (sealed mode aead rand log).flatten → decrypt mode aead w = log.flatten) := by
  cases mode with
  | None => exact ⟨cut, id⟩
  | GCM =>
    obtain ⟨begins, all⟩ := blocks_cut lawful rand fits cut
    exact ⟨begins.flatten, fun whole => congrArg List.flatten (all whole)⟩

theorem sealed_append (mode : Mode) (aead : AEAD) (rand : Rand) (log more : List Bytes) :
    (sealed mode aead rand log).flatten <+: (sealed mode aead rand (log ++ more)).flatten := by
  cases mode with
  | None => exact (List.prefix_append log more).flatten
  | GCM =>
    simp only [sealed, sealedItems, List.mapIdx_append, List.map_append]
    exact (List.prefix_append _ _).flatten

/-- What comes after sealed writes does not disturb them. -/
theorem decrypt_sealed (mode : Mode) {aead : AEAD} (lawful : aead.Lawful) (rand : Rand)
    {log : List Bytes} (fits : ∀ b ∈ log, Fits mode b) (tail : Bytes) :
    log.flatten <+: decrypt mode aead ((sealed mode aead rand log).flatten ++ tail) := by
  have whole := (decrypt_cut mode lawful rand fits List.prefix_rfl).2 rfl
  cases mode with
  | None => exact List.prefix_append _ _
  | GCM =>
    have begins :=
      (recordDecoder aead).plain_append (fun more found => decodeRecord_append aead more found)
      (sealed .GCM aead rand log).flatten tail
    exact whole ▸ begins

/-! A reader that takes exactly the bytes of the first write leaves all of the others below, although it
goes through a wrapper that is then thrown away. -/

section first

variable {α : Type} {mode : Mode} {aead : AEAD} {rand : Rand} {x : Action (Buffered (gcm σ)) α}
  {bytes : Bytes} {a : α}
variable {g : Buffered (gcm σ)}

theorem leaves_below (delivers : Delivers S Holds) (lawful : aead.Lawful)
    (whole : ∀ {Holds' : Buffered (gcm σ) → Bytes → Prop},
      Delivers (NewReaderWriter S mode aead rand) Holds' → ∀ {g rest}, Holds' g (bytes ++ rest) →
      ∃ t, x g = (.ok a, t) ∧ Holds' t rest)
    (fit : bytes ≠ [] ∧ bytes.length ≤ MaxSegmentSize) (rand' rand'' : Rand) {tail : Bytes}
    {log : List Bytes} (fits : ∀ b ∈ log, Fits mode b)
    (cut : tail <+: (sealed mode aead rand'' log).flatten) (empty : g.rest = [])
    (held : Holds g.base.rw ((sealed mode aead rand' [bytes]).flatten ++ tail)) :
    ∃ t, x g = (.ok a, t) ∧ Holds t.base.rw tail := by
  cases mode with
  | None =>
    have first : (sealed .None aead rand' [bytes]).flatten = bytes := List.append_nil bytes
    rw [first] at held
    exact whole (plain_delivers delivers) held
  | GCM =>
    have first : (sealed .GCM aead rand' [bytes]).flatten =
        record aead (nonceOf aead rand' 0) bytes :=
      List.append_nil _
    rw [first] at held
    have nonempty (m : Bytes) (member : m ∈ (recordDecoder aead).blocks tail) : m ≠ [] :=
      (fits m ((blocks_cut lawful rand'' fits cut).1.subset member)).1
    have found : (recordDecoder aead).decode (record aead (nonceOf aead rand' 0) bytes ++ tail) =
        some (bytes, tail) :=
      decodeRecord_record lawful _ bytes tail (nonceOf_length aead rand' 0) fit.2
    obtain ⟨t, ok, left⟩ :=
      whole ((gcm_fetches aead rand delivers).first nonempty) (.unread empty held found)
    exact ⟨t, ok, (left.done fit.1).2⟩

theorem decrypt_first (mode : Mode) (lawful : aead.Lawful) (rand' : Rand) (tail : Bytes)
    (small : bytes.length ≤ MaxSegmentSize) :
    decrypt mode aead ((sealed mode aead rand' [bytes]).flatten ++ tail) =
      bytes ++ decrypt mode aead tail := by
  cases mode with
  | None => exact congrArg (· ++ tail) (List.append_nil bytes)
  | GCM =>
    have first : (sealed .GCM aead rand' [bytes]).flatten =
        record aead (nonceOf aead rand' 0) bytes :=
      List.append_nil _
    rw [first]
    exact (recordDecoder aead).plain_some
      (decodeRecord_record lawful _ bytes tail (nonceOf_length aead rand' 0) small)

/-- As long as the first write has not arrived as a whole, only a part of its bytes can be read. -/
theorem decrypt_short (mode : Mode) (lawful : aead.Lawful) (rand' : Rand) {w : Bytes}
    (fit : bytes ≠ [] ∧ bytes.length ≤ MaxSegmentSize)
    (cut : w <+: (sealed mode aead rand' [bytes]).flatten)
    (short : w ≠ (sealed mode aead rand' [bytes]).flatten) :
    decrypt mode aead w <+: bytes ∧ decrypt mode aead w ≠ bytes := by
  cases mode with
  | None =>
    have first : (sealed .None aead rand' [bytes]).flatten = bytes := List.append_nil bytes
    rw [first] at cut short
    exact ⟨cut, short⟩
  | GCM =>
    have first : (sealed .GCM aead rand' [bytes]).flatten =
        record aead (nonceOf aead rand' 0) bytes :=
      List.append_nil _
    rw [first] at cut short
    have part : w.length < (record aead (nonceOf aead rand' 0) bytes).length :=
      lt_of_le_of_ne cut.length_le fun same => short (cut.eq_of_length same)
    have stuck := decodeRecord_cut lawful w.length (nonceOf_length aead rand' 0) fit.2 part
    rw [← List.prefix_iff_eq_take.mp cut] at stuck
    have none_yet : decrypt .GCM aead w = [] := (recordDecoder aead).plain_none stuck
    rw [none_yet]
    exact ⟨List.nil_prefix, fit.1.symm⟩

end first

/-! Message by message: a record carries one write. -/

section messages

variable {HoldsEach : σ → List Bytes → Prop} {Below : σ → List Bytes → Prop} {limit : Nat}

variable {mode : Mode} (aead : AEAD) (rand : Rand)

theorem NewReaderWriter_messages_clear (clear : mode = .None) (messages : Messages S HoldsEach) :
    Messages (NewReaderWriter S mode aead rand) (fun g ms => HoldsEach g.base.rw ms) := by
  subst clear
  exact ⟨fun held => messages.nonempty held, fun n wanted held => messages.read n wanted held,
    fun n wanted held => messages.done n wanted held, fun b held => messages.write b held⟩

theorem NewReaderWriter_takes_clear (clear : mode = .None) (takes : Takes limit S Below) :
    Takes limit (NewReaderWriter S mode aead rand) (fun g log => Below g.base.rw log) := by
  subst clear
  exact ⟨fun b logged some_bytes small => takes.write b logged some_bytes small⟩

theorem NewReaderWriter_messages_sealed (encrypts : mode = .GCM) (delivers : Delivers S Holds) :
    Messages (NewReaderWriter S mode aead rand)
      (Buffered.HoldsEach (recordDecoder aead) (fun g w => Holds g.rw w)) := by
  subst encrypts
  exact (gcm_fetches aead rand delivers).messages

variable {aead}

/-- What one write of a wrapped stream puts below, at most. -/
def recordSize (aead : AEAD) (n : Nat) : Nat :=
  aead.NonceSize + (2 + aead.Overhead) + (n + aead.Overhead)

theorem NewReaderWriter_takes_sealed (lawful : aead.Lawful) (encrypts : mode = .GCM)
    (small : limit ≤ MaxSegmentSize) (takes : Takes (recordSize aead limit) S Below) :
    Takes limit (NewReaderWriter S mode aead rand) (Logged .GCM aead rand Below) := by
  subst encrypts
  refine ⟨fun {g log} b logged some_bytes fits => ?_⟩
  obtain ⟨below, draws⟩ := logged
  have sent := writer.Write_sent aead rand S b g.base some_bytes (fits.trans small)
  rw [draws rfl] at sent
  have size := record_length lawful (nonceOf aead rand log.length) b
  rw [nonceOf_length] at size
  have some_record : record aead (nonceOf aead rand log.length) b ≠ [] := by
    intro empty
    rw [empty, List.length_nil] at size
    omega
  obtain ⟨_, accepted, next⟩ := takes.write
    (record aead (nonceOf aead rand log.length) b) below some_record (by unfold recordSize; omega)
  simp only [NewReaderWriter, gcm.stream, Buffered.stream, Buffered.write, gcm.source, sent]
  exact ⟨trivial, accepted, (sealed_concat aead rand log b).symm ▸ next, by simp⟩

/-- The records of small writes are small. -/
theorem sealed_small (lawful : aead.Lawful) {log : List Bytes} (small : ∀ b ∈ log, b.length ≤ limit) :
    ∀ r ∈ sealed .GCM aead rand log, r ≠ [] ∧ r.length ≤ recordSize aead limit := by
  intro r member
  obtain ⟨item, there, rfl⟩ := List.mem_map.mp member
  obtain ⟨draw, below, rfl⟩ := List.mem_mapIdx.mp there
  have size := record_length lawful (nonceOf aead rand draw) log[draw]
  have fits := small _ (List.getElem_mem below)
  rw [nonceOf_length] at size
  refine ⟨fun empty => ?_, ?_⟩
  · rw [empty, List.length_nil] at size
    omega
  · rw [size, recordSize]
    omega

end messages

end Gotun.Crypto
