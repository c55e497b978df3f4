import Gotun.Lib.Stream

/-! Decoders that cut one block off the front of a byte string, and codecs: encodings that
such a decoder inverts. Of an encoded sequence that the wire cut off anywhere the decoder
finds the whole items, and gets stuck on what is left of the next one. -/

namespace Gotun.Lib

variable {ι β γ : Type}

structure Decoder (β : Type) where
  decode : Bytes → Option (β × Bytes)
  shrinks : ∀ {w block rest}, decode w = some (block, rest) → rest.length < w.length

namespace Decoder

theorem decode_nil (D : Decoder β) : D.decode [] = none := by
  rcases found : D.decode [] with _ | ⟨block, rest⟩
  · rfl
  · exact absurd (D.shrinks found) (Nat.not_lt_zero _)

def parseLoop (D : Decoder β) : Nat → Bytes → List β × Bytes
  | 0, w => ([], w)
  | fuel + 1, w =>
      match D.decode w with
      | none => ([], w)
      | some (block, rest) => (block :: (parseLoop D fuel rest).1, (parseLoop D fuel rest).2)

/-- All blocks up to the first point where nothing can be decoded. -/
def blocks (D : Decoder β) (w : Bytes) : List β := (D.parseLoop w.length w).1

/-- The bytes from that point on. -/
def tail (D : Decoder β) (w : Bytes) : Bytes := (D.parseLoop w.length w).2

theorem parseLoop_stuck (D : Decoder β) (fuel : Nat) {w : Bytes} (stuck : D.decode w = none) :
    D.parseLoop fuel w = ([], w) := by
  cases fuel with
  | zero => rfl
  | succ fuel => simp only [parseLoop, stuck]

theorem parseLoop_fuel (D : Decoder β) (fuel : Nat) (w : Bytes) (enough : w.length ≤ fuel) :
    D.parseLoop fuel w = D.parseLoop w.length w := by
  induction fuel using Nat.strong_induction_on generalizing w with
  | _ fuel ih =>
    rcases found : D.decode w with _ | ⟨block, rest⟩
    · rw [D.parseLoop_stuck fuel found, D.parseLoop_stuck w.length found]
    · have shorter := D.shrinks found
      obtain ⟨fuel, rfl⟩ := Nat.exists_eq_succ_of_ne_zero (n := fuel) (by omega)
      obtain ⟨length, size⟩ := Nat.exists_eq_succ_of_ne_zero (n := w.length) (by omega)
      simp only [size, Nat.succ_eq_add_one, parseLoop, found]
      rw [ih fuel (by omega) rest (by omega), ih length (by omega) rest (by omega)]

theorem parseLoop_some (D : Decoder β) {w rest : Bytes} {block : β}
    (found : D.decode w = some (block, rest)) :
    D.parseLoop w.length w = (block :: D.blocks rest, D.tail rest) := by
  have shorter := D.shrinks found
  rw [← D.parseLoop_fuel (w.length + 1) w (by omega), parseLoop, found]
  simp only [D.parseLoop_fuel w.length rest shorter.le, blocks, tail]

theorem blocks_none (D : Decoder β) {w : Bytes} (stuck : D.decode w = none) : D.blocks w = [] := by
  rw [blocks, D.parseLoop_stuck _ stuck]

theorem blocks_some (D : Decoder β) {w rest : Bytes} {block : β}
    (found : D.decode w = some (block, rest)) :
    D.blocks w = block :: D.blocks rest := by
  rw [blocks, D.parseLoop_some found]

theorem tail_none (D : Decoder β) {w : Bytes} (stuck : D.decode w = none) : D.tail w = w := by
  rw [tail, D.parseLoop_stuck _ stuck]

theorem tail_some (D : Decoder β) {w rest : Bytes} {block : β}
    (found : D.decode w = some (block, rest)) :
    D.tail w = D.tail rest := by
  rw [tail, D.parseLoop_some found]

/-! Decoding while skipping some blocks. -/

def skipLoop (D : Decoder β) (pick : β → Option γ) : Nat → Bytes → Option (γ × Bytes)
  | 0, _ => none
  | fuel + 1, w =>
      match D.decode w with
      | none => none
      | some (block, rest) =>
        match pick block with
        | some picked => some (picked, rest)
        | none => skipLoop D pick fuel rest

theorem skipLoop_shrinks (D : Decoder β) (pick : β → Option γ) (fuel : Nat) {w rest : Bytes} {picked : γ}
    (found : D.skipLoop pick fuel w = some (picked, rest)) : rest.length < w.length := by
  induction fuel generalizing w with
  | zero => simp [skipLoop] at found
  | succ fuel ih =>
    rcases first : D.decode w with _ | ⟨block, tail⟩
    · simp [skipLoop, first] at found
    · have shorter := D.shrinks first
      rcases choice : pick block with _ | hit
      · simp only [skipLoop, first, choice] at found
        exact (ih found).trans shorter
      · simp only [skipLoop, first, choice, Option.some.injEq, Prod.mk.injEq] at found
        exact found.2 ▸ shorter

/-- The decoder of the picked blocks only. -/
def filterMap (D : Decoder β) (pick : β → Option γ) : Decoder γ where
  decode w := D.skipLoop pick w.length w
  shrinks found := D.skipLoop_shrinks pick _ found

theorem skipLoop_stuck (D : Decoder β) (pick : β → Option γ) (fuel : Nat) {w : Bytes}
    (stuck : D.decode w = none) :
    D.skipLoop pick fuel w = none := by
  cases fuel with
  | zero => rfl
  | succ fuel => simp only [skipLoop, stuck]

theorem skipLoop_fuel (D : Decoder β) (pick : β → Option γ) (fuel : Nat) (w : Bytes)
    (enough : w.length ≤ fuel) :
    D.skipLoop pick fuel w = (D.filterMap pick).decode w := by
  show _ = D.skipLoop pick w.length w
  induction fuel using Nat.strong_induction_on generalizing w with
  | _ fuel ih =>
    rcases found : D.decode w with _ | ⟨block, rest⟩
    · rw [D.skipLoop_stuck pick fuel found, D.skipLoop_stuck pick w.length found]
    · have shorter := D.shrinks found
      obtain ⟨fuel, rfl⟩ := Nat.exists_eq_succ_of_ne_zero (n := fuel) (by omega)
      obtain ⟨length, size⟩ := Nat.exists_eq_succ_of_ne_zero (n := w.length) (by omega)
      simp only [size, Nat.succ_eq_add_one, skipLoop, found]
      rw [ih fuel (by omega) rest (by omega), ih length (by omega) rest (by omega)]

theorem filterMap_none (D : Decoder β) (pick : β → Option γ) {w : Bytes} (stuck : D.decode w = none) :
    (D.filterMap pick).decode w = none := D.skipLoop_stuck pick w.length stuck

theorem filterMap_picked (D : Decoder β) {pick : β → Option γ} {w rest : Bytes} {block : β} {picked : γ}
    (found : D.decode w = some (block, rest)) (hit : pick block = some picked) :
    (D.filterMap pick).decode w = some (picked, rest) := by
  rw [← D.skipLoop_fuel pick (w.length + 1) w (by omega)]
  simp only [skipLoop, found, hit]

theorem filterMap_skipped (D : Decoder β) {pick : β → Option γ} {w rest : Bytes} {block : β}
    (found : D.decode w = some (block, rest)) (miss : pick block = none) :
    (D.filterMap pick).decode w = (D.filterMap pick).decode rest := by
  rw [← D.skipLoop_fuel pick (w.length + 1) w (by omega)]
  simp only [skipLoop, found, miss, D.skipLoop_fuel pick w.length rest (D.shrinks found).le]

theorem blocks_congr (D : Decoder β) {w w' : Bytes}
    (same : D.decode w = D.decode w') : D.blocks w = D.blocks w' := by
  rcases next : D.decode w' with _ | ⟨block, rest⟩
  · rw [D.blocks_none (same.trans next), D.blocks_none next]
  · rw [D.blocks_some (same.trans next), D.blocks_some next]

theorem filterMap_blocks (D : Decoder β) (pick : β → Option γ) (w : Bytes) :
    (D.filterMap pick).blocks w = (D.blocks w).filterMap pick := by
  induction size : w.length using Nat.strong_induction_on generalizing w with
  | _ size_ ih =>
    rcases found : D.decode w with _ | ⟨block, rest⟩
    · rw [blocks_none _ (D.filterMap_none pick found), blocks_none _ found, List.filterMap_nil]
    · have later := ih rest.length (size ▸ D.shrinks found) rest rfl
      rw [blocks_some _ found]
      rcases choice : pick block with _ | hit
      · rw [List.filterMap_cons_none choice, ← later]
        exact blocks_congr _ (D.filterMap_skipped found choice)
      · rw [blocks_some _ (D.filterMap_picked found choice), later, List.filterMap_cons_some choice]

/-- The bytes of a decoder of byte blocks. -/
def plain (D : Decoder Bytes) (w : Bytes) : Bytes := (D.blocks w).flatten

@[simp] theorem plain_nil (D : Decoder Bytes) : D.plain [] = [] := rfl

theorem plain_none (D : Decoder Bytes) {w : Bytes} (stuck : D.decode w = none) : D.plain w = [] := by
  rw [plain, D.blocks_none stuck, List.flatten_nil]

theorem plain_some (D : Decoder Bytes) {w block rest : Bytes} (found : D.decode w = some (block, rest)) :
    D.plain w = block ++ D.plain rest := by
  rw [plain, D.blocks_some found, List.flatten_cons, plain]

/-- More bytes at the end leave the blocks found before them alone. -/
theorem plain_append (D : Decoder Bytes)
    (stable : ∀ {w block rest} (more : Bytes), D.decode w = some (block, rest) →
      D.decode (w ++ more) = some (block, rest ++ more))
    (w more : Bytes) : D.plain w <+: D.plain (w ++ more) := by
  induction size : w.length using Nat.strong_induction_on generalizing w with
  | _ size_ ih =>
    rcases found : D.decode w with _ | ⟨block, rest⟩
    · rw [D.plain_none found]
      exact List.nil_prefix
    · rw [D.plain_some found, D.plain_some (stable more found)]
      exact (List.prefix_append_right_inj block).mpr (ih rest.length (size ▸ D.shrinks found) rest rfl)

/-- A decoder that looks at the bytes of its block only. -/
def Local (D : Decoder β) : Prop :=
  ∀ {w block rest}, D.decode w = some (block, rest) →
    ∃ own, w = own ++ rest ∧ ∀ more, D.decode (own ++ more) = some (block, more)

end Decoder

/-- An encoding whose items the decoder finds again, and finds only when they are whole. -/
structure Codec (ι β : Type) extends Decoder β where
  encode : ι → Bytes
  value : ι → β
  Valid : ι → Prop
  decode_encode : ∀ {i} (rest : Bytes), Valid i → decode (encode i ++ rest) = some (value i, rest)
  decode_cut : ∀ {i} (k : Nat), Valid i → k < (encode i).length → decode ((encode i).take k) = none

namespace Codec

/-- An item that the wire cuts off before its end, or nothing at all. -/
inductive Cut (C : Codec ι β) : Bytes → Prop where
  | nil : Cut C []
  | within {i : ι} (k : Nat) : C.Valid i → k < (C.encode i).length → Cut C ((C.encode i).take k)

/-- `Written w items`: on the wire are the encoded items, and then a cut one. -/
inductive Written (C : Codec ι β) : Bytes → List ι → Prop where
  | cut {w : Bytes} : Cut C w → Written C w []
  | whole {i : ι} {w : Bytes} {items : List ι} : C.Valid i → Written C w items →
      Written C (C.encode i ++ w) (i :: items)

variable {C : Codec ι β}

theorem Cut.decode {w : Bytes} (cut : C.Cut w) : C.decode w = none := by
  cases cut with
  | nil => exact C.decode_nil
  | within k valid short => exact C.decode_cut k valid short

theorem Written.blocks {w : Bytes} {items : List ι} (written : C.Written w items) :
    C.blocks w = items.map C.value := by
  induction written with
  | cut cut => rw [C.blocks_none cut.decode, List.map_nil]
  | whole valid _ ih => rw [C.blocks_some (C.decode_encode _ valid), ih, List.map_cons]

/-- The whole items come first on the wire. -/
theorem Written.encoded {w : Bytes} {items : List ι} (written : C.Written w items) :
    items.flatMap C.encode <+: w := by
  induction written with
  | cut _ => exact List.nil_prefix
  | whole _ _ ih => exact (List.prefix_append_right_inj _).mpr ih

theorem Written.of_whole {items : List ι} (valid : ∀ i ∈ items, C.Valid i) :
    C.Written (items.flatMap C.encode) items := by
  induction items with
  | nil => exact .cut .nil
  | cons first rest ih =>
    exact .whole (valid first List.mem_cons_self)
      (ih fun i member => valid i (List.mem_cons_of_mem first member))

/-- Whole items are found whatever comes after them. -/
theorem blocks_whole (items : List ι) (valid : ∀ i ∈ items, C.Valid i) (more : Bytes) :
    C.blocks (items.flatMap C.encode ++ more) = items.map C.value ++ C.blocks more := by
  induction items with
  | nil => rfl
  | cons first rest ih =>
    have found := C.decode_encode (rest.flatMap C.encode ++ more) (valid first List.mem_cons_self)
    rw [List.flatMap_cons, List.append_assoc, C.blocks_some found,
      ih fun i member => valid i (List.mem_cons_of_mem _ member)]
    rfl

/-- What the decoder leaves of written bytes is a cut item. -/
theorem Written.tail {w : Bytes} {items : List ι} (written : C.Written w items) : C.Cut (C.tail w) := by
  induction written with
  | cut cut => rwa [C.tail_none cut.decode]
  | whole valid _ ih => rwa [C.tail_some (C.decode_encode _ valid)]

theorem Written.rest {w rest : Bytes} {items : List ι} {block : β} (written : C.Written w items)
    (found : C.decode w = some (block, rest)) : ∃ items, C.Written rest items := by
  cases written with
  | cut cut => simp [cut.decode] at found
  | whole valid written =>
    rw [C.decode_encode _ valid, Option.some.injEq, Prod.mk.injEq] at found
    exact ⟨_, found.2 ▸ written⟩

theorem Written.rest_filterMap {w rest : Bytes} {items : List ι} {pick : β → Option γ} {picked : γ}
    (written : C.Written w items) (found : (C.filterMap pick).decode w = some (picked, rest)) :
    ∃ items, C.Written rest items := by
  induction written with
  | cut cut => simp [C.filterMap_none pick cut.decode] at found
  | @whole i w items valid written ih =>
    have first := C.decode_encode w valid
    rcases choice : pick (C.value i) with _ | hit
    · exact ih ((C.filterMap_skipped first choice).symm.trans found)
    · rw [C.filterMap_picked first choice, Option.some.injEq, Prod.mk.injEq] at found
      exact ⟨_, found.2 ▸ written⟩

/-- Cutting the wire anywhere leaves whole items, a prefix of those sent, and a cut one. -/
theorem Written.of_cut (items : List ι) (valid : ∀ i ∈ items, C.Valid i) {w : Bytes}
    (cut : w <+: items.flatMap C.encode) :
    ∃ got, C.Written w got ∧ got <+: items ∧ (w = items.flatMap C.encode → got = items) := by
  induction items generalizing w with
  | nil =>
    rw [List.flatMap_nil, List.prefix_nil] at cut
    subst cut
    exact ⟨[], .cut .nil, by simp⟩
  | cons first rest ih =>
    have first_valid := valid first (by simp)
    simp only [List.flatMap_cons] at cut ⊢
    by_cases whole : (C.encode first).length ≤ w.length
    · obtain ⟨tail, rfl⟩ : ∃ tail, w = C.encode first ++ tail :=
        (List.prefix_of_prefix_length_le (List.prefix_append _ _) cut whole).imp fun _ h => h.symm
      obtain ⟨got, written, begins, all⟩ := ih (fun i member => valid i (by simp [member]))
        ((List.prefix_append_right_inj _).mp cut)
      refine ⟨first :: got, .whole first_valid written, List.cons_prefix_cons.mpr ⟨rfl, begins⟩, ?_⟩
      intro same
      rw [all (List.append_cancel_left same)]
    · have short := Nat.lt_of_not_le whole
      have inside : w <+: C.encode first :=
        List.prefix_of_prefix_length_le cut (List.prefix_append _ _) short.le
      refine ⟨[], .cut ?_, List.nil_prefix, fun same => ?_⟩
      · rw [List.prefix_iff_eq_take.mp inside]
        exact .within _ first_valid short
      · rw [same, List.length_append] at short
        omega

end Codec

end Gotun.Lib
