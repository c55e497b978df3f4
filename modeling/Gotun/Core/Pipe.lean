import Gotun.Lib.Messages

/-! `core/pipe.go`: the sizes shared by all codecs and the copy loop of one direction. -/

namespace Gotun.Core
open Gotun.Lib

def SocketBufSize : Nat := 20480

/-- Sizes travel in sixteen bits. -/
def MaxSegmentSize : Nat := 65535

variable {σ τ : Type}

/-- `passed` lists the buffers given to `dst.Write`, in order. -/
structure CopyRes (σ τ : Type) where
  written : Int
  err : Option Err
  passed : List Bytes
  src : σ
  dst : τ

/-- A negative or over-long count is no valid write result. -/
def writeResult (nr : Nat) (nw : Int) (ew : Option Err) : Int × Option Err :=
  if nw < 0 ∨ (nr : Int) < nw then (0, some (ew.getD (.failed "invalid write result"))) else (nw, ew)

/-- The error a failed read leaves: an end of file is a normal end. -/
def readEnd (er : Err) : Option Err := if er = .eof then none else some er

def copyLoop (D : Stream τ) (S : Stream σ) : Nat → CopyRes σ τ → CopyRes σ τ
  | 0, c => { c with err := some .unexpectedEOF }
  | fuel + 1, c =>
      let r := S.read SocketBufSize c.src
      if 0 < r.data.length then
        let w := D.write r.data c.dst
        let (nw, ew) := writeResult r.data.length w.n w.err
        let c := { c with
          written := c.written + nw, passed := c.passed ++ [r.data], src := r.next, dst := w.next }
        match ew with
        | some e => { c with err := some e }
        | none =>
            if (r.data.length : Int) ≠ nw then { c with err := some (.failed "short write") }
            else match r.err with
              | some er => { c with err := readEnd er }
              | none => copyLoop D S fuel c
      else match r.err with
        | some er => { c with err := readEnd er, src := r.next }
        | none => copyLoop D S fuel { c with src := r.next }

/-- Copies `src` to `dst` until either fails; each round lowers the rank of `src`. -/
def unidirectionalStream (D : Stream τ) (S : Stream σ) (dst : τ) (src : σ) : CopyRes σ τ :=
  copyLoop D S (S.rank src + 1) ⟨0, none, [], src, dst⟩

/-- `Pipe`, from left to right. The other direction and the idle monitor act on this one through
the read deadline of `left` only, which they set when they end; `stop` is what they do to it. -/
def Pipe (L : Stream σ) (R : Stream τ) (stop : σ → σ) (left : σ) (right : τ) : CopyRes σ τ :=
  unidirectionalStream R L right (stop left)

/-- A destination that takes every buffer of the loop as a whole. -/
def Accepts (D : Stream τ) (Ready : τ → Prop) : Prop :=
  ∀ {t} (b : Bytes), Ready t → b ≠ [] → b.length ≤ SocketBufSize →
    (D.write b t).n = b.length ∧ (D.write b t).err = none ∧ Ready (D.write b t).next

theorem writeResult_whole (nr : Nat) : writeResult nr nr none = ((nr : Int), none) := by
  rw [writeResult, if_neg (by omega)]

/-- The loop passes on exactly what the source still holds, and stops where a read fails. -/
theorem copyLoop_passed {D : Stream τ} {S : Stream σ} {Holds : σ → Bytes → Prop} {End : σ → Prop}
    {Ready : τ → Prop} (ends : Ends S Holds End) (accepts : Accepts D Ready) {c : CopyRes σ τ}
    {w : Bytes} (fuel : Nat) (enough : S.rank c.src < fuel) (held : Holds c.src w)
    (ready : Ready c.dst) :
    (copyLoop D S fuel c).passed.flatten = c.passed.flatten ++ w ∧ End (copyLoop D S fuel c).src := by
  induction fuel generalizing c w with
  | zero => omega
  | succ fuel ih =>
    have wanted : 0 < SocketBufSize := by decide
    obtain ⟨rest, split, live, last⟩ := ends.read SocketBufSize wanted held
    have ended := ends.ended SocketBufSize wanted held
    have lower := S.read_rank_lt SocketBufSize c.src wanted
    have short := S.read_length SocketBufSize c.src
    rcases result : S.read SocketBufSize c.src with ⟨data, err, next⟩
    simp only [result] at split live last ended lower short
    by_cases empty : data = []
    · simp only [copyLoop, result, empty, List.length_nil, lt_irrefl, if_false]
      cases err with
      | none =>
        have next_lower := lower (Or.inl rfl)
        have later := ih (c := { c with src := next }) (by simp only; omega) (live (Or.inl rfl)) ready
        rwa [split, empty, List.nil_append]
      | some e => exact ⟨by simp [split, empty, last], ended (by simp)⟩
    · have some_data := List.length_pos_iff.mpr empty
      obtain ⟨whole, fine, after⟩ := accepts data ready empty short
      simp only [copyLoop, result, if_pos some_data, whole, fine, writeResult_whole, ne_eq,
        not_true, if_false]
      cases err with
      | none =>
        have next_lower := lower (Or.inl rfl)
        obtain ⟨passed, final⟩ := ih (c := { c with
          written := c.written + data.length, passed := c.passed ++ [data], src := next,
            dst := (D.write data c.dst).next })
          (by simp only; omega) (live (Or.inl rfl)) after
        refine ⟨?_, final⟩
        rw [passed, split]
        simp
      | some e => exact ⟨by simp [split, last], ended (by simp)⟩

theorem unidirectionalStream_passed {D : Stream τ} {S : Stream σ} {Holds : σ → Bytes → Prop}
    {End : σ → Prop} {Ready : τ → Prop} (ends : Ends S Holds End) (accepts : Accepts D Ready)
    {dst : τ} {src : σ} {w : Bytes} (held : Holds src w) (ready : Ready dst) :
    (unidirectionalStream D S dst src).passed.flatten = w ∧ End (unidirectionalStream D S dst src).src :=
  copyLoop_passed ends accepts (c := ⟨0, none, [], src, dst⟩) _ (Nat.lt_succ_self _) held ready

/-- Messages arrive in the pieces that the buffer of the loop makes of them. -/
theorem copyLoop_pieces {D : Stream τ} {S : Stream σ} {Holds : σ → List Bytes → Prop}
    {Logged : τ → List Bytes → Prop} (messages : Messages S Holds)
    (takes : Takes SocketBufSize D Logged) {c : CopyRes σ τ} {ms log : List Bytes} (fuel : Nat)
    (enough : S.rank c.src < fuel) (held : Holds c.src ms) (logged : Logged c.dst log) :
    Logged (copyLoop D S fuel c).dst (log ++ ms.flatMap (pieces SocketBufSize)) := by
  have wanted : 0 < SocketBufSize := by decide
  induction fuel generalizing c ms log with
  | zero => omega
  | succ fuel ih =>
    cases ms with
    | nil =>
      obtain ⟨empty, failed⟩ := messages.done SocketBufSize wanted held
      obtain ⟨e, failed⟩ := Option.ne_none_iff_exists'.mp failed
      simp only [copyLoop, empty, failed, List.length_nil, lt_irrefl, if_false,
        List.flatMap_nil, List.append_nil]
      exact logged
    | cons m ms =>
      have some_bytes := messages.nonempty held m List.mem_cons_self
      have lower := S.read_rank_lt SocketBufSize c.src wanted
      obtain ⟨data, fine, next⟩ := messages.read SocketBufSize wanted held
      have next_lower := lower (Or.inl fine)
      have some_data : m.take SocketBufSize ≠ [] := by
        intro empty
        rcases List.take_eq_nil_iff.mp empty with no_room | no_bytes
        · exact absurd no_room (by decide)
        · exact some_bytes no_bytes
      obtain ⟨whole, ok, after⟩ :=
        takes.write (m.take SocketBufSize) logged some_data (List.length_take_le ..)
      have first : m.take SocketBufSize ::
        (if m.length ≤ SocketBufSize then ms else m.drop SocketBufSize :: ms).flatMap
            (pieces SocketBufSize) =
          (m :: ms).flatMap (pieces SocketBufSize) := by
        rw [List.flatMap_cons]
        split_ifs with small
        · rw [List.take_of_length_le small, pieces_whole small]
          rfl
        · rw [pieces_cut wanted (Nat.lt_of_not_le small), List.flatMap_cons]
          rfl
      have later := ih (c := { c with
        written := c.written + (m.take SocketBufSize).length, passed :=
          c.passed ++ [m.take SocketBufSize]
        src := (S.read SocketBufSize c.src).next, dst := (D.write (m.take SocketBufSize) c.dst).next })
        (by simp only; omega) next after
      rw [List.append_assoc, List.singleton_append, first] at later
      simp only [copyLoop, data, fine, if_pos (List.length_pos_iff.mpr some_data), whole, ok,
        writeResult_whole, ne_eq, not_true, if_false]
      exact later

theorem unidirectionalStream_pieces {D : Stream τ} {S : Stream σ} {Holds : σ → List Bytes → Prop}
    {Logged : τ → List Bytes → Prop} (messages : Messages S Holds)
    (takes : Takes SocketBufSize D Logged) {dst : τ} {src : σ} {ms : List Bytes}
    (held : Holds src ms) (logged : Logged dst []) :
    Logged (unidirectionalStream D S dst src).dst (ms.flatMap (pieces SocketBufSize)) :=
  copyLoop_pieces messages takes (c := ⟨0, none, [], src, dst⟩) _ (Nat.lt_succ_self _) held logged

/-- Whatever the source is, the destination has taken what the loop passed on. -/
theorem copyLoop_logged {D : Stream τ} (S : Stream σ) {Logged : τ → List Bytes → Prop}
    (takes : Takes SocketBufSize D Logged) {c : CopyRes σ τ} {log : List Bytes} (fuel : Nat)
    (logged : Logged c.dst log) :
    ∃ more, (copyLoop D S fuel c).passed = c.passed ++ more ∧
      (∀ b ∈ more, b ≠ [] ∧ b.length ≤ SocketBufSize) ∧
      Logged (copyLoop D S fuel c).dst (log ++ more) := by
  induction fuel generalizing c log with
  | zero => exact ⟨[], (List.append_nil _).symm, by simp, by rwa [List.append_nil]⟩
  | succ fuel ih =>
    have short := S.read_length SocketBufSize c.src
    rcases result : S.read SocketBufSize c.src with ⟨data, err, next⟩
    rw [result] at short
    by_cases empty : data = []
    · simp only [copyLoop, result, empty, List.length_nil, lt_irrefl, if_false]
      cases err with
      | none => exact ih logged
      | some e => exact ⟨[], (List.append_nil _).symm, by simp, by rwa [List.append_nil]⟩
    · obtain ⟨whole, fine, after⟩ := takes.write data logged empty short
      simp only [copyLoop, result, if_pos (List.length_pos_iff.mpr empty), whole, fine,
        writeResult_whole, ne_eq, not_true, if_false]
      cases err with
      | none =>
        obtain ⟨more, passed, each, last⟩ := ih (c := { c with
          written := c.written + data.length, passed := c.passed ++ [data], src := next,
            dst := (D.write data c.dst).next })
          after
        refine ⟨data :: more,
          by rw [passed, List.append_assoc]; rfl, ?_, by rwa [List.append_assoc] at last⟩
        exact List.forall_mem_cons.mpr ⟨⟨empty, short⟩, each⟩
      | some e => exact ⟨[data], rfl, List.forall_mem_singleton.mpr ⟨empty, short⟩, after⟩

theorem unidirectionalStream_logged {D : Stream τ} (S : Stream σ) {Logged : τ → List Bytes → Prop}
    (takes : Takes SocketBufSize D Logged) {dst : τ} (src : σ) {log : List Bytes}
    (logged : Logged dst log) :
    (∀ b ∈ (unidirectionalStream D S dst src).passed, b ≠ [] ∧ b.length ≤ SocketBufSize) ∧
      Logged (unidirectionalStream D S dst src).dst
        (log ++ (unidirectionalStream D S dst src).passed) := by
  obtain ⟨more, passed, each, last⟩ :=
    copyLoop_logged S takes (c := ⟨0, none, [], src, dst⟩) (S.rank src + 1) logged
  have same : (unidirectionalStream D S dst src).passed = more := passed
  rw [same]
  exact ⟨each, last⟩

/-- What is passed on does not depend on the destination, as long as it takes every buffer. -/
theorem copyLoop_same {υ : Type} {D : Stream τ} {D' : Stream υ} (S : Stream σ)
    {Logged : τ → List Bytes → Prop} {Logged' : υ → List Bytes → Prop}
    (takes : Takes SocketBufSize D Logged) (takes' : Takes SocketBufSize D' Logged')
    {c : CopyRes σ τ} {c' : CopyRes σ υ} {log log' : List Bytes} (fuel : Nat)
    (sameSrc : c.src = c'.src) (samePassed : c.passed = c'.passed) (logged : Logged c.dst log)
    (logged' : Logged' c'.dst log') :
    (copyLoop D S fuel c).passed = (copyLoop D' S fuel c').passed := by
  induction fuel generalizing c c' log log' with
  | zero => exact samePassed
  | succ fuel ih =>
    have short := S.read_length SocketBufSize c.src
    rcases result : S.read SocketBufSize c.src with ⟨data, err, next⟩
    rw [result] at short
    by_cases empty : data = []
    · simp only [copyLoop, ← sameSrc, result, empty, List.length_nil, lt_irrefl, if_false]
      cases err with
      | none => exact ih rfl samePassed logged logged'
      | some e => exact samePassed
    · obtain ⟨whole, fine, after⟩ := takes.write data logged empty short
      obtain ⟨whole', fine', after'⟩ := takes'.write data logged' empty short
      simp only [copyLoop, ← sameSrc, result, if_pos (List.length_pos_iff.mpr empty), whole, fine,
        whole', fine', writeResult_whole, ne_eq, not_true, if_false]
      cases err with
      | none => exact ih rfl (by rw [samePassed]) after after'
      | some e => exact congrArg (· ++ [data]) samePassed

/-- What the reads of held bytes keep, the loop keeps. -/
theorem copyLoop_keeps (D : Stream τ) {S : Stream σ} {Holds : σ → Bytes → Prop} {P : σ → Prop}
    (delivers : Delivers S Holds)
    (kept : ∀ {s w}, Holds s w → P s → P (S.read SocketBufSize s).next) {c : CopyRes σ τ}
    {w : Bytes} (fuel : Nat) (held : Holds c.src w) (first : P c.src) :
    P (copyLoop D S fuel c).src := by
  induction fuel generalizing c w with
  | zero => exact first
  | succ fuel ih =>
    obtain ⟨rest, _, live, _⟩ := delivers.read SocketBufSize (by decide) held
    have after := kept held first
    rcases result : S.read SocketBufSize c.src with ⟨data, err, next⟩
    simp only [result] at live after
    by_cases empty : data = []
    · simp only [copyLoop, result, empty, List.length_nil, lt_irrefl, if_false]
      cases err with
      | none => exact ih (c := { c with src := next }) (live (Or.inl rfl)) after
      | some e => exact after
    · simp only [copyLoop, result, if_pos (List.length_pos_iff.mpr empty)]
      cases (writeResult data.length (D.write data c.dst).n (D.write data c.dst).err).2 with
      | some e => exact after
      | none =>
        dsimp only
        split_ifs with whole
        · exact after
        · cases err with
          | none =>
            refine ih (c := { c with
              written := c.written +
                (writeResult data.length (D.write data c.dst).n (D.write data c.dst).err).1
              passed := c.passed ++ [data], src := next, dst := (D.write data c.dst).next })
                (live (Or.inl rfl)) after
          | some e => exact after

end Gotun.Core
