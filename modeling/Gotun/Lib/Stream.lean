import Mathlib.Data.List.Basic
import Mathlib.Data.List.Infix

/-! Byte streams as values: a state, a read that hands out at most as many bytes as
asked for, a write, and a rank that bounds how often a read can return without an
error. `Delivers` says which byte string a state still has to hand out, whatever the
sizes of the reads and however the bytes were cut on the way. Layered codecs are
verified against it one layer at a time. -/

namespace Gotun.Lib

abbrev Bytes := List UInt8

inductive Err where
  | eof
  | unexpectedEOF
  | failed (text : String)
  deriving DecidableEq, Repr

structure ReadRes (σ : Type) where
  data : Bytes
  err : Option Err
  next : σ

structure WriteRes (σ : Type) where
  n : Int
  err : Option Err
  next : σ

/-- A read may return bytes together with an error. Every read that makes progress
lowers the rank, so loops over reads end. -/
structure Stream (σ : Type) where
  read : Nat → σ → ReadRes σ
  write : Bytes → σ → WriteRes σ
  rank : σ → Nat
  read_length : ∀ n s, (read n s).data.length ≤ n
  read_rank_le : ∀ n s, rank (read n s).next ≤ rank s
  read_rank_lt : ∀ n s, 0 < n → ((read n s).err = none ∨ (read n s).data ≠ []) →
    rank (read n s).next < rank s
  write_rank : ∀ bytes s, rank (write bytes s).next ≤ rank s

variable {σ : Type}

/-- The loop of `io.ReadAtLeast` for a buffer of `n` bytes: stop at `n` bytes, or at the
first error, where an end of file after some bytes becomes an unexpected one. -/
def readLoop (S : Stream σ) : Nat → Nat → Bytes → σ → ReadRes σ
  | 0, _, got, s => ⟨got, some .unexpectedEOF, s⟩
  | fuel + 1, n, got, s =>
      if n = 0 then ⟨got, none, s⟩
      else
        let r := S.read n s
        let got := got ++ r.data
        if n ≤ r.data.length then ⟨got, none, r.next⟩
        else match r.err with
          | none => readLoop S fuel (n - r.data.length) got r.next
          | some e => ⟨got, some (if e = .eof ∧ got ≠ [] then .unexpectedEOF else e), r.next⟩

def readAtLeast (S : Stream σ) (n : Nat) (s : σ) : ReadRes σ :=
  readLoop S (S.rank s + 1) n [] s

theorem readLoop_rank_le (S : Stream σ) (fuel n : Nat) (got : Bytes) (s : σ) :
    S.rank (readLoop S fuel n got s).next ≤ S.rank s := by
  induction fuel generalizing n got s with
  | zero => exact le_rfl
  | succ fuel ih =>
    simp only [readLoop]
    split_ifs with done full
    · exact le_rfl
    · exact S.read_rank_le n s
    · cases failed : (S.read n s).err with
      | none => exact (ih _ _ _).trans (S.read_rank_le n s)
      | some e => exact S.read_rank_le n s

theorem readAtLeast_rank_le (S : Stream σ) (n : Nat) (s : σ) :
    S.rank (readAtLeast S n s).next ≤ S.rank s := readLoop_rank_le S _ n [] s

theorem readLoop_rank_lt (S : Stream σ) (fuel n : Nat) (got : Bytes) (s : σ) (wanted : 0 < n)
    (ok : (readLoop S fuel n got s).err = none) :
    S.rank (readLoop S fuel n got s).next < S.rank s := by
  cases fuel with
  | zero => simp [readLoop] at ok
  | succ fuel =>
    simp only [readLoop, if_neg (Nat.pos_iff_ne_zero.mp wanted)] at ok ⊢
    split_ifs with full
    · refine S.read_rank_lt n s wanted (Or.inr fun empty => ?_)
      rw [empty] at full
      exact absurd full (Nat.not_le.mpr wanted)
    · cases failed : (S.read n s).err with
      | none =>
        exact (readLoop_rank_le S _ _ _ _).trans_lt (S.read_rank_lt n s wanted (Or.inl failed))
      | some e => simp [if_neg full, failed] at ok

theorem readAtLeast_rank_lt (S : Stream σ) (n : Nat) (s : σ) (wanted : 0 < n)
    (ok : (readAtLeast S n s).err = none) : S.rank (readAtLeast S n s).next < S.rank s :=
  readLoop_rank_lt S _ n [] s wanted ok

theorem readLoop_length (S : Stream σ) (fuel n : Nat) (got : Bytes) (s : σ)
    (ok : (readLoop S fuel n got s).err = none) :
    (readLoop S fuel n got s).data.length = got.length + n := by
  induction fuel generalizing n got s with
  | zero => simp [readLoop] at ok
  | succ fuel ih =>
    simp only [readLoop] at ok ⊢
    have short := S.read_length n s
    split_ifs at ok ⊢ with done full
    · simp [done]
    · simp only [List.length_append]
      omega
    · cases failed : (S.read n s).err with
      | none =>
        simp only [failed] at ok ⊢
        rw [ih _ _ _ ok, List.length_append]
        omega
      | some e => simp [failed] at ok

theorem readAtLeast_length (S : Stream σ) (n : Nat) (s : σ) (ok : (readAtLeast S n s).err = none) :
    (readAtLeast S n s).data.length = n := by
  simpa [readAtLeast] using readLoop_length S _ n [] s ok

/-- `Holds s w`: the reads from `s` on hand out exactly `w`, up to the first read that
fails without bytes. A write does not disturb what is still to be read. -/
structure Delivers (S : Stream σ) (Holds : σ → Bytes → Prop) : Prop where
  read : ∀ {s w} (n : Nat), 0 < n → Holds s w → ∃ rest, w = (S.read n s).data ++ rest ∧
    ((S.read n s).err = none ∨ (S.read n s).data ≠ [] → Holds (S.read n s).next rest) ∧
    ((S.read n s).err ≠ none → rest = [])
  write : ∀ {s w} (bytes : Bytes), Holds s w → Holds (S.write bytes s).next w

/-- A read that fails leaves a state in `End`. -/
structure Ends (S : Stream σ) (Holds : σ → Bytes → Prop) (End : σ → Prop) :
    Prop extends Delivers S Holds where
  ended : ∀ {s w} (n : Nat), 0 < n → Holds s w → (S.read n s).err ≠ none → End (S.read n s).next

/-- After a failed read there is nothing left to read either. -/
abbrev Drains (S : Stream σ) (Holds : σ → Bytes → Prop) : Prop := Ends S Holds (fun s => Holds s [])

variable {S : Stream σ} {Holds : σ → Bytes → Prop} {End : σ → Prop}

/-- `Logged s log`: the writes of `log` went out, in this order. A write that fits goes out
as a whole; any other one, and any read, sends nothing. -/
structure Sends (S : Stream σ) (Fits : Bytes → Prop) (Logged : σ → List Bytes → Prop) : Prop where
  write : ∀ {s log} (bytes : Bytes), Logged s log → Fits bytes → (S.write bytes s).n = bytes.length ∧
    (S.write bytes s).err = none ∧ Logged (S.write bytes s).next (log ++ [bytes])
  refused : ∀ {s log} (bytes : Bytes), Logged s log → ¬ Fits bytes → Logged (S.write bytes s).next log
  read : ∀ {s log} (n : Nat), Logged s log → Logged (S.read n s).next log

theorem Delivers.readLoop_ok (delivers : Delivers S Holds) {s : σ} {w : Bytes} (fuel n : Nat)
    (got : Bytes) (held : Holds s w) (enough : n ≤ w.length) (ranked : S.rank s < fuel) :
    (readLoop S fuel n got s).err = none ∧
      (readLoop S fuel n got s).data = got ++ w.take n ∧
      Holds (readLoop S fuel n got s).next (w.drop n) := by
  induction fuel generalizing n got s w with
  | zero => omega
  | succ fuel ih =>
    simp only [readLoop]
    split_ifs with done full
    · simpa [done] using held
    · obtain ⟨rest, split, live, _⟩ := delivers.read n (Nat.pos_of_ne_zero done) held
      have exact : (S.read n s).data.length = n := le_antisymm (S.read_length n s) full
      have some_data : (S.read n s).data ≠ [] := by
        intro empty
        rw [empty] at exact
        exact done exact.symm
      refine ⟨rfl, ?_, ?_⟩
      · rw [split, List.take_left' exact]
      · rw [split, List.drop_left' exact]
        exact live (Or.inr some_data)
    · obtain ⟨rest, split, live, last⟩ := delivers.read n (Nat.pos_of_ne_zero done) held
      have long : (S.read n s).data.length + rest.length = w.length := by
        rw [split, List.length_append]
      cases failed : (S.read n s).err with
      | none =>
        have lower := S.read_rank_lt n s (Nat.pos_of_ne_zero done) (Or.inl failed)
        obtain ⟨ok, data, next⟩ := ih (n - (S.read n s).data.length) (got ++ (S.read n s).data)
          (live (Or.inl failed)) (by omega) (by omega)
        refine ⟨ok, ?_, ?_⟩
        · rw [data, List.append_assoc]
          conv_rhs => rw [split, List.take_append]
          rw [List.take_of_length_le (by omega : (S.read n s).data.length ≤ n)]
        · conv_rhs => rw [split, List.drop_append]
          rw [List.drop_eq_nil_of_le (by omega : (S.read n s).data.length ≤ n), List.nil_append]
          exact next
      | some e =>
        have empty := last (by simp [failed])
        rw [empty] at long
        simp only [List.length_nil] at long
        omega

/-- Enough bytes on the way: the loop takes exactly the first `n` of them. -/
theorem Delivers.readAtLeast_ok (delivers : Delivers S Holds) {s : σ} {w : Bytes} (n : Nat)
    (held : Holds s w) (enough : n ≤ w.length) :
    (readAtLeast S n s).err = none ∧ (readAtLeast S n s).data = w.take n ∧
      Holds (readAtLeast S n s).next (w.drop n) := by
  simpa [readAtLeast] using delivers.readLoop_ok (S.rank s + 1) n [] held enough (Nat.lt_succ_self _)

theorem Delivers.readLoop_short (delivers : Delivers S Holds) {s : σ} {w : Bytes} (fuel n : Nat)
    (got : Bytes) (held : Holds s w) (short : w.length < n) :
    (readLoop S fuel n got s).err ≠ none := by
  induction fuel generalizing n got s w with
  | zero => simp [readLoop]
  | succ fuel ih =>
    obtain ⟨rest, split, live, _⟩ := delivers.read n (by omega) held
    have long : (S.read n s).data.length + rest.length = w.length := by
      rw [split, List.length_append]
    simp only [readLoop]
    split_ifs with done full
    · omega
    · omega
    · cases failed : (S.read n s).err with
      | none => exact ih _ _ (live (Or.inl failed)) (by omega)
      | some e => simp

/-- Too few bytes on the way: the loop fails. -/
theorem Delivers.readAtLeast_short (delivers : Delivers S Holds) {s : σ} {w : Bytes} (n : Nat)
    (held : Holds s w) (short : w.length < n) : (readAtLeast S n s).err ≠ none :=
  delivers.readLoop_short _ n [] held short

theorem Ends.readLoop_ended (ends : Ends S Holds End) {s : σ} {w : Bytes} (fuel n : Nat)
    (got : Bytes) (held : Holds s w) (short : w.length < n) (ranked : S.rank s < fuel) :
    End (readLoop S fuel n got s).next := by
  induction fuel generalizing n got s w with
  | zero => omega
  | succ fuel ih =>
    obtain ⟨rest, split, live, last⟩ := ends.read n (by omega) held
    have long : (S.read n s).data.length + rest.length = w.length := by
      rw [split, List.length_append]
    simp only [readLoop]
    split_ifs with done full
    · omega
    · omega
    · cases failed : (S.read n s).err with
      | none =>
        have lower := S.read_rank_lt n s (by omega) (Or.inl failed)
        exact ih _ _ (live (Or.inl failed)) (by omega) (by omega)
      | some e => exact ends.ended n (by omega) held (by simp [failed])

theorem Ends.readAtLeast_ended (ends : Ends S Holds End) {s : σ} {w : Bytes} (n : Nat)
    (held : Holds s w) (short : w.length < n) : End (readAtLeast S n s).next :=
  ends.readLoop_ended _ n [] held short (Nat.lt_succ_self _)

theorem readLoop_keeps {P : σ → Prop} (kept : ∀ n s, P s → P (S.read n s).next) (fuel n : Nat)
    (got : Bytes) {s : σ} (held : P s) : P (readLoop S fuel n got s).next := by
  induction fuel generalizing n got s with
  | zero => exact held
  | succ fuel ih =>
    simp only [readLoop]
    split_ifs with done full
    · exact held
    · exact kept n s held
    · cases failed : (S.read n s).err with
      | none => exact ih _ _ (kept n s held)
      | some e => exact kept n s held

/-! Codecs are actions on the state of a stream: they fail or return a value, and leave a
state either way. -/

def Action (σ α : Type) := σ → Except Err α × σ

namespace Action

variable {α β γ : Type}

def fail (e : Err) : Action σ α := fun s => (.error e, s)

/-- A result that does not depend on the state. -/
def lift (result : Except Err α) : Action σ α := fun s => (result, s)

def modify (f : σ → σ) : Action σ Unit := fun s => (.ok (), f s)

instance : Monad (Action σ) where
  pure a := fun s => (.ok a, s)
  bind x f := fun s =>
    match x s with
    | (.ok a, t) => f a t
    | (.error e, t) => (.error e, t)

theorem pure_apply (a : α) (s : σ) : (pure a : Action σ α) s = (.ok a, s) := rfl

theorem lift_apply (result : Except Err α) (s : σ) : (lift result : Action σ α) s = (result, s) := rfl

theorem fail_apply (e : Err) (s : σ) : (fail e : Action σ α) s = (.error e, s) := rfl

theorem bind_ok {x : Action σ α} {s t : σ} {a : α} (f : α → Action σ β) (first : x s = (.ok a, t)) :
    (x >>= f) s = f a t := by
  show (match x s with | (.ok a, t) => f a t | (.error e, t) => (.error e, t)) = _
  rw [first]

theorem bind_error {x : Action σ α} {s t : σ} {e : Err} (f : α → Action σ β)
    (first : x s = (.error e, t)) : (x >>= f) s = (.error e, t) := by
  show (match x s with | (.ok a, t) => f a t | (.error e, t) => (.error e, t)) = _
  rw [first]

theorem bind_assoc (x : Action σ α) (f : α → Action σ β) (g : β → Action σ γ) :
    ((x >>= f) >>= g) = x >>= fun a => f a >>= g := by
  funext s
  rcases first : x s with ⟨e | a, t⟩
  · rw [bind_error _ first, bind_error _ (bind_error _ first)]
  · rw [bind_ok _ first]
    show (match (x >>= f) s with | (.ok b, t) => g b t | (.error e, t) => (.error e, t)) = (f a >>= g) t
    rw [bind_ok _ first]
    rfl

/-- An action chosen by the state. -/
def choose (f : σ → Action σ α) : Action σ α := fun s => f s s

theorem choose_apply (f : σ → Action σ α) (s : σ) : choose f s = f s s := rfl

theorem choose_bind (f : σ → Action σ α) (g : α → Action σ β) (s : σ) :
    (choose f >>= g) s = (f s >>= g) s := rfl

/-- What to do about an error. -/
def handle (x : Action σ α) (f : Err → Action σ α) : Action σ α := fun s =>
  match x s with
  | (.ok a, t) => (.ok a, t)
  | (.error e, t) => f e t

theorem handle_ok {x : Action σ α} {s t : σ} {a : α} (f : Err → Action σ α) (fine : x s = (.ok a, t)) :
    x.handle f s = (.ok a, t) := by
  rw [handle, fine]

theorem handle_error {x : Action σ α} {s t : σ} {e : Err} (f : Err → Action σ α)
    (failed : x s = (.error e, t)) :
    x.handle f s = f e t := by
  rw [handle, failed]

/-- A composed action succeeds only through a success of its first part. -/
theorem of_bind_ok {x : Action σ α} {f : α → Action σ β} {s u : σ} {b : β}
    (ok : (x >>= f) s = (.ok b, u)) : ∃ a t, x s = (.ok a, t) ∧ f a t = (.ok b, u) := by
  rcases first : x s with ⟨e | a, t⟩
  · rw [bind_error f first] at ok
    simp at ok
  · rw [bind_ok f first] at ok
    exact ⟨a, t, rfl, ok⟩

/-- The action leaves at most the rank it found. -/
def Lowers (rank : σ → Nat) (x : Action σ α) : Prop := ∀ s, rank (x s).2 ≤ rank s

theorem Lowers.bind {rank : σ → Nat} {x : Action σ α} {f : α → Action σ β} (first : Lowers rank x)
    (then_ : ∀ a, Lowers rank (f a)) : Lowers rank (x >>= f) := by
  intro s
  have bound := first s
  rcases result : x s with ⟨e | a, t⟩
  · rw [result] at bound
    rwa [bind_error f result]
  · rw [result] at bound
    rw [bind_ok f result]
    exact (then_ a t).trans bound

theorem Lowers.pure {rank : σ → Nat} (a : α) : Lowers rank (Pure.pure a : Action σ α) := fun _ => le_rfl

theorem Lowers.fail {rank : σ → Nat} (e : Err) : Lowers rank (fail e : Action σ α) := fun _ => le_rfl

/-- The action keeps what holds of the state, whether it succeeds or not. -/
def Keeps (P : σ → Prop) (x : Action σ α) : Prop := ∀ s, P s → P (x s).2

/-- The second part may rely on what the first one returns. -/
theorem Keeps.bind_of {P : σ → Prop} {Q : α → Prop} {x : Action σ α} {f : α → Action σ β}
    (first : Keeps P x) (returns : ∀ s a t, P s → x s = (.ok a, t) → Q a)
    (then_ : ∀ a, Q a → Keeps P (f a)) : Keeps P (x >>= f) := by
  intro s held
  have kept := first s held
  rcases result : x s with ⟨e | a, t⟩
  · rw [result] at kept
    rwa [bind_error f result]
  · rw [result] at kept
    rw [bind_ok f result]
    exact then_ a (returns s a t held result) t kept

theorem Keeps.bind {P : σ → Prop} {x : Action σ α} {f : α → Action σ β} (first : Keeps P x)
    (then_ : ∀ a, Keeps P (f a)) : Keeps P (x >>= f) :=
  first.bind_of (fun _ _ _ _ _ => trivial) fun a _ => then_ a

theorem Keeps.handle {P : σ → Prop} {x : Action σ α} {f : Err → Action σ α} (first : Keeps P x)
    (then_ : ∀ e, Keeps P (f e)) : Keeps P (x.handle f) := by
  intro s held
  have kept := first s held
  rcases result : x s with ⟨e | a, t⟩
  · rw [result] at kept
    rw [handle_error f result]
    exact then_ e t kept
  · rw [result] at kept
    rwa [handle_ok f result]

theorem Keeps.choose {P : σ → Prop} {f : σ → Action σ α}
    (each : ∀ s, Keeps P (f s)) : Keeps P (Action.choose f) :=
  fun s held => each s s held

theorem Keeps.pure {P : σ → Prop} (a : α) : Keeps P (Pure.pure a : Action σ α) := fun _ held => held

theorem Keeps.fail {P : σ → Prop} (e : Err) : Keeps P (fail e : Action σ α) := fun _ held => held

end Action

/-- `io.ReadFull`: a full buffer, or an error and nothing that its callers look at. -/
def readFull (S : Stream σ) (n : Nat) : Action σ Bytes := fun s =>
  match (readAtLeast S n s).err with
  | none => (.ok (readAtLeast S n s).data, (readAtLeast S n s).next)
  | some e => (.error e, (readAtLeast S n s).next)

/-- A write of which the caller looks at the error only. -/
def put (S : Stream σ) (bytes : Bytes) : Action σ Unit := fun s =>
  match (S.write bytes s).err with
  | none => (.ok (), (S.write bytes s).next)
  | some e => (.error e, (S.write bytes s).next)

theorem put_next (S : Stream σ) (bytes : Bytes) (s : σ) :
    (put S bytes s).2 = (S.write bytes s).next := by
  unfold put
  split <;> rfl

theorem put_lowers (S : Stream σ) (bytes : Bytes) : Action.Lowers S.rank (put S bytes) := by
  intro s
  rw [put_next]
  exact S.write_rank bytes s

theorem put_ok {bytes : Bytes} {s : σ} (accepted : (S.write bytes s).err = none) :
    put S bytes s = (.ok (), (S.write bytes s).next) := by
  simp only [put, accepted]

theorem put_error {bytes : Bytes} {s : σ} {e : Err} (refused : (S.write bytes s).err = some e) :
    put S bytes s = (.error e, (S.write bytes s).next) := by
  simp only [put, refused]

theorem readFull_lowers (S : Stream σ) (n : Nat) : Action.Lowers S.rank (readFull S n) := by
  intro s
  have bound := readAtLeast_rank_le S n s
  unfold readFull
  split <;> exact bound

theorem readFull_inv {n : Nat} {s t : σ} {data : Bytes} (ok : readFull S n s = (.ok data, t)) :
    data.length = n ∧ (0 < n → S.rank t < S.rank s) := by
  unfold readFull at ok
  split at ok
  · rename_i fine
    simp only [Prod.mk.injEq, Except.ok.injEq] at ok
    obtain ⟨rfl, rfl⟩ := ok
    exact ⟨readAtLeast_length S n s fine, fun wanted => readAtLeast_rank_lt S n s wanted fine⟩
  · simp at ok

theorem readFull_once {S : Stream σ} {n : Nat} {s t : σ} {data : Bytes} (wanted : n ≠ 0)
    (full : data.length = n) (read : S.read n s = ⟨data, none, t⟩) :
    readFull S n s = (.ok data, t) := by
  simp only [readFull, readAtLeast, readLoop, if_neg wanted, read, full, le_refl,
    if_true, List.nil_append]

theorem readFull_fails {S : Stream σ} {n : Nat} {s t : σ} {e : Err} (wanted : n ≠ 0)
    (read : S.read n s = ⟨[], some e, t⟩) :
    readFull S n s = (.error e, t) := by
  simp [readFull, readAtLeast, readLoop, wanted, read]

/-- What every read keeps, a sequence of reads keeps. -/
theorem readFull_keeps {P : σ → Prop} (kept : ∀ n s, P s → P (S.read n s).next) (n : Nat) :
    Action.Keeps P (readFull S n) := by
  intro s held
  have after : P (readAtLeast S n s).next := readLoop_keeps kept _ n [] held
  unfold readFull
  split <;> exact after

theorem Sends.readFull {Fits : Bytes → Prop} {Logged : σ → List Bytes → Prop}
    (sends : Sends S Fits Logged) (log : List Bytes) (n : Nat) :
    Action.Keeps (fun s => Logged s log) (readFull S n) :=
  readFull_keeps (fun n _ logged => sends.read n logged) n

theorem Sends.put {Fits : Bytes → Prop} {Logged : σ → List Bytes → Prop} (sends : Sends S Fits Logged)
    {s : σ} {log : List Bytes} {bytes : Bytes} (logged : Logged s log) (fits : Fits bytes) :
    Lib.put S bytes s = (.ok (), (S.write bytes s).next) ∧
      Logged (S.write bytes s).next (log ++ [bytes]) := by
  obtain ⟨_, accepted, next⟩ := sends.write bytes logged fits
  exact ⟨put_ok accepted, next⟩

theorem Delivers.readFull_ok (delivers : Delivers S Holds) {s : σ} {w : Bytes} (n : Nat)
    (held : Holds s w) (enough : n ≤ w.length) :
    ∃ t, readFull S n s = (.ok (w.take n), t) ∧ Holds t (w.drop n) := by
  obtain ⟨fine, data, next⟩ := delivers.readAtLeast_ok n held enough
  exact ⟨_, by simp only [readFull, fine, data], next⟩

theorem Delivers.readFull_short (delivers : Delivers S Holds) {s : σ} {w : Bytes} (n : Nat)
    (held : Holds s w) (short : w.length < n) : ∃ e t, readFull S n s = (.error e, t) := by
  have failed := delivers.readAtLeast_short n held short
  obtain ⟨e, failed⟩ := Option.ne_none_iff_exists'.mp failed
  exact ⟨e, (readAtLeast S n s).next, by simp only [readFull, failed]⟩

theorem Ends.readFull_short (ends : Ends S Holds End) {s : σ} {w : Bytes} (n : Nat)
    (held : Holds s w) (short : w.length < n) : ∃ e t, readFull S n s = (.error e, t) ∧ End t := by
  have failed := ends.readAtLeast_short n held short
  obtain ⟨e, failed⟩ := Option.ne_none_iff_exists'.mp failed
  exact ⟨e, _, by simp only [readFull, failed], ends.readAtLeast_ended n held short⟩

/-! A stream of one of two kinds, chosen at run time. -/

section sum

variable {τ : Type} {T : Stream τ} {HoldsT : τ → Bytes → Prop} {EndT : τ → Prop}

def Stream.sum (S : Stream σ) (T : Stream τ) : Stream (σ ⊕ τ) where
  read n
    | .inl s => ⟨(S.read n s).data, (S.read n s).err, .inl (S.read n s).next⟩
    | .inr t => ⟨(T.read n t).data, (T.read n t).err, .inr (T.read n t).next⟩
  write bytes
    | .inl s => ⟨(S.write bytes s).n, (S.write bytes s).err, .inl (S.write bytes s).next⟩
    | .inr t => ⟨(T.write bytes t).n, (T.write bytes t).err, .inr (T.write bytes t).next⟩
  rank := Sum.elim S.rank T.rank
  read_length n
    | .inl s => S.read_length n s
    | .inr t => T.read_length n t
  read_rank_le n
    | .inl s => S.read_rank_le n s
    | .inr t => T.read_rank_le n t
  read_rank_lt n
    | .inl s => S.read_rank_lt n s
    | .inr t => T.read_rank_lt n t
  write_rank bytes
    | .inl s => S.write_rank bytes s
    | .inr t => T.write_rank bytes t

/-- The kind of stream that is not in use. -/
theorem Ends.unused (S : Stream σ) : Ends S (fun _ _ => False) (fun _ => False) :=
  ⟨⟨fun _ _ held => held.elim, fun _ held => held⟩, fun _ _ held _ => held⟩

theorem Ends.sum (first : Ends S Holds End) (second : Ends T HoldsT EndT) :
    Ends (S.sum T) (Sum.elim Holds HoldsT) (Sum.elim End EndT) where
  read {s _} n wanted held := by
    cases s with
    | inl s => exact first.read n wanted held
    | inr t => exact second.read n wanted held
  write {s _} bytes held := by
    cases s with
    | inl s => exact first.write bytes held
    | inr t => exact second.write bytes held
  ended {s _} n wanted held failed := by
    cases s with
    | inl s => exact first.ended n wanted held failed
    | inr t => exact second.ended n wanted held failed

theorem Drains.sum (first : Drains S Holds) (second : Drains T HoldsT) :
    Drains (S.sum T) (Sum.elim Holds HoldsT) where
  toDelivers := (Ends.sum first second).toDelivers
  ended {s _} n wanted held failed := by
    cases s with
    | inl s => exact first.ended n wanted held failed
    | inr t => exact second.ended n wanted held failed

end sum

/-! Successive reads. -/

def readMany (S : Stream σ) : List Nat → σ → Bytes × σ
  | [], s => ([], s)
  | n :: sizes, s =>
      let r := S.read n s
      let (later, last) := readMany S sizes r.next
      (r.data ++ later, last)

/-- Whatever their sizes, successive reads return a prefix of what is held, and the state then
holds the rest. -/
theorem Ends.readMany (drains : Ends S Holds (fun s => Holds s [])) {s : σ} {w : Bytes}
    (sizes : List Nat) (wanted : ∀ n ∈ sizes, 0 < n) (held : Holds s w) :
    ∃ rest, w = (readMany S sizes s).1 ++ rest ∧ Holds (readMany S sizes s).2 rest ∧
      (S.rank s < sizes.length → rest = []) := by
  induction sizes generalizing s w with
  | nil => exact ⟨w, rfl, held, by simp⟩
  | cons n sizes ih =>
    have positive := wanted n (by simp)
    obtain ⟨rest, split, live, last⟩ := drains.read n positive held
    cases failed : (S.read n s).err with
    | none =>
      obtain ⟨rest', later, held', enough⟩ :=
        ih (fun n member => wanted n (by simp [member])) (live (Or.inl failed))
      refine ⟨rest', ?_, held', fun small => enough ?_⟩
      · rw [split, later, ← List.append_assoc]
        rfl
      · have lower := S.read_rank_lt n s positive (Or.inl failed)
        simp only [List.length_cons] at small
        omega
    | some e =>
      -- Nothing is held from the first failed read on.
      have exhausted := drains.ended n positive held (by simp [failed])
      obtain ⟨rest', later, held', _⟩ := ih (fun n member => wanted n (by simp [member])) exhausted
      obtain ⟨none_later, none_left⟩ := List.append_eq_nil_iff.mp later.symm
      refine ⟨rest', ?_, held', fun _ => none_left⟩
      rw [none_left, split, last (by simp [failed])]
      simp only [Lib.readMany, none_later, List.append_nil]

end Gotun.Lib
