import Gotun.Lib.Stream

/-! Programs by the calls they make. Between two calls the program can be killed, or others can change
the state. -/

namespace Gotun.Lib

/-- Each call takes effect at once and is answered with a flag or an error. -/
inductive Script (ι σ α : Type) where
  | done (result : Except Err α)
  | call (label : ι) (run : σ → Except Err Bool × σ) (next : Except Err Bool → Script ι σ α)

namespace Script

variable {ι σ τ α β : Type}

def bind : Script ι σ α → (α → Script ι σ β) → Script ι σ β
  | .done (.ok a), f => f a
  | .done (.error e), _ => .done (.error e)
  | .call label run next, f => .call label run fun answer => (next answer).bind f

instance : Monad (Script ι σ) where
  pure a := .done (.ok a)
  bind := bind

def fail (e : Err) : Script ι σ α := .done (.error e)

def lift (result : Except Err α) : Script ι σ α := .done result

/-- A call whose answer is the result. -/
def request (label : ι) (run : σ → Except Err Bool × σ) : Script ι σ Bool := .call label run .done

/-- What to do about an error. -/
def handle : Script ι σ α → (Err → Script ι σ α) → Script ι σ α
  | .done (.ok a), _ => .done (.ok a)
  | .done (.error e), f => f e
  | .call label run next, f => .call label run fun answer => (next answer).handle f

/-- The calls are made, and the result is the one given. -/
def ending : Script ι σ β → Except Err α → Script ι σ α
  | .done _, result => .done result
  | .call label run next, result => .call label run fun answer => (next answer).ending result

/-- The last calls are made whatever the result, which they do not change. -/
def defer : Script ι σ α → Script ι σ β → Script ι σ α
  | .done result, last => last.ending result
  | .call label run next, last => .call label run fun answer => (next answer).defer last

/-- The whole program, with nothing in between. -/
def exec : Script ι σ α → Action σ α
  | .done result, s => (result, s)
  | .call _ run next, s => (next (run s).1).exec (run s).2

/-- The state in which the program leaves off when it is killed after so many calls. -/
def killed : Script ι σ α → Nat → σ → σ
  | .done _, _, s => s
  | .call _ _ _, 0, s => s
  | .call _ run next, n + 1, s => (next (run s).1).killed n (run s).2

theorem exec_bind (x : Script ι σ α) (f : α → Script ι σ β) :
    (x >>= f).exec = x.exec >>= fun a => (f a).exec := by
  funext s
  induction x generalizing s with
  | done result =>
    cases result with
    | ok a => rfl
    | error e => rfl
  | call label run next ih => exact ih _ _

/-- A composed program succeeds only through a success of its first part. -/
theorem of_bind_ok {x : Script ι σ α} {f : α → Script ι σ β} {s u : σ} {b : β}
    (ran : (x >>= f).exec s = (.ok b, u)) :
    ∃ a t, x.exec s = (.ok a, t) ∧ (f a).exec t = (.ok b, u) := by
  rw [exec_bind] at ran
  exact Action.of_bind_ok ran

theorem exec_defer (x : Script ι σ α) (last : Script ι σ β) (s : σ) :
    (x.defer last).exec s = ((x.exec s).1, (last.exec (x.exec s).2).2) := by
  induction x generalizing s with
  | done result =>
    show (last.ending result).exec s = (result, (last.exec s).2)
    induction last generalizing s with
    | done _ => rfl
    | call label run next ih => exact ih _ _
  | call label run next ih => exact ih _ _

/-! A program among others, which change the state between its calls and leave a record of it. -/

section among

variable {γ : Type} (rely : σ × γ → σ × γ → Prop) (allowed : ι → σ × γ → Prop)

/-- Where the calls are allowed when they are made, `post` holds at the end and stays so. -/
def Safe (post : Except Err α → σ × γ → Prop) : Script ι σ α → σ × γ → Prop
  | .done result, s => ∀ t, rely s t → post result t
  | .call label run next, s =>
    ∀ t, rely s t → allowed label t → (next (run t.1).1).Safe post ((run t.1).2, t.2)

/-- The program takes every state with `pre` to one with `post`. -/
def Meets (pre : σ × γ → Prop) (x : Script ι σ α) (post : Except Err α → σ × γ → Prop) : Prop :=
  ∀ s, pre s → x.Safe rely allowed post s

/-- What the others do not change. -/
def Stable (P : σ × γ → Prop) : Prop := ∀ s t, rely s t → P s → P t

variable {rely allowed} {pre : σ × γ → Prop} {mid post : Except Err α → σ × γ → Prop}
  {x : Script ι σ α} {s t : σ × γ}

theorem Safe.mono (trans : ∀ {a b c}, rely a b → rely b c → rely a c)
    (safe : x.Safe rely allowed post s) (later : rely s t) :
    x.Safe rely allowed post t := by
  cases x with
  | done result => exact fun u step => safe u (trans later step)
  | call label run next => exact fun u step => safe u (trans later step)

theorem Meets.done {result : Except Err α} (stable : Stable rely (post result)) :
    Meets rely allowed (post result) (.done result) post :=
  fun s held t later => stable s t later held

theorem Meets.request {label : ι} {run : σ → Except Err Bool × σ} {post : Except Err Bool → σ × γ → Prop}
    (kept : Stable rely pre) (stable : ∀ result, Stable rely (post result))
    (step : ∀ s, pre s → allowed label s → post (run s.1).1 ((run s.1).2, s.2)) :
    Meets rely allowed pre (request label run) post :=
  fun s held t later ok u after => stable _ _ u after (step t (kept s t later held) ok)

/-- A part that succeeds is followed by the rest; one that fails ends the program. -/
theorem Meets.bind (refl : ∀ s, rely s s) {f : α → Script ι σ β} {post : Except Err β → σ × γ → Prop}
    (first : Meets rely allowed pre x mid) (rest : ∀ a, Meets rely allowed (mid (.ok a)) (f a) post)
    (failed : ∀ e s, mid (.error e) s → post (.error e) s) : Meets rely allowed pre (x >>= f) post := by
  intro s held
  have safe := first s held
  clear first held
  induction x generalizing s with
  | done result =>
    cases result with
    | ok a => exact rest a s (safe s (refl s))
    | error e => exact fun t later => failed e t (safe t later)
  | call label run next ih => exact fun t later ok => ih _ _ (safe t later ok)

theorem Meets.handle (refl : ∀ s, rely s s) {f : Err → Script ι σ α}
    (first : Meets rely allowed pre x mid) (fine : ∀ a s, mid (.ok a) s → post (.ok a) s)
    (rest : ∀ e, Meets rely allowed (mid (.error e)) (f e) post) :
    Meets rely allowed pre (x.handle f) post := by
  intro s held
  have safe := first s held
  clear first held
  induction x generalizing s with
  | done result =>
    cases result with
    | ok a => exact fun t later => fine a t (safe t later)
    | error e => exact rest e s (safe s (refl s))
  | call label run next ih => exact fun t later ok => ih _ _ (safe t later ok)

theorem Meets.ending {last : Script ι σ β} {result : Except Err α}
    (meets : Meets rely allowed pre last fun _ => post result) :
    Meets rely allowed pre (last.ending result) post := by
  intro s held
  have safe := meets s held
  clear meets held
  induction last generalizing s with
  | done _ => exact safe
  | call label run next ih => exact fun t later ok => ih _ _ (safe t later ok)

theorem Meets.defer (refl : ∀ s, rely s s) {last : Script ι σ β} (first : Meets rely allowed pre x mid)
    (rest : ∀ result, Meets rely allowed (mid result) last fun _ => post result) :
    Meets rely allowed pre (x.defer last) post := by
  intro s held
  have safe := first s held
  clear first held
  induction x generalizing s with
  | done result => exact Meets.ending (rest result) s (safe s (refl s))
  | call label run next ih => exact fun t later ok => ih _ _ (safe t later ok)

theorem Meets.weaken (meets : Meets rely allowed pre x mid) {pre' : σ × γ → Prop}
    (stronger : ∀ s, pre' s → pre s) (weaker : ∀ result s, mid result s → post result s) :
    Meets rely allowed pre' x post := by
  intro s held
  have safe := meets s (stronger s held)
  clear meets held
  induction x generalizing s with
  | done result => exact fun t later => weaker result t (safe t later)
  | call label run next ih => exact fun t later ok => ih _ _ (safe t later ok)

end among

end Script

end Gotun.Lib
