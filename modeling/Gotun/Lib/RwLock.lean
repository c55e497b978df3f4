import Gotun.Lib.System
import Mathlib.Algebra.BigOperators.Group.List.Basic
import Mathlib.Algebra.GroupWithZero.Nat
import Mathlib.Data.List.Basic

/-! Threads around one readers-writer lock and the data it guards. A writer that has announced itself
keeps new readers out. The rule: what a thread relies on while it has the lock is disturbed only by
threads that can have the lock at the same time. -/

namespace Gotun.Lib

/-- What a thread has of the lock: `pending` is a writer that has announced itself. -/
inductive Hold where
  | none
  | read
  | pending
  | write
  deriving DecidableEq, Repr

namespace Hold

/-- Two threads can have these at the same time. -/
def compatible : Hold → Hold → Bool
  | .none, _ | _, .none => true
  | .read, .read | .read, .pending | .pending, .read => true
  | _, _ => false

theorem compatible_comm (a b : Hold) : a.compatible b = b.compatible a := by
  cases a <;> cases b <;> rfl

/-- What the lock lets a thread do, beside what all threads have of it. -/
def admits (held : List Hold) : Hold → Hold → Bool
  | .none, .read | .none, .pending => held.all fun h => h ≠ .pending ∧ h ≠ .write
  | .pending, .write => held.all fun h => h ≠ .read
  | a, b => a = b ∨ b = .none

theorem admits_self (held : List Hold) (a : Hold) : admits held a a = true := by
  cases a <;> simp [admits]

theorem admits_none (held : List Hold) (a : Hold) : admits held a .none = true := by
  cases a <;> simp [admits]

/-- A change that is let through fits to all other threads. -/
theorem admits_compatible {held : List Hold} {a b other : Hold} (ok : admits held a b = true)
    (member : other ∈ held) (fits : a.compatible other = true) : b.compatible other = true := by
  cases a <;> cases b <;> simp only [admits, List.all_eq_true, decide_eq_true_eq] at ok <;> first
    | exact fits
    | (have apart := ok other member; cases other <;> simp_all [compatible])
    | simp_all [compatible]

end Hold

/-- The program of a thread: its moves on the shared data, and what it has of the lock at each point. -/
structure Guarded (γ θ ε : Type) where
  begins : γ
  starts : θ → Bool
  hold : θ → Hold
  move : γ → θ → ε → Option (γ × θ)

structure Guarded.State (γ θ : Type) where
  shared : γ
  threads : List θ

inductive Guarded.Event (θ ε : Type) where
  | start (t : θ)
  | run (i : Nat) (e : ε)

namespace Guarded

variable {γ θ ε : Type} (p : Guarded γ θ ε)

def step (s : State γ θ) : Event θ ε → Option (State γ θ)
  | .start t => if p.starts t then some { s with threads := s.threads ++ [t] } else none
  | .run i e => s.threads[i]?.bind fun t => (p.move s.shared t e).bind fun after =>
      if Hold.admits (s.threads.map p.hold) (p.hold t) (p.hold after.2) then
        some ⟨after.1, s.threads.set i after.2⟩
      else none

def system : System (State γ θ) (Event θ ε) where
  start s := s = ⟨p.begins, []⟩
  step := p.step

variable {p} {s s' : State γ θ} {i : Nat} {e : ε}

/-- A move of a thread that the lock lets through. -/
structure Moves (p : Guarded γ θ ε) (s : State γ θ) (i : Nat) (t : θ) (e : ε)
    (after : γ × θ) : Prop where
  there : s.threads[i]? = some t
  move : p.move s.shared t e = some after
  admitted : Hold.admits (s.threads.map p.hold) (p.hold t) (p.hold after.2) = true

theorem step_run_iff : p.step s (.run i e) = some s' ↔
    ∃ t after, p.Moves s i t e after ∧ s' = ⟨after.1, s.threads.set i after.2⟩ := by
  rw [step, Option.bind_eq_some_iff]
  constructor
  · rintro ⟨t, there, next⟩
    obtain ⟨after, move, next⟩ := Option.bind_eq_some_iff.mp next
    split_ifs at next with admitted
    exact ⟨t, after, ⟨there, move, admitted⟩, (Option.some.inj next).symm⟩
  · rintro ⟨t, after, ⟨there, move, admitted⟩, rfl⟩
    refine ⟨t, there, Option.bind_eq_some_iff.mpr ⟨after, move, ?_⟩⟩
    rw [if_pos admitted]

theorem Moves.play {t : θ} {after : γ × θ} (moves : p.Moves s i t e after) {later : List (Event θ ε)}
    (played : p.system.play (fun _ _ => true) later ⟨after.1, s.threads.set i after.2⟩ = some s') :
    p.system.play (fun _ _ => true) (.run i e :: later) s = some s' := by
  have next : p.system.step s (.run i e) = some ⟨after.1, s.threads.set i after.2⟩ :=
    step_run_iff.mpr ⟨t, after, moves, rfl⟩
  rw [System.play, if_pos rfl, next]
  exact played

/-- No two threads have of the lock what excludes each other. -/
def Exclusive (p : Guarded γ θ ε) (threads : List θ) : Prop :=
  ∀ (i j : Nat) (t u : θ), i ≠ j → threads[i]? = some t → threads[j]? = some u →
    (p.hold t).compatible (p.hold u) = true

theorem Exclusive.set {threads : List θ} (exclusive : p.Exclusive threads) {t t' : θ}
    (there : threads[i]? = some t)
    (admitted : Hold.admits (threads.map p.hold) (p.hold t) (p.hold t') = true) :
    p.Exclusive (threads.set i t') := by
  have beside {j : Nat} {u : θ} (apart : i ≠ j) (found : threads[j]? = some u) :
      (p.hold t').compatible (p.hold u) = true :=
    Hold.admits_compatible admitted (List.mem_map_of_mem (List.mem_of_getElem? found))
      (exclusive i j t u apart there found)
  intro j k u v apart first second
  by_cases here : i = j
  · rw [List.getElem?_set_ne (here ▸ apart)] at second
    rw [← here, List.getElem?_set_self (List.getElem?_eq_some_iff.mp there).1] at first
    rw [← Option.some.inj first]
    exact beside (here ▸ apart) second
  · rw [List.getElem?_set_ne here] at first
    by_cases here' : i = k
    · rw [← here', List.getElem?_set_self (List.getElem?_eq_some_iff.mp there).1] at second
      rw [← Option.some.inj second, Hold.compatible_comm]
      exact beside here first
    · rw [List.getElem?_set_ne here'] at second
      exact exclusive j k u v apart first second

/-- A new thread has nothing of the lock. -/
theorem Exclusive.concat {threads : List θ} (exclusive : p.Exclusive threads) {t : θ}
    (outside : p.hold t = .none) :
    p.Exclusive (threads ++ [t]) := by
  have last {j : Nat} {u : θ} (found : (threads ++ [t])[j]? = some u) : threads[j]? = some u ∨
      p.hold u = .none := by
    by_cases short : j < threads.length
    · rw [List.getElem?_append_left short] at found
      exact Or.inl found
    · rw [List.getElem?_append_right (Nat.le_of_not_lt short)] at found
      rw [List.mem_singleton.mp (List.mem_of_getElem? found)]
      exact Or.inr outside
  intro j k u v apart first second
  rcases last first with first | free
  · rcases last second with second | free
    · exact exclusive j k u v apart first second
    · rw [free, Hold.compatible_comm]
      rfl
  · rw [free]
    rfl

/-- What is proved of a program: `Inv` of the shared data, and what a thread relies on at each point. -/
structure Proof (p : Guarded γ θ ε) (Inv : γ → Prop) (Relies : γ → θ → Prop) : Prop where
  begins : Inv p.begins
  starts : ∀ {g t}, p.starts t = true → p.hold t = .none ∧ Relies g t
  own : ∀ {g t e after}, Inv g → Relies g t → p.move g t e = some after → Inv after.1 ∧
    Relies after.1 after.2
  others : ∀ {g t u e after}, Inv g → Relies g t → Relies g u → (p.hold t).compatible (p.hold u) = true →
    p.move g t e = some after → Relies after.1 u

/-- What holds along all runs of a program. -/
structure Safe (p : Guarded γ θ ε) (Inv : γ → Prop) (Relies : γ → θ → Prop) (s : State γ θ) : Prop where
  inv : Inv s.shared
  relies : ∀ t ∈ s.threads, Relies s.shared t
  exclusive : p.Exclusive s.threads

variable {Inv : γ → Prop} {Relies : γ → θ → Prop}

theorem Safe.moves (safe : Safe p Inv Relies s) (proof : Proof p Inv Relies) {t : θ} {after : γ × θ}
    (moves : p.Moves s i t e after) :
    Safe p Inv Relies ⟨after.1, s.threads.set i after.2⟩ := by
  obtain ⟨there, move, admitted⟩ := moves
  have relied := safe.relies t (List.mem_of_getElem? there)
  obtain ⟨inv, relies⟩ := proof.own safe.inv relied move
  refine ⟨inv, ?_, safe.exclusive.set there admitted⟩
  intro u member
  obtain ⟨j, found⟩ := List.mem_iff_getElem?.mp member
  by_cases here : i = j
  · rw [← here, List.getElem?_set_self (List.getElem?_eq_some_iff.mp there).1] at found
    rw [← Option.some.inj found]
    exact relies
  · rw [List.getElem?_set_ne here] at found
    exact proof.others safe.inv relied (safe.relies u (List.mem_of_getElem? found))
      (safe.exclusive i j t u here there found) move

theorem Safe.step {event : Event θ ε} (safe : Safe p Inv Relies s) (proof : Proof p Inv Relies)
    (next : p.step s event = some s') : Safe p Inv Relies s' := by
  cases event with
  | start t =>
    rw [Guarded.step] at next
    split_ifs at next with begins
    obtain ⟨outside, relies⟩ := proof.starts begins
    rw [← Option.some.inj next]
    refine ⟨safe.inv, ?_, safe.exclusive.concat outside⟩
    intro u member
    rcases List.mem_append.mp member with earlier | new
    · exact safe.relies u earlier
    · rw [List.mem_singleton.mp new]
      exact relies
  | run i e =>
    obtain ⟨t, after, moves, rfl⟩ := step_run_iff.mp next
    exact safe.moves proof moves

theorem Proof.safe_of_run (proof : Proof p Inv Relies) {allowed : State γ θ → Event θ ε → Prop}
    {events : List (Event θ ε)} (run : p.system.Run allowed events s) : Safe p Inv Relies s := by
  refine run.invariant (Safe p Inv Relies) ?_ fun _ _ _ safe _ next => safe.step proof next
  rintro s rfl
  exact ⟨proof.begins, nofun, nofun⟩

/-! Threads that can always move on under the lock leave it. -/

/-- The moves that the threads inside still have to make. -/
def inside (p : Guarded γ θ ε) (left : θ → Nat) (t : θ) : Nat := if p.hold t = .none then 0 else left t

/-- While `While` holds of the shared data, a thread inside can move, and each move brings it nearer
to the end. -/
def Leaves (p : Guarded γ θ ε) (Inv : γ → Prop) (Relies : γ → θ → Prop) (While : γ → Prop)
    (left : θ → Nat) : Prop :=
  ∀ {g t}, Inv g → Relies g t → While g → p.hold t ≠ .none →
    ∃ e after, p.move g t e = some after ∧ While after.1 ∧
    left after.2 < left t ∧ (p.hold after.2 = p.hold t ∨ p.hold after.2 = .none ∨
      (p.hold t = .pending ∧ p.hold after.2 = .write))

theorem sum_set_lt {items : List Nat} {n m : Nat} (there : items[i]? = some n) (less : m < n) :
    (items.set i m).sum < items.sum := by
  obtain ⟨short, same⟩ := List.getElem?_eq_some_iff.mp there
  rw [List.set_eq_take_append_cons_drop, if_pos short]
  conv_rhs => rw [← List.take_append_drop i items, ← List.getElem_cons_drop (h := short), same]
  simp only [List.sum_append, List.sum_cons]
  omega

/-- The threads inside can all leave; nobody else has to do anything for it. -/
theorem Safe.frees {While : γ → Prop} {left : θ → Nat} (safe : Safe p Inv Relies s)
    (proof : Proof p Inv Relies) (leaves : Leaves p Inv Relies While left)
    (holds : While s.shared) : ∃ events s',
      p.system.play (fun _ _ => true) events s = some s' ∧ While s'.shared ∧
        ∀ t ∈ s'.threads, p.hold t = .none := by
  induction bound : (s.threads.map (p.inside left)).sum using Nat.strongRecOn generalizing s with
  | ind n ih =>
    by_cases free : ∀ t ∈ s.threads, p.hold t = .none
    · exact ⟨[], s, rfl, holds, free⟩
    · obtain ⟨t, member, inside, late⟩ : ∃ t ∈ s.threads, p.hold t ≠ .none ∧
          (p.hold t = .pending → ∀ u ∈ s.threads, p.hold u ≠ .read) := by
        -- A writer waits for the readers, so they go first.
        by_cases reader : ∃ t ∈ s.threads, p.hold t = .read
        · obtain ⟨t, member, reads⟩ := reader
          exact ⟨t, member, by simp [reads], by simp [reads]⟩
        · obtain ⟨t, outside⟩ := not_forall.mp free
          obtain ⟨member, inside⟩ := Classical.not_imp.mp outside
          exact ⟨t, member, inside, fun _ u found reads => reader ⟨u, found, reads⟩⟩
      obtain ⟨i, there⟩ := List.mem_iff_getElem?.mp member
      obtain ⟨e, after, move, still, nearer, change⟩ :=
        leaves safe.inv (safe.relies t member) holds inside
      have admitted : Hold.admits (s.threads.map p.hold) (p.hold t) (p.hold after.2) = true := by
        rcases change with same | out | ⟨waits, enters⟩
        · rw [same]
          exact Hold.admits_self ..
        · rw [out]
          exact Hold.admits_none ..
        · rw [waits, enters, Hold.admits, List.all_eq_true]
          intro h found
          obtain ⟨u, member, rfl⟩ := List.mem_map.mp found
          exact decide_eq_true (late waits u member)
      have moves : p.Moves s i t e after := ⟨there, move, admitted⟩
      have less : ((s.threads.set i after.2).map (p.inside left)).sum < n := by
        rw [List.map_set, ← bound]
        refine sum_set_lt (n := p.inside left t) (by rw [List.getElem?_map, there]; rfl) ?_
        rw [Guarded.inside, Guarded.inside, if_neg inside]
        split_ifs
        · exact Nat.zero_lt_of_lt nearer
        · exact nearer
      obtain ⟨more, s', later, done, out⟩ := ih _ less (safe.moves proof moves) still rfl
      exact ⟨.run i e :: more, s', moves.play later, done, out⟩

end Guarded

end Gotun.Lib
