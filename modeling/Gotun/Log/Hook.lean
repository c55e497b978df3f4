import Gotun.Lib.Chan
import Gotun.Lib.Entries
import Gotun.Lib.Fair

/-! `log.go`: the hook that writes log entries asynchronously. Any number of goroutines call `Fire` and
`Close`, and one goroutine writes. -/

namespace Gotun.Log
open Gotun.Lib

inductive FireAt where
  | load
  | add
  | send
  | returned (err : Option String)
  | panicked
  deriving DecidableEq, Repr

inductive CloseAt where
  | store
  | close
  | wait
  | returned
  | panicked
  deriving DecidableEq, Repr

inductive Thread (α : Type) where
  | Fire (entry : α) (at_ : FireAt)
  | Close (at_ : CloseAt)
  deriving DecidableEq, Repr

/-- The goroutine that writes. A panic in it is recovered, and ends it. -/
inductive WriterAt (α : Type) where
  | range
  | WriteEntry (entry : α)
  | Done
  | ended
  | recovered (entry : α)
  deriving DecidableEq, Repr

/-- How a call of `WriteEntry` ends: with the errors of the formatter and of the file, or not at all. -/
inductive Outcome where
  | returns (formatErr writeErr : Option String)
  | panics
  deriving DecidableEq, Repr

/-- A call of `WriteEntry` that has returned. -/
structure Call (α : Type) where
  entry : α
  formatErr : Option String
  writeErr : Option String
  deriving DecidableEq, Repr

namespace Call
variable {α : Type}

/-- The error of the write takes the place of that of the formatter. -/
def err (c : Call α) : Option String := c.writeErr

/-- The entry is in the file. -/
def ok (c : Call α) : Bool := c.formatErr.isNone && c.writeErr.isNone

def report (c : Call α) : Option String := c.err.map fun err => "Failed to async log: " ++ err ++ "\n"

end Call

/-- `accepted` are the entries that were sent, in order, and `calls` what was done with them. -/
structure Hook (α : Type) where
  closed : Bool
  toWrite : Chan α
  wg : Nat
  writer : WriterAt α
  accepted : List α
  calls : List (Call α)
  stderr : List String
  threads : List (Thread α)
  deriving DecidableEq, Repr

inductive Event (α : Type) where
  | Fire (entry : α)
  | Close
  | thread (i : Nat)
  | writer (outcome : Outcome)
  deriving DecidableEq, Repr

namespace Hook
variable {α : Type}

def NewHook (bufSize : Nat) : Hook α := ⟨false, .make bufSize, 0, .range, [], [], [], []⟩

/-- What is in the file. -/
def written (h : Hook α) : List α := (h.calls.filter Call.ok).map Call.entry

def set (h : Hook α) (i : Nat) (t : Thread α) : Hook α := { h with threads := h.threads.set i t }

def fireStep (h : Hook α) (i : Nat) (entry : α) : FireAt → Option (Hook α)
  | .load => some (h.set i (.Fire entry (if h.closed then .returned (some "ErrCloesd") else .add)))
  | .add => some { h.set i (.Fire entry .send) with wg := h.wg + 1 }
  | .send => match h.toWrite.send entry with
    | .sent c =>
      some { h.set i (.Fire entry (.returned none)) with
        toWrite := c, accepted := h.accepted ++ [entry] }
    | .full => none
    | .panic => some (h.set i (.Fire entry .panicked))
  | .returned _ | .panicked => none

def closeStep (h : Hook α) (i : Nat) : CloseAt → Option (Hook α)
  | .store => some { h.set i (.Close .close) with closed := true }
  | .close => match h.toWrite.close with
    | some c => some { h.set i (.Close .wait) with toWrite := c }
    | none => some (h.set i (.Close .panicked))
  | .wait => if h.wg = 0 then some (h.set i (.Close .returned)) else none
  | .returned | .panicked => none

/-- An error goes to the standard error output, and the loop goes on. -/
def writerStep (h : Hook α) (outcome : Outcome) : Option (Hook α) :=
  match h.writer with
  | .range => match h.toWrite.receive with
    | .got entry c => some { h with toWrite := c, writer := .WriteEntry entry }
    | .closed => some { h with writer := .ended }
    | .empty => none
  | .WriteEntry entry => match outcome with
    | .returns formatErr writeErr =>
      let call : Call α := ⟨entry, formatErr, writeErr⟩
      some { h with
        writer := .Done, calls := h.calls ++ [call], stderr := h.stderr ++ call.report.toList }
    | .panics => some { h with writer := .recovered entry }
  | .Done => some { h with wg := h.wg - 1, writer := .range }
  | .ended | .recovered _ => none

def step (h : Hook α) : Event α → Option (Hook α)
  | .Fire entry => some { h with threads := h.threads ++ [.Fire entry .load] }
  | .Close => some { h with threads := h.threads ++ [.Close .store] }
  | .thread i => match h.threads[i]? with
    | some (.Fire entry at_) => h.fireStep i entry at_
    | some (.Close at_) => h.closeStep i at_
    | none => none
  | .writer outcome => h.writerStep outcome

def system (α : Type) (bufSize : Nat) : System (Hook α) (Event α) where
  start h := h = NewHook bufSize
  step := step

/-- What a step can do. -/
inductive Steps (h : Hook α) : Event α → Hook α → Prop
  | begins (t : Thread α) (e : Event α) (first :
      (∃ entry, t = .Fire entry .load ∧ e = .Fire entry) ∨ t = .Close .store ∧ e = .Close) :
      Steps h e { h with threads := h.threads ++ [t] }
  | refused {i : Nat} {entry : α} (there : h.threads[i]? = some (.Fire entry .load))
      (closed : h.closed = true) :
      Steps h (.thread i) (h.set i (.Fire entry (.returned (some "ErrCloesd"))))
  | passed {i : Nat} {entry : α} (there : h.threads[i]? = some (.Fire entry .load))
      (still : h.closed = false) :
      Steps h (.thread i) (h.set i (.Fire entry .add))
  | added {i : Nat} {entry : α} (there : h.threads[i]? = some (.Fire entry .add)) :
      Steps h (.thread i) { h.set i (.Fire entry .send) with wg := h.wg + 1 }
  | sent {i : Nat} {entry : α} {c : Chan α} (there : h.threads[i]? = some (.Fire entry .send))
      (sent : h.toWrite.send entry = .sent c) :
      Steps h (.thread i) { h.set i (.Fire entry (.returned none)) with
        toWrite := c, accepted := h.accepted ++ [entry] }
  | panicked {i : Nat} {entry : α} (there : h.threads[i]? = some (.Fire entry .send))
      (shut : h.toWrite.closed = true) :
      Steps h (.thread i) (h.set i (.Fire entry .panicked))
  | stored {i : Nat} (there : h.threads[i]? = some (.Close .store)) :
      Steps h (.thread i) { h.set i (.Close .close) with closed := true }
  | shut {i : Nat} (there : h.threads[i]? = some (.Close .close)) (still : h.toWrite.closed = false) :
      Steps h (.thread i) { h.set i (.Close .wait) with toWrite := { h.toWrite with closed := true } }
  | twice {i : Nat} (there : h.threads[i]? = some (.Close .close)) (shut : h.toWrite.closed = true) :
      Steps h (.thread i) (h.set i (.Close .panicked))
  | waited {i : Nat} (there : h.threads[i]? = some (.Close .wait)) (zero : h.wg = 0) :
      Steps h (.thread i) (h.set i (.Close .returned))
  | took {outcome : Outcome} {entry : α} {c : Chan α} (at_ : h.writer = .range)
      (got : h.toWrite.receive = .got entry c) :
      Steps h (.writer outcome) { h with toWrite := c, writer := .WriteEntry entry }
  | ended {outcome : Outcome} (at_ : h.writer = .range) (closed : h.toWrite.receive = .closed) :
      Steps h (.writer outcome) { h with writer := .ended }
  | wrote {call : Call α} (at_ : h.writer = .WriteEntry call.entry) :
      Steps h (.writer (.returns call.formatErr call.writeErr))
      { h with writer := .Done, calls := h.calls ++ [call], stderr := h.stderr ++ call.report.toList }
  | recovered {entry : α} (at_ : h.writer = .WriteEntry entry) :
      Steps h (.writer .panics) { h with writer := .recovered entry }
  | done {outcome : Outcome} (at_ : h.writer = .Done) :
      Steps h (.writer outcome) { h with wg := h.wg - 1, writer := .range }

variable {h h' : Hook α} {e : Event α}

theorem fireStep_steps {i : Nat} {entry : α} {at_ : FireAt}
    (there : h.threads[i]? = some (.Fire entry at_))
    (next : h.fireStep i entry at_ = some h') : Steps h (.thread i) h' := by
  cases at_ with
  | load =>
    cases next
    cases closed : h.closed with
    | true => exact .refused there closed
    | false => exact .passed there closed
  | add =>
    cases next
    exact .added there
  | send =>
    rw [fireStep] at next
    split at next
    · rename_i sent
      cases next
      exact .sent there sent
    · contradiction
    · rename_i panic
      cases next
      refine .panicked there ?_
      by_contra still
      exact Chan.send_open (Bool.eq_false_iff.mpr still) panic
  | returned _ => contradiction
  | panicked => contradiction

theorem closeStep_steps {i : Nat} {at_ : CloseAt} (there : h.threads[i]? = some (.Close at_))
    (next : h.closeStep i at_ = some h') : Steps h (.thread i) h' := by
  cases at_ with
  | store =>
    cases next
    exact .stored there
  | close =>
    rw [closeStep, Chan.close] at next
    cases shut : h.toWrite.closed with
    | true =>
      simp only [shut, if_true, Option.some.injEq] at next
      exact next ▸ .twice there shut
    | false =>
      simp only [shut, Bool.false_eq_true, if_false, Option.some.injEq] at next
      exact next ▸ .shut there shut
  | wait =>
    rw [closeStep] at next
    split_ifs at next with zero
    cases next
    exact .waited there zero
  | returned => contradiction
  | panicked => contradiction

theorem step_steps (next : h.step e = some h') : Steps h e h' := by
  cases e with
  | Fire entry =>
    cases next
    exact .begins _ _ (Or.inl ⟨entry, rfl, rfl⟩)
  | Close =>
    cases next
    exact .begins _ _ (Or.inr ⟨rfl, rfl⟩)
  | thread i =>
    rw [step] at next
    split at next
    · rename_i there
      exact fireStep_steps there next
    · rename_i there
      exact closeStep_steps there next
    · contradiction
  | writer outcome =>
    rw [step, writerStep] at next
    split at next
    · rename_i at_
      split at next
      · rename_i got
        cases next
        exact .took at_ got
      · rename_i closed
        cases next
        exact .ended at_ closed
      · contradiction
    · rename_i entry at_
      cases outcome with
      | returns formatErr writeErr =>
        cases next
        have wrote : h.writer = .WriteEntry (Call.entry ⟨entry, formatErr, writeErr⟩) := at_
        exact .wrote wrote
      | panics =>
        cases next
        exact .recovered at_
    · rename_i at_
      cases next
      exact .done at_
    · contradiction
    · contradiction

/-- The entry that the writer has taken and not dealt with. -/
def held : WriterAt α → List α
  | .WriteEntry entry | .recovered entry => [entry]
  | .range | .Done | .ended => []

/-- Whether the writer has yet to count an entry as done. -/
def owes : WriterAt α → Nat
  | .WriteEntry _ | .recovered _ | .Done => 1
  | .range | .ended => 0

/-- A `Fire` that has been counted, and whose entry is not in the channel. -/
def pending : Thread α → Bool
  | .Fire _ .send | .Fire _ .panicked => true
  | _ => false

/-- The entry of a `Fire` that returned no error. -/
def fired : Thread α → Option α
  | .Fire entry (.returned none) => some entry
  | _ => none

/-- A `Close` that has closed the channel. -/
def shutBy : Thread α → Bool
  | .Close .wait | .Close .returned => true
  | _ => false

/-- A `Close` that has set the flag. -/
def flaggedBy : Thread α → Bool
  | .Close .close | .Close .wait | .Close .returned | .Close .panicked => true
  | _ => false

def isReturned : Thread α → Bool
  | .Close .returned => true
  | _ => false

/-- The log is flushed: nothing can be sent, and nothing is left to write. -/
def Flushed (h : Hook α) : Prop :=
  h.toWrite.closed = true ∧ h.toWrite.buf = [] ∧ (h.writer = .range ∨ h.writer = .ended)

structure Sound (h : Hook α) : Prop where
  queue : h.calls.map Call.entry ++ held h.writer ++ h.toWrite.buf = h.accepted
  count : h.wg = h.threads.countP pending + owes h.writer + h.toWrite.buf.length
  fired : h.accepted.Perm (h.threads.filterMap fired)
  flagged : ∀ t ∈ h.threads, flaggedBy t = true → h.closed = true
  shut : ∀ t ∈ h.threads, shutBy t = true → h.toWrite.closed = true
  closed : h.toWrite.closed = true → h.closed = true
  returned : ∀ t ∈ h.threads, isReturned t = true → Flushed h

variable {i : Nat} {t t' : Thread α}

/-- What holds of all threads that are of some kind still does after one of them has moved on. -/
theorem forall_set {threads : List (Thread α)} {kind : Thread α → Bool} {P : Prop}
    (all : ∀ u ∈ threads, kind u = true → P) (new : kind t' = true → P) :
    ∀ u ∈ threads.set i t', kind u = true → P := by
  intro u member is
  rcases List.mem_or_eq_of_mem_set member with before | rfl
  · exact all u before is
  · exact new is

theorem fired_same (there : h.threads[i]? = some t) (t' : Thread α) (same : fired t' = fired t) :
    (h.threads.set i t').filterMap fired = h.threads.filterMap fired := filterMap_set_same there same

/-- A thread moves on, and the rest stays as it is. -/
theorem Sound.move (sound : Sound h) (there : h.threads[i]? = some t)
    (pending : pending t' = pending t) (fired : Hook.fired t' = Hook.fired t)
    (flagged : flaggedBy t' = true → h.closed = true)
    (shut : shutBy t' = true → h.toWrite.closed = true)
    (returned : isReturned t' = true → Flushed h) : Sound (h.set i t') where
  queue := sound.queue
  count := by
    change h.wg = (h.threads.set i t').countP Hook.pending + owes h.writer + h.toWrite.buf.length
    rw [countP_set_same there pending]
    exact sound.count
  fired := sound.fired.trans (.of_eq (fired_same there t' fired).symm)
  flagged := forall_set sound.flagged flagged
  shut := forall_set sound.shut shut
  closed := sound.closed
  returned := forall_set sound.returned returned

/-- Nothing is sent once a `Close` has returned. -/
theorem Sound.unreturned (sound : Sound h) (still : h.toWrite.closed = false) :
    ∀ t ∈ h.threads, isReturned t = true → False :=
  fun t member is => absurd ((sound.returned t member is).1.symm.trans still) nofun

theorem Sound.send (sound : Sound h) {entry : α} {c : Chan α}
    (there : h.threads[i]? = some (.Fire entry .send)) (sent : h.toWrite.send entry = .sent c) :
    Sound { h.set i (.Fire entry (.returned none)) with
      toWrite := c, accepted := h.accepted ++ [entry] } := by
  have still : h.toWrite.closed = false := by
    rw [Chan.send] at sent
    split_ifs at sent with shut
    exact Bool.eq_false_iff.mpr shut
  have same := Chan.send_eq sent
  subst same
  have unreturned := sound.unreturned still
  have moved := countP_set_add (p := pending) (b := .Fire entry (.returned none)) there
  refine ⟨?_, ?_, ?_, forall_set sound.flagged (absurd · Bool.false_ne_true),
    forall_set sound.shut (absurd · Bool.false_ne_true), sound.closed, ?_⟩
  · dsimp only [set]
    rw [← List.append_assoc, sound.queue]
  · dsimp only [set]
    rw [sound.count, List.length_append, List.length_singleton]
    simp only [pending, if_true, Bool.false_eq_true, if_false] at moved
    omega
  · have moved : ((h.threads.set i (.Fire entry (.returned none))).filterMap Hook.fired).Perm
        (h.threads.filterMap Hook.fired ++ [entry]) := filterMap_set_add there rfl rfl
    exact (sound.fired.append_right _).trans moved.symm
  · intro u member is
    rcases List.mem_or_eq_of_mem_set member with before | rfl
    · exact (unreturned u before is).elim
    · exact absurd is Bool.false_ne_true

/-- While the writer deals with an entry no `Close` has returned. -/
theorem Sound.none_returned (sound : Sound h) (busy : owes h.writer = 1) :
    ∀ t ∈ h.threads, isReturned t = true → False := by
  intro t member is
  rcases (sound.returned t member is).2.2 with range | ended
  · rw [range] at busy
    exact absurd busy nofun
  · rw [ended] at busy
    exact absurd busy nofun

/-- A call that begins has done nothing yet. -/
theorem Sound.begin (sound : Sound h) (idle : pending t = false) (unfired : Hook.fired t = none)
    (unflagged : flaggedBy t = false) (unshut : shutBy t = false) (unreturned : isReturned t = false) :
    Sound { h with threads := h.threads ++ [t] } := by
  have all {kind : Thread α → Bool} {P : Prop} (before : ∀ u ∈ h.threads, kind u = true → P)
      (not : kind t = false) :
      ∀ u ∈ h.threads ++ [t], kind u = true → P := by
    intro u member is
    rcases List.mem_append.mp member with member | here
    · exact before u member is
    · rw [List.mem_singleton.mp here, not] at is
      exact absurd is nofun
  refine ⟨sound.queue, ?_, ?_, all sound.flagged unflagged, all sound.shut unshut, sound.closed,
    all sound.returned unreturned⟩
  · dsimp only
    rw [List.countP_append, List.countP_singleton, idle]
    exact sound.count
  · dsimp only
    rw [List.filterMap_append, List.filterMap_cons_none unfired, List.filterMap_nil, List.append_nil]
    exact sound.fired

theorem Sound.step (sound : Sound h) (steps : Steps h e h') : Sound h' := by
  cases steps with
  | begins t e first =>
    rcases first with ⟨entry, rfl, _⟩ | ⟨rfl, _⟩
    · exact sound.begin rfl rfl rfl rfl rfl
    · exact sound.begin rfl rfl rfl rfl rfl
  | refused there closed => exact sound.move there rfl rfl nofun nofun nofun
  | passed there still => exact sound.move there rfl rfl nofun nofun nofun
  | added there =>
    rename_i i entry
    have moved := countP_set_add (p := pending) (b := .Fire entry .send) there
    simp only [pending, if_true, Bool.false_eq_true, if_false] at moved
    refine ⟨sound.queue, ?_, ?_, forall_set sound.flagged nofun, forall_set sound.shut nofun,
      sound.closed, forall_set sound.returned nofun⟩
    · dsimp only [set]
      rw [sound.count]
      omega
    · exact sound.fired.trans (.of_eq (fired_same there (.Fire entry .send) rfl).symm)
  | sent there sent => exact sound.send there sent
  | panicked there shut => exact sound.move there rfl rfl nofun nofun nofun
  | stored there =>
    have moved := countP_set_same (p := pending) (b := .Close .close) there rfl
    refine ⟨sound.queue, ?_, ?_, fun _ _ _ => rfl, forall_set sound.shut nofun, fun _ => rfl,
      forall_set sound.returned nofun⟩
    · dsimp only [set]
      rw [moved]
      exact sound.count
    · exact sound.fired.trans (.of_eq (fired_same there (.Close .close) rfl).symm)
  | shut there still =>
    have moved := countP_set_same (p := pending) (b := .Close .wait) there rfl
    have flag := sound.flagged _ (List.mem_of_getElem? there) rfl
    refine ⟨sound.queue, ?_, ?_, fun _ _ _ => flag, fun _ _ _ => rfl, fun _ => flag, ?_⟩
    · dsimp only [set]
      rw [moved]
      exact sound.count
    · exact sound.fired.trans (.of_eq (fired_same there (.Close .wait) rfl).symm)
    · exact forall_set (fun u member is => (sound.unreturned still u member is).elim) nofun
  | twice there shut => exact sound.move there rfl rfl (fun _ => sound.closed shut) nofun nofun
  | waited there zero =>
    have shut := sound.shut _ (List.mem_of_getElem? there) rfl
    refine sound.move there rfl rfl (fun _ => sound.closed shut) (fun _ => shut) fun _ => ?_
    have count := sound.count
    rw [zero] at count
    refine ⟨shut, List.length_eq_zero_iff.mp (by omega), ?_⟩
    have nothing : owes h.writer = 0 := by omega
    cases at_ : h.writer with
    | range => exact Or.inl rfl
    | ended => exact Or.inr rfl
    | WriteEntry entry | Done | recovered entry =>
      rw [at_] at nothing
      exact absurd nothing nofun
  | took at_ got =>
    obtain ⟨buf, closed, _⟩ := Chan.receive_eq got
    have queue := sound.queue
    have count := sound.count
    rw [at_, buf] at queue count
    refine ⟨?_, ?_, sound.fired, sound.flagged, fun u member is => closed ▸ sound.shut u member is,
      fun shut => sound.closed (closed ▸ shut), fun u member is => ?_⟩
    · dsimp only [held] at queue ⊢
      rw [List.append_nil] at queue
      rw [List.append_assoc, List.singleton_append]
      exact queue
    · dsimp only [owes, List.length_cons] at count ⊢
      omega
    · exact absurd ((sound.returned u member is).2.1.symm.trans buf) nofun
  | ended at_ closed =>
    have queue := sound.queue
    have count := sound.count
    rw [at_] at queue count
    exact ⟨queue, count, sound.fired, sound.flagged, sound.shut, sound.closed,
      fun u member is => ⟨(sound.returned u member is).1, (sound.returned u member is).2.1, Or.inr rfl⟩⟩
  | wrote at_ =>
    have queue := sound.queue
    have count := sound.count
    rw [at_] at queue count
    refine ⟨?_, count, sound.fired, sound.flagged, sound.shut, sound.closed,
      fun u member is => (sound.none_returned (congrArg owes at_) u member is).elim⟩
    dsimp only [held] at queue ⊢
    rwa [List.map_append, List.map_singleton, List.append_nil]
  | recovered at_ =>
    have queue := sound.queue
    have count := sound.count
    rw [at_] at queue count
    exact ⟨queue, count, sound.fired, sound.flagged, sound.shut, sound.closed,
      fun u member is => (sound.none_returned (congrArg owes at_) u member is).elim⟩
  | done at_ =>
    have queue := sound.queue
    have count := sound.count
    rw [at_] at queue count
    refine ⟨queue, ?_, sound.fired, sound.flagged, sound.shut, sound.closed,
      fun u member is => (sound.none_returned (congrArg owes at_) u member is).elim⟩
    dsimp only [owes] at count ⊢
    omega

theorem sound_start (bufSize : Nat) : Sound (NewHook bufSize : Hook α) := by
  have none_ {kind : Thread α → Bool} {P : Prop} : ∀ t ∈ ([] : List (Thread α)), kind t = true → P :=
    fun _ member => absurd member List.not_mem_nil
  exact ⟨rfl, rfl, .refl _, none_, none_, nofun, none_⟩

theorem sound_reachable {bufSize : Nat} (reachable : (system α bufSize).Reachable h) : Sound h := by
  refine reachable.invariant Sound ?_ fun _ _ _ sound next => sound.step (step_steps next)
  rintro _ rfl
  exact sound_start bufSize

/-- The standard error output has the errors of the calls of `WriteEntry`. -/
def Reported (h : Hook α) : Prop := h.stderr = h.calls.filterMap Call.report

theorem Reported.step (reported : Reported h) (steps : Steps h e h') : Reported h' := by
  cases steps with
  | wrote at_ =>
    rename_i call
    dsimp only [Reported]
    rw [reported, List.filterMap_append]
    cases failed : call.report with
    | none => simp [failed]
    | some line => simp [failed]
  | _ => exact reported

/-- A `Fire`, and then a `Close`, up to the end of the writer. -/
def closing : List (Event Nat) :=
  let writes : Event Nat := .writer (.returns none none)
  [.Fire 7, .thread 0, .thread 0, .thread 0, .Close, .thread 1, .thread 1, writes, writes, writes,
    .thread 1, writes]

theorem closing_played :
    ∃ h, (system Nat 2).play (fun _ _ => true) closing (NewHook 2) = some h ∧
      .Close .returned ∈ h.threads ∧
    h.accepted = [7] ∧ h.writer = .ended ∧ h.threads[1]? = some (.Close .returned) := by
  have played : ((system Nat 2).play (fun _ _ => true) closing (NewHook 2)).any
    (fun h => decide (.Close .returned ∈ h.threads ∧
      h.accepted = [7] ∧ h.writer = .ended ∧ h.threads[1]? = some (.Close .returned))) = true := by
    decide
  obtain ⟨h, reached, sees⟩ := (Option.any_eq_true _ _).mp played
  exact ⟨h, reached, of_decide_eq_true sees⟩

/-- Two calls of `Fire` and a `Close`; the file takes the second entry only. -/
def failing : List (Event Nat) :=
  let fails : Event Nat := .writer (.returns none (some "disk full"))
  let writes : Event Nat := .writer (.returns none none)
  [.Fire 7, .Fire 8, .thread 0, .thread 1, .thread 0, .thread 1, .thread 0, .thread 1, .Close,
    .thread 2, .thread 2, fails, fails, fails,
    writes, writes, writes, .thread 2]

end Hook

end Gotun.Log
