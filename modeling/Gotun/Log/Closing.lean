import Gotun.Log.Hook

/-! What `Close` of the log hook needs of its callers, and what becomes of it without. -/

namespace Gotun.Log.Hook
open Gotun.Lib
variable {α : Type} {h h' : Hook α} {e : Event α} {i : Nat} {t t' : Thread α} {bufSize : Nat}

/-- A `Fire` that has passed its check and not sent. -/
def inFlight : Thread α → Bool
  | .Fire _ .add | .Fire _ .send => true
  | _ => false

def isClose : Thread α → Bool
  | .Close _ => true
  | .Fire _ _ => false

def hasPanicked : Thread α → Bool
  | .Fire _ .panicked | .Close .panicked => true
  | _ => false

/-- A `Close` that has yet to close the channel. -/
def closesLater : Thread α → Bool
  | .Close .store | .Close .close => true
  | _ => false

/-- `Close` is called once, and closes the channel when no `Fire` is between its check and its send. -/
def alone (h : Hook α) : Event α → Bool
  | .thread i => match h.threads[i]? with
    | some (.Close .close) => h.threads.all fun t => !inFlight t
    | _ => true
  | .Close => h.threads.all fun t => !isClose t
  | .Fire _ | .writer _ => true

structure Calm (h : Hook α) : Prop where
  once : h.threads.countP isClose ≤ 1
  flagged : h.toWrite.closed = true → h.closed = true
  closer : h.toWrite.closed = true → ∃ t ∈ h.threads, isClose t = true
  quiet : h.toWrite.closed = true → ∀ t ∈ h.threads, inFlight t = false ∧ closesLater t = false
  flag : ∀ t ∈ h.threads, t = .Close .close → h.closed = true
  calm : ∀ t ∈ h.threads, hasPanicked t = false

/-- What is not looked at may change. -/
theorem Calm.congr (calm : Calm h) (threads : h'.threads = h.threads) (closed : h'.closed = h.closed)
    (shut : h'.toWrite.closed = h.toWrite.closed) : Calm h' := by
  obtain ⟨once, flagged, closer, quiet, flag, fine⟩ := calm
  refine ⟨?_, ?_, ?_, ?_, ?_, ?_⟩ <;> simp only [threads, closed, shut] <;> assumption

theorem exists_mem_set {threads : List (Thread α)} {kind : Thread α → Bool}
    (there : threads[i]? = some t) (same : kind t' = kind t)
    (some_ : ∃ u ∈ threads, kind u = true) : ∃ u ∈ threads.set i t', kind u = true := by
  have counted : 0 < (threads.set i t').countP kind := by
    rw [countP_set_same there same]
    exact List.countP_pos_iff.mpr some_
  exact List.countP_pos_iff.mp counted

/-- A thread moves on to a point at which it has not panicked. -/
theorem Calm.move (calm : Calm h) (there : h.threads[i]? = some t) (same : isClose t' = isClose t)
    (quiet : h.toWrite.closed = true → inFlight t' = false ∧ closesLater t' = false)
    (flag : t' = .Close .close → h.closed = true)
    (fine : hasPanicked t' = false) : Calm (h.set i t') where
  once := by
    change (h.threads.set i t').countP isClose ≤ 1
    rw [countP_set_same there same]
    exact calm.once
  flagged := calm.flagged
  closer shut := exists_mem_set there same (calm.closer shut)
  quiet shut := forall_mem_set (calm.quiet shut) (quiet shut)
  flag := forall_mem_set calm.flag flag
  calm := forall_mem_set calm.calm fine

/-- The one `Close` closes the channel. -/
theorem Calm.shut (calm : Calm h) (there : h.threads[i]? = some (.Close .close))
    (idle : ∀ u ∈ h.threads, inFlight u = false) :
    Calm { h.set i (.Close .wait) with toWrite := { h.toWrite with closed := true } } := by
  have flag := calm.flag _ (List.mem_of_getElem? there) rfl
  have close := List.mem_of_getElem? there
  obtain ⟨below, _⟩ := List.getElem?_eq_some_iff.mp there
  have perm := List.set_perm_cons_eraseIdx below (Thread.Close CloseAt.wait)
  have alone : (h.threads.set i (Thread.Close CloseAt.wait)).countP isClose ≤ 1 := by
    have same : (h.threads.set i (.Close .wait)).countP isClose = h.threads.countP isClose :=
      countP_set_same there rfl
    rw [same]
    exact calm.once
  refine ⟨alone, fun _ => flag, fun _ => exists_mem_set there rfl ⟨_, close, rfl⟩,
    fun _ u member => ⟨?_, ?_⟩, forall_mem_set calm.flag nofun, forall_mem_set calm.calm rfl⟩
  · exact forall_mem_set idle rfl u member
  · by_contra later
    have is : isClose u = true := by
      cases u with
      | Fire entry at_ => exact absurd rfl later
      | Close at_ => rfl
    rcases List.mem_cons.mp (perm.mem_iff.mp member) with rfl | rest
    · exact later rfl
    · rw [perm.countP_eq, List.countP_cons_of_pos rfl] at alone
      have some_ : 0 < (h.threads.eraseIdx i).countP isClose := List.countP_pos_iff.mpr ⟨u, rest, is⟩
      omega

theorem Calm.step (calm : Calm h) (ok : alone h e = true) (steps : Steps h e h') : Calm h' := by
  cases steps with
  | begins t e first =>
    have all {P : Thread α → Prop} (before : ∀ u ∈ h.threads, P u) (new : P t) :
        ∀ u ∈ h.threads ++ [t], P u := by
      intro u member
      rcases List.mem_append.mp member with member | here
      · exact before u member
      · exact List.mem_singleton.mp here ▸ new
    have closer (shut : h.toWrite.closed = true) : ∃ u ∈ h.threads ++ [t], isClose u = true := by
      obtain ⟨u, member, is⟩ := calm.closer shut
      exact ⟨u, List.mem_append_left _ member, is⟩
    rcases first with ⟨entry, rfl, rfl⟩ | ⟨rfl, rfl⟩
    · refine ⟨?_, calm.flagged, closer, fun shut => all (calm.quiet shut) ⟨rfl, rfl⟩,
        all calm.flag nofun, all calm.calm rfl⟩
      dsimp only
      rw [List.countP_append]
      exact calm.once
    · have nobody : ∀ u ∈ h.threads, ¬ isClose u = true := fun u member is => by
        have not := List.all_eq_true.mp ok u member
        rw [is] at not
        exact absurd not nofun
      refine ⟨?_, calm.flagged, closer, fun shut => ?_, all calm.flag nofun, all calm.calm rfl⟩
      · dsimp only
        rw [List.countP_append, List.countP_eq_zero.mpr nobody]
        exact Nat.le_refl 1
      · obtain ⟨u, member, is⟩ := calm.closer shut
        exact absurd is (nobody u member)
  | refused there closed => exact calm.move there rfl (fun _ => ⟨rfl, rfl⟩) nofun rfl
  | passed there still =>
    exact calm.move there rfl
      (fun shut => absurd (still.symm.trans (calm.flagged shut)) nofun) nofun rfl
  | added there =>
    rename_i i entry
    have moved : Calm (h.set i (.Fire entry .send)) :=
      calm.move there rfl
        (fun shut => absurd (calm.quiet shut _ (List.mem_of_getElem? there)).1 nofun) nofun rfl
    exact moved.congr rfl rfl rfl
  | sent there sent =>
    rename_i i entry c
    have moved : Calm (h.set i (.Fire entry (.returned none))) :=
      calm.move there rfl (fun _ => ⟨rfl, rfl⟩) nofun rfl
    exact moved.congr rfl rfl (Chan.send_closed sent)
  | panicked there shut => exact absurd (calm.quiet shut _ (List.mem_of_getElem? there)).1 nofun
  | stored there =>
    have open_ (shut : h.toWrite.closed = true) : False :=
      absurd (calm.quiet shut _ (List.mem_of_getElem? there)).2 nofun
    refine ⟨?_, fun _ => rfl, fun shut => (open_ shut).elim, fun shut => (open_ shut).elim,
      fun _ _ _ => rfl, forall_mem_set calm.calm rfl⟩
    have same := countP_set_same (p := isClose) (b := .Close .close) there rfl
    dsimp only [set]
    rw [same]
    exact calm.once
  | shut there still =>
    refine calm.shut there fun u member => ?_
    simp only [alone, there] at ok
    exact (Bool.not_eq_true' _).mp (List.all_eq_true.mp ok u member)
  | twice there shut => exact absurd (calm.quiet shut _ (List.mem_of_getElem? there)).2 nofun
  | waited there zero => exact calm.move there rfl (fun _ => ⟨rfl, rfl⟩) nofun rfl
  | took at_ got => exact calm.congr rfl rfl (Chan.receive_closed got)
  | ended at_ closed => exact calm.congr rfl rfl rfl
  | wrote at_ => exact calm.congr rfl rfl rfl
  | recovered at_ => exact calm.congr rfl rfl rfl
  | done at_ => exact calm.congr rfl rfl rfl

/-- The writer panics only where the write of an entry does. -/
theorem writer_panics {allowed : Hook α → Event α → Prop} {events : List (Event α)}
    (run : (system α bufSize).Run allowed events h) {entry : α}
    (recovered : h.writer = .recovered entry) : .writer .panics ∈ events := by
  induction run with
  | start begins =>
    rw [begins] at recovered
    exact absurd recovered nofun
  | step before ok next ih =>
    cases step_steps next with
    | recovered at_ => exact List.mem_append_right _ (List.mem_singleton_self _)
    | took _ _ | ended _ _ | wrote _ | done _ => exact absurd recovered nofun
    | _ => exact List.mem_append_left _ (ih recovered)

/-- Where one `Close` waits for the calls of `Fire` that are under way, no call panics; nor does the
goroutine that writes, if no write panics. -/
theorem alone_calm {events : List (Event α)}
    (run : (system α bufSize).Run (fun h e => alone h e = true) events h) :
    (∀ t ∈ h.threads, hasPanicked t = false) ∧
      (.writer .panics ∉ events → ∀ entry, h.writer ≠ .recovered entry) := by
  have calm : Calm h := by
    refine run.invariant Calm ?_ fun h e h' calm ok next => calm.step ok (step_steps next)
    rintro _ rfl
    have nobody {P : Thread α → Prop} : ∀ t ∈ ([] : List (Thread α)), P t :=
      fun _ member => absurd member List.not_mem_nil
    exact ⟨Nat.zero_le 1, nofun, nofun, nofun, nobody, nobody⟩
  exact ⟨calm.calm, fun writes _ recovered => writes (writer_panics run recovered)⟩

theorem alone_calm_closing :
    ∃ h : Hook Nat, .Close .returned ∈ h.threads ∧ (∀ t ∈ h.threads, hasPanicked t = false) ∧
    ∀ entry, h.writer ≠ .recovered entry := by
  have played : ((system Nat 2).play alone closing (NewHook 2)).any
    (fun h => decide (.Close .returned ∈ h.threads)) = true := by
    decide
  obtain ⟨h, run, returned⟩ := (System.Run.of_play rfl played : ∃ h, (system Nat 2).Run _ closing h ∧ _)
  obtain ⟨calm, writer⟩ := alone_calm run
  exact ⟨h, of_decide_eq_true returned, calm, writer (by decide)⟩

theorem shut_stays (shut : h.toWrite.closed = true)
    (steps : Steps h e h') : h'.toWrite.closed = true := by
  cases steps with
  | sent there sent => exact (Chan.send_closed sent).trans shut
  | took at_ got => exact (Chan.receive_closed got).trans shut
  | shut there still => rfl
  | _ => exact shut

/-- What a step does to a thread: it may be a new one, or the one that moves. -/
theorem Steps.thread (steps : Steps h e h') (there : h.threads[i]? = some t) :
    h'.threads[i]? = some t ∨ e = .thread i := by
  have moved (j : Nat) (t' : Thread α) : (h.threads.set j t')[i]? = some t ∨
      Event.thread j = .thread (α := α) i := by
    by_cases here : j = i
    · exact Or.inr (here ▸ rfl)
    · exact Or.inl ((List.getElem?_set_ne here).trans there)
  cases steps with
  | begins u e first =>
    refine Or.inl ?_
    dsimp only
    rw [List.getElem?_append_left (List.getElem?_eq_some_iff.mp there).1]
    exact there
  | refused _ _ => exact moved _ _
  | passed _ _ => exact moved _ _
  | added _ => exact moved _ _
  | sent _ _ => exact moved _ _
  | panicked _ _ => exact moved _ _
  | stored _ => exact moved _ _
  | shut _ _ => exact moved _ _
  | twice _ _ => exact moved _ _
  | waited _ _ => exact moved _ _
  | _ => exact Or.inl there

/-- What a waiting `Close` finds once it returns. -/
theorem Steps.waited_returned (steps : Steps h (.thread i) h')
    (there : h.threads[i]? = some (.Close .wait)) :
    h.wg = 0 ∧ h'.threads[i]? = some (.Close .returned) := by
  cases steps with
  | begins t e first => rcases first with ⟨_, _, other⟩ | ⟨_, other⟩ <;> cases other
  | waited _ zero => exact ⟨zero, List.getElem?_set_self (List.getElem?_eq_some_iff.mp there).1⟩
  | _ there' => cases Option.some.inj (there.symm.trans there')

/-- On a closed channel a counted `Fire` only panics. -/
theorem Steps.pending_stays (steps : Steps h (.thread i) h') (shut : h.toWrite.closed = true)
    (there : h.threads[i]? = some t) (late : pending t = true) :
    ∃ t', h'.threads[i]? = some t' ∧ pending t' = true := by
  have below := (List.getElem?_eq_some_iff.mp there).1
  cases steps with
  | begins t e first => rcases first with ⟨_, _, other⟩ | ⟨_, other⟩ <;> cases other
  | added there' => exact ⟨_, List.getElem?_set_self below, rfl⟩
  | sent there' sent => exact absurd (Chan.send_shut shut) (sent.trans_ne nofun)
  | panicked there' _ => exact ⟨_, List.getElem?_set_self below, rfl⟩
  | _ there' =>
    rw [← Option.some.inj (there'.symm.trans there)] at late
    exact absurd late nofun

/-- Thread `i` is a counted `Fire` that finds the channel closed. -/
structure Stuck (i : Nat) (h : Hook α) : Prop where
  sound : Sound h
  shut : h.toWrite.closed = true
  late : ∃ t, h.threads[i]? = some t ∧ pending t = true

theorem Stuck.step (stuck : Stuck i h) (steps : Steps h e h') : Stuck i h' := by
  obtain ⟨sound, shut, t, there, late⟩ := stuck
  refine ⟨sound.step steps, shut_stays shut steps, ?_⟩
  rcases steps.thread there with same | rfl
  · exact ⟨t, same, late⟩
  · exact steps.pending_stays shut there late

/-- The count that a `Close` waits for includes the late call. -/
theorem Stuck.waits (stuck : Stuck i h) (steps : Steps h e h') {j : Nat}
    (waiting : h.threads[j]? = some (.Close .wait)) :
    h'.threads[j]? = some (.Close .wait) := by
  rcases steps.thread waiting with same | rfl
  · exact same
  · obtain ⟨t, there, late⟩ := stuck.late
    have counted : 0 < h.threads.countP pending :=
      List.countP_pos_iff.mpr ⟨t, List.mem_of_getElem? there, late⟩
    have zero := (steps.waited_returned waiting).1
    have count := stuck.sound.count
    omega

/-- Once a `Close` has closed the channel on a `Fire` that was counted, the `Fire` never returns, and no
`Close` that waits ever does. -/
theorem overlap_hangs {events : List (Event α)} (reachable : (system α bufSize).Reachable h)
    (shut : h.toWrite.closed = true) (there : h.threads[i]? = some t) (late : pending t = true)
    (played : (system α bufSize).play (fun _ _ => true) events h = some h') :
    (∃ t', h'.threads[i]? = some t' ∧ pending t' = true) ∧
      ∀ j : Nat, h.threads[j]? = some (.Close .wait) → h'.threads[j]? = some (.Close .wait) := by
  have stuck : Stuck i h := ⟨sound_reachable reachable, shut, t, there, late⟩
  have kept : Stuck i h' ∧ ∀ j : Nat, h.threads[j]? = some (.Close .wait) →
      h'.threads[j]? = some (.Close .wait) := by
    refine System.play_invariant
      (fun g => Stuck i g ∧ ∀ j : Nat, h.threads[j]? = some (.Close .wait) →
        g.threads[j]? = some (.Close .wait))
      (fun g e g' held next => ?_) ⟨stuck, fun _ waits => waits⟩ played
    exact ⟨held.1.step (step_steps next), fun j waits => held.1.waits (step_steps next) (held.2 j waits)⟩
  exact ⟨kept.1.late, kept.2⟩

/-- A `Fire` is counted when `Close` closes the channel. -/
def overlapping : List (Event Nat) := [.Fire 7, .thread 0, .thread 0, .Close, .thread 1, .thread 1]

theorem overlap_hangs_panicked :
    ∃ h h' : Hook Nat,
      (system Nat 2).play (fun _ _ => true) [.thread 0, .writer (.returns none none)] h = some h' ∧
    h'.threads[0]? = some (.Fire 7 .panicked) ∧ h'.threads[1]? = some (.Close .wait) := by
  have played : ((system Nat 2).play (fun _ _ => true) overlapping (NewHook 2)).any (fun h =>
      decide (h.toWrite.closed = true ∧ h.threads[0]? = some (.Fire 7 .send) ∧
        h.threads[1]? = some (.Close .wait)) &&
        ((system Nat 2).play (fun _ _ => true) [.thread 0, .writer (.returns none none)] h).any
          (fun h' => decide (h'.threads[0]? = some (.Fire 7 .panicked)))) = true := by decide
  obtain ⟨h, reached, sees⟩ := (Option.any_eq_true _ _).mp played
  obtain ⟨before, after⟩ := Bool.and_eq_true_iff.mp sees
  obtain ⟨shut, there, waits⟩ := of_decide_eq_true before
  obtain ⟨h', later, panicked⟩ := (Option.any_eq_true _ _).mp after
  have reachable : (system Nat 2).Reachable h := .of_play rfl reached
  exact ⟨h, h', later, of_decide_eq_true panicked,
    (overlap_hangs reachable shut there rfl later).2 1 waits⟩

/-- The writer ends on an empty channel. -/
def Over (h : Hook α) : Prop := h.writer = .ended → h.toWrite.closed = true ∧ h.toWrite.buf = []

theorem Over.step (past : Over h) (steps : Steps h e h') : Over h' := by
  cases steps with
  | sent there sent =>
    intro ended
    rw [Chan.send_shut (past ended).1] at sent
    contradiction
  | shut _ _ => exact fun ended => ⟨rfl, (past ended).2⟩
  | ended _ closed => exact fun _ => Chan.receive_over closed
  | took _ _ => nofun
  | wrote _ => nofun
  | recovered _ => nofun
  | done _ => nofun
  | _ => exact past

theorem over_reachable (reachable : (system α bufSize).Reachable h) : Over h := by
  refine reachable.invariant Over ?_ fun _ _ _ past next => past.step (step_steps next)
  rintro _ rfl
  nofun

/-- A `Fire` that has passed its check, and has not returned. -/
def unsent : Thread α → Bool
  | .Fire _ .add | .Fire _ .send | .Fire _ .panicked => true
  | _ => false

/-- Thread `i` is a `Close` that waits for the writer alone. -/
structure Waiting (i : Nat) (h : Hook α) : Prop where
  sound : Sound h
  past : Over h
  shut : h.toWrite.closed = true
  there : h.threads[i]? = some (.Close .wait)
  quiet : ∀ t ∈ h.threads, unsent t = false

theorem pending_unsent {t : Thread α} (not : unsent t = false) : ¬ pending t = true := by
  intro counted
  cases t with
  | Close at_ => cases counted
  | Fire entry at_ =>
    cases at_ with
    | send => exact absurd not nofun
    | panicked => exact absurd not nofun
    | _ => exact absurd counted nofun

theorem Waiting.count (waiting : Waiting i h) : h.wg = owes h.writer + h.toWrite.buf.length := by
  have none_ : h.threads.countP pending = 0 :=
    List.countP_eq_zero.mpr fun t member => pending_unsent (waiting.quiet t member)
  have count := waiting.sound.count
  omega

theorem Waiting.step (waiting : Waiting i h) (steps : Steps h e h') :
    h'.threads[i]? = some (.Close .returned) ∨ Waiting i h' := by
  obtain ⟨sound, past, shut, there, quiet⟩ := waiting
  rcases steps.thread there with same | rfl
  · refine Or.inr ⟨sound.step steps, past.step steps, shut_stays shut steps, same, ?_⟩
    cases steps with
    | begins t e first =>
      intro u member
      rcases List.mem_append.mp member with member | here
      · exact quiet u member
      · rw [List.mem_singleton.mp here]
        rcases first with ⟨entry, rfl, _⟩ | ⟨rfl, _⟩ <;> rfl
    | refused _ _ => exact forall_mem_set quiet rfl
    | passed _ still => exact absurd (still.symm.trans (sound.closed shut)) nofun
    | added there => exact absurd (quiet _ (List.mem_of_getElem? there)) nofun
    | sent there _ => exact absurd (quiet _ (List.mem_of_getElem? there)) nofun
    | panicked there _ => exact absurd (quiet _ (List.mem_of_getElem? there)) nofun
    | stored _ => exact forall_mem_set quiet rfl
    | shut _ _ => exact forall_mem_set quiet rfl
    | twice _ _ => exact forall_mem_set quiet rfl
    | waited _ _ => exact forall_mem_set quiet rfl
    | _ => exact quiet
  · exact Or.inl (steps.waited_returned there).2

/-- A waiting `Close` is done waiting, or the writer is gone. -/
def Drained (h : Hook α) : Prop := h.wg = 0 ∨ ∃ entry, h.writer = .recovered entry

/-- The steps of the writer until nothing is left. -/
def left (h : Hook α) : Nat :=
  3 * h.toWrite.buf.length + match h.writer with
    | .WriteEntry _ => 2
    | .Done => 1
    | .range | .ended | .recovered _ => 0

/-- The writer can go on until a `Close` is done waiting. -/
theorem Waiting.writer_enabled (waiting : Waiting i h) (not : ¬ Drained h) :
    Execution.Enabled (system α bufSize) (fun e => ∃ outcome, e = .writer outcome) h := by
  refine ⟨.writer (.returns none none), ⟨_, rfl⟩, ?_⟩
  change (h.writerStep (.returns none none)).isSome = true
  have count := waiting.count
  cases at_ : h.writer with
  | range =>
    rw [at_] at count
    cases buf : h.toWrite.buf with
    | nil =>
      rw [buf] at count
      exact absurd (Or.inl count) not
    | cons entry rest =>
      simp only [writerStep, at_, Chan.receive_buf buf]
      rfl
  | WriteEntry entry =>
    simp only [writerStep, at_]
    rfl
  | Done =>
    simp only [writerStep, at_]
    rfl
  | ended =>
    rw [at_, (waiting.past at_).2] at count
    exact absurd (Or.inl count) not
  | recovered entry => exact absurd (Or.inr ⟨entry, at_⟩) not

/-- The writer has less to do after each of its steps, and nobody gives it more. -/
theorem Waiting.left_step (waiting : Waiting i h) (not : ¬ Drained h) (steps : Steps h e h') :
    Drained h' ∨ left h' ≤ left h ∧ ((∃ outcome, e = .writer outcome) → left h' < left h) := by
  have other {i : Nat} {P : Prop} : (∃ outcome, Event.thread i = (.writer outcome : Event α)) → P :=
    fun ⟨_, not⟩ => absurd not nofun
  cases steps with
  | begins t e first =>
    refine Or.inr ⟨Nat.le_refl _, ?_⟩
    rintro ⟨_, rfl⟩
    rcases first with ⟨_, _, not⟩ | ⟨_, not⟩ <;> cases not
  | sent there _ => exact absurd (waiting.quiet _ (List.mem_of_getElem? there)) nofun
  | took at_ got =>
    obtain ⟨buf, _⟩ := Chan.receive_eq got
    refine Or.inr ⟨?_, fun _ => ?_⟩ <;> simp only [left, buf, at_, List.length_cons] <;> omega
  | ended at_ closed =>
    have count := waiting.count
    rw [at_, (Chan.receive_over closed).2] at count
    exact absurd (Or.inl count) not
  | wrote at_ => refine Or.inr ⟨?_, fun _ => ?_⟩ <;> simp only [left, at_] <;> omega
  | recovered _ => exact Or.inl (Or.inr ⟨_, rfl⟩)
  | done at_ => refine Or.inr ⟨?_, fun _ => ?_⟩ <;> simp only [left, at_] <;> omega
  | refused _ _ => exact Or.inr ⟨Nat.le_refl _, other⟩
  | passed _ _ => exact Or.inr ⟨Nat.le_refl _, other⟩
  | added _ => exact Or.inr ⟨Nat.le_refl _, other⟩
  | panicked _ _ => exact Or.inr ⟨Nat.le_refl _, other⟩
  | stored _ => exact Or.inr ⟨Nat.le_refl _, other⟩
  | shut _ _ => exact Or.inr ⟨Nat.le_refl _, other⟩
  | twice _ _ => exact Or.inr ⟨Nat.le_refl _, other⟩
  | waited _ _ => exact Or.inr ⟨Nat.le_refl _, other⟩

/-- Nothing is counted any more. -/
theorem Waiting.zero_step (waiting : Waiting i h) (zero : h.wg = 0)
    (steps : Steps h e h') : h'.wg = 0 := by
  cases steps with
  | added there => exact absurd (waiting.quiet _ (List.mem_of_getElem? there)) nofun
  | done _ => exact (congrArg (· - 1) zero).trans (Nat.zero_sub 1)
  | _ => exact zero

/-- How a `Close` that waits goes on. -/
def Settled (i : Nat) (h : Hook α) : Prop :=
  h.threads[i]? = some (.Close .returned) ∨ ∃ entry, h.writer = .recovered entry

/-- A step on which a `Close` still waits leaves it nearer to its end. -/
theorem Waiting.nearer (waiting : Waiting i h) (not : ¬ (Settled i h ∨ Waiting i h ∧ h.wg = 0))
    (steps : Steps h e h') :
    (Settled i h' ∨ Waiting i h' ∧ h'.wg = 0) ∨
      Waiting i h' ∧ left h' ≤ left h ∧ ((∃ outcome, e = .writer outcome) → left h' < left h) := by
  have undrained (drained : Drained h) : False :=
    not (drained.elim (fun zero => Or.inr ⟨waiting, zero⟩) fun past => Or.inl (Or.inr past))
  rcases waiting.step steps with returned | still
  · exact Or.inl (Or.inl (Or.inl returned))
  · rcases waiting.left_step undrained steps with (zero | past) | less
    · exact Or.inl (Or.inr ⟨still, zero⟩)
    · exact Or.inl (Or.inl (Or.inr past))
    · exact Or.inr ⟨still, less⟩

theorem leads_drained (i : Nat) :
    Execution.Leads (system α bufSize) (fun e => ∃ outcome, e = .writer outcome) (Waiting i)
    (fun h => Settled i h ∨ Waiting i h ∧ h.wg = 0) left where
  enabled _ waiting not := waiting.writer_enabled fun drained =>
    not (drained.elim (fun zero => Or.inr ⟨waiting, zero⟩) fun past => Or.inl (Or.inr past))
  lowers _ _ _ waiting not next own :=
    (waiting.nearer not (step_steps next)).imp_right fun ⟨still, _, less⟩ => ⟨still, less own⟩
  keeps _ _ _ waiting not next :=
    (waiting.nearer not (step_steps next)).imp_right fun ⟨still, low, _⟩ => ⟨still, low⟩

theorem leads_returned (i : Nat) :
    Execution.Leads (system α bufSize) (fun e => e = .thread i) (fun h => Waiting i h ∧ h.wg = 0)
    (Settled i) (fun _ => 0) where
  enabled h held _ := by
    refine ⟨.thread i, rfl, ?_⟩
    simp only [system, Hook.step, held.1.there, closeStep, held.2, if_true]
    rfl
  lowers h e h' held _ next own := by
    have steps : Steps h e h' := step_steps next
    subst own
    exact Or.inl (Or.inl (steps.waited_returned held.1.there).2)
  keeps h e h' held _ next := by
    have steps : Steps h e h' := step_steps next
    rcases held.1.step steps with returned | still
    · exact Or.inl (Or.inl returned)
    · exact Or.inr ⟨⟨still, held.1.zero_step held.2 steps⟩, Nat.le_refl 0⟩

/-- A `Close` that waits, with no `Fire` between its check and its return, returns, unless a write
panics: then nobody counts the entry as done. -/
theorem Close_returns {x : Execution (system α bufSize)}
    (writes : x.Fair fun e => ∃ outcome, e = .writer outcome) (goes : x.Fair fun e => e = .thread i)
    {n : Nat} (waits : (x.state n).threads[i]? = some (.Close .wait))
    (quiet : ∀ t ∈ (x.state n).threads, unsent t = false) :
    ∃ m, n ≤ m ∧ ((x.state m).threads[i]? = some (.Close .returned) ∨
      ∃ entry, (x.state m).writer = .recovered entry) := by
  have reachable := x.reachable n
  have sound := sound_reachable reachable
  have waiting : Waiting i (x.state n) :=
    ⟨sound, over_reachable reachable, sound.shut _ (List.mem_of_getElem? waits) rfl, waits, quiet⟩
  obtain ⟨m, later, settled | drained⟩ := (leads_drained i).eventually writes waiting
  · exact ⟨m, later, settled⟩
  · obtain ⟨k, after, settled⟩ := (leads_returned i).eventually goes drained
    exact ⟨k, Nat.le_trans later after, settled⟩

/-- The run of `closing`, and then nothing. -/
def closingRun : Execution (system Nat 2) := .ofEvents (system Nat 2) (NewHook 2) rfl closing (by decide)

theorem Close_returns_closing : ∃ m, 7 ≤ m ∧
    ((closingRun.state m).threads[1]? = some (.Close .returned) ∨
      ∃ entry, (closingRun.state m).writer = .recovered entry) := by
  obtain ⟨h, played, _, _, ended, returned⟩ := closing_played
  have writes : closingRun.Fair (fun e => ∃ outcome, e = .writer outcome) := by
    refine Execution.fair_ofEvents played ?_
    rintro ⟨_, ⟨outcome, rfl⟩, moves⟩
    dsimp only [system, Hook.step, writerStep] at moves
    rw [ended] at moves
    exact absurd moves nofun
  have goes : closingRun.Fair (fun e => e = .thread 1) := by
    refine Execution.fair_ofEvents played ?_
    rintro ⟨_, rfl, moves⟩
    dsimp only [system, Hook.step] at moves
    rw [returned] at moves
    exact absurd moves nofun
  have quiet : ∀ t ∈ (closingRun.state 7).threads, unsent t = false := by decide
  exact Close_returns writes goes rfl quiet

end Gotun.Log.Hook
