import Gotun.Tun.FrameProbeRunner

/-! Every call of `TriggerProbe` leads to a probe, and the probes go on, as long as the runner is
not closed. The select is taken to be fair to each of its cases. -/

namespace Gotun.Tun
open Gotun.Lib
open Gotun.Core (Second)

namespace ProbeRunner

variable {s s' : ProbeRunner}

/-- A step of `loop` outside of the select. -/
def Event.isLoop (e : Event) : Prop := ∃ r, e = .loop r

theorem loop_enabled {ProbeIntervalSec : Int} {tracker : QualityTracker} (select : s.loop ≠ .select)
    (returned : s.loop ≠ .returned) :
    Execution.Enabled (system ProbeIntervalSec tracker) Event.isLoop s := by
  refine ⟨.loop (.rtt 0), ⟨.rtt 0, rfl⟩, ?_⟩
  change (s.loopStep (.rtt 0)).isSome = true
  cases here : s.loop <;> simp_all [loopStep]

/-- Outside of the select only `loop` moves its own place, and it comes nearer to the select. -/
theorem Steps.rank {e : Event} (steps : Steps s e s') (select : s.loop ≠ .select) :
    e.isLoop ∧ s'.loop.rank < s.loop.rank ∨ ¬ e.isLoop ∧ s'.loop = s.loop := by
  cases steps with
  | ticks | elapses | triggers | closes | closesChannel => exact .inr ⟨nofun, rfl⟩
  | ticked here | woken here | ends here => exact absurd here select
  | Now here | skips here | starts here | opens here | shuts here | success here | failure here =>
    rw [here]
    exact .inl ⟨⟨_, rfl⟩, by simp only [LoopAt.rank]; decide⟩
  | moves here there holds lower => exact .inl ⟨⟨_, rfl⟩, lower⟩

section executions

variable {ProbeIntervalSec : Int} {tracker : QualityTracker}
  {x : Execution (system ProbeIntervalSec tracker)} {P Q : ProbeRunner → Prop} {n : Nat}

/-- The loop comes to its select. -/
theorem reaches_select (loop : x.Fair Event.isLoop)
    (keeps : ∀ s e s', P s → ¬ Q s → s.step e = some s' → Q s' ∨ P s')
    (alive : ∀ s, P s → s.loop ≠ .returned) (now : P (x.state n)) :
    ∃ m, n ≤ m ∧ (Q (x.state m) ∨ P (x.state m) ∧ (x.state m).loop = .select) := by
  have leads : Execution.Leads (system ProbeIntervalSec tracker) Event.isLoop P
    (fun s => Q s ∨ P s ∧ s.loop = .select)
      (fun s => s.loop.rank) := by
    refine .of_moves (fun s holds already => ?_) fun s e s' holds already next => ?_
    · exact loop_enabled (fun select => already (.inr ⟨holds, select⟩)) (alive s holds)
    · obtain ⟨unreached, elsewhere⟩ := not_or.mp already
      rcases keeps s e s' holds unreached next with reached | holds'
      · exact .inl (.inl reached)
      · refine .inr
          ⟨holds', ((step_steps next).rank fun select => elsewhere ⟨holds, select⟩).imp_right ?_⟩
        exact fun ⟨foreign, same⟩ => ⟨foreign, congrArg LoopAt.rank same⟩
  exact leads.eventually loop now

/-- A case of the select that stays ready is taken. -/
theorem takes_case {c : Case} (loop : x.Fair Event.isLoop) (fair : x.StronglyFair (· = .select c))
    (keeps : ∀ s e s', P s → ¬ Q s → s.step e = some s' → Q s' ∨ P s')
    (alive : ∀ s, P s → s.loop ≠ .returned)
    (ready : ∀ s, P s → s.loop = .select → (s.selectStep c).isSome)
    (leads : ∀ s s', P s → s.selectStep c = some s' → Q s')
    (now : P (x.state n)) : ∃ m, n ≤ m ∧ Q (x.state m) := by
  refine fair.eventually (P := P) keeps ?_ (fun m holds => ?_) now
  · rintro s _ s' holds _ next rfl
    exact leads s s' holds next
  · obtain ⟨k, later, reached | ⟨holds', select⟩⟩ := reaches_select loop keeps alive holds
    · exact ⟨k, later, .inl reached⟩
    · exact ⟨k, later, .inr ⟨_, rfl, ready _ holds' select⟩⟩

/-- The loop is about to start a probe of a kind. -/
inductive Due (kind : Bool → Bool) (s : ProbeRunner) : Prop
  | Now {force : Bool} (here : s.loop = .Now force) (its : kind force = true)
      (free : force = true ∨ s.tooSoon s.clock = false)
  | maybeProbe {now : Nat} {force : Bool} (here : s.loop = .maybeProbe now force)
      (its : kind force = true)
      (free : force = true ∨ s.tooSoon now = false)

theorem tooSoon_later {now now' : Nat} (later : now ≤ now')
    (free : s.tooSoon now = false) : s.tooSoon now' = false := by
  unfold tooSoon at free ⊢
  cases last : s.lastProbe with
  | none => rfl
  | some last =>
    rw [last] at free
    have apart := of_decide_eq_false free
    exact decide_eq_false (by omega)

/-- How many probes of a kind have started. -/
def started (kind : Bool → Bool) (s : ProbeRunner) : Nat := s.probes.countP fun probe => kind probe.2

theorem starts_due {kind : Bool → Bool} {k : Nat} (loop : x.Fair Event.isLoop)
    (enough : k ≤ started kind (x.state n)) (due : Due kind (x.state n)) :
    ∃ m, n ≤ m ∧ k < started kind (x.state m) := by
  have elsewhere {s : ProbeRunner} {l : LoopAt} (due : Due kind s) (here : s.loop = l)
    (now : ∀ force, l ≠ .Now force)
      (maybeProbe : ∀ time force, l ≠ .maybeProbe time force) : False := by
    cases due with
    | Now at_ => exact now _ (here.symm.trans at_)
    | maybeProbe at_ => exact maybeProbe _ _ (here.symm.trans at_)
  have leads : Execution.Leads (system ProbeIntervalSec tracker) Event.isLoop
    (fun s => k ≤ started kind s ∧ Due kind s)
      (fun s => k < started kind s) (fun s => s.loop.rank) := by
    refine .of_moves (fun s holds _ => ?_) fun s e s' holds _ next => ?_
    · exact loop_enabled (fun select => elsewhere holds.2 select nofun nofun) fun returned =>
        elsewhere holds.2 returned nofun nofun
    obtain ⟨enough, due⟩ := holds
    have moves := ((step_steps next).rank fun select => elsewhere due select nofun nofun).imp_right
      fun ⟨foreign, same⟩ =>
        (⟨foreign, congrArg LoopAt.rank same⟩ : ¬ e.isLoop ∧ s'.loop.rank = s.loop.rank)
    cases step_steps next with
    | ticks | triggers | closes | closesChannel =>
      refine .inr ⟨⟨enough, ?_⟩, moves⟩
      cases due with
      | Now here its free => exact .Now here its free
      | maybeProbe here its free => exact .maybeProbe here its free
    | elapses time =>
      refine .inr ⟨⟨enough, ?_⟩, moves⟩
      cases due with
      | Now here its free => exact .Now here its (free.imp_right (tooSoon_later (Nat.le_add_right ..)))
      | maybeProbe here its free => exact .maybeProbe here its free
    | Now here =>
      refine .inr ⟨⟨enough, ?_⟩, moves⟩
      cases due with
      | Now at_ its free =>
        cases here.symm.trans at_
        exact .maybeProbe rfl its free
      | maybeProbe at_ => cases here.symm.trans at_
    | skips here soon =>
      cases due with
      | Now at_ => cases here.symm.trans at_
      | maybeProbe at_ its free =>
        cases here.symm.trans at_
        rw [soon] at free
        exact absurd free (by decide)
    | starts here =>
      rename_i now force _
      have its : kind force = true := by
        cases due with
        | Now at_ => cases here.symm.trans at_
        | maybeProbe at_ its =>
          cases here.symm.trans at_
          exact its
      refine .inl ?_
      rw [started, countP_concat, its]
      exact Nat.lt_succ_of_le enough
    | moves here =>
      refine (elsewhere due rfl (fun force wrong => ?_) fun now force wrong => ?_).elim
      · rw [wrong] at here
        exact absurd here Bool.false_ne_true
      · rw [wrong] at here
        exact absurd here Bool.false_ne_true
    | ticked here | woken here | ends here | opens here | shuts here | success here | failure here =>
      exact (elsewhere due here nofun nofun).elim
  exact leads.eventually loop ⟨enough, due⟩

/-- The runner goes on, and so many probes have started. -/
structure Alive (kind : Bool → Bool) (k : Nat) (s : ProbeRunner) : Prop where
  still : s.close = false
  runs : s.loop ≠ .returned
  enough : k ≤ started kind s

/-- It goes on until it is closed, or one more probe has started. -/
theorem Alive.step {kind : Bool → Bool} {k : Nat} {e : Event} (alive : Alive kind k s)
    (next : s.step e = some s') :
    (s'.close = true ∨ k < started kind s') ∨ Alive kind k s' ∧
      ((∀ force, kind force = true) → s'.lastProbe = s.lastProbe ∧ s'.interval = s.interval ∧
        s.clock ≤ s'.clock) := by
  obtain ⟨still, runs, enough⟩ := alive
  cases step_steps next with
  | ticks | triggers | closesChannel =>
    exact .inr ⟨⟨still, runs, enough⟩, fun _ => ⟨rfl, rfl, Nat.le_refl _⟩⟩
  | elapses time => exact .inr ⟨⟨still, runs, enough⟩, fun _ => ⟨rfl, rfl, Nat.le_add_right ..⟩⟩
  | closes => exact .inl (.inl rfl)
  | ends here closed => exact absurd (still.symm.trans closed) Bool.false_ne_true
  | ticked | woken | Now | skips | opens | shuts | success | failure =>
    exact .inr ⟨⟨still, nofun, enough⟩, fun _ => ⟨rfl, rfl, Nat.le_refl _⟩⟩
  | moves here there =>
    refine .inr ⟨⟨still, fun wrong => ?_, enough⟩, fun _ => ⟨rfl, rfl, Nat.le_refl _⟩⟩
    cases wrong
    exact absurd there Bool.false_ne_true
  | starts here =>
    rename_i now force _
    have grown : started kind { s with
      lastProbe := some now, loop := .Probe, probes := s.probes ++ [(now, force)] } =
        started kind s + (kind force).toNat := countP_concat
    cases its : kind force with
    | true =>
      rw [its] at grown
      exact .inl (.inr (grown ▸ Nat.lt_succ_of_le enough))
    | false =>
      refine .inr ⟨⟨still, nofun, ?_⟩, fun all => absurd (its.symm.trans (all force)) Bool.false_ne_true⟩
      rw [grown]
      exact Nat.le_add_right_of_le enough

theorem returned_closed (reachable : (system ProbeIntervalSec tracker).Reachable s) :
    s.loop = .returned → s.close = true := by
  refine reachable.invariant (fun s => s.loop = .returned → s.close = true) ?_ fun s e s' held next => ?_
  · rintro _ ⟨now, rfl⟩ wrong
    cases wrong
  · cases step_steps next with
    | ticks | elapses | triggers | closesChannel => exact held
    | closes => exact fun _ => rfl
    | ends here closed => exact fun _ => closed
    | moves here there =>
      intro wrong
      cases wrong
      exact absurd there Bool.false_ne_true
    | _ => nofun

/-- Every call of `TriggerProbe` is followed by the start of a forced probe, unless the runner is
closed. -/
theorem trigger_probes (loop : x.Fair Event.isLoop) (wakes : x.StronglyFair (· = .select .wake))
    (triggered : x.event n = some .TriggerProbe) :
    ∃ m, n < m ∧ ((x.state m).close = true ∨ started id (x.state n) < started id (x.state m)) := by
  have next := x.happens n _ triggered
  generalize size : started id (x.state n) = k
  have same : started id (x.state (n + 1)) = k := by rw [← Option.some.inj next, ← size]; rfl
  have woken : (x.state (n + 1)).wake = true := by rw [← Option.some.inj next]
  by_cases closed : (x.state (n + 1)).close = true
  · exact ⟨n + 1, Nat.lt_succ_self n, .inl closed⟩
  have alive : Alive id k (x.state (n + 1)) :=
    ⟨Bool.eq_false_of_not_eq_true closed,
      fun returned => closed (returned_closed (x.reachable _) returned), Nat.le_of_eq same.symm⟩
  have keeps (s : ProbeRunner) (e : Event) (s' : ProbeRunner) (holds : Alive id k s ∧ s.wake = true)
    (next : s.step e = some s') :
      ((s'.close = true ∨ k < started id s') ∨ k ≤ started id s' ∧ Due id s') ∨ Alive id k s' ∧
        s'.wake = true := by
    obtain ⟨alive, wake⟩ := holds
    rcases alive.step next with reached | ⟨alive', _⟩
    · exact .inl (.inl reached)
    cases step_steps next with
    | woken => exact .inl (.inr ⟨alive.enough, .Now rfl rfl (.inl rfl)⟩)
    | triggers => exact .inr ⟨alive', rfl⟩
    | _ => exact .inr ⟨alive', wake⟩
  have ready (s : ProbeRunner) (holds : Alive id k s ∧ s.wake = true) (select : s.loop = .select) :
      (s.selectStep .wake).isSome := by
    simp only [selectStep, select, holds.2, if_true, Option.isSome_some]
  have takes (s s' : ProbeRunner) (holds : Alive id k s ∧ s.wake = true)
    (next : s.selectStep .wake = some s') :
      (s'.close = true ∨ k < started id s') ∨ k ≤ started id s' ∧ Due id s' := by
    have next : s.step (.select .wake) = some s' := next
    cases step_steps next with
    | woken => exact .inr ⟨holds.1.enough, .Now rfl rfl (.inl rfl)⟩
  obtain ⟨m, later, (closed | started) | ⟨enough, due⟩⟩ :=
    takes_case loop wakes (fun s e s' holds _ next => keeps s e s' holds next)
    (fun s holds => holds.1.runs) ready takes ⟨alive, woken⟩
  · exact ⟨m, later, .inl closed⟩
  · exact ⟨m, later, .inr started⟩
  · obtain ⟨j, after, started⟩ := starts_due loop enough due
    exact ⟨j, Nat.lt_of_lt_of_le later after, .inr started⟩

/-- The runner goes on, and the last probe is an interval ago. -/
def Rested (k : Nat) (s : ProbeRunner) : Prop := Alive (fun _ => true) k s ∧ s.tooSoon s.clock = false

/-- The runner is closed, or one more probe has started. -/
def Went (k : Nat) (s : ProbeRunner) : Prop := s.close = true ∨ k < started (fun _ => true) s

theorem Rested.step {k : Nat} {e : Event} (rested : Rested k s)
    (next : s.step e = some s') : Went k s' ∨ Rested k s' := by
  obtain ⟨alive, free⟩ := rested
  rcases alive.step next with went | ⟨alive', same⟩
  · exact .inl went
  · obtain ⟨last, interval, later⟩ := same fun _ => rfl
    refine .inr ⟨alive', ?_⟩
    rw [tooSoon, last, interval]
    exact tooSoon_later later free

/-- Time passes until the last probe is an interval ago. -/
theorem rests {k : Nat} (time : ∀ n t, ∃ m, n ≤ m ∧ t ≤ (x.state m).clock)
    (alive : Alive (fun _ => true) k (x.state n)) :
    ∃ m, n ≤ m ∧ (Went k (x.state m) ∨ Rested k (x.state m)) := by
  obtain ⟨m, later, passed⟩ := time n (((x.state n).lastProbe.getD 0 : Int) + (x.state n).interval).toNat
  have keeps (s : ProbeRunner) (e : Event) (s' : ProbeRunner)
      (holds : Alive (fun _ => true) k s ∧ s.lastProbe = (x.state n).lastProbe ∧
        s.interval = (x.state n).interval)
      (next : s.step e = some s') :
      Went k s' ∨ Alive (fun _ => true) k s' ∧ s'.lastProbe = (x.state n).lastProbe ∧
        s'.interval = (x.state n).interval := by
    obtain ⟨alive, last, interval⟩ := holds
    rcases alive.step next with went | ⟨alive', same⟩
    · exact .inl went
    · obtain ⟨last', interval', _⟩ := same fun _ => rfl
      exact .inr ⟨alive', last'.trans last, interval'.trans interval⟩
  rcases x.holds_until (fun s e s' holds _ next => keeps s e s' holds next) later
    ⟨alive, rfl, rfl⟩ with ⟨alive', last, interval⟩ | went
  · refine ⟨m, later, .inr ⟨alive', ?_⟩⟩
    rw [tooSoon, last, interval]
    cases probed : (x.state n).lastProbe with
    | none => rfl
    | some before =>
      rw [probed, Option.getD_some] at passed
      exact decide_eq_false (by omega)
  · obtain ⟨j, after, _, went⟩ := went
    exact ⟨j, after, .inl went⟩

/-- The ticker sends. -/
theorem rested_ticks {k : Nat} (timer : x.StronglyFair (· = .tick))
    (time : ∀ n t, ∃ m, n ≤ m ∧ t ≤ (x.state m).clock) (rested : Rested k (x.state n)) :
    ∃ m, n ≤ m ∧ (Went k (x.state m) ∨ Rested k (x.state m) ∧ (x.state m).ticker.C = true) := by
  have keeps (s : ProbeRunner) (e : Event) (s' : ProbeRunner)
    (holds : Rested k s ∧ s.ticker.next = (x.state n).ticker.next)
      (next : s.step e = some s') : (Went k s' ∨ Rested k s' ∧ s'.ticker.C = true) ∨
        Rested k s' ∧ s'.ticker.next = (x.state n).ticker.next := by
    rcases holds.1.step next with went | rested
    · exact .inl (.inl went)
    cases step_steps next with
    | ticks => exact .inl (.inr ⟨rested, rfl⟩)
    | _ => exact .inr ⟨rested, holds.2⟩
  refine timer.eventually (P := fun s => Rested k s ∧ s.ticker.next = (x.state n).ticker.next)
    (fun s e s' holds _ next => keeps s e s' holds next) ?_ (fun m holds => ?_) ⟨rested, rfl⟩
  · rintro s _ s' holds _ next rfl
    have next : s.step .tick = some s' := next
    rcases holds.1.step next with went | rested
    · exact .inl went
    · cases step_steps next with
      | ticks => exact .inr ⟨rested, rfl⟩
  · obtain ⟨j, later, passed⟩ := time m (x.state n).ticker.next
    rcases x.holds_until (fun s e s' holds _ next => keeps s e s' holds next) later holds with
      ⟨_, same⟩ | ⟨i, after, _, reached⟩
    · refine ⟨j, later, .inr ⟨.tick, rfl, ?_⟩⟩
      change (if (x.state j).ticker.next ≤ (x.state j).clock then _ else none).isSome = true
      rw [same, if_pos passed]
      rfl
    · exact ⟨i, after, .inl reached⟩

/-- As time goes on a next probe starts, unless the runner is closed. -/
theorem probes_recur (loop : x.Fair Event.isLoop) (timer : x.StronglyFair (· = .tick))
    (ticks : x.StronglyFair (· = .select .tick)) (time : ∀ n t, ∃ m, n ≤ m ∧ t ≤ (x.state m).clock)
    (n : Nat) :
    ∃ m, n ≤ m ∧ ((x.state m).close = true ∨ (x.state n).probes.length < (x.state m).probes.length) := by
  have all (s : ProbeRunner) : started (fun _ => true) s = s.probes.length :=
    congrFun List.countP_true s.probes
  generalize size : (x.state n).probes.length = k
  have answer {m : Nat} (later : n ≤ m) (went : Went k (x.state m)) :
      ∃ m, n ≤ m ∧ ((x.state m).close = true ∨ k < (x.state m).probes.length) :=
        ⟨m, later, went.imp_right (all _ ▸ ·)⟩
  by_cases closed : (x.state n).close = true
  · exact answer (Nat.le_refl n) (.inl closed)
  have alive : Alive (fun _ => true) k (x.state n) :=
    ⟨Bool.eq_false_of_not_eq_true closed,
      fun returned => closed (returned_closed (x.reachable _) returned), by rw [all, size]⟩
  obtain ⟨a, atA, went | rested⟩ := rests time alive
  · exact answer atA went
  obtain ⟨b, atB, went | ticked⟩ := rested_ticks timer time rested
  · exact answer (Nat.le_trans atA atB) went
  have keeps (s : ProbeRunner) (e : Event) (s' : ProbeRunner)
    (holds : Rested k s ∧ s.ticker.C = true) (next : s.step e = some s') :
      (Went k s' ∨ k ≤ started (fun _ => true) s' ∧ Due (fun _ => true) s') ∨ Rested k s' ∧
        s'.ticker.C = true := by
    obtain ⟨rested, ticked⟩ := holds
    rcases rested.step next with went | rested'
    · exact .inl (.inl went)
    cases step_steps next with
    | ticked => exact .inl (.inr ⟨rested.1.enough, .Now rfl rfl (.inr rested.2)⟩)
    | ticks => exact .inr ⟨rested', rfl⟩
    | _ => exact .inr ⟨rested', ticked⟩
  have ready (s : ProbeRunner) (holds : Rested k s ∧ s.ticker.C = true)
      (select : s.loop = .select) : (s.selectStep .tick).isSome := by
    simp only [selectStep, select, holds.2, if_true, Option.isSome_some]
  have takes (s s' : ProbeRunner) (holds : Rested k s ∧ s.ticker.C = true)
    (next : s.selectStep .tick = some s') :
      Went k s' ∨ k ≤ started (fun _ => true) s' ∧ Due (fun _ => true) s' := by
    have next : s.step (.select .tick) = some s' := next
    cases step_steps next with
    | ticked => exact .inr ⟨holds.1.1.enough, .Now rfl rfl (.inr holds.1.2)⟩
  obtain ⟨c, atC, went | ⟨enough, due⟩⟩ :=
    takes_case loop ticks (fun s e s' holds _ next => keeps s e s' holds next)
    (fun s holds => holds.1.1.runs) ready takes ticked
  · exact answer (Nat.le_trans atA (Nat.le_trans atB atC)) went
  · obtain ⟨d, atD, went⟩ := starts_due loop enough due
    exact answer (Nat.le_trans atA (Nat.le_trans atB (Nat.le_trans atC atD))) (.inr went)

end executions

/-- Time passes, the ticker sends, and the loop probes twice, once because it was asked to. No
stream can be opened. -/
def twoProbes (time : Nat) : List Event :=
  [.elapse time, .tick, .select .tick, .loop (.rtt 0), .loop (.rtt 0), .loop (.rtt 0),
    .loop (.error "refused"), .loop (.rtt 0),
    .TriggerProbe, .select .wake, .loop (.rtt 0), .loop (.rtt 0), .loop (.rtt 0),
      .loop (.error "refused"), .loop (.rtt 0)]

/-- The loop is at its select, and the next tick is not further away than the time. -/
structure Idle (time : Nat) (s : ProbeRunner) : Prop where
  select : s.loop = .select
  channel : s.channel = false
  ticker : s.ticker.next ≤ s.clock + time
  interval : s.interval ≤ time
  last : ∀ last, s.lastProbe = some last → last ≤ s.clock

variable {ProbeIntervalSec : Int} {tracker : QualityTracker}

theorem idle_again {time : Nat} (second : Second ≤ time) (s : ProbeRunner) (idle : Idle time s) :
    ∃ s', (system ProbeIntervalSec tracker).play (fun _ _ => true) (twoProbes time) s =
      some s' ∧ Idle time s' ∧
      s'.clock = s.clock + time := by
  obtain ⟨interval, close, wake, ⟨next, C⟩, clock, lastProbe, loop, channel, tracker', opened, shut,
    probes, triggers⟩ := s
  obtain ⟨select, chan, due, period, last⟩ := idle
  dsimp only at select chan due period last
  subst select chan
  have free : (lastProbe.any fun (last : Nat) => (clock : Int) + time - last < interval) = false := by
    cases lastProbe with
    | none => rfl
    | some before =>
      have earlier := last before rfl
      exact decide_eq_false (by omega)
  simp only [twoProbes, System.play, system, step, selectStep, loopStep, tooSoon, due, free,
    if_true, Option.bind_some, Bool.not_true, Bool.not_false, Bool.false_eq_true, false_and,
    and_false, if_false, Nat.cast_add]
  refine ⟨_, rfl, ⟨rfl, rfl, ?_, period, fun before same => ?_⟩, rfl⟩
  · exact Nat.add_le_add due second
  · rw [← Option.some.inj same]

/-- Just after `Run`. -/
def fresh : ProbeRunner :=
  NewFrameProbeRunner 0 (NewQualityTracker "service" "output" none none true 0) 0

theorem fresh_starts : (system 0 fresh.tracker).start fresh := ⟨0, rfl⟩

theorem fresh_idle : Idle (2 * Second) fresh := ⟨rfl, rfl, by decide, by decide, nofun⟩

theorem rounds_again (s : ProbeRunner) (idle : Idle (2 * Second) s) :
    ∃ s', (system 0 fresh.tracker).play (fun _ _ => true) (twoProbes (2 * Second)) s = some s' ∧
      Idle (2 * Second) s' := by
  obtain ⟨s', played, idle', _⟩ := idle_again (Nat.le_mul_of_pos_left Second Nat.two_pos) s idle
  exact ⟨s', played, idle'⟩

def rounds : Execution (system 0 fresh.tracker) :=
  .ofRounds fresh_starts (List.cons_ne_nil _ _) fresh_idle rounds_again

theorem rounds_fair {mine : Event → Prop} {e : Event} (member : e ∈ twoProbes (2 * Second))
    (own : mine e) : rounds.StronglyFair mine :=
  Execution.stronglyFair_ofRounds member own

theorem rounds_time (n t : Nat) : ∃ m, n ≤ m ∧ t ≤ (rounds.state m).clock := by
  have grows : n + t ≤ (rounds.state ((n + t) * (twoProbes (2 * Second)).length)).clock := by
    refine Execution.roundState_grows (f := fun s => s.clock) fresh_idle (fun s idle => ?_) (n + t)
    obtain ⟨s', played, idle', later⟩ := idle_again (Nat.le_mul_of_pos_left Second Nat.two_pos) s idle
    exact ⟨s', played, idle', later ▸ Nat.lt_add_of_pos_right (by decide)⟩
  refine ⟨(n + t) * (twoProbes (2 * Second)).length, ?_, Nat.le_trans (Nat.le_add_left t n) grows⟩
  exact Nat.le_trans (Nat.le_add_right n t) (Nat.le_mul_of_pos_right _ (Nat.succ_pos _))

theorem trigger_probes_rounds :
    ∃ m, 8 < m ∧
      ((rounds.state m).close = true ∨ started id (rounds.state 8) < started id (rounds.state m)) :=
  trigger_probes (rounds_fair (e := .loop (.rtt 0)) (by simp [twoProbes]) ⟨_, rfl⟩).fair
    (rounds_fair (e := .select .wake) (by simp [twoProbes]) rfl)
      (show rounds.event 8 = some .TriggerProbe from rfl)

theorem probes_recur_rounds : ∃ m, 0 ≤ m ∧ ((rounds.state m).close = true ∨
    (rounds.state 0).probes.length < (rounds.state m).probes.length) :=
  probes_recur (rounds_fair (e := .loop (.rtt 0)) (by simp [twoProbes]) ⟨_, rfl⟩).fair
    (rounds_fair (e := .tick) (by simp [twoProbes]) rfl)
      (rounds_fair (e := .select .tick) (by simp [twoProbes]) rfl) rounds_time 0

end ProbeRunner

end Gotun.Tun
