import Gotun.Core.PipeRuns
import Gotun.Lib.Fair

/-! How a call of `Pipe` ends: with the result of the direction that ended first, with both streams
cut, and surely so once one of them is cut. -/

namespace Gotun.Core
open Gotun.Lib

namespace Copying
variable {σ τ ε ε' : Type} {D : Endpoint τ ε'} {S : Endpoint σ ε} {which : Direction} {g : PipeVars}
  {c : Copying} {src : σ} {dst : τ} {after : PipeVars × Copying × σ × τ} {CutS : σ → Prop}
  {CutD : τ → Prop} {heldS : σ → Nat} {heldD : τ → Nat}

/-- The result that a goroutine has sent. -/
def Sent : CopyAt → Option (Option Err)
  | .sent err => some err
  | _ => none

/-- The loop is over. -/
def Over : CopyAt → Prop
  | .SetReadDeadline _ | .results _ | .sent _ => True
  | _ => False

/-- The deadline that follows the loop is set. -/
def Past : CopyAt → Prop
  | .results _ | .sent _ => True
  | _ => False

/-- How many steps are left to a goroutine whose source hands out only so much more. -/
def weight : CopyAt → Nat → Nat
  | .Read, held => 3 * held + 6
  | .activityCallback _ none, held => 3 * held + 8
  | .Write _ none, held => 3 * held + 7
  | .activityCallback _ (some _), _ => 5
  | .Write _ (some _), _ => 4
  | .SetReadDeadline _, _ => 3
  | .results _, _ => 2
  | .sent _, _ => 1

theorem weight_mono {held held' : Nat} (less : held' ≤ held) (at_ : CopyAt) :
    weight at_ held' ≤ weight at_ held := by
  cases at_ with
  | Read => exact Nat.add_le_add_right (Nat.mul_le_mul_left 3 less) 6
  | activityCallback data er =>
    cases er with
    | none => exact Nat.add_le_add_right (Nat.mul_le_mul_left 3 less) 8
    | some er => exact Nat.le_refl 5
  | Write data er =>
    cases er with
    | none => exact Nat.add_le_add_right (Nat.mul_le_mul_left 3 less) 7
    | some er => exact Nat.le_refl 4
  | SetReadDeadline err => exact Nat.le_refl 3
  | results err => exact Nat.le_refl 2
  | sent err => exact Nat.le_refl 1

theorem read_at (c : Copying) (r : ReadRes σ) :
    (∃ data, (c.read r).at_ = .activityCallback data r.err) ∨ ((c.read r).at_ = .Read ∧ r.err = none) ∨
      ∃ err, (c.read r).at_ = .SetReadDeadline err := by
  dsimp only [read]
  split_ifs
  · exact Or.inl ⟨_, rfl⟩
  · cases r.err with
    | some er => exact Or.inr (Or.inr ⟨_, rfl⟩)
    | none => exact Or.inr (Or.inl ⟨rfl, rfl⟩)

theorem wrote_at (c : Copying) (data : Bytes) (er : Option Err) (w : WriteRes τ) :
    ((c.wrote data er w).at_ = .Read ∧ er = none) ∨
      ∃ err, (c.wrote data er w).at_ = .SetReadDeadline err := by
  dsimp only [wrote]
  unfold afterWrite
  split
  · exact Or.inr ⟨_, rfl⟩
  · split_ifs
    · exact Or.inr ⟨_, rfl⟩
    · cases er with
      | some er => exact Or.inr ⟨_, rfl⟩
      | none => exact Or.inl ⟨rfl, rfl⟩

/-- A step sends the result, or leaves the results alone. -/
theorem Steps.sends (steps : Steps D S which g c src dst after) : Sent c.at_ = none ∧
    ((after.1.ends = g.ends ∧ after.1.results = g.results ∧ Sent after.2.1.at_ = none) ∨
      ∃ err, after.1.ends = g.ends ++ [(which, err)] ∧ g.results.send err = .sent after.1.results ∧
        Sent after.2.1.at_ = some err) := by
  cases steps with
  | Read here got =>
    rename_i r
    refine ⟨here ▸ rfl, Or.inl ⟨rfl, rfl, ?_⟩⟩
    rcases read_at c r with ⟨data, there⟩ | ⟨there, _⟩ | ⟨err, there⟩ <;> rw [there] <;> rfl
  | activityCallback here => exact ⟨here ▸ rfl, Or.inl ⟨rfl, rfl, rfl⟩⟩
  | Write here wrote =>
    rename_i data er w
    refine ⟨here ▸ rfl, Or.inl ⟨rfl, rfl, ?_⟩⟩
    rcases wrote_at c data er w with ⟨there, _⟩ | ⟨err, there⟩ <;> rw [there] <;> rfl
  | SetReadDeadline here => exact ⟨here ▸ rfl, Or.inl ⟨rfl, rfl, rfl⟩⟩
  | results here sent => exact ⟨here ▸ rfl, Or.inr ⟨_, rfl, sent, rfl⟩⟩

/-- No step turns the clock, and a step notes an activity or none. -/
theorem Steps.vars (steps : Steps D S which g c src dst after) :
    after.1.clock = g.clock ∧
      (after.1.lastActivity = g.lastActivity ∨ after.1.lastActivity = g.clock) := by
  cases steps with
  | activityCallback here => exact ⟨rfl, Or.inr rfl⟩
  | _ => exact ⟨rfl, Or.inl rfl⟩

/-- A cut destination stays cut, and it is cut when the loop is past. -/
theorem Steps.cuts (wakesD : D.Wakes CutD heldD) (steps : Steps D S which g c src dst after) :
    (CutD dst → CutD after.2.2.2 ∧ heldD after.2.2.2 ≤ heldD dst) ∧
      ((Past c.at_ → CutD dst) → Past after.2.1.at_ → CutD after.2.2.2) := by
  cases steps with
  | Read here got =>
    rename_i r
    refine ⟨fun cut => ⟨cut, Nat.le_refl _⟩, fun _ past => ?_⟩
    dsimp only at past
    rcases read_at c r with ⟨data, there⟩ | ⟨there, _⟩ | ⟨err, there⟩ <;> exact absurd past (there ▸ id)
  | activityCallback here => exact ⟨fun cut => ⟨cut, Nat.le_refl _⟩, fun _ past => absurd past id⟩
  | Write here wrote =>
    rename_i data er w
    refine ⟨fun cut => wakesD.write cut wrote, fun _ past => ?_⟩
    dsimp only at past
    rcases wrote_at c data er w with ⟨there, _⟩ | ⟨err, there⟩ <;> exact absurd past (there ▸ id)
  | SetReadDeadline here =>
    exact ⟨fun cut => ⟨wakesD.sets dst, wakesD.again cut⟩, fun _ _ => wakesD.sets dst⟩
  | results here sent => exact ⟨fun cut => ⟨cut, Nat.le_refl _⟩, fun before _ => before (here ▸ trivial)⟩

theorem Steps.source (wakesS : S.Wakes CutS heldS) (steps : Steps D S which g c src dst after)
    (cut : CutS src) :
    CutS after.2.2.1 := by
  cases steps with
  | Read here got => exact (wakesS.read (by decide) cut got).1
  | _ => exact cut

/-- The loop is over, or its source is cut. -/
def Doomed (CutS : σ → Prop) (c : Copying) (src : σ) : Prop := CutS src ∨ Over c.at_

theorem Doomed.moved {src' : σ} (doomed : Doomed CutS c src)
    (cuts : CutS src → CutS src' ∧ heldS src' ≤ heldS src) :
    Doomed CutS c src' ∧ weight c.at_ (heldS src') ≤ weight c.at_ (heldS src) := by
  rcases doomed with cut | past
  · exact ⟨Or.inl (cuts cut).1, weight_mono (cuts cut).2 _⟩
  · refine ⟨Or.inr past, Nat.le_of_eq ?_⟩
    cases here : c.at_ with
    | SetReadDeadline err | results err | sent err => rfl
    | Read | activityCallback _ _ | Write _ _ =>
      rw [here] at past
      exact absurd past id

/-- A step of a goroutine whose source is cut brings it nearer to its end. -/
theorem Steps.lowers (wakesS : S.Wakes CutS heldS) (steps : Steps D S which g c src dst after)
    (doomed : Doomed CutS c src) :
    Doomed CutS after.2.1 after.2.2.1 ∧ weight after.2.1.at_ (heldS after.2.2.1) <
      weight c.at_ (heldS src) := by
  cases steps with
  | Read here got =>
    rename_i r
    have cut : CutS src := doomed.resolve_right (here ▸ id)
    obtain ⟨cut', low, lower⟩ := wakesS.read (by decide) cut got
    refine ⟨Or.inl cut', ?_⟩
    rw [here]
    rcases read_at c r with ⟨data, there⟩ | ⟨there, fine⟩ | ⟨err, there⟩
    · rw [there]
      cases failed : r.err with
      | none =>
        have lower := lower failed
        simp only [weight]
        omega
      | some er =>
        simp only [weight]
        omega
    · rw [there]
      have lower := lower fine
      simp only [weight]
      omega
    · rw [there]
      simp only [weight]
      omega
  | activityCallback here =>
    rename_i data er
    refine ⟨Or.inl (doomed.resolve_right (here ▸ id)), ?_⟩
    rw [here]
    cases er <;> exact Nat.lt_succ_self _
  | Write here wrote =>
    rename_i data er w
    refine ⟨Or.inl (doomed.resolve_right (here ▸ id)), ?_⟩
    rw [here]
    rcases wrote_at c data er w with ⟨there, rfl⟩ | ⟨err, there⟩
    · rw [there]
      exact Nat.lt_succ_self _
    · rw [there]
      cases er <;> simp only [weight] <;> omega
  | SetReadDeadline here =>
    refine ⟨Or.inr trivial, ?_⟩
    rw [here]
    exact Nat.lt_succ_self _
  | results here sent =>
    refine ⟨Or.inr trivial, ?_⟩
    rw [here]
    exact Nat.lt_succ_self _

/-- It can always make such a step. -/
theorem step_ready (wakesS : S.Wakes CutS heldS) (drained : D.Drained) (doomed : Doomed CutS c src)
    (unsent : Sent c.at_ = none) (still : g.results.closed = false)
    (room : g.results.buf.length < g.results.cap) :
    (step D S which g c src dst).isSome := by
  unfold step
  cases here : c.at_ with
  | Read =>
    have ready := wakesS.ready (n := SocketBufSize) (by decide) (doomed.resolve_right (here ▸ id))
    simpa using ready
  | activityCallback data er => rfl
  | Write data er => simpa using drained data dst
  | SetReadDeadline err => rfl
  | results err =>
    dsimp only
    rw [Chan.send_room still room]
    rfl
  | sent err => exact absurd (here ▸ unsent) nofun

end Copying

namespace PipeState
open Copying
variable {σ τ ε ε' : Type} {L : Endpoint σ ε} {R : Endpoint τ ε'} {timeout : Nat} {CutL : σ → Prop}
  {CutR : τ → Prop} {heldL : σ → Nat} {heldR : τ → Nat} {s s' : PipeState σ τ} {e : PipeEvent ε ε'}
  {left : σ} {right : τ}

/-- The results that have been sent, in their order. -/
def Ends (ends : List (Direction × Option Err)) : Option (Option Err) → Option (Option Err) → Prop
  | none, none => ends = []
  | some err, none => ends = [(.main, err)]
  | none, some err' => ends = [(.goroutine, err')]
  | some err, some err' =>
    ends = [(.main, err), (.goroutine, err')] ∨ ends = [(.goroutine, err'), (.main, err)]

/-- What the main goroutine has received of them. -/
def Received (results : List (Option Err)) (ends : List (Direction × Option Err)) : MainAt → Prop
  | .copying | .first => ends.map Prod.snd = results
  | .second first => ends.map Prod.snd = first :: results
  | .returned first => ∃ other, ends.map Prod.snd = first :: other :: results

structure Sound (CutL : σ → Prop) (CutR : τ → Prop) (s : PipeState σ τ) : Prop where
  ends : Ends s.vars.ends (Sent s.forward.at_) (Sent s.back.at_)
  still : s.vars.results.closed = false
  two : s.vars.results.cap = 2
  received : Received s.vars.results.buf s.vars.ends s.main
  main : s.main ≠ .copying → (Sent s.forward.at_).isSome ∧ s.stopMonitor = true
  forward : Past s.forward.at_ → CutR s.right
  back : Past s.back.at_ → CutL s.left

theorem ends_main {ends : List (Direction × Option Err)} {back : Option (Option Err)}
    {err : Option Err} (before : Ends ends none back) :
    Ends (ends ++ [(.main, err)]) (some err) back := by
  cases back with
  | none =>
    cases before
    rfl
  | some err' =>
    cases before
    exact Or.inr rfl

theorem ends_goroutine {ends : List (Direction × Option Err)} {forward : Option (Option Err)}
    {err : Option Err} (before : Ends ends forward none) :
    Ends (ends ++ [(.goroutine, err)]) forward (some err) := by
  cases forward with
  | none =>
    cases before
    rfl
  | some err' =>
    cases before
    exact Or.inl rfl

theorem received_more {results : List (Option Err)} {ends : List (Direction × Option Err)}
    {at_ : MainAt} {which : Direction} {err : Option Err} (before : Received results ends at_) :
    Received (results ++ [err]) (ends ++ [(which, err)]) at_ := by
  cases at_ with
  | copying | first =>
    simp only [Received, List.map_append, List.map_cons, List.map_nil] at before ⊢
    rw [before]
  | second first =>
    simp only [Received, List.map_append, List.map_cons, List.map_nil] at before ⊢
    rw [before, List.cons_append]
  | returned first =>
    obtain ⟨other, before⟩ := before
    refine ⟨other, ?_⟩
    rw [List.map_append, before]
    rfl

theorem sent_eq {at_ : CopyAt} {err : Option Err} (sent : Sent at_ = some err) : at_ = .sent err := by
  cases at_ with
  | sent _ => rw [Option.some.inj sent]
  | _ => cases sent

theorem Sound.step (wakesL : L.Wakes CutL heldL) (wakesR : R.Wakes CutR heldR)
    (sound : Sound CutL CutR s) (steps : Steps L R timeout s e s') : Sound CutL CutR s' := by
  cases steps with
  | forward here steps =>
    obtain ⟨unsent, result⟩ := steps.sends
    obtain ⟨keepR, pastR⟩ := steps.cuts wakesR
    rcases result with ⟨ends, results, still⟩ | ⟨err, ends, sent, there⟩
    · dsimp only at ends results still
      refine ⟨?_, results ▸ sound.still, results ▸ sound.two, ?_, fun done => absurd here done,
        pastR sound.forward, fun past => steps.source wakesL (sound.back past)⟩
      · rw [ends, still]
        exact unsent ▸ sound.ends
      · rw [ends, results]
        exact sound.received
    · dsimp only at ends sent there
      have room := Chan.send_eq sent
      refine ⟨?_, room ▸ sound.still, room ▸ sound.two, ?_, fun done => absurd here done,
        pastR sound.forward, fun past => steps.source wakesL (sound.back past)⟩
      · rw [ends, there]
        exact ends_main (unsent ▸ sound.ends)
      · rw [ends, room]
        exact received_more sound.received
  | back steps =>
    obtain ⟨unsent, result⟩ := steps.sends
    obtain ⟨keepL, pastL⟩ := steps.cuts wakesL
    rcases result with ⟨ends, results, still⟩ | ⟨err, ends, sent, there⟩
    · dsimp only at ends results still
      refine ⟨?_, results ▸ sound.still, results ▸ sound.two, ?_, sound.main,
        fun past => steps.source wakesR (sound.forward past), pastL sound.back⟩
      · rw [ends, still]
        exact unsent ▸ sound.ends
      · rw [ends, results]
        exact sound.received
    · dsimp only at ends sent there
      have room := Chan.send_eq sent
      refine ⟨?_, room ▸ sound.still, room ▸ sound.two, ?_, sound.main,
        fun past => steps.source wakesR (sound.forward past), pastL sound.back⟩
      · rw [ends, there]
        exact ends_goroutine (unsent ▸ sound.ends)
      · rw [ends, room]
        exact received_more sound.received
  | close here sent =>
    refine { sound with received := ?_, main := fun _ => ⟨sent ▸ rfl, rfl⟩ }
    have received := here ▸ sound.received
    exact received
  | first here got =>
    obtain ⟨buf, still, cap⟩ := Chan.receive_eq got
    have received := here ▸ sound.received
    refine { sound with
      still := still.trans sound.still
      two := cap.trans sound.two
      received := ?_
      main := fun _ => sound.main (here ▸ nofun) }
    exact received.trans buf
  | second here got =>
    obtain ⟨buf, still, cap⟩ := Chan.receive_eq got
    have received := here ▸ sound.received
    rename_i first other ch
    refine { sound with
      still := still.trans sound.still
      two := cap.trans sound.two
      received := ⟨other, ?_⟩
      main := fun _ => sound.main (here ▸ nofun) }
    exact received.trans (congrArg _ buf)
  | stop here closed => exact { sound with }
  | ticked here ticked => exact { sound with }
  | load here => exact { sound with }
  | check here => exact { sound with }
  | setLeft here => exact { sound with back := fun _ => wakesL.sets s.left }
  | setRight here => exact { sound with forward := fun _ => wakesR.sets s.right }
  | tick due => exact { sound with }
  | elapse time => exact { sound with }
  | left moves => exact { sound with back := fun past => (wakesL.world (sound.back past) moves).1 }
  | right moves =>
    exact { sound with forward := fun past => (wakesR.world (sound.forward past) moves).1 }

theorem sound_start (CutL : σ → Prop) (CutR : τ → Prop) (left : σ) (right : τ) (now : Nat) :
    Sound CutL CutR (start left right now) :=
  ⟨rfl, rfl, rfl, rfl, fun done => absurd rfl done, nofun, nofun⟩

theorem sound_reachable (wakesL : L.Wakes CutL heldL) (wakesR : R.Wakes CutR heldR)
    (reachable : (system L R timeout left right).Reachable s) : Sound CutL CutR s := by
  refine reachable.invariant (Sound CutL CutR) ?_ fun s e s' sound next =>
    sound.step wakesL wakesR (step_steps next)
  rintro _ ⟨now, rfl⟩
  exact sound_start CutL CutR left right now

/-- A call that has returned gave the result of the direction that sent first; both directions are
over, and no read of either stream waits any more. -/
theorem pipe_returned (wakesL : L.Wakes CutL heldL) (wakesR : R.Wakes CutR heldR)
    (reachable : (system L R timeout left right).Reachable s) {first : Option Err}
    (returned : s.main = .returned first) :
    ∃ err err', s.forward.at_ = .sent err ∧ s.back.at_ = .sent err' ∧
      (s.vars.ends = [(.main, err), (.goroutine, err')] ∧ first = err ∨
        s.vars.ends = [(.goroutine, err'), (.main, err)] ∧ first = err') ∧
      s.stopMonitor = true ∧ CutL s.left ∧ CutR s.right := by
  have sound := sound_reachable wakesL wakesR reachable
  obtain ⟨sent, stop⟩ := sound.main (returned ▸ nofun)
  obtain ⟨err, sent⟩ := Option.isSome_iff_exists.mp sent
  have received := returned ▸ sound.received
  obtain ⟨other, received⟩ := received
  have ends := sent ▸ sound.ends
  have forward := sent_eq sent
  cases sent' : Sent s.back.at_ with
  | none =>
    rw [sent'] at ends
    rw [show s.vars.ends = _ from ends] at received
    exact absurd received nofun
  | some err' =>
    rw [sent'] at ends
    have back := sent_eq sent'
    refine ⟨err, err', forward, back, ?_, stop, sound.back (back ▸ trivial),
      sound.forward (forward ▸ trivial)⟩
    rcases ends with ends | ends <;> rw [ends] at received
    · exact Or.inl ⟨ends, (List.cons.inj received).1.symm⟩
    · exact Or.inr ⟨ends, (List.cons.inj received).1.symm⟩

theorem pipe_returned_finishing :
    ∃ s : PipeState Socket Socket, s.main = .returned none ∧ s.left.deadline = true ∧
      s.right.deadline = true ∧
    s.vars.ends = [(.main, none), (.goroutine, some (.failed "i/o timeout"))] := by
  obtain ⟨s, played, returned, forward, back, _⟩ := finishing_played
  have reachable : sockets.Reachable s := .of_play sockets_start played
  obtain ⟨err, err', sent, sent', order, _, cutL, cutR⟩ :=
    pipe_returned Socket.wakes Socket.wakes reachable returned
  cases sent.symm.trans forward
  cases sent'.symm.trans back
  refine ⟨s, returned, cutL, cutR, ?_⟩
  rcases order with ⟨ends, _⟩ | ⟨_, wrong⟩
  · exact ends
  · exact absurd wrong nofun

/-- While a direction has not sent, there is room for its result. -/
theorem Sound.room (sound : Sound CutL CutR s)
    (unsent : Sent s.forward.at_ = none ∨ Sent s.back.at_ = none) :
    s.vars.results.buf.length < s.vars.results.cap := by
  have one : s.vars.ends.length ≤ 1 := by
    have ends := sound.ends
    rcases unsent with unsent | unsent <;> rw [unsent] at ends
    · cases other : Sent s.back.at_ <;> rw [other] at ends <;>
        rw [show s.vars.ends = _ from ends] <;> simp
    · cases other : Sent s.forward.at_ <;> rw [other] at ends <;>
        rw [show s.vars.ends = _ from ends] <;> simp
  have less : s.vars.results.buf.length ≤ (s.vars.ends.map Prod.snd).length := by
    have received := sound.received
    cases at_ : s.main <;> rw [at_] at received
    · exact Nat.le_of_eq (congrArg _ received).symm
    · exact Nat.le_of_eq (congrArg _ received).symm
    · rw [show s.vars.ends.map Prod.snd = _ from received]
      exact Nat.le_succ _
    · obtain ⟨other, received⟩ := received
      rw [received]
      exact (Nat.le_succ _).trans (Nat.le_succ _)
  rw [List.length_map] at less
  rw [sound.two]
  omega

/-- How many steps the main goroutine has left after its direction. -/
def remaining : MainAt → Nat
  | .copying => 3
  | .first => 2
  | .second _ => 1
  | .returned _ => 0

/-- Nothing brings a goroutine with a cut source further from its end. -/
theorem doomed_forward (wakesL : L.Wakes CutL heldL) (steps : Steps L R timeout s e s')
    (doomed : Doomed CutL s.forward s.left) :
    Doomed CutL s'.forward s'.left ∧ weight s'.forward.at_ (heldL s'.left) ≤
      weight s.forward.at_ (heldL s.left) := by
  cases steps with
  | forward here steps => exact (steps.lowers wakesL doomed).imp_right Nat.le_of_lt
  | back steps => exact doomed.moved (steps.cuts wakesL).1
  | setLeft here => exact doomed.moved fun cut => ⟨wakesL.sets s.left, wakesL.again cut⟩
  | left moves => exact doomed.moved fun cut => wakesL.world cut moves
  | _ => exact ⟨doomed, Nat.le_refl _⟩

theorem doomed_back (wakesR : R.Wakes CutR heldR) (steps : Steps L R timeout s e s')
    (doomed : Doomed CutR s.back s.right) :
    Doomed CutR s'.back s'.right ∧ weight s'.back.at_ (heldR s'.right) ≤
      weight s.back.at_ (heldR s.right) := by
  cases steps with
  | forward here steps => exact doomed.moved (steps.cuts wakesR).1
  | back steps => exact (steps.lowers wakesR doomed).imp_right Nat.le_of_lt
  | setRight here => exact doomed.moved fun cut => ⟨wakesR.sets s.right, wakesR.again cut⟩
  | right moves => exact doomed.moved fun cut => wakesR.world cut moves
  | _ => exact ⟨doomed, Nat.le_refl _⟩

/-- From a cut left stream the main goroutine gets to the end of its direction. -/
theorem forward_leads (wakesL : L.Wakes CutL heldL) (wakesR : R.Wakes CutR heldR) (drained : R.Drained) :
    Execution.Leads (system L R timeout left right) (· = .main)
      (fun s => Sound CutL CutR s ∧ Doomed CutL s.forward s.left)
      (fun s => (Sent s.forward.at_).isSome) (fun s => weight s.forward.at_ (heldL s.left)) where
  enabled s now unsent := by
    obtain ⟨sound, doomed⟩ := now
    have unsent : Sent s.forward.at_ = none := Option.not_isSome_iff_eq_none.mp unsent
    have copying : s.main = .copying := by
      by_contra done
      exact absurd (unsent ▸ (sound.main done).1) nofun
    have ready : (Copying.step R L .main s.vars s.forward s.left s.right).isSome :=
      step_ready wakesL drained doomed unsent sound.still (sound.room (Or.inl unsent))
    refine ⟨.main, rfl, ?_⟩
    dsimp only [system, step, mainStep]
    rw [copying]
    dsimp only
    split
    · rfl
    · rwa [Option.isSome_map]
  lowers s e s' now unsent next own := by
    obtain ⟨sound, doomed⟩ := now
    subst own
    have steps : Steps L R timeout s .main s' := step_steps next
    refine Or.inr ⟨⟨sound.step wakesL wakesR steps, (doomed_forward wakesL steps doomed).1⟩, ?_⟩
    cases steps with
    | forward here steps => exact (steps.lowers wakesL doomed).2
    | close here sent => exact absurd (sent ▸ rfl) unsent
    | first here got => exact absurd (sound.main (here ▸ nofun)).1 unsent
    | second here got => exact absurd (sound.main (here ▸ nofun)).1 unsent
  keeps s e s' now _ next := by
    obtain ⟨doomed, low⟩ := doomed_forward wakesL (step_steps next) now.2
    exact Or.inr ⟨⟨now.1.step wakesL wakesR (step_steps next), doomed⟩, low⟩

/-- From a cut right stream the other goroutine gets to the end of its direction. -/
theorem back_leads (wakesL : L.Wakes CutL heldL) (wakesR : R.Wakes CutR heldR) (drained : L.Drained) :
    Execution.Leads (system L R timeout left right) (· = .goroutine)
      (fun s => Sound CutL CutR s ∧ Doomed CutR s.back s.right)
      (fun s => (Sent s.back.at_).isSome) (fun s => weight s.back.at_ (heldR s.right)) where
  enabled s now unsent := by
    obtain ⟨sound, doomed⟩ := now
    have unsent : Sent s.back.at_ = none := Option.not_isSome_iff_eq_none.mp unsent
    have ready : (Copying.step L R .goroutine s.vars s.back s.right s.left).isSome :=
      step_ready wakesR drained doomed unsent sound.still (sound.room (Or.inr unsent))
    refine ⟨.goroutine, rfl, ?_⟩
    dsimp only [system, step, goroutineStep]
    rwa [Option.isSome_map]
  lowers s e s' now _ next own := by
    obtain ⟨sound, doomed⟩ := now
    subst own
    have steps : Steps L R timeout s .goroutine s' := step_steps next
    refine Or.inr ⟨⟨sound.step wakesL wakesR steps, (doomed_back wakesR steps doomed).1⟩, ?_⟩
    cases steps with
    | back steps => exact (steps.lowers wakesR doomed).2
  keeps s e s' now _ next := by
    obtain ⟨doomed, low⟩ := doomed_back wakesR (step_steps next) now.2
    exact Or.inr ⟨⟨now.1.step wakesL wakesR (step_steps next), doomed⟩, low⟩

/-- Both directions are over. -/
def Both (s : PipeState σ τ) : Prop := (Sent s.forward.at_).isSome ∧ (Sent s.back.at_).isSome

theorem forward_stays (steps : Steps L R timeout s e s') (sent : (Sent s.forward.at_).isSome) :
    (Sent s'.forward.at_).isSome := by
  cases steps with
  | forward here steps => exact absurd (steps.sends.1 ▸ sent) nofun
  | _ => exact sent

theorem back_stays (steps : Steps L R timeout s e s')
    (sent : (Sent s.back.at_).isSome) : (Sent s'.back.at_).isSome := by
  cases steps with
  | back steps => exact absurd (steps.sends.1 ▸ sent) nofun
  | _ => exact sent

/-- As many results are in the channel as are still to be received. -/
theorem Sound.results (sound : Sound CutL CutR s) (both : Both s) :
    s.vars.results.buf.length = min 2 (remaining s.main) := by
  obtain ⟨err, sent⟩ := Option.isSome_iff_exists.mp both.1
  obtain ⟨err', sent'⟩ := Option.isSome_iff_exists.mp both.2
  have two : (s.vars.ends.map Prod.snd).length = 2 := by
    have ends := sound.ends
    rw [sent, sent'] at ends
    rcases ends with ends | ends <;> rw [ends] <;> rfl
  have received := sound.received
  cases at_ : s.main <;> rw [at_] at received
  · exact (congrArg _ received).symm.trans two
  · exact (congrArg _ received).symm.trans two
  · rw [show s.vars.ends.map Prod.snd = _ from received] at two
    exact Nat.succ.inj two
  · obtain ⟨other, received⟩ := received
    rw [received] at two
    exact Nat.succ.inj (Nat.succ.inj two)

/-- Then the call returns. -/
theorem both_leads (wakesL : L.Wakes CutL heldL) (wakesR : R.Wakes CutR heldR) :
    Execution.Leads (system L R timeout left right) (· = .main) (fun s => Sound CutL CutR s ∧ Both s)
      (fun s => ∃ first, s.main = .returned first) (fun s => remaining s.main) where
  enabled s now unreturned := by
    obtain ⟨sound, both⟩ := now
    have results := sound.results both
    refine ⟨.main, rfl, ?_⟩
    dsimp only [system, step, mainStep]
    cases here : s.main with
    | copying =>
      obtain ⟨err, sent⟩ := Option.isSome_iff_exists.mp both.1
      rw [sent_eq sent]
      rfl
    | first =>
      rw [here] at results
      obtain ⟨first, rest, buf⟩ :=
        List.exists_cons_of_length_pos (Nat.lt_of_lt_of_eq Nat.two_pos results.symm)
      dsimp only
      rw [Chan.receive_buf buf]
      rfl
    | second first =>
      rw [here] at results
      obtain ⟨other, rest, buf⟩ :=
        List.exists_cons_of_length_pos (Nat.lt_of_lt_of_eq Nat.one_pos results.symm)
      dsimp only
      rw [Chan.receive_buf buf]
      rfl
    | returned first => exact absurd ⟨first, here⟩ unreturned
  lowers s e s' now _ next own := by
    obtain ⟨sound, both⟩ := now
    subst own
    have steps : Steps L R timeout s .main s' := step_steps next
    refine Or.inr
      ⟨⟨sound.step wakesL wakesR steps, forward_stays steps both.1, back_stays steps both.2⟩, ?_⟩
    cases steps with
    | forward here steps => exact absurd (steps.sends.1 ▸ both.1) nofun
    | close here sent => exact here ▸ Nat.lt_succ_self 2
    | first here got => exact here ▸ Nat.lt_succ_self 1
    | second here got => exact here ▸ Nat.lt_succ_self 0
  keeps s e s' now _ next := by
    obtain ⟨sound, both⟩ := now
    have steps : Steps L R timeout s e s' := step_steps next
    refine Or.inr
      ⟨⟨sound.step wakesL wakesR steps, forward_stays steps both.1, back_stays steps both.2⟩, ?_⟩
    cases steps with
    | close here sent => exact here ▸ Nat.le_succ 2
    | first here got => exact here ▸ Nat.le_succ 1
    | second here got => exact here ▸ Nat.le_succ 0
    | _ => exact Nat.le_refl _

/-- A call of which one stream is cut, or one direction is over, returns in every fair execution. -/
theorem pipe_ends (wakesL : L.Wakes CutL heldL) (wakesR : R.Wakes CutR heldR) (drainedL : L.Drained)
    (drainedR : R.Drained) (x : Execution (system L R timeout left right))
    (main : x.Fair (· = .main)) (goroutine : x.Fair (· = .goroutine)) (n : Nat)
    (begun : Doomed CutL (x.state n).forward (x.state n).left ∨
      Doomed CutR (x.state n).back (x.state n).right) :
    ∃ m first, n ≤ m ∧ (x.state m).main = .returned first := by
  have sound (m : Nat) : Sound CutL CutR (x.state m) := sound_reachable wakesL wakesR (x.reachable m)
  have forward {m : Nat} (doomed : Doomed CutL (x.state m).forward (x.state m).left) :
      ∃ k, m ≤ k ∧ (Sent (x.state k).forward.at_).isSome :=
    (forward_leads wakesL wakesR drainedR).eventually main ⟨sound m, doomed⟩
  have back {m : Nat} (doomed : Doomed CutR (x.state m).back (x.state m).right) :
      ∃ k, m ≤ k ∧ (Sent (x.state k).back.at_).isSome :=
    (back_leads wakesL wakesR drainedL).eventually goroutine ⟨sound m, doomed⟩
  -- The direction that ends first cuts the source of the other one.
  have both : ∃ k, n ≤ k ∧ Both (x.state k) := by
    rcases begun with doomed | doomed
    · obtain ⟨k, later, sent⟩ := forward doomed
      obtain ⟨err, is⟩ := Option.isSome_iff_exists.mp sent
      obtain ⟨k', later', sent'⟩ := back (m := k) (Or.inl ((sound k).forward (sent_eq is ▸ trivial)))
      exact ⟨k', later.trans later',
        x.always (fun _ _ _ held next => forward_stays (step_steps next) held) later' sent, sent'⟩
    · obtain ⟨k, later, sent⟩ := back doomed
      obtain ⟨err, is⟩ := Option.isSome_iff_exists.mp sent
      obtain ⟨k', later', sent'⟩ := forward (m := k) (Or.inl ((sound k).back (sent_eq is ▸ trivial)))
      exact ⟨k', later.trans later', sent',
        x.always (fun _ _ _ held next => back_stays (step_steps next) held) later' sent⟩
  obtain ⟨k, later, both⟩ := both
  obtain ⟨m, later', first, returned⟩ := (both_leads wakesL wakesR).eventually main ⟨sound k, both⟩
  exact ⟨m, first, later.trans later', returned⟩

/-- The left side finishes, and then everything happens that can. -/
def finished : Execution sockets :=
  .ofEvents sockets (start Socket.connected Socket.connected 0) sockets_start finishing (by decide)

theorem pipe_ends_finished : ∃ m first, 6 ≤ m ∧ (finished.state m).main = .returned first := by
  obtain ⟨s, played, returned, _, back, _⟩ := finishing_played
  have main : finished.Fair (· = .main) := by
    refine Execution.fair_ofEvents played ?_
    rintro ⟨e, rfl, moves⟩
    dsimp only [sockets, system, step, mainStep] at moves
    rw [returned] at moves
    exact absurd moves nofun
  have goroutine : finished.Fair (· = .goroutine) := by
    refine Execution.fair_ofEvents played ?_
    rintro ⟨e, rfl, moves⟩
    dsimp only [sockets, system, step, goroutineStep] at moves
    rw [Option.isSome_map, Copying.step, back] at moves
    exact absurd moves nofun
  have past : Over (finished.state 6).forward.at_ := trivial
  exact pipe_ends Socket.wakes Socket.wakes Socket.drained Socket.drained finished main goroutine 6
    (Or.inl (Or.inr past))

end PipeState

end Gotun.Core
