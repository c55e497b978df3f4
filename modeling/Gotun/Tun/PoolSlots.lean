import Gotun.Lib.Entries
import Gotun.Tun.OutputPool

/-! The slots of the pool while streams are opened: how many creations a slot has, and which maker an
invalidation closes. -/

namespace Gotun.Tun.StreamPool

open Gotun.Lib

variable {s s' : StreamPool} {e : PoolEvent}

def creatingAt (s : StreamPool) (slot : Nat) : Bool := s.makerPools[slot]?.any (·.creating)

/-- The goroutines of a slot that have not ended. -/
def alive (s : StreamPool) (slot : Nat) : Nat := s.creations.countP fun c => c.1 = slot ∧ c.2 ≠ .ended

/-- The creation functions of a slot that are running. -/
def runningAt (s : StreamPool) (slot : Nat) : Nat := s.creations.countP fun c => c.1 = slot ∧ c.2.running

theorem runningAt_le_alive (s : StreamPool) (slot : Nat) : s.runningAt slot ≤ s.alive slot := by
  refine List.countP_mono_left fun c _ running => ?_
  obtain ⟨here, runs⟩ := of_decide_eq_true running
  refine decide_eq_true ⟨here, fun ended => ?_⟩
  rw [ended] at runs
  exact Bool.false_ne_true runs

theorem alive_set_add {creation slot : Nat} {c c' : Creation}
    (at_ : s.creations[creation]? = some (slot, c))
    (set : s'.creations = s.creations.set creation (slot, c')) (other : Nat) :
    s'.alive other + (if slot = other ∧ c ≠ .ended then 1 else 0) =
      s.alive other + if slot = other ∧ c' ≠ .ended then 1 else 0 := by
  have counted := countP_set_add (p := fun c => c.1 = other ∧ c.2 ≠ .ended) (b := (slot, c')) at_
  simp only [decide_eq_true_eq] at counted
  rw [alive, set]
  exact counted

theorem alive_set {creation slot : Nat} {c c' : Creation}
    (at_ : s.creations[creation]? = some (slot, c))
    (set : s'.creations = s.creations.set creation (slot, c')) (before : c ≠ .ended)
    (after : c' ≠ .ended) (other : Nat) :
    s'.alive other = s.alive other := by
  have counted := alive_set_add at_ set other
  simp only [before, after, ne_eq, not_false_eq_true, and_true] at counted
  exact Nat.add_right_cancel counted

/-! The flag `creating` tells whether a slot has a goroutine. -/

structure Single (s : StreamPool) : Prop where
  flagged : ∀ slot, s.alive slot = (s.creatingAt slot).toNat
  unpublished : s.running ≠ .returned → s.makerPools = []
  untouched : s.closing = .notCalled
  opened : s.close = false
  made : ∀ c ∈ s.creations, c.2 ≠ .SetMaker none

/-- An invalidation finds no creation of its slot in progress, and the output is not closed. -/
def calm (s : StreamPool) : PoolEvent → Bool
  | .invalidateMaker call => match s.calls[call]? with
    | some (.invalidateMaker slot _ _) => !s.creatingAt slot
    | _ => true
  | .Close => false
  | _ => true

theorem Single.initial (poolNum : Nat) : Single (StreamPool.initial poolNum) where
  flagged _ := rfl
  unpublished _ := rfl
  untouched := rfl
  opened := rfl
  made _ := nofun

theorem creatingAt_modify {slot : Nat} {f : streamMakerContainer → streamMakerContainer}
    (pools : s'.makerPools = s.makerPools.modify slot f) (other : Nat)
    (kept : ∀ w, s.makerPools[other]? = some w → slot = other → (f w).creating = w.creating) :
    s'.creatingAt other = s.creatingAt other := by
  rw [creatingAt, pools]
  exact any_modify other kept

theorem made_set {creations : List (Nat × Creation)} {creation slot : Nat} {c : Creation}
    (made : ∀ c ∈ creations, c.2 ≠ .SetMaker none) (new : c ≠ .SetMaker none) :
    ∀ c' ∈ creations.set creation (slot, c), c'.2 ≠ .SetMaker none := by
  intro c' member
  rcases List.mem_or_eq_of_mem_set member with old | rfl
  · exact made c' old
  · exact new

/-- Without a close a dial is repeated until it succeeds. -/
theorem dialed_some {ok : Bool} {m : Option Nat} (dialed : s.dialed ok = some m)
    (opened : s.close = false) : m ≠ none := by
  rintro rfl
  cases ok with
  | true => cases dialed
  | false =>
    rw [StreamPool.dialed, opened] at dialed
    cases dialed

theorem Single.step (held : Single s) (quiet : s.calm e = true)
    (next : s.step e = some s') : Single s' := by
  obtain ⟨flagged, unpublished, untouched, opened, made⟩ := held
  cases stepped next with
  | unchanged => exact ⟨flagged, unpublished, untouched, opened, made⟩
  | runs at_ => exact ⟨flagged, fun _ => unpublished (by rw [at_]; nofun), untouched, opened, made⟩
  | runDials at_ => exact ⟨flagged, fun _ => unpublished (by rw [at_]; nofun), untouched, opened, made⟩
  | @publishes makers at_ =>
    have empty := unpublished (by rw [at_]; nofun)
    refine ⟨fun slot => (flagged slot).trans ?_, fun waiting => absurd rfl waiting,
      untouched, opened, made⟩
    rw [creatingAt, creatingAt, empty, List.getElem?_nil, List.getElem?_map, Option.any_map]
    cases makers[slot]? <;> rfl
  | calls => exact ⟨flagged, unpublished, untouched, opened, made⟩
  | gets => exact ⟨flagged, unpublished, untouched, opened, made⟩
  | counts => exact ⟨flagged, unpublished, untouched, opened, made⟩
  | moves => exact ⟨flagged, unpublished, untouched, opened, made⟩
  | @swaps call slot left w at_ there free =>
    refine ⟨fun other => ?_, fun waiting => ?_, untouched, opened, ?_⟩
    · rw [alive, List.countP_append, ← alive, flagged other]
      by_cases here : slot = other
      · subst here
        rw [creatingAt, creatingAt, List.getElem?_modify, there]
        simp [free]
      · rw [creatingAt, creatingAt, any_modify_ne here]
        simp [here]
    · rw [unpublished waiting] at there
      contradiction
    · intro c member
      rcases List.mem_append.mp member with old | new
      · exact made c old
      · rw [List.mem_singleton.mp new]
        nofun
  | fails => exact ⟨flagged, unpublished, untouched, opened, made⟩
  | invalidates at_ =>
    refine ⟨fun slot => (flagged slot).trans ?_, fun waiting => modify_empty (unpublished waiting),
      untouched, opened, made⟩
    refine congrArg Bool.toNat (creatingAt_modify rfl slot fun w there here => ?_).symm
    simp only [calm, at_, here, creatingAt, there, Option.any_some, Bool.not_eq_true'] at quiet
    exact quiet.symm
  | starts at_ after =>
    refine ⟨fun slot => (alive_set at_ rfl nofun ?_ slot).trans (flagged slot), unpublished,
      untouched, opened, ?_⟩
    · rcases after with rfl | rfl <;> nofun
    · exact made_set made (by rcases after with rfl | rfl <;> nofun)
  | dials at_ dialed =>
    refine ⟨fun slot => (alive_set at_ rfl nofun (by nofun) slot).trans (flagged slot), unpublished,
      untouched, opened, ?_⟩
    exact made_set made fun given => dialed_some dialed opened (Creation.SetMaker.inj given)
  | @sets creation slot m at_ =>
    have some_ : m ≠ none :=
      fun none_ => made _ (List.mem_of_getElem? at_) (congrArg Creation.SetMaker none_)
    refine ⟨fun slot => (alive_set at_ rfl nofun (by nofun) slot).trans ((flagged slot).trans ?_),
      fun waiting => modify_empty (unpublished waiting), untouched, opened, made_set made nofun⟩
    refine congrArg Bool.toNat (creatingAt_modify rfl slot fun w there here => ?_).symm
    rw [streamMakerContainer.SetMaker, if_neg some_]
  | @leaves creation slot at_ =>
    refine ⟨fun other => ?_, fun waiting => modify_empty (unpublished waiting), untouched, opened,
      made_set made nofun⟩
    have counted : (s.setCreation creation slot .ended).alive other + _ = _ :=
      alive_set_add at_ rfl other
    have before := flagged other
    change (s.setCreation creation slot .ended).alive other = _
    by_cases here : slot = other
    · subst here
      rw [creatingAt, any_modify_false fun _ => rfl, Bool.toNat_false]
      simp only [ne_eq, reduceCtorEq, not_false_eq_true, and_true, if_true, not_true_eq_false,
        and_false, if_false] at counted
      have single := Bool.toNat_le (s.creatingAt slot)
      omega
    · rw [creatingAt, any_modify_ne here, ← creatingAt, ← before]
      simp only [here, false_and, if_false] at counted
      exact counted
  | goesDown => exact ⟨flagged, unpublished, untouched, opened, made⟩
  | closes => exact absurd quiet Bool.false_ne_true
  | ranges at_ => exact absurd (untouched.symm.trans at_) nofun
  | marks at_ => exact absurd (untouched.symm.trans at_) nofun
  | walked at_ => exact absurd (untouched.symm.trans at_) nofun
  | empties at_ => exact absurd (untouched.symm.trans at_) nofun

/-- If no invalidation comes while a creation of its slot is in progress, no slot ever has two. -/
theorem single_creation {events : List PoolEvent}
    (run : system.Run (fun s e => s.calm e = true) events s) (slot : Nat) :
    s.runningAt slot ≤ 1 := by
  have held : Single s := by
    refine run.invariant Single ?_ fun _ _ _ held quiet next => held.step quiet next
    rintro s ⟨poolNum, rfl⟩
    exact .initial poolNum
  calc
    s.runningAt slot ≤ s.alive slot := runningAt_le_alive s slot
    _ = (s.creatingAt slot).toNat := held.flagged slot
    _ ≤ 1 := Bool.toNat_le _

/-- The iteration of a call whose slot is found without a maker. -/
def tryCreate (call : Nat) : List PoolEvent :=
  [.getStream, .poolIdxLoad call, .poolIdxAdd call, .GetMaker call 0, .loadClosed call,
    .compareAndSwap call]

def makerInUse : List PoolEvent :=
  [.Run, .runDial true, .runPublish, .getStream, .poolIdxLoad 0, .poolIdxAdd 0, .GetMaker 0 0]

/-- A maker has gone down and its slot has a new creation; only then its caller gives up, and a
third call comes. -/
def lateFailure : List PoolEvent :=
  makerInUse ++ [.goDown 0] ++ tryCreate 1 ++ [.start 0, .OpenStream 0 false, .invalidateMaker 0] ++
    tryCreate 2 ++ [.start 1]

def failureThenCall : List PoolEvent :=
  makerInUse ++ [.goDown 0, .OpenStream 0 false, .invalidateMaker 0] ++ tryCreate 1 ++ [.start 0]

theorem single_creation_after_failure :
    ∃ s, system.Run (fun s e => s.calm e = true) failureThenCall s ∧ s.runningAt 0 = 1 ∧
      s.runningAt 0 ≤ 1 := by
  have played :
    (system.play calm failureThenCall (initial 1)).any (fun s => s.runningAt 0 = 1) = true := by
    decide +kernel
  obtain ⟨s, run, seen⟩ := System.Run.of_play (starts_initial 1) played
  exact ⟨s, run, of_decide_eq_true seen, single_creation run 0⟩

/-- A late failure clears the flag of a creation that is still running. -/
theorem two_creations :
    ∃ s, PoolEvent.Close ∉ lateFailure ∧ system.Run (fun _ _ => True) lateFailure s ∧
      s.runningAt 0 = 2 := by
  have played : (system.play (fun _ _ => true) lateFailure (initial 1)).any
      (fun s => s.runningAt 0 = 2) = true := by
    decide +kernel
  obtain ⟨s, run, seen⟩ := System.Run.of_play (starts_initial 1) played
  exact ⟨s, by decide, run.mono fun _ _ _ => trivial, of_decide_eq_true seen⟩

/-! The maker of a slot is the one that a caller has got, unless another has been put in since. -/

def Knows (pools : List streamMakerContainer) (c : StreamCall) : Prop :=
  ∀ slot m puts, c.uses = some (slot, m, puts) →
    ∃ w, pools[slot]? = some w ∧ puts ≤ w.puts ∧ (w.puts = puts → w.maker = none ∨ w.maker = some m)

structure Held (s : StreamPool) : Prop where
  known : ∀ c ∈ s.calls, Knows s.makerPools c
  unpublished : s.running ≠ .returned → s.makerPools = []
  own : ∀ entry ∈ s.invalidated, ∀ m, entry.2 = some m → m = entry.1

/-- An invalidation finds its slot empty, or no maker has been put into it since the caller got its
own. -/
def timely (s : StreamPool) : PoolEvent → Bool
  | .invalidateMaker call => match s.calls[call]? with
    | some (.invalidateMaker slot _ puts) =>
      s.makerPools[slot]?.all fun w => w.maker = none ∨ w.puts = puts
    | _ => true
  | _ => true

theorem Held.initial (poolNum : Nat) : Held (StreamPool.initial poolNum) where
  known _ := nofun
  unpublished _ := rfl
  own _ := nofun

theorem Knows.of_uses_none {pools : List streamMakerContainer} {c : StreamCall}
    (without : c.uses = none) : Knows pools c := by
  intro slot m puts used
  rw [without] at used
  contradiction

theorem Knows.modify {pools : List streamMakerContainer} {c : StreamCall} (knows : Knows pools c)
    {i : Nat} {f : streamMakerContainer → streamMakerContainer}
    (changed : ∀ w, w.puts < (f w).puts ∨ (f w).puts = w.puts ∧
      ((f w).maker = none ∨ (f w).maker = w.maker)) :
    Knows (pools.modify i f) c := by
  intro slot m puts used
  obtain ⟨w, there, counted, same⟩ := knows slot m puts used
  refine ⟨if i = slot then f w else w, by rw [List.getElem?_modify, there]; rfl, ?_⟩
  by_cases here : i = slot
  · rw [if_pos here]
    rcases changed w with more | ⟨equal, gone | kept⟩
    · exact ⟨by omega, by omega⟩
    · exact ⟨by omega, fun _ => .inl gone⟩
    · rw [equal, kept]
      exact ⟨counted, same⟩
  · rw [if_neg here]
    exact ⟨counted, same⟩

theorem known_set {pools : List streamMakerContainer} {calls : List StreamCall} {call : Nat}
    {c : StreamCall} (known : ∀ c ∈ calls, Knows pools c) (new : Knows pools c) :
    ∀ c' ∈ calls.set call c, Knows pools c' := by
  intro c' member
  rcases List.mem_or_eq_of_mem_set member with old | rfl
  · exact known c' old
  · exact new

theorem SetMaker_changes (w : streamMakerContainer) (m : Option Nat) :
    w.puts < (w.SetMaker m).puts ∨ (w.SetMaker m).puts = w.puts ∧
      ((w.SetMaker m).maker = none ∨ (w.SetMaker m).maker = w.maker) := by
  cases m with
  | none => exact .inr ⟨rfl, .inl rfl⟩
  | some m => exact .inl (Nat.lt_succ_self w.puts)

/-- A timely invalidation closes the maker that has failed, or none. -/
theorem invalidates_own (held : Held s) {call slot m puts : Nat}
    (at_ : s.calls[call]? = some (.invalidateMaker slot m puts))
    (intime : s.timely (.invalidateMaker call) = true) {m' : Nat}
    (closed : s.makerOf slot = some m') : m' = m := by
  obtain ⟨w, there, _, same⟩ := held.known _ (List.mem_of_getElem? at_) slot m puts rfl
  simp only [timely, at_, there, Option.all_some, decide_eq_true_eq] at intime
  rw [makerOf, there] at closed
  rcases intime with empty | count
  · exact absurd (empty.symm.trans closed) nofun
  · rcases same count with empty | own
    · exact absurd (empty.symm.trans closed) nofun
    · exact Option.some.inj (closed.symm.trans own)

theorem Held.step (held : Held s) (intime : s.timely e = true)
    (next : s.step e = some s') : Held s' := by
  have ⟨known, unpublished, own⟩ := held
  cases stepped next with
  | unchanged => exact held
  | runs at_ => exact ⟨known, fun _ => unpublished (by rw [at_]; nofun), own⟩
  | runDials at_ => exact ⟨known, fun _ => unpublished (by rw [at_]; nofun), own⟩
  | publishes at_ =>
    -- before, there was no slot that a call could have a maker of
    refine ⟨fun c member slot m puts used => ?_, fun waiting => absurd rfl waiting, own⟩
    obtain ⟨w, there, _⟩ := known c member slot m puts used
    rw [unpublished (by rw [at_]; nofun)] at there
    contradiction
  | calls =>
    refine ⟨fun c member => ?_, unpublished, own⟩
    rcases List.mem_append.mp member with old | new
    · exact known c old
    · rw [List.mem_singleton.mp new]
      exact .of_uses_none rfl
  | @gets call slot m w there got =>
    refine ⟨known_set known fun slot' m' puts used => ?_, unpublished, own⟩
    cases used
    have found := (Option.filter_eq_some_iff.mp got).1
    rw [makerOf, there] at found
    exact ⟨w, there, Nat.le_refl _, fun _ => .inr found⟩
  | counts => exact ⟨known_set known (.of_uses_none rfl), unpublished, own⟩
  | moves call without => exact ⟨known_set known (.of_uses_none without), unpublished, own⟩
  | swaps at_ there =>
    exact ⟨fun c member => (known_set known (.of_uses_none rfl) c member).modify fun _ =>
      .inr ⟨rfl, .inr rfl⟩, fun waiting => modify_empty (unpublished waiting), own⟩
  | fails at_ =>
    exact ⟨known_set known fun slot m puts used =>
      known _ (List.mem_of_getElem? at_) slot m puts used, unpublished, own⟩
  | invalidates at_ =>
    refine ⟨fun c member => (known_set known (.of_uses_none rfl) c member).modify fun w =>
      SetMaker_changes w none, fun waiting => modify_empty (unpublished waiting),
      fun entry member m closed => ?_⟩
    rcases List.mem_append.mp member with old | new
    · exact own entry old m closed
    · rw [List.mem_singleton.mp new] at closed ⊢
      exact invalidates_own held at_ intime closed
  | starts => exact ⟨known, unpublished, own⟩
  | dials => exact ⟨known, unpublished, own⟩
  | @sets creation slot m at_ =>
    exact ⟨fun c member => (known c member).modify fun w => SetMaker_changes w m,
      fun waiting => modify_empty (unpublished waiting), own⟩
  | leaves =>
    exact ⟨fun c member => (known c member).modify fun _ => .inr ⟨rfl, .inr rfl⟩,
      fun waiting => modify_empty (unpublished waiting), own⟩
  | goesDown => exact ⟨known, unpublished, own⟩
  | closes => exact ⟨known, unpublished, own⟩
  | ranges => exact ⟨known, unpublished, own⟩
  | marks =>
    exact ⟨fun c member => (known c member).modify fun _ => .inr ⟨rfl, .inr rfl⟩,
      fun waiting => modify_empty (unpublished waiting), own⟩
  | walked => exact ⟨known, unpublished, own⟩
  | empties =>
    exact ⟨fun c member => (known c member).modify fun _ => .inr ⟨rfl, .inl rfl⟩,
      fun waiting => modify_empty (unpublished waiting), own⟩

/-- If every invalidation is timely, each one has closed no maker but the one that failed. -/
theorem invalidated_own {events : List PoolEvent}
    (run : system.Run (fun s e => s.timely e = true) events s) :
    ∀ entry ∈ s.invalidated, ∀ m, entry.2 = some m → m = entry.1 := by
  refine (run.invariant Held ?_ fun _ _ _ held intime next => held.step intime next).own
  rintro s ⟨poolNum, rfl⟩
  exact .initial poolNum

theorem invalidated_own_failure :
    ∃ s, system.Run (fun s e => s.timely e = true) failureThenCall s ∧ s.invalidated = [(0, some 0)] ∧
      ∀ entry ∈ s.invalidated, ∀ m, entry.2 = some m → m = entry.1 := by
  have played : (system.play timely failureThenCall (initial 1)).any
      (fun s => s.invalidated = [(0, some 0)]) = true := by
    decide +kernel
  obtain ⟨s, run, seen⟩ := System.Run.of_play (starts_initial 1) played
  exact ⟨s, run, of_decide_eq_true seen, invalidated_own run⟩

/-- A new maker has been put into the slot, and a call uses it, when the caller of the old one gives
up. -/
def replacedMeanwhile : List PoolEvent :=
  makerInUse ++ [.goDown 0] ++ tryCreate 1 ++ [.start 0, .dial 0 true, .SetMaker 0, .leave 0] ++
    [.getStream, .poolIdxLoad 2, .poolIdxAdd 2, .GetMaker 2 0, .OpenStream 2 true,
      .OpenStream 0 false, .invalidateMaker 0]

/-- The new maker, which had not failed, is closed. -/
theorem healthy_maker_closed :
    ∃ s, system.Run (fun _ _ => True) replacedMeanwhile s ∧ s.invalidated = [(0, some 1)] ∧
      1 ∉ s.down ∧ 1 ∈ s.shut := by
  have played : (system.play (fun _ _ => true) replacedMeanwhile (initial 1)).any
      (fun s => s.invalidated = [(0, some 1)] ∧ 1 ∉ s.down ∧ 1 ∈ s.shut) = true := by
    decide +kernel
  obtain ⟨s, run, seen⟩ := System.Run.of_play (starts_initial 1) played
  exact ⟨s, run.mono fun _ _ _ => trivial, of_decide_eq_true seen⟩

end Gotun.Tun.StreamPool
