import Gotun.Tun.PoolSlots

/-! What is left of the pool when the output is closed. -/

namespace Gotun.Tun.StreamPool

open Gotun.Lib

variable {s s' : StreamPool} {e : PoolEvent} {m : Nat}

/-- `Close` still has to empty the slot. -/
def toEmpty (s : StreamPool) (slot : Nat) : Bool :=
  match s.closing with
  | .notCalled | .called => true
  | .slot k n | .marked k n => k ≤ slot ∧ slot < n
  | .returned _ => false

/-- `Close` has not yet read the pool. -/
def unread (s : StreamPool) : Bool := s.closing = .notCalled ∨ s.closing = .called

/-- A maker is put only into a slot that `Close` still has to empty. -/
def early (s : StreamPool) : PoolEvent → Bool
  | .runPublish => match s.running with
    | .creating makers => s.unread ∨ ∀ m ∈ makers, m = none
    | _ => true
  | .SetMaker creation => match s.creations[creation]? with
    | some (slot, .SetMaker (some _)) => s.toEmpty slot
    | _ => true
  | _ => true

/-- Where a maker can be. -/
inductive Place (s : StreamPool) (m : Nat) : Prop
  | shut (closed : m ∈ s.shut)
  | unpublished {makers : List (Option Nat)} (running : s.running = .creating makers)
      (made : some m ∈ makers)
  | slot (slot : Nat) (there : s.makerOf slot = some m)
  | creation (slot : Nat) (made : (slot, Creation.SetMaker (some m)) ∈ s.creations)

structure Accounted (s : StreamPool) : Prop where
  placed : ∀ m < s.next, Place s m
  slots : ∀ c ∈ s.creations, c.1 < s.makerPools.length
  unpublished : s.running ≠ .returned → s.makerPools = []
  emptied : ∀ slot, s.toEmpty slot = false → s.makerOf slot = none

theorem Accounted.initial (poolNum : Nat) : Accounted (StreamPool.initial poolNum) where
  placed _ := nofun
  slots _ := nofun
  unpublished _ := rfl
  emptied _ _ := rfl

theorem makerOf_modify {i : Nat} {f : streamMakerContainer → streamMakerContainer}
    (pools : s'.makerPools = s.makerPools.modify i f) (slot : Nat) :
    s'.makerOf slot = if i = slot then s.makerPools[slot]?.bind fun w =>
      (f w).maker else s.makerOf slot := by
  rw [makerOf, pools, List.getElem?_modify]
  split
  · cases s.makerPools[slot]? <;> rfl
  · rw [makerOf]
    cases s.makerPools[slot]? <;> rfl

/-- A change of a slot that leaves its maker. -/
theorem makerOf_modify_same {i : Nat} {f : streamMakerContainer → streamMakerContainer}
    (pools : s'.makerPools = s.makerPools.modify i f) (same : ∀ w, (f w).maker = w.maker) (slot : Nat) :
    s'.makerOf slot = s.makerOf slot := by
  rw [makerOf_modify pools]
  split
  · rw [makerOf, funext same]
  · rfl

/-- A maker stays where it is, or is closed, if no place loses it otherwise. -/
theorem Place.keep (place : Place s m) (shut : ∀ m ∈ s.shut, m ∈ s'.shut)
    (running : s'.running = s.running) (slots : ∀ slot, s.makerOf slot = some m → Place s' m)
    (creations : ∀ slot, (slot, Creation.SetMaker (some m)) ∈ s.creations → Place s' m) :
    Place s' m := by
  cases place with
  | shut closed => exact .shut (shut m closed)
  | unpublished waits made => exact .unpublished (running.trans waits) made
  | slot slot there => exact slots slot there
  | creation slot made => exact creations slot made

/-- No place changes but that a creation moves on without a maker. -/
theorem Place.moveOn (place : Place s m) (shut : s'.shut = s.shut)
    (running : s'.running = s.running) (slots : ∀ slot, s'.makerOf slot = s.makerOf slot)
    {creation slot : Nat} {c c' : Creation} (at_ : s.creations[creation]? = some (slot, c))
    (set : s'.creations = s.creations.set creation (slot, c'))
    (without : ∀ m, c ≠ .SetMaker (some m)) : Place s' m := by
  refine place.keep (fun m closed => shut ▸ closed) running
    (fun slot there => .slot slot ((slots slot).trans there)) ?_
  intro other made
  refine .creation other (set ▸ mem_set_of_ne made at_ ?_)
  rintro same
  exact without m (congrArg Prod.snd same).symm

theorem makerOf_setMaker (s : StreamPool) {slot : Nat} (x : Option Nat)
    (below : slot < s.makerPools.length) (other : Nat) :
    (s.setMaker slot x).makerOf other = if slot = other then x else s.makerOf other := by
  rw [makerOf_modify (s := s) rfl]
  split
  · rename_i same
    rw [← same, List.getElem?_eq_getElem below]
    rfl
  · rfl

theorem makerOf_setMaker_none (s : StreamPool) (slot other : Nat) :
    (s.setMaker slot none).makerOf other = if slot = other then none else s.makerOf other := by
  rw [makerOf_modify (s := s) rfl]
  split
  · cases s.makerPools[other]? <;> rfl
  · rfl

/-- The maker of a slot that is emptied is closed. -/
theorem place_of_emptied (slot : Nat) (shut : s'.shut = s.shut ++ (s.makerOf slot).toList)
    (others : ∀ other, slot ≠ other → s'.makerOf other = s.makerOf other) {other : Nat}
    (there : s.makerOf other = some m) :
    Place s' m := by
  by_cases here : slot = other
  · refine .shut ?_
    rw [shut, here, there]
    exact List.mem_append_right _ (List.mem_singleton_self m)
  · exact .slot other ((others other here).trans there)

/-- The numbers of the makers after a dial. -/
theorem dialed_number {ok : Bool} {made : Option Nat} (dialed : s.dialed ok = some made)
    (below : m < s.next + made.toList.length) : m < s.next ∨ made = some m := by
  cases ok with
  | true =>
    cases dialed
    have : m < s.next + 1 := below
    by_cases new : m = s.next
    · exact .inr (congrArg some new.symm)
    · exact .inl (by omega)
  | false =>
    rw [StreamPool.dialed] at dialed
    split at dialed
    · cases dialed
      exact .inl below
    · cases dialed

theorem placed_step (held : Accounted s) (next : s.step e = some s') : ∀ m < s'.next, Place s' m := by
  obtain ⟨placed, slots, unpublished, -⟩ := held
  cases stepped next with
  | unchanged => exact placed
  | runs at_ =>
    intro m below
    cases placed m below with
    | shut closed => exact .shut closed
    | unpublished waits => cases at_.symm.trans waits
    | slot slot there => exact .slot slot there
    | creation slot made => exact .creation slot made
  | @runDials makers ok made at_ dialed =>
    intro m below
    rcases dialed_number dialed below with old | rfl
    · cases placed m old with
      | shut closed => exact .shut closed
      | unpublished waits made' =>
        cases at_.symm.trans waits
        exact .unpublished rfl (List.mem_append_left _ made')
      | slot slot there => exact .slot slot there
      | creation slot made => exact .creation slot made
    · exact .unpublished rfl (List.mem_append_right _ (List.mem_singleton_self _))
  | @publishes makers at_ =>
    intro m below
    cases placed m below with
    | shut closed => exact .shut closed
    | unpublished waits made =>
      cases at_.symm.trans waits
      obtain ⟨slot, there⟩ := List.mem_iff_getElem?.mp made
      refine .slot slot ?_
      rw [makerOf, List.getElem?_map, there]
      rfl
    | slot slot there =>
      have waiting : s.running ≠ .returned := fun returned => by cases at_.symm.trans returned
      rw [makerOf, unpublished waiting] at there
      contradiction
    | creation slot made => exact .creation slot made
  | calls | gets | counts | moves | fails | goesDown | closes | ranges | walked =>
    intro m below
    exact (placed m below).keep (fun _ => id) rfl
      (fun slot there => .slot slot there) fun slot made => .creation slot made
  | @swaps call slot left w at_ there free =>
    intro m below
    exact (placed m below).keep (fun _ => id) rfl
      (fun slot there =>
        .slot slot ((makerOf_modify_same (s := s) rfl (by exact fun _ => rfl) slot).trans there))
      fun slot made => .creation slot (List.mem_append_left _ made)
  | @invalidates call slot m' puts at_ =>
    intro m below
    refine (placed m below).keep (fun _ => List.mem_append_left _) rfl
      (fun other there => place_of_emptied slot rfl (fun other ne => ?_) there) fun slot made =>
        .creation slot made
    exact (makerOf_setMaker_none s slot other).trans (if_neg ne)
  | starts at_ =>
    exact fun m below => (placed m below).moveOn rfl rfl (fun _ => rfl) at_ rfl fun _ same => by
      cases same
  | @dials creation slot ok made at_ dialed =>
    intro m below
    rcases dialed_number dialed below with old | rfl
    · exact (placed m old).moveOn rfl rfl (fun _ => rfl) at_ rfl fun _ same => by cases same
    · exact .creation slot (List.mem_set (List.getElem?_eq_some_iff.mp at_).1 _)
  | @sets creation slot made at_ =>
    intro m below
    have within := slots _ (List.mem_of_getElem? at_)
    refine (placed m below).keep (fun _ => List.mem_append_left _) rfl
      (fun other there => place_of_emptied slot rfl (fun other ne => ?_) there) fun other made' => ?_
    · exact (makerOf_setMaker s made within other).trans (if_neg ne)
    · by_cases same : (other, Creation.SetMaker (some m)) = (slot, .SetMaker made)
      · cases same
        exact .slot slot ((makerOf_setMaker s (some m) within slot).trans (if_pos rfl))
      · exact .creation other (mem_set_of_ne made' at_ same)
  | @leaves creation slot at_ =>
    exact fun m below => (placed m below).moveOn rfl rfl
      (makerOf_modify_same (s := s) rfl fun _ => rfl) at_ rfl fun _ same => by
      cases same
  | marks =>
    intro m below
    exact (placed m below).keep (fun _ => id) rfl
      (fun slot there =>
        .slot slot ((makerOf_modify_same (s := s) rfl (by exact fun _ => rfl) slot).trans there))
      fun slot made => .creation slot made
  | @empties k n at_ =>
    intro m below
    refine (placed m below).keep (fun _ => List.mem_append_left _) rfl
      (fun other there => place_of_emptied k rfl (fun other ne => ?_) there) fun slot made =>
        .creation slot made
    exact (makerOf_modify (s := s) rfl other).trans (if_neg ne)

/-- The pool is published once, and has as many slots ever after. -/
theorem pool_step (unpublished : s.running ≠ .returned → s.makerPools = []) (next : s.step e = some s') :
    (s'.running ≠ .returned → s'.makerPools = []) ∧
      (s.makerPools = [] ∨ s'.makerPools.length = s.makerPools.length) := by
  cases stepped next with
  | runs at_ => exact ⟨fun _ => unpublished (by rw [at_]; nofun), .inr rfl⟩
  | runDials at_ => exact ⟨fun _ => unpublished (by rw [at_]; nofun), .inr rfl⟩
  | publishes at_ => exact ⟨fun waiting => absurd rfl waiting, .inl (unpublished (by rw [at_]; nofun))⟩
  | unchanged | calls | gets | counts | moves | fails | goesDown | closes | ranges | walked | starts
  | dials =>
    exact ⟨unpublished, .inr rfl⟩
  | swaps | invalidates | sets | leaves | marks | empties =>
    exact ⟨fun waiting => modify_empty (unpublished waiting), .inr (List.length_modify ..)⟩

theorem slots_step (held : Accounted s) (next : s.step e = some s') :
    ∀ c ∈ s'.creations, c.1 < s'.makerPools.length := by
  have old : ∀ c ∈ s.creations, c.1 < s'.makerPools.length := by
    intro c member
    have below := held.slots c member
    rcases (pool_step held.unpublished next).2 with empty | same
    · rw [empty] at below
      contradiction
    · omega
  have set {creation slot : Nat} {c c' : Creation} (at_ : s.creations[creation]? = some (slot, c)) :
      ∀ entry ∈ s.creations.set creation (slot, c'), entry.1 < s'.makerPools.length := by
    intro entry member
    rcases List.mem_or_eq_of_mem_set member with before | rfl
    · exact old entry before
    · exact old (slot, c) (List.mem_of_getElem? at_)
  cases stepped next with
  | swaps at_ there =>
    intro c member
    rcases List.mem_append.mp member with before | new
    · exact old c before
    · rw [List.mem_singleton.mp new, List.length_modify]
      exact (List.getElem?_eq_some_iff.mp there).1
  | starts at_ => exact set at_
  | dials at_ => exact set at_
  | sets at_ => exact set at_
  | leaves at_ => exact set at_
  | unchanged | runs | runDials | publishes | calls | gets | counts | moves | fails | invalidates
  | goesDown | closes | ranges
    | marks | walked | empties => exact old

theorem toEmpty_of_unread (unread : s.unread = true) (slot : Nat) : s.toEmpty slot = true := by
  rcases of_decide_eq_true unread with at_ | at_ <;> rw [toEmpty, at_]

theorem emptied_step (held : Accounted s) (intime : s.early e = true) (next : s.step e = some s') :
    ∀ slot, s'.toEmpty slot = false → s'.makerOf slot = none := by
  have emptied := held.emptied
  cases stepped next with
  | unchanged | runs | runDials | calls | gets | counts | moves | fails | goesDown | starts
  | dials => exact emptied
  | @publishes makers at_ =>
    intro slot done
    simp only [early, at_, decide_eq_true_eq] at intime
    rcases intime with waits | without
    · cases (toEmpty_of_unread waits slot).symm.trans done
    · rw [makerOf, List.getElem?_map]
      cases entry : makers[slot]? with
      | none => rfl
      | some m => exact without m (List.mem_of_getElem? entry)
  | swaps | leaves =>
    exact fun slot done => (makerOf_modify_same (s := s) rfl (by exact fun _ => rfl) slot).trans
      (emptied slot done)
  | @invalidates call slot m puts at_ =>
    intro other done
    refine (makerOf_setMaker_none s slot other).trans ?_
    split
    · rfl
    · exact emptied other done
  | @sets creation slot made at_ =>
    intro other done
    refine (makerOf_setMaker s made (held.slots _ (List.mem_of_getElem? at_)) other).trans ?_
    split
    · rename_i same
      cases made with
      | none => rfl
      | some m =>
        simp only [early, at_] at intime
        obtain rfl : slot = other := same
        cases intime.symm.trans done
    · exact emptied other done
  | closes => exact fun slot done => by cases done
  | ranges at_ =>
    intro slot done
    have above : ¬ (0 ≤ slot ∧ slot < s.makerPools.length) := of_decide_eq_false done
    have absent : s.makerPools[slot]? = none := List.getElem?_eq_none (by omega)
    rw [makerOf, absent]
    rfl
  | @marks k n at_ more =>
    intro slot done
    refine (makerOf_modify_same (s := s) rfl (by exact fun _ => rfl) slot).trans (emptied slot ?_)
    rw [toEmpty, at_]
    exact done
  | @walked k n at_ last =>
    intro slot done
    refine emptied slot ?_
    rw [toEmpty, at_]
    exact decide_eq_false (by omega)
  | @empties k n at_ =>
    intro slot done
    have walked : ¬ (k + 1 ≤ slot ∧ slot < n) := of_decide_eq_false done
    refine (makerOf_modify (s := s) rfl slot).trans ?_
    split
    · cases s.makerPools[slot]? <;> rfl
    · refine emptied slot ?_
      rw [toEmpty, at_]
      exact decide_eq_false (by omega)

/-- Everything has been closed that was ever made. -/
def AllShut (s : StreamPool) : Prop := (∀ m < s.next, m ∈ s.shut) ∧ ∀ slot, s.makerOf slot = none

/-- `Close` has returned, and `Run` and the creations are over. -/
def quiet (s : StreamPool) : Bool :=
  (match s.closing with
    | .returned _ => true
    | _ => false) &&
  (match s.running with
    | .creating _ => false
    | _ => true) && s.creations.all fun c => c.2 = .ended

/-- If makers are put only into slots that `Close` still has to empty, none is left open. -/
theorem closed_all_shut {events : List PoolEvent}
    (run : system.Run (fun s e => s.early e = true) events s)
    (over_ : s.quiet = true) : AllShut s := by
  have held : Accounted s := by
    refine run.invariant Accounted ?_ fun s e s' held intime next => ?_
    · rintro s ⟨poolNum, rfl⟩
      exact .initial poolNum
    · exact ⟨placed_step held next, slots_step held next, (pool_step held.unpublished next).1,
        emptied_step held intime next⟩
  rw [quiet, Bool.and_eq_true, Bool.and_eq_true] at over_
  obtain ⟨⟨returned, idle⟩, ended⟩ := over_
  have emptied : ∀ slot, s.makerOf slot = none := by
    intro slot
    refine held.emptied slot ?_
    rw [toEmpty]
    split at returned
    · rename_i at_
      rw [at_]
    · contradiction
  refine ⟨fun m below => ?_, emptied⟩
  cases held.placed m below with
  | shut closed => exact closed
  | unpublished waits =>
    rw [waits] at idle
    contradiction
  | slot slot there => exact absurd ((emptied slot).symm.trans there) nofun
  | creation slot made => exact absurd (of_decide_eq_true (List.all_eq_true.mp ended _ made)) nofun

/-- A maker goes down and is replaced, and then the output is closed. -/
def replacedThenClosed : List PoolEvent :=
  makerInUse ++ [.goDown 0] ++ tryCreate 1 ++ [.start 0, .dial 0 true, .SetMaker 0, .leave 0] ++
    [.Close, .range, .storeClosed, .emptySlot, .storeClosed]

theorem closed_all_shut_two :
    ∃ s, system.Run (fun s e => s.early e = true) replacedThenClosed s ∧ s.next = 2 ∧ AllShut s := by
  have played : (system.play early replacedThenClosed (initial 1)).any
      (fun s => s.next = 2 ∧ s.quiet) = true := by
    decide +kernel
  obtain ⟨s, run, seen⟩ := System.Run.of_play (starts_initial 1) played
  obtain ⟨two, finished⟩ := of_decide_eq_true seen
  exact ⟨s, run, two, closed_all_shut run finished⟩

/-- `Close` comes while `Run` is still dialing, and finds no pool; the maker that is then published
stays open. -/
theorem maker_left_open :
    ∃ s, system.Run (fun _ _ => True)
      [.Run, .Close, .range, .storeClosed, .runDial true, .runPublish] s ∧
      s.quiet = true ∧ ¬ AllShut s := by
  have played : (system.play (fun _ _ => true)
    [.Run, .Close, .range, .storeClosed, .runDial true, .runPublish] (initial 1)).any
      (fun s => s.quiet ∧ s.makerOf 0 = some 0) = true := by
    decide +kernel
  obtain ⟨s, run, seen⟩ := System.Run.of_play (starts_initial 1) played
  obtain ⟨finished, left⟩ := of_decide_eq_true seen
  exact ⟨s, run.mono fun _ _ _ => trivial, finished, fun all => absurd ((all.2 0).symm.trans left) nofun⟩

end Gotun.Tun.StreamPool
