import Gotun.Tun.OutputPool
import Mathlib.Order.Interval.Finset.Nat
import Mathlib.Algebra.Order.Group.Int

/-! The slots that `getStreamMaker` computes from its counter of 32 bits, which is never reset. -/

namespace Gotun.Tun

/-- The counter after some iterations. -/
def poolIdxAfter : Nat → Int32
  | 0 => 0
  | k + 1 => poolIdxAfter k + 1

/-- The indices of the iterations of `getStreamMaker` that are left, if no other call adds to the
counter. -/
def undisturbed (poolNum : Nat) : Nat → Int32 → List Int
  | 0, _ => []
  | left + 1, poolIdx => slotIndex poolIdx poolNum :: undisturbed poolNum left (poolIdx + 1)

/-- All the indices of the call are slots, and every slot comes up once. -/
def VisitsEverySlotOnce (poolNum : Nat) (indices : List Int) : Prop :=
  (∀ idx ∈ indices, 0 ≤ idx ∧ idx < poolNum) ∧ ∀ slot : Nat, slot < poolNum →
    indices.count (slot : Int) = 1

theorem toInt_poolIdxAfter (k : Nat) : (poolIdxAfter k).toInt = (k : Int).bmod (2 ^ 32) := by
  induction k with
  | zero => rfl
  | succ k ih =>
    rw [poolIdxAfter, Int32.toInt_add, ih]
    exact Int.bmod_add_bmod

/-- The counter of a pool is the number of iterations so far, wrapped. -/
theorem poolIdx_of_reachable {s : StreamPool} (reachable : StreamPool.system.Reachable s) :
    ∃ k, s.poolIdx = poolIdxAfter k := by
  refine reachable.invariant (fun s => ∃ k, s.poolIdx = poolIdxAfter k) ?_ ?_
  · rintro s ⟨poolNum, rfl⟩
    exact ⟨0, rfl⟩
  · rintro s e s' ⟨k, counted⟩ next
    cases StreamPool.stepped next with
    | counts => exact ⟨k + 1, by rw [poolIdxAfter, ← counted]⟩
    | _ => exact ⟨k, counted⟩

theorem undisturbed_eq_map (poolNum left k : Nat) :
    undisturbed poolNum left (poolIdxAfter k) = (List.range' k left).map fun j =>
      slotIndex (poolIdxAfter j) poolNum := by
  induction left generalizing k with
  | zero => rfl
  | succ left ih => rw [undisturbed, ← poolIdxAfter, ih, List.range'_succ, List.map_cons]

/-- The counter as long as it has not reached the sign bit. -/
theorem toInt_below {k : Nat} (below : k % 2 ^ 32 < 2 ^ 31) :
    (poolIdxAfter k).toInt = (k % 2 ^ 32 : Nat) := by
  rw [toInt_poolIdxAfter, Int.bmod_def]
  split <;> omega

theorem toInt_above {k : Nat} (above : 2 ^ 31 ≤ k % 2 ^ 32) :
    (poolIdxAfter k).toInt = (k % 2 ^ 32 : Nat) - 2 ^ 32 := by
  rw [toInt_poolIdxAfter, Int.bmod_def]
  split <;> omega

theorem slotIndex_below {poolNum k : Nat} (below : k % 2 ^ 32 < 2 ^ 31) :
    slotIndex (poolIdxAfter k) poolNum = (k % 2 ^ 32 % poolNum : Nat) := by
  rw [slotIndex, toInt_below below]
  exact (Int.ofNat_tmod _ _).symm

/-- With the sign bit set, only a multiple of the number of slots has an index that is not negative. -/
theorem dvd_of_slotIndex_nonneg {poolNum k : Nat} (above : 2 ^ 31 ≤ k % 2 ^ 32)
    (nonneg : 0 ≤ slotIndex (poolIdxAfter k) poolNum) : poolNum ∣ 2 ^ 32 - k % 2 ^ 32 := by
  have negative : (poolIdxAfter k).toInt = -((2 ^ 32 - k % 2 ^ 32 : Nat) : Int) := by
    rw [toInt_above above]
    omega
  rw [slotIndex, negative, Int.neg_tmod, ← Int.ofNat_tmod] at nonneg
  exact Nat.dvd_of_mod_eq_zero (by omega)

/-- Consecutive numbers modulo the number of slots are all the slots. -/
theorem visits_of_consecutive {poolNum k : Nat} (first : Nat)
    (consecutive : ∀ i < poolNum, slotIndex (poolIdxAfter (k + i)) poolNum =
      ((first + i) % poolNum : Nat)) :
    VisitsEverySlotOnce poolNum (undisturbed poolNum poolNum (poolIdxAfter k)) := by
  have residues : ((List.range' first poolNum).map (· % poolNum)).Perm (List.range poolNum) := by
    have slots := Nat.multiset_Ico_map_mod first poolNum
    rw [Multiset.Ico, Nat.Ico_eq_range', Nat.add_sub_cancel_left] at slots
    exact Multiset.coe_eq_coe.mp slots
  have indices : undisturbed poolNum poolNum (poolIdxAfter k) =
      ((List.range' first poolNum).map (· % poolNum)).map ((↑) : Nat → Int) := by
    rw [undisturbed_eq_map, List.range'_eq_map_range, List.range'_eq_map_range, List.map_map,
      List.map_map, List.map_map]
    apply List.map_congr_left
    intro i member
    exact consecutive i (List.mem_range.mp member)
  have slots := residues.map ((↑) : Nat → Int)
  rw [indices]
  constructor
  · intro idx member
    obtain ⟨slot, below, rfl⟩ := List.mem_map.mp (slots.mem_iff.mp member)
    have := List.mem_range.mp below
    omega
  · intro slot below
    rw [slots.count_eq, List.count_map_of_injective _ _ fun _ _ => Int.ofNat_inj.mp]
    exact List.count_eq_one_of_mem List.nodup_range (List.mem_range.mpr below)

theorem slotIndex_nonneg {poolNum k i : Nat}
    (visits : VisitsEverySlotOnce poolNum (undisturbed poolNum poolNum (poolIdxAfter k)))
    (below : i < poolNum) :
    0 ≤ slotIndex (poolIdxAfter (k + i)) poolNum := by
  refine (visits.1 _ ?_).1
  rw [undisturbed_eq_map]
  exact List.mem_map.mpr ⟨k + i, List.mem_range'_1.mpr (by omega), rfl⟩

/-- Two counters in a row with the sign bit set are not both multiples of more than one slot. -/
theorem sign_at_last {poolNum k i : Nat}
    (visits : VisitsEverySlotOnce poolNum (undisturbed poolNum poolNum (poolIdxAfter k)))
    (more : i + 1 < poolNum) (above : 2 ^ 31 ≤ (k + i) % 2 ^ 32) : False := by
  have here := dvd_of_slotIndex_nonneg above (slotIndex_nonneg visits (by omega))
  by_cases last : (k + i) % 2 ^ 32 = 2 ^ 32 - 1
  · have := Nat.le_of_dvd (by omega) here
    omega
  · have next := dvd_of_slotIndex_nonneg (k := k + (i + 1)) (by omega) (slotIndex_nonneg visits more)
    have one : poolNum ∣ (2 ^ 32 - (k + i) % 2 ^ 32) - (2 ^ 32 - (k + (i + 1)) % 2 ^ 32) :=
      Nat.dvd_sub here next
    have := Nat.le_of_dvd (by omega) one
    omega

/-- An undisturbed call visits every slot once exactly if the counter does not reach its sign bit during
the call, or with the last index alone and at a multiple of the slots. -/
theorem undisturbed_visits_iff (poolNum k : Nat) (positive : 0 < poolNum) :
    VisitsEverySlotOnce poolNum (undisturbed poolNum poolNum (poolIdxAfter k)) ↔
      poolNum = 1 ∨ k % 2 ^ 32 + poolNum ≤ 2 ^ 31 ∨ k % 2 ^ 32 + poolNum = 2 ^ 31 + 1 ∧
        poolNum ∣ 2 ^ 31 := by
  constructor
  · intro visits
    by_cases single : poolNum = 1
    · exact .inl single
    by_cases below : k % 2 ^ 32 + poolNum ≤ 2 ^ 31
    · exact .inr (.inl below)
    by_cases set : 2 ^ 31 ≤ k % 2 ^ 32
    · exact (sign_at_last (i := 0) visits (by omega) set).elim
    -- the iteration at which the sign bit is set is the last one
    have wraps : (k + (2 ^ 31 - k % 2 ^ 32)) % 2 ^ 32 = 2 ^ 31 := by omega
    have last : ¬ 2 ^ 31 - k % 2 ^ 32 + 1 < poolNum := fun more => sign_at_last visits more (by omega)
    have divides := dvd_of_slotIndex_nonneg (by omega)
      (slotIndex_nonneg visits (i := 2 ^ 31 - k % 2 ^ 32) (by omega))
    rw [wraps] at divides
    exact .inr (.inr ⟨by omega, divides⟩)
  · rintro (rfl | below | ⟨reaches, divides⟩)
    · refine visits_of_consecutive 0 fun i below => ?_
      rw [Nat.mod_one]
      exact Int.tmod_one _
    · refine visits_of_consecutive (k % 2 ^ 32) fun i less => ?_
      have counter : (k + i) % 2 ^ 32 = k % 2 ^ 32 + i := by omega
      rw [slotIndex_below (by omega), counter]
    · refine visits_of_consecutive (k % 2 ^ 32) fun i less => ?_
      by_cases last : k % 2 ^ 32 + i = 2 ^ 31
      · have counter : (poolIdxAfter (k + i)).toInt = -((2 ^ 31 : Nat) : Int) := by
          rw [toInt_above (by omega)]
          omega
        rw [slotIndex, counter, Int.neg_tmod, ← Int.ofNat_tmod, last, Nat.mod_eq_zero_of_dvd divides]
        rfl
      · have counter : (k + i) % 2 ^ 32 = k % 2 ^ 32 + i := by omega
        rw [slotIndex_below (by omega), counter]

/-- Three slots, the last time before the counter wraps. -/
theorem undisturbed_visits_three : VisitsEverySlotOnce 3 (undisturbed 3 3 (poolIdxAfter (2 ^ 31 - 3))) :=
  (undisturbed_visits_iff 3 (2 ^ 31 - 3) (by decide)).mpr (.inr (.inl (by decide)))

/-- Three slots after as many iterations as wrap the counter: the first index is negative. -/
theorem index_negative_after_wrap :
    slotIndex (poolIdxAfter (2 ^ 31)) 3 = -2 ∧
      ¬ VisitsEverySlotOnce 3 (undisturbed 3 3 (poolIdxAfter (2 ^ 31))) := by
  constructor
  · rw [slotIndex, toInt_above (by decide)]
    decide
  · intro visits
    exact sign_at_last (i := 0) visits (by decide) (by decide)

end Gotun.Tun
