import Gotun.Lib.Stream
import Mathlib.Algebra.Order.Group.Nat
import Mathlib.Tactic.Ring

/-! Fixed-width big-endian numbers over byte lists. -/

namespace Gotun.Lib

/-- The `width` low bytes of a number, most significant first. -/
def bigEndian : Nat → Nat → Bytes
  | 0, _ => []
  | width + 1, value => UInt8.ofNat (value / 256 ^ width) :: bigEndian width value

def ofBigEndian : Bytes → Nat
  | [] => 0
  | byte :: rest => byte.toNat * 256 ^ rest.length + ofBigEndian rest

@[simp] theorem bigEndian_length (width value : Nat) : (bigEndian width value).length = width := by
  induction width with
  | zero => rfl
  | succ width ih => simp [bigEndian, ih]

theorem ofBigEndian_lt (bytes : Bytes) : ofBigEndian bytes < 256 ^ bytes.length := by
  induction bytes with
  | nil => simp [ofBigEndian]
  | cons byte rest ih =>
    have top := byte.toNat_lt
    simp only [ofBigEndian, List.length_cons, pow_succ]
    calc
      _ < byte.toNat * 256 ^ rest.length + 256 ^ rest.length := by omega
      _ = (byte.toNat + 1) * 256 ^ rest.length := by ring
      _ ≤ 256 * 256 ^ rest.length := Nat.mul_le_mul_right _ (by omega)
      _ = _ := by ring

theorem ofBigEndian_bigEndian (width value : Nat) :
    ofBigEndian (bigEndian width value) = value % 256 ^ width := by
  induction width with
  | zero => simp [bigEndian, ofBigEndian, Nat.mod_one]
  | succ width ih =>
    simp only [bigEndian, ofBigEndian, bigEndian_length, ih, UInt8.toNat_ofNat']
    have split : value % (256 ^ width * 256) = value % 256 ^ width + 256 ^ width *
        (value / 256 ^ width % 256) :=
      Nat.mod_mul
    rw [show 256 ^ (width + 1) = 256 ^ width * 256 from pow_succ 256 width, split]
    ring

theorem ofBigEndian_bigEndian_of_lt (width value : Nat) (small : value < 256 ^ width) :
    ofBigEndian (bigEndian width value) = value := by
  rw [ofBigEndian_bigEndian, Nat.mod_eq_of_lt small]

end Gotun.Lib
