import Mathlib.Algebra.Group.Int.Defs
import Mathlib.Algebra.Group.Nat.Defs
import Mathlib.Data.Nat.Log

namespace Doubles

/-- The Double nearest to a natural number, ties going to the even significand
of 53 bits. -/
def nearest (n : Nat) : Nat :=
  let unit := 2 ^ (n.log2 + 1 - 53)
  let significand := n / unit
  let rest := n % unit
  if 2 * rest < unit ∨ (2 * rest = unit ∧ significand % 2 = 0) then significand * unit
  else (significand + 1) * unit

/-- A Double converted to a Long, which saturates. -/
def longValue (d : Int) : Int :=
  max (-2 ^ 63) (min d (2 ^ 63 - 1))

/-- The Long an integer literal is read as: itself, or by way of a Double
where it does not fit. -/
def literalLong (i : Int) : Int :=
  if -2 ^ 63 ≤ i ∧ i < 2 ^ 63 then i
  else if 0 ≤ i then longValue (nearest i.toNat)
  else longValue (-nearest i.natAbs)

/-- Rounding does not go below a power of two. -/
theorem two_pow_le_nearest {k n : Nat} (le : 2 ^ k ≤ n) : 2 ^ k ≤ nearest n := by
  have positive : n ≠ 0 := Nat.ne_of_gt (Nat.lt_of_lt_of_le (Nat.two_pow_pos k) le)
  have top : k ≤ n.log2 := (Nat.le_log2 positive).mpr le
  have lead : 2 ^ n.log2 ≤ n := Nat.log2_self_le positive
  have shift : n.log2 + 1 - 53 ≤ n.log2 := by omega
  have split : 2 ^ (n.log2 - (n.log2 + 1 - 53)) * 2 ^ (n.log2 + 1 - 53) = 2 ^ n.log2 := by
    rw [← Nat.pow_add, Nat.sub_add_cancel shift]
  have significand : 2 ^ (n.log2 - (n.log2 + 1 - 53)) ≤ n / 2 ^ (n.log2 + 1 - 53) :=
    (Nat.le_div_iff_mul_le (Nat.two_pow_pos _)).mpr (split ▸ lead)
  have kept : 2 ^ n.log2 ≤ n / 2 ^ (n.log2 + 1 - 53) * 2 ^ (n.log2 + 1 - 53) :=
    split ▸ Nat.mul_le_mul_right _ significand
  have below : 2 ^ k ≤ n / 2 ^ (n.log2 + 1 - 53) * 2 ^ (n.log2 + 1 - 53) :=
    Nat.le_trans (Nat.pow_le_pow_right (by decide) top) kept
  unfold nearest
  dsimp only
  split
  · exact below
  · exact Nat.le_trans below (Nat.mul_le_mul_right _ (Nat.le_succ _))

theorem literalLong_of_fits {i : Int} (lower : -2 ^ 63 ≤ i) (upper : i < 2 ^ 63) : literalLong i = i :=
  if_pos ⟨lower, upper⟩

/-- From 2^63 on every literal is read as the greatest Long. -/
theorem literalLong_of_large {n : Nat} (large : 2 ^ 63 ≤ n) : literalLong n = 2 ^ 63 - 1 := by
  have above := two_pow_le_nearest large
  unfold literalLong longValue
  rw [if_neg (by omega), if_pos (by omega), Int.toNat_natCast]
  omega

end Doubles
