import Mathlib.Data.Int.ModEq
import Mathlib.Tactic.Linarith

/-!
# Fixed-width integers

Conversions to `uint64_t`, `int` and `int64_t` on unbounded integers, and what
becomes of a sum whose every partial result is converted.
-/

namespace MachineInt

/-- Conversion to `uint64_t`. -/
def toUInt64 (x : Int) : ℕ :=
  (x % 2 ^ 64).toNat

/-- Conversion to a 32-bit `int`. -/
def toInt32 (x : Int) : Int :=
  x.bmod (2 ^ 32)

/-- Conversion to `int64_t`. -/
def toInt64 (x : Int) : Int :=
  x.bmod (2 ^ 64)

theorem coe_toUInt64 (x : Int) : (toUInt64 x : Int) = x % 2 ^ 64 :=
  Int.toNat_of_nonneg (Int.emod_nonneg x (by norm_num))

/-- A 32-bit conversion forgets multiples of `2 ^ 32`. -/
theorem toInt32_congr {x y : Int} (h : x % 2 ^ 32 = y % 2 ^ 32) :
    toInt32 x = toInt32 y := by
  unfold toInt32 Int.bmod
  norm_num at h ⊢
  rw [h]

/-- Adding in `uint64_t` and storing in an `int` at every step yields the
conversion of the exact sum. -/
theorem foldl_add_toInt32 (l : List ℕ) (start : Int) :
    l.foldl (fun (acc : Int) (x : ℕ) => toInt32 (toUInt64 (toUInt64 acc + x)))
      (toInt32 start) = toInt32 (start + (l.sum : ℕ)) := by
  induction l generalizing start with
  | nil => simp
  | cons x l ih =>
      have hstep : toInt32 (toUInt64 (toUInt64 (toInt32 start) + x)) =
          toInt32 (start + x) := by
        apply toInt32_congr
        rw [coe_toUInt64, coe_toUInt64]
        unfold toInt32 Int.bmod
        norm_num
        split_ifs <;> omega
      rw [List.foldl_cons, hstep, ih, List.sum_cons]
      push_cast
      rw [add_assoc]

/-- A sum stored in an `int` and read back as `uint64_t` is the sum itself only
close to the ends of the `uint64_t` range. -/
theorem toUInt64_toInt32_eq_iff {sum : ℕ} (hsum : sum < 2 ^ 64) :
    toUInt64 (toInt32 sum) = sum ↔ sum < 2 ^ 31 ∨ 2 ^ 64 - 2 ^ 31 ≤ sum := by
  unfold toUInt64 toInt32 Int.bmod
  norm_num at hsum ⊢
  split_ifs <;> omega

/-- Where the value read back is not the sum itself, it is off by at least
`2 ^ 32`. -/
theorem toUInt64_toInt32_modEq (sum : ℕ) :
    toUInt64 (toInt32 sum) % 2 ^ 32 = sum % 2 ^ 32 := by
  unfold toUInt64 toInt32 Int.bmod
  norm_num
  split_ifs <;> omega

end MachineInt
