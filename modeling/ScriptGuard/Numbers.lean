/-!
# Numbers of 64 bits

Signed words, and floating-point numbers taken apart into the exact value they stand for.
-/

namespace ScriptGuard

/-!
## Signed words of 64 bits

Integers that stand for such words lie between `-2 ^ 63` and `2 ^ 63 - 1`; `wrap64` brings any
integer there by adding a multiple of `2 ^ 64`.
-/

def least64 : Int := -9223372036854775808

def greatest64 : Int := 9223372036854775807

def fits64 (i : Int) : Bool := least64 ≤ i && i ≤ greatest64

/-- an integer, or the nearer end of the range of signed words -/
def clamp64 (i : Int) : Int := max least64 (min greatest64 i)

/-- the word an integer stands for -/
def wrap64 (i : Int) : Int := if fits64 i then i else i.bmod 18446744073709551616

/-- the bits of a word as a natural number -/
def bits64 (i : Int) : Nat := (i.emod 18446744073709551616).toNat

theorem wrap64_of_fits {i : Int} (h : fits64 i = true) : wrap64 i = i := by simp [wrap64, h]

theorem fits64_wrap64 (i : Int) : fits64 (wrap64 i) = true := by
  unfold wrap64
  split
  · assumption
  · have h1 := Int.le_bmod (x := i) (m := 18446744073709551616) (by decide)
    have h2 := Int.bmod_lt (x := i) (m := 18446744073709551616) (by decide)
    simp only [fits64, Bool.and_eq_true, decide_eq_true_eq]
    unfold least64 greatest64
    omega

/-!
## Binary64 numbers read exactly

A floating-point number is taken apart into the exact value it stands for, so that every decision
about it (is it whole, which integer is it, which nanosecond is nearest) is made in integer
arithmetic.

* `Reading`             not a number, an infinity, or `± m * 2 ^ e`;
* `read x`              the reading of a number, from its bits;
* `Reading.integral?`   the integer a whole number stands for;
* `Reading.floor?`      the integer below;
* `roundHalfEven`       a quotient of naturals rounded to nearest, ties to even.
-/

inductive Reading where
  | nan
  | infinite (negative : Bool)
  | finite (negative : Bool) (m : Nat) (e : Int)
deriving DecidableEq, Repr

/-- the reading of a number: 52 bits of fraction, 11 of exponent, one of sign -/
def read (x : Float) : Reading :=
  let bits : Nat := x.toBits.toNat
  let negative := decide (Nat.pow 2 63 ≤ bits)
  let fraction : Nat := bits % Nat.pow 2 52
  let exponent : Nat := bits / Nat.pow 2 52 % Nat.pow 2 11
  if exponent = 2047 then
    if fraction = 0 then .infinite negative else .nan
  else if exponent = 0 then .finite negative fraction (-1074)
  else .finite negative (Nat.pow 2 52 + fraction) ((exponent : Int) - 1075)

/-- nearest natural to `num / den`, a tie to the even one -/
def roundHalfEven (num den : Nat) : Nat :=
  let q := num / den
  let r := num % den
  if 2 * r < den then q
  else if den < 2 * r then q + 1
  else if q % 2 = 0 then q else q + 1

/-- numerator and denominator of `m * 2 ^ e` -/
def scaleTwo (m : Nat) (e : Int) : Nat × Nat :=
  match e with
  | .ofNat k => (m * Nat.pow 2 k, 1)
  | .negSucc k => (m, Nat.pow 2 (k + 1))

namespace Reading

/-- neither an infinity nor not-a-number -/
def isFinite : Reading → Bool
  | finite .. => true
  | _ => false

def isPositive : Reading → Bool
  | finite false m _ => m != 0
  | _ => false

/-- below zero, infinity included; minus zero is not -/
def isNegative : Reading → Bool
  | finite negative m _ => negative && m != 0
  | infinite negative => negative
  | nan => false

def signed (negative : Bool) (n : Nat) : Int := if negative then -(n : Int) else n

def floor? : Reading → Option Int
  | finite negative m e => some (Int.fdiv (signed negative (scaleTwo m e).1) (scaleTwo m e).2)
  | _ => none

def integral? : Reading → Option Int
  | finite negative m e =>
    if (scaleTwo m e).1 % (scaleTwo m e).2 = 0 then
      some (signed negative ((scaleTwo m e).1 / (scaleTwo m e).2))
    else none
  | _ => none

end Reading

end ScriptGuard
