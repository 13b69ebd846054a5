import ScriptGuard.Numbers
import ScriptGuard.Code.Token
import ScriptGuard.Decimal
import ScriptGuard.Machine.Value

/-!
# Arithmetic of scripts

Integers wrap around at 64 bits; a floating-point number on either side makes an operation
floating-point, division and powers always are. Comparisons between the two kinds are exact.
-/

namespace ScriptGuard.Machine

/-- bytes as characters of the same numbers -/
def byteChars (b : ByteArray) : List Char := b.toList.map fun x => Char.ofNat x.toNat

/-- bytes in the order of their numbers -/
def bytesLess (a b : ByteArray) : Bool := byteChars a < byteChars b

/-! ## texts of numbers -/

/-- the text of a floating-point number; a whole one has a point too -/
def floatText (x : Float) : String :=
  let s := Decimal.general14 x
  if s.toList.all fun c => c.isDigit || c == '-' then s ++ ".0" else s

/-- the bytes of a string or a number -/
def textOf? : Value → Option ByteArray
  | .str b => some b
  | .int n => some (toString n).toUTF8
  | .num x => some (floatText x).toUTF8
  | _ => none

/-! ## conversions -/

/-- the integer a floating-point number stands for, if it fits a word -/
def exactInt? (x : Float) : Option Int := ((read x).integral?).filter fits64

def numberOfText? (b : ByteArray) : Option Value :=
  match Code.Numeral.ofText? (byteChars b) with
  | some (.int n) => some (.int n)
  | some (.num x) => some (.num x)
  | none => none

/-- a number, or the number a string writes -/
def toNumber? : Value → Option Value
  | .int n => some (.int n)
  | .num x => some (.num x)
  | .str b => numberOfText? b
  | _ => none

def toFloat? (v : Value) : Option Float :=
  match toNumber? v with
  | some (.int n) => some (Float.ofInt n)
  | some (.num x) => some x
  | _ => none

/-- an integer from a number without fraction -/
def toInt? (v : Value) : Option Int :=
  match toNumber? v with
  | some (.int n) => some n
  | some (.num x) => exactInt? x
  | _ => none

/-- a number, integral where it can be -/
def ofFloor (x : Float) : Value :=
  match ((read x).floor?).filter fits64 with
  | some n => .int n
  | none => .num x.floor

/-! ## comparisons -/

/-- how an integer compares with a floating-point number; none for not-a-number -/
def compareExact (n : Int) (x : Float) : Option Ordering :=
  match read x with
  | .nan => none
  | .infinite negative => some (if negative then .gt else .lt)
  | .finite negative m e =>
    let (num, den) := scaleTwo m e
    let a := n * den
    let b := Reading.signed negative num
    some (if a < b then .lt else if a = b then .eq else .gt)

def numberEq : Value → Value → Bool
  | .int a, .int b => a == b
  | .num a, .num b => a == b
  | .int a, .num b => compareExact a b == some .eq
  | .num a, .int b => compareExact b a == some .eq
  | _, _ => false

def numberLt : Value → Value → Bool
  | .int a, .int b => a < b
  | .num a, .num b => a < b
  | .int a, .num b => compareExact a b == some .lt
  | .num a, .int b => compareExact b a == some .gt
  | _, _ => false

def numberLe : Value → Value → Bool
  | .int a, .int b => a ≤ b
  | .num a, .num b => a ≤ b
  | .int a, .num b => (compareExact a b).any (· != .gt)
  | .num a, .int b => (compareExact b a).any (· != .lt)
  | _, _ => false

/-! ## operations -/

inductive ArithmeticError where
  /-- an operand is no number -/
  | operand
  /-- an operand has no integer value -/
  | noInteger
  | divideByZero
  | modByZero

/-- the remainder of a division towards zero, exactly -/
def remainder (x y : Float) : Float :=
  match read x, read y with
  | .finite nx mx ex, .finite _ my ey =>
    if my = 0 then 0.0 / 0.0
    else
      let e := min ex ey
      let a := mx * Nat.pow 2 (ex - e).toNat
      let b := my * Nat.pow 2 (ey - e).toNat
      let r := Float.scaleB (Float.ofNat (a % b)) e
      if nx then -r else r
  | .finite .., .infinite _ => x
  | _, _ => 0.0 / 0.0

/-- the remainder with the sign of the divisor -/
def floatMod (x y : Float) : Float :=
  let r := remainder x y
  if r * y < 0.0 then r + y else r

/-- a word shifted to the left, or to the right by a negative amount -/
def shiftLeft (n by' : Int) : Int :=
  if by' ≤ -64 ∨ 64 ≤ by' then 0
  else if 0 ≤ by' then wrap64 (bits64 n * Nat.pow 2 by'.toNat : Nat)
  else wrap64 (bits64 n / Nat.pow 2 (-by').toNat : Nat)

/-- an operation on two integers, where it stays with integers -/
def intOp (op : Code.BinaryOp) (a b : Int) : Option (Except ArithmeticError Int) :=
  match op with
  | .add => some (.ok (wrap64 (a + b)))
  | .sub => some (.ok (wrap64 (a - b)))
  | .mul => some (.ok (wrap64 (a * b)))
  | .floorDiv => some (if b = 0 then .error .divideByZero else .ok (wrap64 (Int.fdiv a b)))
  | .mod => some (if b = 0 then .error .modByZero else .ok (Int.fmod a b))
  | _ => none

def floatOp (op : Code.BinaryOp) (a b : Float) : Float :=
  match op with
  | .add => a + b
  | .sub => a - b
  | .mul => a * b
  | .div => a / b
  | .floorDiv => (a / b).floor
  | .mod => floatMod a b
  | .pow => if b == 2.0 then a * a else a.pow b
  | _ => 0.0

def bitOp (op : Code.BinaryOp) (a b : Int) : Int :=
  match op with
  | .bitAnd => wrap64 (bits64 a &&& bits64 b : Nat)
  | .bitOr => wrap64 (bits64 a ||| bits64 b : Nat)
  | .bitXor => wrap64 (bits64 a ^^^ bits64 b : Nat)
  | .shiftLeft => shiftLeft a b
  | .shiftRight => shiftLeft a (-b)
  | _ => 0

def isBitwise : Code.BinaryOp → Bool
  | .bitAnd | .bitOr | .bitXor | .shiftLeft | .shiftRight => true
  | _ => false

def bitwise (op : Code.BinaryOp) (a b : Value) : Except ArithmeticError Value :=
  match toNumber? a, toNumber? b with
  | some x, some y =>
    match toInt? x, toInt? y with
    | some i, some j => .ok (.int (bitOp op i j))
    | _, _ => .error .noInteger
  | _, _ => .error .operand

def arithmetic (op : Code.BinaryOp) (a b : Value) : Except ArithmeticError Value :=
  match toNumber? a, toNumber? b with
  | some (.int x), some (.int y) =>
    match intOp op x y with
    | some (.ok n) => .ok (.int n)
    | some (.error e) => .error e
    | none => .ok (.num (floatOp op (Float.ofInt x) (Float.ofInt y)))
  | some x, some y =>
    match toFloat? x, toFloat? y with
    | some p, some q => .ok (.num (floatOp op p q))
    | _, _ => .error .operand
  | _, _ => .error .operand

def negate (v : Value) : Option Value :=
  match toNumber? v with
  | some (.int n) => some (.int (wrap64 (-n)))
  | some (.num x) => some (.num (-x))
  | _ => none

end ScriptGuard.Machine
