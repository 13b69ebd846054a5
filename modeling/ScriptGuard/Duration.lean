import ScriptGuard.Decimal
import ScriptGuard.Text

/-!
# Durations

A span of time in whole nanoseconds, with its text: the largest unit that fits, the fraction
without trailing zeros (`1.5s`, `20ms`, `1.001µs`, `0ns`).
-/

namespace ScriptGuard

/-- a span of time in nanoseconds -/
structure Duration where
  ns : Nat
deriving DecidableEq, Repr, Inhabited

namespace Duration

def perSecond : Nat := 1000000000

def zero : Duration := ⟨0⟩

/-- the first span that no longer fits 64 bits of seconds -/
def bound : Nat := Nat.pow 2 64 * perSecond

/-- the longest span that fits -/
def longest : Duration := ⟨bound - 1⟩

def ofSeconds (n : Nat) : Duration := ⟨n * perSecond⟩

def ofMillis (n : Nat) : Duration := ⟨n * 1000000⟩

def seconds (d : Duration) : Nat := d.ns / perSecond

def subsecond (d : Duration) : Nat := d.ns % perSecond

def isZero (d : Duration) : Bool := d.ns == 0

def least (a b : Duration) : Duration := ⟨min a.ns b.ns⟩

/-- what remains of a span after another one; nothing if the other is longer -/
def minus (a b : Duration) : Duration := ⟨a.ns - b.ns⟩

def plus (a b : Duration) : Duration := ⟨a.ns + b.ns⟩

instance : Add Duration := ⟨plus⟩
instance : Sub Duration := ⟨minus⟩
instance : LT Duration := ⟨fun a b => a.ns < b.ns⟩
instance : LE Duration := ⟨fun a b => a.ns ≤ b.ns⟩
instance (a b : Duration) : Decidable (a < b) := inferInstanceAs (Decidable (a.ns < b.ns))
instance (a b : Duration) : Decidable (a ≤ b) := inferInstanceAs (Decidable (a.ns ≤ b.ns))

@[simp] theorem ns_add (a b : Duration) : (a + b).ns = a.ns + b.ns := rfl
@[simp] theorem ns_sub (a b : Duration) : (a - b).ns = a.ns - b.ns := rfl
@[simp] theorem isZero_iff (d : Duration) : d.isZero = true ↔ d.ns = 0 := by simp [isZero]

/-! ## text -/

/-- the digits of `n` on at least `width` places -/
def padded (width n : Nat) : String :=
  let text := Decimal.digitText n
  Decimal.zeros (width - text.length) ++ text

/-- a fraction of `width` decimal places without trailing zeros, with its point -/
def fraction (width part : Nat) : String :=
  if part = 0 then ""
  else
    let (digits, exponent) := Decimal.strip part (-(width : Int)) width
    "." ++ padded exponent.natAbs digits

/-- unit, nanoseconds in the unit and decimal places of the unit -/
def unitOf (d : Duration) : String × Nat × Nat :=
  if perSecond ≤ d.ns then ("s", perSecond, 9)
  else if 1000000 ≤ d.ns then ("ms", 1000000, 6)
  else if 1000 ≤ d.ns then ("µs", 1000, 3)
  else ("ns", 1, 0)

/-- the span in its largest unit, all digits of the fraction -/
def text (d : Duration) : String :=
  let (unit, size, places) := d.unitOf
  Decimal.digitText (d.ns / size) ++ fraction places (d.ns % size) ++ unit

/-- the span in its largest unit with two decimal places, a half to the even neighbour -/
def roundedText (d : Duration) : String :=
  let (unit, size, _) := d.unitOf
  let hundredths := roundHalfEven (d.ns * 100) size
  Decimal.digitText (hundredths / 100) ++ "." ++ padded 2 (hundredths % 100) ++ unit

/-- seconds, a point and nine digits of nanoseconds -/
def clockText (d : Duration) : String :=
  Decimal.digitText d.seconds ++ "." ++ padded 9 d.subsecond

end Duration

/-!
## Durations and floating-point seconds

* `ofSeconds? x`     the span nearest to `x` seconds, to the nanosecond, ties to even; refused
                     when `x` is negative, not a number or at least `2 ^ 64`;
* `toSeconds d`      the seconds of a span as a floating-point number;
* `scaled speed d`   a span made shorter by a factor, the longest span when it does not fit;
* `averagePace?`     a span divided by a count and multiplied by another one.
-/

inductive SecondsError where
  | negative
  | unrepresentable
deriving DecidableEq, Repr

/-- the message for a number of seconds that is no span -/
def SecondsError.message : SecondsError → String
  | negative => "cannot convert float seconds to Duration: value is negative"
  | unrepresentable => "cannot convert float seconds to Duration: value is either too big or NaN"

namespace Duration

/-- the span nearest to a number of seconds that has been read exactly -/
def ofReading? : Reading → Except SecondsError Duration
  | .nan => .error .unrepresentable
  | .infinite true => .error .negative
  | .infinite false => .error .unrepresentable
  | .finite negative m e =>
    if negative && m != 0 then .error .negative
    else
      let (num, den) := scaleTwo m e
      if den * Nat.pow 2 64 ≤ num then .error .unrepresentable
      else .ok ⟨roundHalfEven (num * perSecond) den⟩

/-- the span nearest to a number of seconds -/
def ofSeconds? (x : Float) : Except SecondsError Duration := ofReading? (read x)

def toSeconds (d : Duration) : Float :=
  Float.ofNat d.seconds + Float.ofNat d.subsecond / 1000000000.0

/-- a span at `speed` times the pace -/
def scaled (speed : Float) (d : Duration) : Duration :=
  match ofSeconds? (d.toSeconds / speed) with
  | .ok d => d
  | .error _ => longest

/-- the span of `remaining` steps at the pace of `done` steps in the given span -/
def averagePace? (d : Duration) (done remaining : Nat) : Except SecondsError Duration := do
  let each ← ofSeconds? (d.toSeconds / Float.ofNat done)
  ofSeconds? (Float.ofNat remaining * each.toSeconds)

end Duration

/-!
## Reading durations

The written form of a duration is a run of decimal digits, optional blanks and one of the units
`ms`, `s`, `m`, `h` in any letter case; blanks around the whole are ignored.

* `Duration.ofText? s`     the duration, or why the text is none;
* `Duration.optional? s`   the same, where a blank text means "no duration".
-/

/-- why a run of digits is no 64-bit number -/
inductive DigitsError where
  | empty
  | tooLarge
deriving DecidableEq, Repr

/-- the message for a run of digits that is no number -/
def DigitsError.message : DigitsError → String
  | empty => "cannot parse integer from empty string"
  | tooLarge => "number too large to fit in target type"

inductive DurationError where
  | empty
  | missingUnit (text : String)
  | badNumber (digits : String) (cause : DigitsError)
  | unknownUnit (unit : String)
  | tooLarge (text : String)
deriving DecidableEq, Repr

/-- the message for a text that is no duration -/
def DurationError.message : DurationError → String
  | empty => "empty duration string"
  | missingUnit text => "duration '" ++ text ++ "' is missing a unit suffix (ms, s, m or h)"
  | badNumber digits cause => "invalid duration number '" ++ digits ++ "': " ++ cause.message
  | unknownUnit unit => "unsupported duration unit '" ++ unit ++ "'; expected ms, s, m, or h"
  | tooLarge text => "duration '" ++ text ++ "' is too large"

def digitsValue (cs : List Char) : Nat :=
  cs.foldl (fun n c => 10 * n + (c.toNat - '0'.toNat)) 0

/-- a run of digits as a 64-bit number -/
def word64? (digits : List Char) : Except DigitsError Nat :=
  if digits = [] then .error .empty
  else if digitsValue digits < Nat.pow 2 64 then .ok (digitsValue digits)
  else .error .tooLarge

namespace Duration

/-- what a unit makes of its number; `whole` is the text for the message -/
def ofUnit? (whole : List Char) (value : Nat) (unit : List Char) : Except DurationError Duration :=
  let seconds (each : Nat) : Except DurationError Duration :=
    if value * each < Nat.pow 2 64 then .ok (ofSeconds (value * each))
    else .error (.tooLarge (String.ofList whole))
  if unit = ['m', 's'] then .ok (ofMillis value)
  else if unit = ['s'] then seconds 1
  else if unit = ['m'] then seconds 60
  else if unit = ['h'] then seconds 3600
  else .error (.unknownUnit (String.ofList unit))

/-- the duration written by a list of characters without blanks at its ends -/
def ofTrimmed? (s : List Char) : Except DurationError Duration :=
  let digits := s.takeWhile Char.isDigit
  let rest := s.dropWhile Char.isDigit
  if s = [] then .error .empty
  else if rest = [] then .error (.missingUnit (String.ofList s))
  else
    match word64? digits with
    | .error cause => .error (.badNumber (String.ofList digits) cause)
    | .ok value => ofUnit? s value (Text.lower (Text.trim rest))

def ofText? (s : String) : Except DurationError Duration := ofTrimmed? (Text.trim s.toList)

/-- the duration a text writes, none for a blank text -/
def optional? (s : String) : Except DurationError (Option Duration) :=
  if Text.allBlank s then .ok none else (ofText? s).map some

end Duration

end ScriptGuard
