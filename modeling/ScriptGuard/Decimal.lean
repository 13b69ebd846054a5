import ScriptGuard.Numbers

/-!
# Decimals

Binary64 numbers read from decimal texts and written as such.
-/

namespace ScriptGuard.Decimal

/-!
## The binary64 number nearest to a decimal

`nearest negative digits exponent` stands for `± digits * 10 ^ exponent`. Magnitudes far outside the
range of the format are settled by the number of digits alone, so that no large power is formed.
-/

/-- the magnitude nearest to a decimal -/
def nearestMagnitude (digits : Nat) (exponent : Int) : Float :=
  let place : Int := exponent + (Nat.toDigits 10 digits).length
  if digits = 0 ∨ place < -400 then 0.0
  else if 400 < place then 1.0 / 0.0
  else if 0 ≤ exponent then Float.ofScientific digits false exponent.natAbs
  else Float.ofScientific digits true exponent.natAbs

def nearest (negative : Bool) (digits : Nat) (exponent : Int) : Float :=
  if negative then -(nearestMagnitude digits exponent) else nearestMagnitude digits exponent

/-!
## Reading decimals

The parts of a written number: a sign, digits around a point, an exponent.

* `ofText?`   the binary64 number a text writes, infinities and not-a-number included.
-/

def digitsValue (cs : List Char) : Nat := cs.foldl (fun n c => 10 * n + (c.toNat - '0'.toNat)) 0

/-- a sign taken off; true for minus -/
def unsign : List Char → Bool × List Char
  | '-' :: rest => (true, rest)
  | '+' :: rest => (false, rest)
  | cs => (false, cs)

/-- digits around an optional point: all digits, the number of places after the point, the rest -/
def mantissa (isDigit : Char → Bool) (cs : List Char) : List Char × Nat × List Char :=
  let whole := cs.takeWhile isDigit
  match cs.dropWhile isDigit with
  | '.' :: rest =>
    let places := rest.takeWhile isDigit
    (whole ++ places, places.length, rest.dropWhile isDigit)
  | rest => (whole, 0, rest)

/-- an exponent after one of two marks, zero if there is no mark -/
def exponent? (lower upper : Char) : List Char → Option Int
  | [] => some 0
  | c :: rest =>
    if c = lower ∨ c = upper then
      let (negative, digits) := unsign rest
      if digits.isEmpty || !digits.all Char.isDigit then none
      else
        let n : Int := digitsValue digits
        some (if negative then -n else n)
    else none

/-- a number without a sign: digits with an optional point and an optional exponent -/
def unsigned? (negative : Bool) (cs : List Char) : Option Float :=
  let (digits, places, rest) := mantissa Char.isDigit cs
  if digits.isEmpty then none
  else
    (exponent? 'e' 'E' rest).map fun e => nearest negative (digitsValue digits) (e - places)

/-- the names of infinity -/
def infinityNames : List String := ["inf", "infinity"]

/-- the number a text writes; nothing may stand around it -/
def ofText? (s : String) : Option Float :=
  let (negative, cs) := unsign s.toList
  let word := String.ofList (cs.map Char.toLower)
  if word ∈ infinityNames then some (if negative then -1.0 / 0.0 else 1.0 / 0.0)
  else if word = "nan" then some (0.0 / 0.0)
  else unsigned? negative cs

/-!
## The shortest decimal that reads back

A finite binary64 number `m * 2 ^ e` is read from every decimal in an interval around it.
`shortest m e` is the decimal with the fewest digits in that interval and, among those, the one
nearest the number, an exact tie upwards: it is found by trying, for one digit, two digits and so
on, the two neighbours of the number on the grid of that many digits.

The result is a pair `(digits, exponent)` that stands for `digits * 10 ^ exponent`.
-/

/-- a fraction `num / den`, with the two ends of the interval of numbers that read as it over the
same denominator -/
structure Interval where
  low : Nat
  value : Nat
  high : Nat
  den : Nat
  /-- the ends belong to the interval -/
  closed : Bool

/-- the interval of reals that round to `m * 2 ^ e`; below a power of two it is half as wide -/
def interval (m : Nat) (e : Int) : Interval :=
  let below := if m = Nat.pow 2 52 ∧ -1074 < e then 1 else 2
  let (unit, den) := scaleTwo 1 (e - 2)
  ⟨(4 * m - below) * unit, 4 * m * unit, (4 * m + 2) * unit, den, m % 2 = 0⟩

/-- the fraction `num / den` lies in the interval -/
def Interval.holds (i : Interval) (num den : Nat) : Bool :=
  let x := num * i.den
  if i.closed then i.low * den ≤ x && x ≤ i.high * den
  else i.low * den < x && x < i.high * den

/-- `10 ^ s` as a fraction -/
def tenPower (s : Int) : Nat × Nat :=
  match s with
  | .ofNat k => (Nat.pow 10 k, 1)
  | .negSucc k => (1, Nat.pow 10 (k + 1))

/-- the neighbour of the value on the grid of multiples of `10 ^ s` that lies in the interval,
the nearer one if both do -/
def Interval.onGrid (i : Interval) (s : Int) : Option Nat :=
  let (up, down) := tenPower s
  let a := i.value * down / (i.den * up)
  let rest := i.value * down - a * (i.den * up)
  let lowFits := i.holds (a * up) down
  let highFits := i.holds ((a + 1) * up) down
  if lowFits && highFits then
    if 2 * rest < i.den * up then some a else some (a + 1)
  else if lowFits then some a
  else if highFits then some (a + 1)
  else none

/-- a number `k` with `num / den < 10 ^ k`, and `10 ^ (k - 1) ≤ num / den` unless the start of the
search is too high -/
def magnitudeFrom (num den : Nat) (k : Int) : Nat → Int
  | 0 => k
  | fuel + 1 =>
    let (up, down) := tenPower k
    if num * down < den * up then k else magnitudeFrom num den (k + 1) fuel

/-- the place of the first digit: `10 ^ (k - 1) ≤ num / den < 10 ^ k` -/
def magnitude (num den : Nat) : Int :=
  let guess : Int := (((num.log2 : Int) - den.log2 - 1) * 30103).fdiv 100000 - 1
  magnitudeFrom num den guess 4

/-- a decimal without trailing zeros -/
def strip (digits : Nat) (exponent : Int) : Nat → Nat × Int
  | 0 => (digits, exponent)
  | fuel + 1 =>
    if digits ≠ 0 ∧ digits % 10 = 0 then strip (digits / 10) (exponent + 1) fuel
    else (digits, exponent)

/-- the first grid with a point in the interval, from `n` digits on -/
def search (i : Interval) (k : Int) (n : Nat) : Nat → Nat × Int
  | 0 => (i.value / i.den, 0)
  | fuel + 1 =>
    match i.onGrid (k - n) with
    | some a => strip a (k - n) 20
    | none => search i k (n + 1) fuel

/-- the decimal with the fewest digits that reads as `m * 2 ^ e`; zero for zero -/
def shortest (m : Nat) (e : Int) : Nat × Int :=
  if m = 0 then (0, 0)
  else
    let i := interval m e
    search i (magnitude i.value i.den) 1 17

/-!
## Decimal texts of numbers

Ways of writing a binary64 number:

* `plain x`       the shortest digits, always positional, no point for a whole number
                  (`2`, `0.1`, `-0`, `inf`, `NaN`);
* `pointed x`     the shortest digits with a point, and an exponent outside `1e-4 … 1e16`
                  (`2.0`, `1e20`);
* `general14 x`   fourteen significant digits, trailing zeros dropped, an exponent of at least two
                  digits when it is below -4 or above 13 (`2.5`, `1e+15`); `general n` the same with
                  another number of digits;
* `fixed n x`, `scientific n x`   a fixed number of places, without or with a power of ten.
-/

/-- `n` zeros -/
def zeros (n : Nat) : String := String.ofList (List.replicate n '0')

def digitText (n : Nat) : String := String.ofList (Nat.toDigits 10 n)

/-- `digits * 10 ^ exponent` in positional form; a whole number is followed by `whole` -/
def positional (whole : String) (digits : Nat) (exponent : Int) : String :=
  let text := digitText digits
  match exponent with
  | .ofNat k => (if digits = 0 then "0" else text ++ zeros k) ++ whole
  | .negSucc k =>
    let places := k + 1
    if text.length ≤ places then "0." ++ zeros (places - text.length) ++ text
    else
      let cut := text.length - places
      String.ofList (text.toList.take cut) ++ "." ++ String.ofList (text.toList.drop cut)

/-- one digit, a point and the others -/
def scientificDigits (digits : Nat) : String :=
  match Nat.toDigits 10 digits with
  | [] => ""
  | [d] => d.toString
  | d :: rest => d.toString ++ "." ++ String.ofList rest

def sign (negative : Bool) : String := if negative then "-" else ""

/-- shortest digits, positional, no point for a whole number -/
def plain (x : Float) : String :=
  match read x with
  | .nan => "NaN"
  | .infinite negative => sign negative ++ "inf"
  | .finite negative m e =>
    let (digits, exponent) := shortest m e
    sign negative ++ positional "" digits exponent

/-- shortest digits with a point, or with an exponent when the number is tiny or huge -/
def pointed (x : Float) : String :=
  match read x with
  | .nan => "NaN"
  | .infinite negative => sign negative ++ "inf"
  | .finite negative m e =>
    let (digits, exponent) := shortest m e
    let place := exponent + (digitText digits).length
    sign negative ++
      if digits = 0 ∨ (-3 ≤ place ∧ place ≤ 16) then positional ".0" digits exponent
      else scientificDigits digits ++ "e" ++ toString (place - 1)

/-- the `n` leading digits of `num / den`, rounded half to even, with the place of the first -/
def leading (n : Nat) (num den : Nat) : Nat × Int :=
  let k := magnitude num den
  let (up, down) := tenPower (k - n)
  let digits := roundHalfEven (num * down) (den * up)
  if Nat.pow 10 n ≤ digits then (digits / 10, k + 1) else (digits, k)

/-- a power of ten after its mark: a sign and at least two digits -/
def powerText (power : Int) : String :=
  let size := power.natAbs
  "e" ++ (if power < 0 then "-" else "+") ++ (if size < 10 then "0" else "") ++ toString size

/-- `n` significant digits without trailing zeros -/
def general (n : Nat) (x : Float) : String :=
  match read x with
  | .nan => "-nan"
  | .infinite negative => sign negative ++ "inf"
  | .finite negative m e =>
    if m = 0 then sign negative ++ "0"
    else
      let (num, den) := scaleTwo m e
      let (all, place) := leading n num den
      let (digits, exponent) := strip all (place - n) n
      sign negative ++
        if -4 < place ∧ place ≤ n then positional "" digits exponent
        else scientificDigits digits ++ powerText (place - 1)

/-- fourteen significant digits without trailing zeros -/
def general14 (x : Float) : String := general 14 x

/-- `n` places behind the point -/
def fixed (n : Nat) (x : Float) : String :=
  match read x with
  | .nan => "-nan"
  | .infinite negative => sign negative ++ "inf"
  | .finite negative m e =>
    let (num, den) := scaleTwo m e
    let digits := digitText (roundHalfEven (num * Nat.pow 10 n) den)
    let digits := zeros (n + 1 - digits.length) ++ digits
    let cut := digits.length - n
    sign negative ++ String.ofList (digits.toList.take cut) ++
      (if n = 0 then "" else "." ++ String.ofList (digits.toList.drop cut))

/-- one digit, a point, `n` places and a power of ten -/
def scientific (n : Nat) (x : Float) : String :=
  match read x with
  | .nan => "-nan"
  | .infinite negative => sign negative ++ "inf"
  | .finite negative m e =>
    let (num, den) := scaleTwo m e
    let (digits, place) := if m = 0 then (0, 1) else leading (n + 1) num den
    let text := digitText digits
    let text := (text ++ zeros (n + 1 - text.length)).toList
    sign negative ++ String.ofList (text.take 1) ++
      (if n = 0 then "" else "." ++ String.ofList (text.drop 1)) ++ powerText (place - 1)

end ScriptGuard.Decimal
