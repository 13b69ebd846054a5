import ScriptGuard.Decimal
import ScriptGuard.Numbers

/-!
# Values of a TOML document

The values, and those that are written as a single word.
-/

namespace ScriptGuard.Toml

/-!
## Values of a TOML document

The value types of the format. A table keeps its entries in the order in which they were written,
each key at most once.
-/

inductive Value where
  | string (s : String)
  | integer (n : Int)
  | float (x : Float)
  | bool (b : Bool)
  | moment (text : String)
  | array (items : List Value)
  | table (entries : List (String × Value))

def lookup? (entries : List (String × Value)) (key : String) : Option Value :=
  (entries.find? fun e => e.1 = key).map (·.2)

/-!
## Plain scalars of a TOML document

A scalar without quotes is a word: a truth value, an integer in one of four bases, a number with a
fraction or an exponent, or a date, a time or both. `Value.ofWord?` reads a whole word.
-/

/-- the value of a digit in bases up to sixteen -/
def digitValue? (c : Char) : Option Nat :=
  if c.isDigit then some (c.toNat - '0'.toNat)
  else if 'a' ≤ c ∧ c ≤ 'f' then some (c.toNat - 'a'.toNat + 10)
  else if 'A' ≤ c ∧ c ≤ 'F' then some (c.toNat - 'A'.toNat + 10)
  else none

/-- the value of digits in a base, with single underscores between digits; `after` says that the
character before was a digit -/
def digitsFrom? (base : Nat) (after : Bool) (value : Nat) : List Char → Option Nat
  | [] => if after then some value else none
  | '_' :: rest => if after then digitsFrom? base false value rest else none
  | c :: rest =>
    match digitValue? c with
    | some d => if d < base then digitsFrom? base true (value * base + d) rest else none
    | none => none

/-- the value of a non-empty run of digits in a base -/
def digits? (base : Nat) (cs : List Char) : Option Nat := digitsFrom? base false 0 cs

/-- decimal digits without a leading zero -/
def wholePart? (cs : List Char) : Option Nat :=
  match cs with
  | '0' :: _ :: _ => none
  | _ => digits? 10 cs

/-- a sign taken off; true for minus -/
def unsign : List Char → Bool × Bool × List Char
  | '-' :: rest => (true, true, rest)
  | '+' :: rest => (true, false, rest)
  | cs => (false, false, cs)

/-- an integer that no word of 128 bits holds, signed or not, is refused -/
def bounded? (n : Int) : Option Value :=
  if -(Nat.pow 2 127 : Nat) ≤ n ∧ n < (Nat.pow 2 128 : Nat) then some (.integer n) else none

/-- an integer: decimal with a sign, or in base 16, 8 or 2 after a mark -/
def integer? (cs : List Char) : Option Value :=
  match cs with
  | '0' :: 'x' :: rest => (digits? 16 rest).bind (bounded? ·)
  | '0' :: 'o' :: rest => (digits? 8 rest).bind (bounded? ·)
  | '0' :: 'b' :: rest => (digits? 2 rest).bind (bounded? ·)
  | _ =>
    let (_, negative, body) := unsign cs
    (wholePart? body).bind fun n => bounded? (if negative then -(n : Int) else n)

/-- the number of digits in a run that may hold underscores -/
def digitCount (cs : List Char) : Nat := (cs.filter (· ≠ '_')).length

/-- the value of an exponent: digits with an optional sign -/
def exponent? (cs : List Char) : Option Int :=
  let (_, negative, body) := unsign cs
  (digits? 10 body).map fun n => if negative then -(n : Int) else n

/-- `digits * 10 ^ exponent` as a floating-point number, if it is within range -/
def floatOf? (negative : Bool) (digits : Nat) (exponent : Int) : Option Value :=
  let x := Decimal.nearest negative digits exponent
  if (read x).isFinite then some (.float x) else none

/-- a number with a fraction, an exponent or both -/
def float? (cs : List Char) : Option Value :=
  let (_, negative, body) := unsign cs
  if body = "inf".toList then some (.float (if negative then -(1.0 / 0.0) else 1.0 / 0.0))
  else if body = "nan".toList then some (.float (0.0 / 0.0))
  else
    let isMark (c : Char) : Bool := c == 'e' || c == 'E'
    let mantissa := body.takeWhile fun c => !isMark c
    let power := body.dropWhile fun c => !isMark c
    let whole := mantissa.takeWhile (· ≠ '.')
    let fraction := mantissa.dropWhile (· ≠ '.')
    match wholePart? whole with
    | none => none
    | some w =>
      let withFraction : Option (Nat × Int) :=
        match fraction with
        | [] => if power = [] then none else some (w, 0)
        | _ :: places =>
          (digits? 10 places).map fun f =>
            (w * Nat.pow 10 (digitCount places) + f, -(digitCount places : Int))
      match withFraction, power with
      | none, _ => none
      | some (n, e), [] => floatOf? negative n e
      | some (n, e), _ :: p => (exponent? p).bind fun q => floatOf? negative n (e + q)

/-! ## dates and times -/

/-- exactly `n` decimal digits, and the rest -/
def fixed? : Nat → List Char → Option (Nat × List Char)
  | n, cs =>
    let front := cs.take n
    if front.length = n && front.all Char.isDigit then
      (digits? 10 front).map fun v => (v, cs.drop n)
    else none

/-- a character that has to stand at the front -/
def expect? (c : Char) : List Char → Option (List Char)
  | x :: rest => if x = c then some rest else none
  | [] => none

def daysIn (year month : Nat) : Nat :=
  if month = 2 then
    if year % 4 = 0 && (year % 100 != 0 || year % 400 == 0) then 29 else 28
  else if month = 4 ∨ month = 6 ∨ month = 9 ∨ month = 11 then 30
  else 31

def date? (cs : List Char) : Option (List Char) := do
  let (year, cs) ← fixed? 4 cs
  let cs ← expect? '-' cs
  let (month, cs) ← fixed? 2 cs
  let cs ← expect? '-' cs
  let (day, cs) ← fixed? 2 cs
  if 1 ≤ month ∧ month ≤ 12 ∧ 1 ≤ day ∧ day ≤ daysIn year month then some cs else none

/-- a time of day at the front of a word -/
def time? (cs : List Char) : Option (List Char) := do
  let (hour, cs) ← fixed? 2 cs
  let cs ← expect? ':' cs
  let (minute, cs) ← fixed? 2 cs
  let cs ← expect? ':' cs
  let (second, cs) ← fixed? 2 cs
  if 23 < hour ∨ 59 < minute ∨ 60 < second then none
  else
    match cs with
    | '.' :: rest =>
      if (rest.takeWhile Char.isDigit).isEmpty then none else some (rest.dropWhile Char.isDigit)
    | _ => some cs

/-- an offset from universal time, or nothing -/
def offset? (cs : List Char) : Option (List Char) :=
  match cs with
  | 'Z' :: rest => some rest
  | 'z' :: rest => some rest
  | c :: rest =>
    if c = '+' ∨ c = '-' then do
      let (hour, rest) ← fixed? 2 rest
      let rest ← expect? ':' rest
      let (minute, rest) ← fixed? 2 rest
      if hour ≤ 23 ∧ minute ≤ 59 then some rest else none
    else some (c :: rest)
  | [] => some []

/-- a date, a time, or a date and a time with an optional offset -/
def isMoment (cs : List Char) : Bool :=
  match date? cs with
  | some [] => true
  | some (c :: rest) =>
    if c = 'T' ∨ c = 't' ∨ c = ' ' then ((time? rest).bind offset?) == some [] else false
  | none => time? cs == some []

def Value.ofWord? (cs : List Char) : Option Value :=
  if cs = "true".toList then some (.bool true)
  else if cs = "false".toList then some (.bool false)
  else if isMoment cs then some (.moment (String.ofList cs))
  else (integer? cs).or (float? cs)

end ScriptGuard.Toml
