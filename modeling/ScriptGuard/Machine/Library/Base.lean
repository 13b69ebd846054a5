import ScriptGuard.Machine.Library.Text

/-!
# The basic library

The basic functions that call no others and look at nothing but their arguments and the heap.
-/

namespace ScriptGuard.Machine.Base

open Arguments

/-- a byte that may stand around a number in a text -/
def isBlank (c : Char) : Bool := c == ' ' || ('\t' ≤ c && c ≤ '\r')

def trimmed (cs : List Char) : List Char :=
  ((cs.dropWhile isBlank).reverse.dropWhile isBlank).reverse

def digit? (c : Char) : Option Nat :=
  if c.isDigit then some (c.toNat - 48)
  else if c.isAlpha then some (c.toLower.toNat - 87)
  else none

/-- the integer that digits of a base write; it wraps around -/
def inBase? (base : Nat) (cs : List Char) : Option Int :=
  let (negative, cs) := Decimal.unsign (trimmed cs)
  if cs.isEmpty then none
  else
    ((cs.mapM digit?).filter fun ds => ds.all (· < base)).map fun ds =>
      let n : Nat := ds.foldl (fun n d => base * n + d) 0
      wrap64 (if negative then -(n : Int) else (n : Int))

/-- the number of a text, in a base if there is one -/
def number (args : List Value) (h : Heap) : Reply :=
  if isAbsent args 2 then do return ([(toNumber? (← any args 1)).getD .nil], h)
  else do
    let base ← int args 2
    match given args 1 with
    | .str b =>
      require (2 ≤ base && base ≤ 36) 2 "base out of range"
      return ([(inBase? base.toNat (byteChars b)).elim .nil .int], h)
    | _ => wrongType args 1 "string"

/-- the values from a number on, negative numbers counting from the end -/
def valuesFrom (n : Int) (vs : List Value) : Except Complaint (List Value) :=
  if 0 < n then .ok (vs.drop (n.toNat - 1))
  else if n = 0 ∨ vs.length < n.natAbs then .error (.argument 1 "index out of range")
  else .ok (vs.drop (vs.length - n.natAbs))

/-- the arguments from a position on, or their number -/
def select (args : List Value) (h : Heap) : Reply :=
  match given args 1 with
  | .str b =>
    if byteChars b == ['#'] then .ok ([.int args.tail.length], h)
    else do return (← valuesFrom (← int args 1) args.tail, h)
  | _ => do return (← valuesFrom (← int args 1) args.tail, h)

/-- the metatable of a table set or taken away, unless it is protected -/
def setMetatable (args : List Value) (h : Heap) : Reply := do
  let place ← table args 1
  let new ← match given args 2 with
    | .table p => pure (some p)
    | v => if v.isNil && 2 ≤ args.length then pure none else wrongType args 2 "nil or table"
  if !(h.metamethod (.table place) "__metatable").isNil then
    .error (.text "cannot change a protected metatable")
  else return ([.table place], h.onTable place fun t => { t with metatable := new })

/-- the metatable of a value, or what it shows instead -/
def getMetatable (args : List Value) (h : Heap) : Reply := do
  let v ← any args 1
  match h.metatable? v, h.metamethod v "__metatable" with
  | none, _ => return ([.nil], h)
  | some p, .nil => return ([.table p], h)
  | _, shown => return ([shown], h)

def next (args : List Value) (h : Heap) : Reply := do
  let place ← table args 1
  match (h.table place).next? (given args 2) with
  | none => .error (.value (.ofText "invalid key to 'next'"))
  | some none => return ([.nil], h)
  | some (some (k, v)) => return ([k, v], h)

/-- a key of a table set without metamethods -/
def rawSet (args : List Value) (h : Heap) : Reply := do
  let place ← table args 1
  let key ← any args 2
  let v ← any args 3
  match Heap.badKey? key with
  | some text => .error (.value (.ofText text))
  | none => return ([.table place], h.setField place key v)

/-- scripts find no files -/
def noFile (args : List Value) : Except Complaint ByteArray := do
  return "cannot open ".toUTF8 ++ (← textOr args 1 "stdin".toUTF8)
    ++ ": No such file or directory".toUTF8

/-- a function that calls nothing -/
def call (f : BaseFunction) (args : List Value) (h : Heap) : Reply :=
  match f with
  | .assert => do
    let v ← any args 1
    if v.holds then return (args, h)
    else if args.length < 2 then .error (.value (.ofText "assertion failed!"))
    else .error (.value (given args 2))
  | .collectGarbage => .ok ([.int 0], h)
  | .doFile => do .error (.value (.str (← noFile args)))
  | .getMetatable => getMetatable args h
  | .ipairs => do return ([.builtin (.base .ipairsNext), ← any args 1, .int 0], h)
  | .loadFile => do return ([.nil, .str (← noFile args)], h)
  | .next => next args h
  | .rawEqual => do return ([.bool ((← any args 1).same (← any args 2))], h)
  | .rawGet => do return ([(h.table (← table args 1)).get (← any args 2)], h)
  | .rawLen =>
    match given args 1 with
    | .table p => .ok ([.int (h.table p).border], h)
    | .str b => .ok ([.int b.size], h)
    | _ => .error (.argument 1 "table or string expected")
  | .rawSet => rawSet args h
  | .select => select args h
  | .setMetatable => setMetatable args h
  | .toNumber => number args h
  | .type => do return ([.ofText (← any args 1).typeName], h)
  | _ => .ok ([], h)

end ScriptGuard.Machine.Base
