import ScriptGuard.Machine.Heap

/-!
# Arguments of library functions

How library functions read their arguments, and what they complain about. Positions count from one.
-/

namespace ScriptGuard.Machine

/-- what a library function gives back -/
abbrev Reply := Except Complaint (List Value × Heap)

namespace Arguments

/-- the argument at a position, nil if it is missing -/
def given (args : List Value) (i : Nat) : Value := (args[i - 1]?).getD .nil

/-- the argument is missing or nil -/
def isAbsent (args : List Value) (i : Nat) : Bool := (given args i).isNil

/-- the type of the argument at a position, for messages -/
def typeAt (args : List Value) (i : Nat) : String :=
  if args.length < i then "no value" else (given args i).typeName

def wrongType (args : List Value) (i : Nat) (expected : String) : Except Complaint α :=
  .error (.argument i (expected ++ " expected, got " ++ typeAt args i))

/-- any argument, but not a missing one -/
def any (args : List Value) (i : Nat) : Except Complaint Value :=
  if args.length < i then .error (.argument i "value expected") else .ok (given args i)

/-- a number, or a string that writes one -/
def number (args : List Value) (i : Nat) : Except Complaint Value :=
  match toNumber? (given args i) with
  | some v => .ok v
  | none => wrongType args i "number"

def float (args : List Value) (i : Nat) : Except Complaint Float :=
  match toFloat? (given args i) with
  | some x => .ok x
  | none => wrongType args i "number"

def int (args : List Value) (i : Nat) : Except Complaint Int :=
  match toNumber? (given args i) with
  | none => wrongType args i "number"
  | some v =>
    match toInt? v with
    | some n => .ok n
    | none => .error (.argument i "number has no integer representation")

/-- an integer, or a default -/
def intOr (args : List Value) (i : Nat) (default : Int) : Except Complaint Int :=
  if isAbsent args i then .ok default else int args i

/-- a string, or a number as a string -/
def text (args : List Value) (i : Nat) : Except Complaint ByteArray :=
  match textOf? (given args i) with
  | some b => .ok b
  | none => wrongType args i "string"

/-- a string, or a default -/
def textOr (args : List Value) (i : Nat) (default : ByteArray) : Except Complaint ByteArray :=
  if isAbsent args i then .ok default else text args i

def table (args : List Value) (i : Nat) : Except Complaint Nat :=
  match given args i with
  | .table p => .ok p
  | _ => wrongType args i "table"

def function (args : List Value) (i : Nat) : Except Complaint Value :=
  if (given args i).isFunction then .ok (given args i) else wrongType args i "function"

def require (holds : Bool) (i : Nat) (message : String) : Except Complaint Unit :=
  if holds then .ok () else .error (.argument i message)

end Arguments

end ScriptGuard.Machine
