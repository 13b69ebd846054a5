import ScriptGuard.Device
import ScriptGuard.Duration
import ScriptGuard.Numbers
import ScriptGuard.Outcome

/-!
# Scripts and their host

The host functions, what a script hands over to them and what it gets back.
-/

namespace ScriptGuard

/-!
## What a script hands over and what it gets back

* `HostValue`   an argument of a host function;
* `HostError`   the error a host function raises: an abort that unwinds the script, or an ordinary
                script error;
* `ScriptEnd`   how a script came to its end.
-/

inductive HostValue where
  | nil
  | bool (b : Bool)
  | int (n : Int)
  | num (x : Float)
  | str (s : String)
  | other (typeName : String)

/-- the type of a value as messages name it -/
def HostValue.typeName : HostValue → String
  | nil => "nil"
  | bool _ => "boolean"
  | int _ => "integer"
  | num _ => "number"
  | str _ => "string"
  | other name => name

inductive HostError where
  | abort (reason : AbortReason)
  | script (message : String)
deriving DecidableEq, Repr

def HostError.message : HostError → String
  | abort reason => "execution aborted: " ++ reason.message
  | script message => message

inductive ScriptEnd where
  | completed
  | aborted (reason : AbortReason)
  | failed (message : String)
deriving DecidableEq, Repr

/-- why an interpreter could not be made ready -/
inductive InterpreterError where
  | start (message : String)
  | compile (message : String)
  | register (name message : String)
deriving DecidableEq, Repr

def InterpreterError.message : InterpreterError → String
  | start message => "failed to initialise interpreter: " ++ message
  | compile message => "script failed to compile: " ++ message
  | register name message =>
    "failed to register host function '" ++ name ++ "': " ++ message

/-!
## Host functions

The nine functions a script can call, and how their arguments are read. Missing arguments count as
nil, extra ones are ignored.

* `HostFunction`        the functions and their names;
* `HostFunction.read?`  the call that a list of arguments makes, or what is wrong with them;
* `HostCall.ofName?`    the same from the name of a function.
-/

inductive HostCall where
  | input (i : Input)
  | sleep (d : Duration)
deriving DecidableEq, Repr

/-- the call produces input, so that the delay before inputs applies -/
def HostCall.isInput : HostCall → Bool
  | input _ => true
  | sleep _ => false

/-- what is wrong with the arguments of a call; positions count from one -/
inductive CallError where
  | wrongType (position : Nat) (function expected found : String)
  | outOfRange (position : Nat) (function : String) (value : Int)
  | emptyKey (position : Nat) (function : String)
  | button (function : String) (cause : NameError)
  | notDuration (position : Nat) (function : String) (value : Float)
  | seconds (position : Nat) (function : String) (cause : SecondsError)
  | unknownFunction (name : String)

namespace CallError

/-- the beginning of the messages about one argument -/
def about (position : Nat) (function : String) : String :=
  "bad argument #" ++ toString position ++ " to '" ++ function ++ "' "

def message : CallError → String
  | wrongType position function expected found =>
    about position function ++ "(" ++ expected ++ " expected, got " ++ found ++ ")"
  | outOfRange position function value =>
    about position function ++ "(coordinate " ++ toString value ++ " out of range)"
  | emptyKey position function => about position function ++ "(key name must not be empty)"
  | button function cause => function ++ ": " ++ cause.message
  | notDuration position function value =>
    about position function ++ "(duration must be a non-negative number, got " ++
      Decimal.plain value ++ ")"
  | seconds position function cause => about position function ++ "(" ++ cause.message ++ ")"
  | unknownFunction name => "unknown host function '" ++ name ++ "'"

end CallError

/-! ## single arguments -/

namespace Argument

/-- the argument at a position counted from one -/
def given (args : List HostValue) (position : Nat) : HostValue :=
  (args[position - 1]?).getD .nil

/-- an integer, or a finite number without fraction brought into 64 bits -/
def integer? (args : List HostValue) (position : Nat) (function : String) :
    Except CallError Int :=
  match given args position with
  | .int n => .ok n
  | .num x =>
    match (read x).integral? with
    | some i => .ok (clamp64 i)
    | none => .error (.wrongType position function "integer" "number")
  | other => .error (.wrongType position function "integer" other.typeName)

/-- an integer that fits 32 bits -/
def coordinate? (args : List HostValue) (position : Nat) (function : String) :
    Except CallError Int :=
  match integer? args position function with
  | .ok i =>
    if -2147483648 ≤ i ∧ i ≤ 2147483647 then .ok i else .error (.outOfRange position function i)
  | .error e => .error e

def string? (args : List HostValue) (position : Nat) (function : String) :
    Except CallError String :=
  match given args position with
  | .str s => .ok s
  | other => .error (.wrongType position function "string" other.typeName)

/-- a string that is not blank -/
def key? (args : List HostValue) (position : Nat) (function : String) :
    Except CallError String :=
  match string? args position function with
  | .ok s => if Text.allBlank s then .error (.emptyKey position function) else .ok s
  | .error e => .error e

/-- a button by name or number, the left one if there is none -/
def button? (args : List HostValue) (position : Nat) (function : String) :
    Except CallError Button :=
  match given args position with
  | .nil => .ok .left
  | .str s => (Button.ofText? s).mapError (.button function)
  | .int n => (Button.ofText? (toString n)).mapError (.button function)
  | other => .error (.wrongType position function "button name or number" other.typeName)

/-- the span of a number of units of which `perSecond` make a second -/
def units? (position : Nat) (function : String) (perSecond x : Float) :
    Except CallError Duration :=
  if !(read x).isFinite || (read x).isNegative then .error (.notDuration position function x)
  else (Duration.ofSeconds? (x / perSecond)).mapError (.seconds position function)

/-- a number of units of which `perSecond` make a second -/
def duration? (args : List HostValue) (position : Nat) (function : String) (perSecond : Float) :
    Except CallError Duration :=
  match given args position with
  | .int n => units? position function perSecond (Float.ofInt n)
  | .num x => units? position function perSecond x
  | other => .error (.wrongType position function "number" other.typeName)

end Argument

/-! ## the functions -/

inductive HostFunction where
  | move
  | mouseClick
  | mouseDown
  | mouseRelease
  | typeText
  | keyDown
  | keyRelease
  | sleep
  | msleep
deriving DecidableEq, Repr

namespace HostFunction

/-- all host functions, in the order in which an interpreter is given them -/
def all : List HostFunction :=
  [move, mouseClick, mouseDown, mouseRelease, typeText, keyDown, keyRelease, sleep, msleep]

def name : HostFunction → String
  | move => "move"
  | mouseClick => "mouse_click"
  | mouseDown => "mouse_down"
  | mouseRelease => "mouse_release"
  | typeText => "type_text"
  | keyDown => "key_down"
  | keyRelease => "key_release"
  | sleep => "sleep"
  | msleep => "msleep"

def ofName? (s : String) : Option HostFunction := all.find? fun f => f.name = s

def read? (f : HostFunction) (args : List HostValue) : Except CallError HostCall :=
  match f with
  | move =>
    match Argument.coordinate? args 1 f.name with
    | .error e => .error e
    | .ok x => (Argument.coordinate? args 2 f.name).map fun y => .input (.move ⟨x, y⟩)
  | mouseClick => (Argument.button? args 1 f.name).map fun b => .input (.click b .click)
  | mouseDown => (Argument.button? args 1 f.name).map fun b => .input (.click b .down)
  | mouseRelease => (Argument.button? args 1 f.name).map fun b => .input (.click b .up)
  | typeText => (Argument.string? args 1 f.name).map fun s => .input (.text s)
  | keyDown => (Argument.key? args 1 f.name).map fun k => .input (.key k true)
  | keyRelease => (Argument.key? args 1 f.name).map fun k => .input (.key k false)
  | sleep => (Argument.duration? args 1 f.name 1.0).map .sleep
  | msleep => (Argument.duration? args 1 f.name 1000.0).map .sleep

end HostFunction

/-- the call that a list of arguments makes of the function of a name -/
def HostCall.ofName? (name : String) (args : List HostValue) : Except CallError HostCall :=
  match HostFunction.ofName? name with
  | some f => f.read? args
  | none => .error (.unknownFunction name)

end ScriptGuard
