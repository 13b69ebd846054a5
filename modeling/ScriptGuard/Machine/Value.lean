import ScriptGuard.Code.Tree
import ScriptGuard.Host

/-!
# Values of running scripts

Strings are bytes; tables, functions with their variables and coroutines are numbers of places on a
heap. What a host function raised is a value too: an error of the host, or a wreck where the host
function broke down.

The library functions are grouped by the table in which scripts find them.
-/

namespace ScriptGuard.Machine

inductive BaseFunction where
  | assert | collectGarbage | doFile | error | getMetatable | ipairs | ipairsNext | load | loadFile
  | next | pairs | pcall | print | rawEqual | rawGet | rawLen | rawSet | select | setMetatable
  | toNumber | toText | type | warn | xpcall
deriving DecidableEq, Repr, Hashable

inductive TextFunction where
  | byte | char | find | format | gmatch | gsub | len | lower | matches | rep | reverse | sub | upper
deriving DecidableEq, Repr, Hashable

inductive TableFunction where
  | concat | insert | move | pack | remove | sort | unpack
deriving DecidableEq, Repr, Hashable

inductive MathFunction where
  | abs | acos | asin | atan | ceil | cos | cosh | exp | floor | fmod | frexp | ldexp | log | log10
  | max | min | modf | pow | random | randomSeed | sin | sinh | sqrt | tan | tanh | toInteger | type
  | ult
deriving DecidableEq, Repr, Hashable

inductive CodePointFunction where
  | char | codePoint | codes | codesNext | len | offset
deriving DecidableEq, Repr, Hashable

inductive RoutineFunction where
  | close | create | isYieldable | resume | running | status | wrap | yield
deriving DecidableEq, Repr, Hashable

inductive Builtin where
  | base (f : BaseFunction)
  | text (f : TextFunction)
  | table (f : TableFunction)
  | math (f : MathFunction)
  | codePoint (f : CodePointFunction)
  | routine (f : RoutineFunction)
deriving DecidableEq, Repr, Hashable

inductive Value where
  | nil
  | bool (b : Bool)
  | int (n : Int)
  | num (x : Float)
  | str (bytes : ByteArray)
  | table (place : Nat)
  | function (place : Nat)
  | builtin (f : Builtin)
  /-- the host function of a number -/
  | host (number : Nat)
  /-- a function that resumes a coroutine -/
  | wrapped (thread : Nat)
  /-- a function that gives the matches of a pattern, at a place -/
  | matcher (place : Nat)
  | thread (place : Nat)
  /-- an error that a host function raised -/
  | fault (e : HostError)
  /-- what is left of a host function that broke down -/
  | wreck
deriving Inhabited

namespace Value

def ofText (s : String) : Value := .str s.toUTF8

/-- nil and false do not hold -/
def holds : Value → Bool
  | nil => false
  | bool b => b
  | _ => true

def isNil : Value → Bool
  | nil => true
  | _ => false

def isFunction : Value → Bool
  | function _ | builtin _ | host _ | wrapped _ | matcher _ => true
  | _ => false

/-- the type of a value as scripts name it -/
def typeName : Value → String
  | nil => "nil"
  | bool _ => "boolean"
  | int _ => "number"
  | num _ => "number"
  | str _ => "string"
  | table _ => "table"
  | function _ => "function"
  | builtin _ => "function"
  | host _ => "function"
  | wrapped _ => "function"
  | matcher _ => "function"
  | thread _ => "thread"
  | fault _ => "userdata"
  | wreck => "userdata"

/-- the type of a value as the host names it -/
def hostTypeName : Value → String
  | int _ => "integer"
  | fault _ => "error"
  | v => v.typeName

def first : List Value → Value
  | v :: _ => v
  | [] => nil

end Value

/-- what a function sees: its variables, latest first, with their places; the arguments beyond its
parameters; the name of its chunk -/
structure Env where
  visible : List (String × Nat)
  varargs : List Value
  chunk : String

def Env.find? (env : Env) (name : String) : Option Nat :=
  (env.visible.find? fun v => v.1 = name).map (·.2)

def Env.bind (env : Env) (name : String) (place : Nat) : Env :=
  { env with visible := (name, place) :: env.visible }

/-- a function with the variables it sees -/
structure Closure where
  body : Code.Body
  env : Env

/-!
## The names of library functions

Where scripts find the functions of the libraries.

* `Builtin.all`   every function that has a name.
-/

def BaseFunction.named : List (String × BaseFunction) :=
  [("assert", .assert), ("collectgarbage", .collectGarbage), ("dofile", .doFile),
    ("error", .error), ("getmetatable", .getMetatable), ("ipairs", .ipairs), ("load", .load),
    ("loadfile", .loadFile), ("next", .next), ("pairs", .pairs), ("pcall", .pcall),
    ("print", .print), ("rawequal", .rawEqual), ("rawget", .rawGet), ("rawlen", .rawLen),
    ("rawset", .rawSet), ("select", .select), ("setmetatable", .setMetatable),
    ("tonumber", .toNumber), ("tostring", .toText), ("type", .type), ("warn", .warn),
    ("xpcall", .xpcall)]

def TextFunction.named : List (String × TextFunction) :=
  [("byte", .byte), ("char", .char), ("find", .find), ("format", .format), ("gmatch", .gmatch),
    ("gsub", .gsub), ("len", .len), ("lower", .lower), ("match", .matches), ("rep", .rep),
    ("reverse", .reverse), ("sub", .sub), ("upper", .upper)]

def TableFunction.named : List (String × TableFunction) :=
  [("concat", .concat), ("insert", .insert), ("move", .move), ("pack", .pack),
    ("remove", .remove), ("sort", .sort), ("unpack", .unpack)]

def MathFunction.named : List (String × MathFunction) :=
  [("abs", .abs), ("acos", .acos), ("asin", .asin), ("atan", .atan), ("ceil", .ceil),
    ("cos", .cos), ("cosh", .cosh), ("exp", .exp), ("floor", .floor), ("fmod", .fmod),
    ("frexp", .frexp), ("ldexp", .ldexp), ("log", .log), ("log10", .log10), ("max", .max),
    ("min", .min), ("modf", .modf), ("pow", .pow), ("random", .random),
    ("randomseed", .randomSeed), ("sin", .sin), ("sinh", .sinh), ("sqrt", .sqrt), ("tan", .tan),
    ("tanh", .tanh), ("tointeger", .toInteger), ("type", .type), ("ult", .ult)]

/-- the functions of the library for code points by name -/
def CodePointFunction.named : List (String × CodePointFunction) :=
  [("char", .char), ("codepoint", .codePoint), ("codes", .codes), ("len", .len),
    ("offset", .offset)]

/-- the functions of the library for coroutines by name -/
def RoutineFunction.named : List (String × RoutineFunction) :=
  [("close", .close), ("create", .create), ("isyieldable", .isYieldable), ("resume", .resume),
    ("running", .running), ("status", .status), ("wrap", .wrap), ("yield", .yield)]

namespace Builtin

/-- the functions by name, with the table that holds them; none for the globals themselves -/
def all : List (Option String × String × Builtin) :=
  BaseFunction.named.map (fun f => (none, f.1, base f.2))
    ++ TextFunction.named.map (fun f => (some "string", f.1, text f.2))
    ++ TableFunction.named.map (fun f => (some "table", f.1, table f.2))
    ++ MathFunction.named.map (fun f => (some "math", f.1, math f.2))
    ++ CodePointFunction.named.map (fun f => (some "utf8", f.1, codePoint f.2))
    ++ RoutineFunction.named.map (fun f => (some "coroutine", f.1, routine f.2))

def libraries : List String := ["string", "table", "math", "utf8", "coroutine"]

/-- the name of a function with that of its library -/
def fullName (f : Builtin) : String :=
  match all.find? fun e => e.2.2 = f with
  | some (some library, name, _) => library ++ "." ++ name
  | some (none, name, _) => name
  | none => "?"

end Builtin

end ScriptGuard.Machine
