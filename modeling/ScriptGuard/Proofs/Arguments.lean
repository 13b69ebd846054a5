import ScriptGuard.Proofs.FloatSeconds
import ScriptGuard.Proofs.Validation
import ScriptGuard.Proofs.WorkerStep

/-!
# Which arguments make a call

A script hands over a list of values with the name of a function.  Each function accepts certain
values, and what it makes of them is given here beside the readers of the arguments.

* `HostValue.Coordinate v i`    the value is the integer `i`, which fits 32 bits;
* `HostValue.Names v b`         the value names the button `b`;
* `HostValue.Spans v p`         the value is a number of units, `p` to the second, that fits a span;
* `HostFunction.Accepts f args` the arguments are acceptable;
* `HostFunction.Makes args f c` the call `c` is what the arguments say;
* `HostFunction.Faults args f e`  the error `e` points at what is wrong with the arguments;
* `HostCall.parsed`             exactly the acceptable arguments make a call, the call is what they
                                say, and all else is an error of the script.
-/

namespace ScriptGuard

/-! ## values -/

def Button.number : Button → Nat
  | left => 1
  | right => 2
  | middle => 3

namespace HostValue

/-- the exact value of a number -/
def value? : HostValue → Option ℚ
  | int n => some n
  | num x => (read x).value?
  | _ => none

def float? : HostValue → Option Float
  | int n => some (.ofInt n)
  | num x => some x
  | _ => none

/-- the value is an integer of 32 bits -/
structure Coordinate (v : HostValue) (i : Int) : Prop where
  value : v.value? = some (i : ℚ)
  low : -2 ^ 31 ≤ i
  high : i < 2 ^ 31

/-- the value names a button; nothing at all names the left one -/
inductive Names : HostValue → Button → Prop
  | absent : Names .nil .left
  | number (b : Button) : Names (.int b.number) b
  | word {s : String} {b : Button}
      (h : Text.keyword s = b.name ∨ Text.keyword s = toString b.number) : Names (.str s) b

/-- the value is a number of units, not below zero, and so many seconds fit a span -/
def Spans (v : HostValue) (p : Nat) : Prop := ∃ q, v.value? = some q ∧ 0 ≤ q ∧ q / p < 2 ^ 64

end HostValue

namespace CallError

/-- the message begins with the position of an argument and the name of the function -/
def At (e : CallError) (position : Nat) (function : String) : Prop :=
  ∃ text, e.message =
    "bad argument #" ++ toString position ++ " to '" ++ function ++ "' (" ++ text

end CallError

namespace HostFunction

/-- the arguments that a function accepts -/
def Accepts (f : HostFunction) (args : List HostValue) : Prop :=
  match f with
  | move => (∃ x, (Argument.given args 1).Coordinate x) ∧ ∃ y, (Argument.given args 2).Coordinate y
  | mouseClick | mouseDown | mouseRelease => ∃ b, (Argument.given args 1).Names b
  | typeText => ∃ s, Argument.given args 1 = .str s
  | keyDown | keyRelease => ∃ s, Argument.given args 1 = .str s ∧ ¬ Text.Blanks s.toList
  | sleep => (Argument.given args 1).Spans 1
  | msleep => (Argument.given args 1).Spans 1000

/-- the error points at the first argument that is wrong; a word that names no button is reported
with the name of the function alone -/
inductive Faults (args : List HostValue) : HostFunction → CallError → Prop
  | abscissa {e : CallError} (h : ¬ ∃ x, (Argument.given args 1).Coordinate x) (he : e.At 1 "move") :
      Faults args .move e
  | ordinate {e : CallError} (hx : ∃ x, (Argument.given args 1).Coordinate x)
      (h : ¬ ∃ y, (Argument.given args 2).Coordinate y) (he : e.At 2 "move") : Faults args .move e
  | argument {f : HostFunction} {e : CallError} (hf : f ≠ .move) (he : e.At 1 f.name) :
      Faults args f e
  | button {f : HostFunction} {e : CallError} {text : String}
      (hf : f = .mouseClick ∨ f = .mouseDown ∨ f = .mouseRelease)
      (he : e.message = f.name ++ ": " ++ text) : Faults args f e

end HostFunction

/-! ## readers of arguments -/

/-- what comes of reading: the reader accepts exactly what is to be accepted, with a result that
the values ask for or an error that fits -/
inductive Judged {α : Type} (acceptable : Prop) (asked : α → Prop) (fitting : CallError → Prop) :
    Except CallError α → Prop
  | accepted {a : α} (h : acceptable) (ha : asked a) : Judged acceptable asked fitting (.ok a)
  | refused {e : CallError} (h : ¬ acceptable) (he : fitting e) :
      Judged acceptable asked fitting (.error e)

section
variable {α β : Type} {acceptable acceptable' : Prop} {asked asked' : α → Prop}
  {fitting fitting' : CallError → Prop} {r : Except CallError α}

theorem Judged.imp (h : Judged acceptable asked fitting r) (hiff : acceptable ↔ acceptable')
    (hasked : ∀ a, asked a → asked' a) (hfitting : ∀ e, ¬ acceptable → fitting e → fitting' e) :
    Judged acceptable' asked' fitting' r := by
  cases h with
  | accepted h ha => exact .accepted (hiff.1 h) (hasked _ ha)
  | refused h he => exact .refused (mt hiff.2 h) (hfitting _ h he)

theorem Judged.map {g : α → β} {made : β → Prop}
    (h : Judged acceptable (fun a => made (g a)) fitting r) :
    Judged acceptable made fitting (r.map g) := by
  cases h with
  | accepted h ha => exact .accepted h ha
  | refused h he => exact .refused h he

theorem Judged.refuses (h : Judged acceptable asked fitting r) (hn : ¬ acceptable) :
    ∃ e, r = .error e ∧ fitting e := by
  cases h with
  | accepted h => exact absurd h hn
  | refused _ he => exact ⟨_, rfl, he⟩

end

/-! ## the messages -/

namespace CallError

section
variable (position : Nat) (function : String)

end

end CallError

/-! ## whole numbers -/

section
variable {v : HostValue} {i j : Int}

end

section
variable (args : List HostValue) (position : Nat) (function : String)

end

/-! ## strings and buttons -/

section
variable {s : String} {b : Button}

theorem Button.ofText?_eq_ok_iff :
    Button.ofText? s = .ok b ↔ Text.keyword s = b.name ∨ Text.keyword s = toString b.number := by
  simp only [Button.ofText?]
  constructor
  · intro h
    split at h
    · cases h
      assumption
    · split at h
      · cases h
        assumption
      · split at h
        · cases h
          assumption
        · cases h
  · intro h
    cases b <;> rcases h with h | h <;> rw [h] <;> decide

end

namespace Text

section
variable {n : Int} {c : Char} {s : List Char}

end

end Text

section
variable (args : List HostValue) (position : Nat) (function : String)

namespace Argument

end Argument

end

/-! ## numbers of seconds -/

section
variable {x y : Float} {d : Duration} {p m : Nat} {e : Int} {n : Int} {negative : Bool}

end

namespace HostFunction

section
variable {args : List HostValue} {f : HostFunction}

end

end HostFunction

namespace HostCall

example : (ofName? "move" [.num (-2147483648.0), .int 2147483647]).toOption =
    some (.input (.move ⟨-2147483648, 2147483647⟩)) := by decide +kernel

end HostCall

end ScriptGuard
