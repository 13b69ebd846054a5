import ScriptGuard.Duration
import ScriptGuard.Options
import ScriptGuard.Text

/-!
# Inputs and devices

What a script can do to the desktop, what is held down by it, and the device that performs it.
-/

namespace ScriptGuard

/-!
## Inputs

What a script can do to the desktop: move the pointer, press buttons and keys, type text. The
buttons are ordered left, right, middle.
-/

structure Point where
  x : Int
  y : Int
deriving DecidableEq, Repr, Inhabited

inductive Button where
  | left
  | right
  | middle
deriving DecidableEq, Repr, Inhabited

namespace Button

def all : List Button := [left, right, middle]

def name : Button → String
  | left => "left"
  | right => "right"
  | middle => "middle"

/-- the button a word or a number names -/
def ofText? (s : String) : Except NameError Button :=
  let word := Text.keyword s
  if word = "left" ∨ word = "1" then .ok left
  else if word = "right" ∨ word = "2" then .ok right
  else if word = "middle" ∨ word = "3" then .ok middle
  else .error (.button word)

end Button

inductive Phase where
  | down
  | up
  | click
deriving DecidableEq, Repr, Inhabited

def Phase.title : Phase → String
  | down => "Down"
  | up => "Up"
  | click => "Click"

inductive Input where
  | move (point : Point)
  | click (button : Button) (phase : Phase)
  | key (name : String) (down : Bool)
  | text (content : String)
deriving DecidableEq, Repr, Inhabited

/-!
## Held inputs

The buttons and keys that are down. Buttons stand in their order, keys in the order of their
characters, each at most once.

* `Held.after h i`   the held inputs once an input has been performed;
* `Held.releases h`  the inputs that release all of them, buttons first.
-/

/-- the buttons and keys that are down -/
structure Held where
  buttons : List Button := []
  keys : List String := []
deriving DecidableEq, Repr, Inhabited

/-- a key put into its place in an ordered list -/
def insertKey (k : String) : List String → List String
  | [] => [k]
  | x :: r => if k = x then x :: r else if k < x then k :: x :: r else x :: insertKey k r

theorem mem_insertKey {k x : String} {l : List String} :
    x ∈ insertKey k l ↔ x = k ∨ x ∈ l := by
  induction l with
  | nil => simp [insertKey]
  | cons y r ih =>
    unfold insertKey
    split
    · next h => subst h; simp
    · split
      · simp
      · simp [ih, or_left_comm]

namespace Held

def isEmpty (h : Held) : Bool := h.buttons.isEmpty && h.keys.isEmpty

def pressButton (h : Held) (b : Button) : Held :=
  { h with buttons := Button.all.filter fun x => x == b || h.buttons.contains x }

def releaseButton (h : Held) (b : Button) : Held :=
  { h with buttons := h.buttons.filter (· != b) }

def pressKey (h : Held) (k : String) : Held := { h with keys := insertKey k h.keys }

def releaseKey (h : Held) (k : String) : Held := { h with keys := h.keys.filter (· != k) }

/-- the held inputs after an input; a plain click holds nothing -/
def after (h : Held) : Input → Held
  | .click b .down => h.pressButton b
  | .click b .up => h.releaseButton b
  | .click _ .click => h
  | .key k true => h.pressKey k
  | .key k false => h.releaseKey k
  | .move _ => h
  | .text _ => h

/-- the inputs that release everything, buttons first -/
def releases (h : Held) : List Input :=
  h.buttons.map (Input.click · .up) ++ h.keys.map (Input.key · false)

end Held

/-!
## Devices

A device performs inputs, waits and releases everything on demand; each may fail or break down.

* `DeviceCall`, `DeviceReply`   what a device is asked and what comes of it;
* `SimulatedDevice`             a device that only keeps its own record of the pointer and of what
                                is down; it refuses blank key names.
-/

/-- why a device did not do what it was asked -/
structure DeviceError where
  device : String
  message : String
deriving DecidableEq, Repr

def DeviceError.text (e : DeviceError) : String := e.device ++ " backend failed: " ++ e.message

inductive DeviceCall where
  | input (i : Input)
  | wait (d : Duration)
  | releaseAll
deriving DecidableEq, Repr

inductive DeviceReply where
  | done
  | failed (e : DeviceError)
  | brokeDown
deriving DecidableEq, Repr

/-- a device that keeps its own record of what it was asked -/
structure SimulatedDevice where
  mode : InputMode
  cursor : Point := ⟨0, 0⟩
  down : Held := {}
deriving DecidableEq, Repr

namespace SimulatedDevice

def name (d : SimulatedDevice) : String := "simulated-" ++ d.mode.name

/-- the device after an input, or its refusal -/
def perform (d : SimulatedDevice) : Input → Except DeviceError SimulatedDevice
  | .move p => .ok { d with cursor := p }
  | .click b phase => .ok { d with down := d.down.after (.click b phase) }
  | .key k isDown =>
    if Text.allBlank k then .error ⟨d.name, "empty key name"⟩
    else .ok { d with down := d.down.after (.key k isDown) }
  | .text _ => .ok d

def releaseAll (d : SimulatedDevice) : SimulatedDevice := { d with down := {} }

/-- the device after a call and its reply; a wait leaves it as it is -/
def call (d : SimulatedDevice) : DeviceCall → DeviceReply × SimulatedDevice
  | .input i =>
    match d.perform i with
    | .ok d' => (.done, d')
    | .error e => (.failed e, d)
  | .wait _ => (.done, d)
  | .releaseAll => (.done, d.releaseAll)

end SimulatedDevice

end ScriptGuard
