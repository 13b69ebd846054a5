import ScriptGuard.Machine.Start

/-!
# Interpreters

An interpreter compiles a script and runs it once. Host functions are known to it by their names;
between two calls, after so many steps, it looks for an interrupt.

* `Interpreter.register`, `Interpreter.load?`   getting ready;
* `Interpreter.run`                             what happens next while the script runs;
* `Interpreter.hear`, `Interpreter.interrupt`   what the host answers.
-/

namespace ScriptGuard

open Machine (Value)

def HostValue.ofValue : Value → HostValue
  | .nil => nil
  | .bool b => bool b
  | .int n => int n
  | .num x => num x
  | .str b => str (Text.lossy b)
  | v => other v.hostTypeName

structure Interpreter where
  machine : Machine.State := .fresh
  /-- the names of the host functions by their numbers -/
  functions : List String := []
  isLoaded : Bool := false
  /-- the steps until it looks for an interrupt -/
  untilPoll : Nat := 0

inductive Happening where
  /-- the host function of a number is called -/
  | calls (number : Nat) (args : List HostValue)
  | polls
  | ends (e : ScriptEnd)
  | breaksDown

namespace Interpreter

/-- the steps from one look for an interrupt to the next; they are a prime number, so that no loop
takes the same turn at every look -/
def pollInterval : Nat := 10007

/-- the steps in which a call that is under way at a look may come to its end -/
def patience : Nat := 1000

/-- the bytes of the name of a script that messages show -/
def shownBytes : Nat := 59

/-- a host function gets a name; an earlier one of this name is gone -/
def register (i : Interpreter) (name : String) : Interpreter :=
  { i with
    machine := i.machine.register name i.functions.length
    functions := i.functions ++ [name] }

/-- a script is compiled and waits to be run -/
def load? (i : Interpreter) (source name : String) : Except String Interpreter :=
  if name.toList.contains '\x00' then .error "invalid name"
  else
    let chunk := Text.lossy (name.toUTF8.extract 0 shownBytes)
    match Code.parse? source with
    | .error e => .error (e.message chunk)
    | .ok body =>
      .ok { i with
        machine := i.machine.load body chunk
        isLoaded := true
        untilPoll := pollInterval }

/-- the name of the host function of a number -/
def functionName (i : Interpreter) (number : Nat) : String := (i.functions[number]?).getD ""

def compiles (source name : String) : Bool := (load? {} source name).isOk

/-- the text of an error of a script, up to its first zero byte -/
def errorText (heap : Machine.Heap) (v : Value) : String :=
  let bytes := (Machine.Text.plainText heap v).toList.takeWhile (· != 0)
  Text.lossy bytes.toByteArray

def ending (heap : Machine.Heap) : Option Value → Happening
  | none => .ends .completed
  | some (.fault (.abort reason)) => .ends (.aborted reason)
  | some (.fault (.script message)) => .ends (.failed message)
  | some .wreck => .breaksDown
  | some v => .ends (.failed ("runtime error: " ++ errorText heap v))

/-- the script itself is at work, not a call between two of its operations -/
def isAtWork (m : Machine.State) : Bool :=
  match m.control with
  | .eval .. => true
  | .next => true
  | _ => false

/-- a machine goes on until the script itself is at work, or as long as there is patience -/
def settle : Nat → Machine.Turn → Machine.Turn
  | 0, turn => turn
  | fuel + 1, .onward m => if isAtWork m then .onward m else settle fuel m.step
  | _ + 1, turn => turn

/-- what happens next, and the steps that took -/
def run (i : Interpreter) : Happening × Nat × Interpreter :=
  if !i.isLoaded then (.ends (.failed "no script loaded"), 0, i)
  else
    let (turn, left) := i.machine.advance i.untilPoll
    match settle patience turn with
    | .onward m => (.polls, i.untilPoll, { i with machine := m, untilPoll := pollInterval })
    | .asks number args m =>
      (.calls number (args.map .ofValue), i.untilPoll - left,
        { i with machine := m, untilPoll := left })
    | .ended error m =>
      (ending m.heap error, i.untilPoll - left, { i with machine := m, isLoaded := false })

def hear (i : Interpreter) : Except HostError Unit → Interpreter
  | .ok _ => i
  | .error e => { i with machine := i.machine.refuse e }

def breakDown (i : Interpreter) : Interpreter := { i with machine := i.machine.breakDown }

def interrupt (i : Interpreter) (e : HostError) : Interpreter :=
  { i with machine := i.machine.interrupt e }

/-- a host function is called and replies at once -/
structure Exchange where
  function : String
  args : List HostValue

/-- the script runs to its end; each host function has one reply, and each look for an interrupt
finds the same one -/
def playOut (reply : Nat → Except HostError Unit) (found : Option HostError) :
    Nat → List Exchange → Interpreter → ScriptEnd × List Exchange × Interpreter
  | 0, said, i => (.failed "out of steps", said.reverse, i)
  | fuel + 1, said, i =>
    match i.run with
    | (.calls number args, _, i) =>
      playOut reply found fuel (⟨i.functionName number, args⟩ :: said) (i.hear (reply number))
    | (.polls, _, i) =>
      playOut reply found fuel said (found.elim i i.interrupt)
    | (.ends e, _, i) => (e, said.reverse, i)
    | (.breaksDown, _, i) => (.failed "broken down", said.reverse, i)

/-- the lines printed since the last time -/
def drain (i : Interpreter) : List String × Interpreter :=
  (i.machine.printed.reverse, { i with machine := { i.machine with printed := [] } })

end Interpreter

end ScriptGuard
