import ScriptGuard.Interpreter

/-!
# An interpreter on a bench

An interpreter without a service: each host function has one fixed reply, and each look for an
interrupt finds the same thing.
-/

namespace ScriptGuard

/-- an interpreter with the replies of its host functions and the interrupt -/
structure Bench where
  interpreter : Interpreter := {}
  replies : List (Except HostError Unit) := []
  interrupt : Option HostError := none

namespace Bench

/-- a host function gets a name and a reply -/
def register (b : Bench) (name : String) (reply : Except HostError Unit) : Bench :=
  { b with
    interpreter := b.interpreter.register name
    replies := b.replies ++ [reply] }

/-- a script is compiled; true if that succeeds -/
def load (b : Bench) (source name : String) : Bool × Bench :=
  match b.interpreter.load? source name with
  | .ok i => (true, { b with interpreter := i })
  | .error _ => (false, b)

/-- more happens in no script -/
def enough : Nat := 1000000000

/-- the script runs to its end: the end, the calls it made and the lines it printed -/
def run (b : Bench) : ScriptEnd × List Interpreter.Exchange × List String × Bench :=
  let reply (n : Nat) : Except HostError Unit := (b.replies[n]?).getD (.ok ())
  let (e, calls, i) := b.interpreter.playOut reply b.interrupt enough []
  let (printed, i) := i.drain
  (e, calls, printed, { b with interpreter := i })

end Bench

end ScriptGuard
