import ScriptGuard.Options

/-!
# States of a run and commands on it

* `RunState`             idle, three active states and three terminal ones;
* `RunState.canMove`     the table of the moves a run may make;
* `Command.isAvailable`  in which mode and state a command may be given.

The lemmas say that terminal states have no successor (`canMove_of_isTerminal`), that nothing
returns to idle (`canMove_idle`) and that no command is available outside the active states
(`isAvailable_of_not_isActive`).
-/

namespace ScriptGuard

inductive RunState where
  | idle
  | running
  | paused
  | stepping
  | completed
  | failed
  | terminated
deriving DecidableEq, Repr, Inhabited

namespace RunState

def name : RunState → String
  | idle => "idle"
  | running => "running"
  | paused => "paused"
  | stepping => "stepping"
  | completed => "completed"
  | failed => "failed"
  | terminated => "terminated"

def isTerminal : RunState → Bool
  | completed | failed | terminated => true
  | _ => false

def isActive : RunState → Bool
  | running | paused | stepping => true
  | _ => false

/-- the moves a run may make -/
def canMove : RunState → RunState → Bool
  | idle, running => true
  | running, paused => true
  | paused, running => true
  | paused, stepping => true
  | stepping, paused => true
  | stepping, running => true
  | src, dst => src.isActive && dst.isTerminal

theorem canMove_of_isTerminal {src dst : RunState} (h : src.isTerminal = true) :
    src.canMove dst = false := by
  cases src <;> simp_all [isTerminal] <;> cases dst <;> rfl

theorem canMove_idle (src : RunState) : src.canMove idle = false := by
  cases src <;> rfl

theorem canMove_terminal {src dst : RunState} (h : src.isActive = true)
    (h' : dst.isTerminal = true) : src.canMove dst = true := by
  cases src <;> simp_all [isActive] <;> cases dst <;> simp_all [isTerminal, canMove, isActive]

end RunState

/-- a request to a run -/
inductive Command where
  | pause
  | resume
  | step
  | stop
  | terminate
deriving DecidableEq, Repr, Inhabited

namespace Command

/-- all commands, in the order in which they are listed -/
def all : List Command := [pause, resume, step, stop, terminate]

/-- the name of a command as it appears in messages -/
def title : Command → String
  | pause => "Pause"
  | resume => "Resume"
  | step => "Step"
  | stop => "Stop"
  | terminate => "Terminate"

/-- the command is for interactive runs only -/
def needsInteractive : Command → Bool
  | terminate => false
  | _ => true

/-- the command may be given to a run of this mode in this state -/
def isAvailable (c : Command) (mode : ControlMode) (state : RunState) : Bool :=
  (!c.needsInteractive || mode.isInteractive) &&
    match c with
    | pause => state == .running
    | resume => state == .paused || state == .stepping
    | step => state == .paused
    | stop => state.isActive
    | terminate => state.isActive

theorem isAvailable_of_not_isActive (c : Command) (mode : ControlMode) {state : RunState}
    (h : state.isActive = false) : c.isAvailable mode state = false := by
  cases state <;> simp_all [RunState.isActive] <;> cases c <;> cases mode <;> rfl

/-- the command a word names; most have a short name of one letter -/
def ofText? (s : String) : Except NameError Command :=
  let word := Text.keyword s
  if word = "pause" ∨ word = "p" then .ok pause
  else if word = "resume" ∨ word = "r" then .ok resume
  else if word = "step" ∨ word = "s" then .ok step
  else if word = "stop" then .ok stop
  else if word = "terminate" ∨ word = "kill" ∨ word = "t" then .ok terminate
  else .error (.command word)

end Command

end ScriptGuard
