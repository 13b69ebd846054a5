import ScriptGuard.Authorization
import ScriptGuard.Options
import ScriptGuard.RunState

/-!
# How a run ends

* `Failure`      what can go wrong in a run;
* `AbortReason`  why a run has to unwind, with a priority: the kill switch and Terminate come
                 before Stop, Stop before any failure;
* `Outcome`      how a run ended, and `Outcome.ofAbort` for one that had to unwind;
* `RunResult`    the report of a run.
-/

namespace ScriptGuard

/-- what can go wrong in a run -/
inductive Failure where
  | limit (violation : Violation)
  | denied (category : Category)
  | device (operation message : String)
  | script (message : String)
deriving DecidableEq, Repr

def Failure.message : Failure → String
  | limit violation => "execution limit exceeded: " ++ violation.message
  | denied category => "authorization denied for " ++ category.name
  | device operation message =>
    "input backend failed during " ++ operation ++ ": " ++ message
  | script message => "script error: " ++ message

/-- why a run has to unwind -/
inductive AbortReason where
  | killSwitch (reason : String)
  | terminated
  | stopped
  | failure (cause : Failure)
deriving DecidableEq, Repr

namespace AbortReason

def message : AbortReason → String
  | killSwitch reason => "kill switch: " ++ reason
  | terminated => "terminated"
  | stopped => "stopped"
  | failure cause => cause.message

/-- a reason replaces one of lower priority -/
def priority : AbortReason → Nat
  | killSwitch _ => 3
  | terminated => 3
  | stopped => 2
  | failure _ => 1

/-- the state in which a run unwound for this reason ends -/
def finalState : AbortReason → RunState
  | failure _ => .failed
  | _ => .terminated

/-- what an abort slot holds once `new` has been requested: the earliest of the highest priority -/
def merge (slot : Option AbortReason) (new : AbortReason) : AbortReason :=
  match slot with
  | none => new
  | some old => if old.priority < new.priority then new else old

@[simp] theorem merge_none (new : AbortReason) : merge none new = new := rfl

theorem merge_some (old new : AbortReason) :
    merge (some old) new = if old.priority < new.priority then new else old := rfl

theorem priority_merge (old new : AbortReason) :
    (merge (some old) new).priority = max old.priority new.priority := by
  rw [merge_some]; split <;> omega

end AbortReason

/-- how a run ended -/
inductive Outcome where
  | completed
  | terminated (reason : AbortReason)
  | failed (cause : Failure)
deriving DecidableEq, Repr

namespace Outcome

/-- the outcome of a run that had to unwind -/
def ofAbort : AbortReason → Outcome
  | .failure cause => failed cause
  | reason => terminated reason

def state : Outcome → RunState
  | completed => .completed
  | terminated _ => .terminated
  | failed _ => .failed

@[simp] theorem state_ofAbort (r : AbortReason) : (ofAbort r).state = r.finalState := by
  cases r <;> rfl

theorem isTerminal_state (o : Outcome) : o.state.isTerminal = true := by cases o <;> rfl

end Outcome

structure RunResult where
  script : String
  name : String
  outcome : Outcome
  operations : Nat
  elapsed : Duration
deriving DecidableEq, Repr

namespace RunResult

def state (r : RunResult) : RunState := r.outcome.state

/-- the script came to its end -/
def isSuccess (r : RunResult) : Bool := r.outcome == .completed

/-- what went wrong, if something did -/
def failure? (r : RunResult) : Option Failure :=
  match r.outcome with
  | .failed cause => some cause
  | _ => none

end RunResult

end ScriptGuard
