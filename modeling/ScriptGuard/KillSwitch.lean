/-!
# The kill switch

A flag for the whole process with the reason of its last activation and listeners that are told of
each activation. The reason outlives the deactivation.

* `engage`     turns the switch on, unless it is on already;
* `disengage`  turns it off;
* `poll`       the reason, while the switch is on;
* `announce`   the calls one activation makes, one for each listener in the order of subscription.
-/

namespace ScriptGuard

/-- one that is told of activations; a faulty one breaks down after it has noted the call -/
structure Listener where
  number : Nat
  faulty : Bool
deriving DecidableEq, Repr

structure KillSwitch where
  active : Bool := false
  record : Option String := none
  listeners : List Listener := []
deriving DecidableEq, Repr, Inhabited

inductive Reaction where
  | noted
  | brokeDown
deriving DecidableEq, Repr

def Listener.react (l : Listener) : Reaction := if l.faulty then .brokeDown else .noted

namespace KillSwitch

/-- turns the switch on and says whether it was off before -/
def engage (k : KillSwitch) (reason : String) : Bool × KillSwitch :=
  if k.active then (false, k) else (true, { k with active := true, record := some reason })

/-- turns the switch off and says whether it was on before -/
def disengage (k : KillSwitch) : Bool × KillSwitch :=
  (k.active, { k with active := false })

/-- a new listener, the last to be told -/
def subscribe (k : KillSwitch) (l : Listener) : KillSwitch :=
  { k with listeners := k.listeners ++ [l] }

/-- the reason, while the switch is on -/
def poll (k : KillSwitch) : Option String :=
  if k.active then some (k.record.getD "kill switch") else none

/-- the reason shown to one who is turned away -/
def shownReason (k : KillSwitch) : String := k.record.getD ""

/-- the listeners told by one activation, with what became of each call; a listener that breaks
down does not keep the others from being told -/
def announce (listeners : List Listener) (reason : String) : List (Nat × String × Reaction) :=
  listeners.map fun l => (l.number, reason, l.react)

/-- turns the switch on and tells the listeners if it was off -/
def activate (k : KillSwitch) (reason : String) :
    Bool × KillSwitch × List (Nat × String × Reaction) :=
  match k.engage reason with
  | (true, k') => (true, k', announce k'.listeners reason)
  | (false, k') => (false, k', [])

end KillSwitch

end ScriptGuard
