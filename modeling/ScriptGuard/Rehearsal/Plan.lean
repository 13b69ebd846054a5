import ScriptGuard.Service

/-!
# Plans of rehearsals

What is laid down before a rehearsal: which calls of the device fail or break down, what the handler
answers, and the hooks, which act on the service in the middle of a call.

* `Hook`       actions at the call of a number of one kind;
* `Faults`     the calls of the device that go wrong, by their numbers;
* `Plan`       all that is laid down.
-/

namespace ScriptGuard.Rehearsal

/-- the kinds of calls at which a hook can act -/
inductive Occasion where
  | effect
  | wait
  | release
  | question
  | provision
deriving DecidableEq, Repr

/-- what a hook does -/
inductive Action where
  | control (command : Command) (id : String)
  | kill (reason : String)
  | unkill
  | sleep (d : Duration)

/-- actions at the call of a number; calls are counted from one, for each run of the script -/
structure Hook where
  occasion : Occasion
  script : Option String
  number : Nat
  actions : List Action

/-- the actions of all hooks at a call, in their order -/
def actionsAt (hooks : List Hook) (occasion : Occasion) (script : Option String) (number : Nat) :
    List Action :=
  (hooks.filter fun h => h.occasion == occasion && h.number == number &&
    (h.script.isNone || script.isNone || h.script == script)).flatMap (·.actions)

/-- which calls of the device go wrong, by their numbers -/
structure Faults where
  effect : Nat → Bool := fun _ => false
  wait : Nat → Bool := fun _ => false
  release : Nat → Bool := fun _ => false
  /-- waits that break down -/
  breakdown : Nat → Bool := fun _ => false
  /-- kinds of devices that are not to be had -/
  refused : List InputMode := []

/-- all that is laid down before a rehearsal -/
structure Plan where
  /-- the name of the device -/
  device : String
  /-- how the messages of the device call an effect -/
  effectWord : String
  /-- one device serves all runs -/
  shared : Bool := false
  /-- waits take their time -/
  paced : Bool := false
  faults : Faults := {}
  hooks : List Hook := []
  /-- what the handler answers to the question of a number -/
  verdict : Nat → Question → Verdict := fun _ _ => .denied

namespace Plan

/-- one device that records what it does and takes its time; one of its inputs may fail, or all of
its waits break down; the handler approves some categories -/
def recording (failing : Option Nat) (breaksDown : Bool) (approved : List Category) : Plan where
  device := "recording"
  effectWord := "call"
  shared := true
  paced := true
  faults := { effect := fun n => failing == some n, breakdown := fun _ => breaksDown }
  verdict := fun _ q => if approved.contains q.category then .approved else .denied

def fault (p : Plan) (word : String) (n : Nat) : DeviceReply :=
  .failed ⟨p.device, "injected failure on " ++ word ++ " " ++ toString n⟩

def effectReply (p : Plan) (n : Nat) : DeviceReply :=
  if p.faults.effect n then p.fault p.effectWord n else .done

/-- how the wait of a number ends; a breakdown comes before a failure -/
def waitReply (p : Plan) (n : Nat) : DeviceReply :=
  if p.faults.breakdown n then .brokeDown
  else if p.faults.wait n then p.fault "wait" n else .done

def releaseReply (p : Plan) (n : Nat) : DeviceReply :=
  if p.faults.release n then p.fault "release" n else .done

def provision (p : Plan) (mode : InputMode) : Provision :=
  if p.faults.refused.contains mode then .error ⟨mode.name, "not connected"⟩ else .ok ()

end Plan

end ScriptGuard.Rehearsal
