import ScriptGuard.Duration
import ScriptGuard.Fault
import ScriptGuard.Options

/-!
# Sessions

The part of a run that is shared between its worker and those who control it: the state, the
operations granted by Step, the abort slot, the count of operations and the time spent parked.
Every definition here is one section under the lock of the session.

* `control`    a command: ignored, refused or applied;
* `request`    an abort request; the slot keeps the earliest of the highest priority;
* `handIn`     an abort request by one who is told what the slot holds then;
* `gate`       a worker at the pause gate: it passes, unwinds or parks;
* `repause`    after an operation that used a grant;
* `settle`     a move that is made only if the table of moves allows it.
-/

namespace ScriptGuard

/-!
## Progress of a run

* `percent? index total`       how far a run is, when the total is known;
* `estimate? index total d`    the time that remains at the pace so far;
* `isMoving index d`           the pace is above zero.
-/

namespace Progress

/-- per cent of a known total, at most a hundred -/
def percent? (index : Nat) : Option Nat → Option Float
  | some total =>
    if total = 0 then none
    else
      let p := Float.ofNat index / Float.ofNat total * 100.0
      some (if p < 100.0 then p else 100.0)
  | none => none

/-- the remaining time at the average pace; none without a total or before the first operation -/
def estimate? (index : Nat) (total : Option Nat) (elapsed : Duration) :
    Option (Except SecondsError Duration) :=
  match total with
  | some total =>
    if index = 0 then none else some (elapsed.averagePace? index (total - index))
  | none => none

/-- some operations were done in some time -/
def isMoving (index : Nat) (elapsed : Duration) : Bool :=
  if elapsed.toSeconds ≤ 0.0 then false else 0.0 < Float.ofNat index / elapsed.toSeconds

end Progress

/-! ## the shared part of a run -/

/-- the shared part of a run; instants are nanoseconds of the clock of the system -/
structure Session where
  script : Script
  options : Options
  expectedTotal : Option Nat
  startedAt : Nat
  state : RunState := .idle
  grants : Nat := 0
  abort : Option AbortReason := none
  /-- the operations done; a number without bound, where a counter of 64 bits would begin anew after
  `2 ^ 64` operations of one run -/
  index : Nat := 0
  parkedTotal : Nat := 0
  parkedSince : Option Nat := none

/-- what becomes of a command; an applied one may lead to a state that has to be published -/
inductive ControlReply where
  | ignored
  | refused (state : RunState)
  | applied (shown : Option RunState)
deriving DecidableEq, Repr

/-- what becomes of a worker at the pause gate -/
inductive GateVerdict where
  | passed (holds : Bool)
  | aborted (reason : AbortReason)
  | parked
deriving DecidableEq, Repr

namespace Session

def mode (s : Session) : ControlMode := s.options.mode

/-- an abort request recorded in the slot -/
def request (s : Session) (reason : AbortReason) : Session :=
  { s with abort := some (AbortReason.merge s.abort reason) }

/-- an abort request by one who is told what the slot holds then; with nothing in the slot the answer
would be Terminated -/
def handIn (s : Session) (reason : AbortReason) : AbortReason × Session :=
  let replaces :=
    match s.abort with
    | none => true
    | some old => decide (old.priority < reason.priority)
  let s := if replaces then { s with abort := some reason } else s
  (s.abort.getD .terminated, s)

def apply (s : Session) : Command → Session
  | .pause => { s with state := .paused }
  | .resume => { s with state := .running, grants := 0 }
  | .step => { s with state := .stepping, grants := 1 }
  | .stop => s.request .stopped
  | .terminate => s.request .terminated

/-- the state to publish once a command has been applied -/
def shownBy : Command → Option RunState
  | .pause => some .paused
  | .resume => some .running
  | .step => some .stepping
  | .stop => none
  | .terminate => none

/-- a command: inspection of an autonomous run and anything but Terminate in a run that unwinds
are ignored, a command that is not available is refused -/
def control (s : Session) (c : Command) : ControlReply × Session :=
  if c.needsInteractive && !s.mode.isInteractive then (.ignored, s)
  else if c ≠ .terminate ∧ s.abort.isSome = true then (.ignored, s)
  else if c.isAvailable s.mode s.state then (.applied (shownBy c), s.apply c)
  else (.refused s.state, s)

/-- the time parked so far -/
def parkedTime (s : Session) (now : Nat) : Nat :=
  s.parkedTotal + ((s.parkedSince.map fun since => now - since).getD 0)

/-- the time since the start without the time parked -/
def elapsed (s : Session) (now : Nat) : Duration :=
  ⟨(now - s.startedAt) - s.parkedTime now⟩

/-- the worker no longer waits at the gate -/
def wake (s : Session) (now : Nat) : Session :=
  { s with parkedTotal := s.parkedTime now, parkedSince := none }

/-- the reason of an engaged kill switch recorded in the slot -/
def heedSwitch (s : Session) : Option String → Session
  | some reason => s.request (.killSwitch reason)
  | none => s

/-- a worker at the pause gate, with the reason of an engaged kill switch; `holds` says that the
operation has used a grant. The second part of the answer says that the session was paused here,
because a stepping session had no grant left. -/
def gate (s : Session) (killed : Option String) (holds : Bool) (now : Nat) :
    GateVerdict × Bool × Session :=
  let s := (s.wake now).heedSwitch killed
  match s.abort with
  | some reason => (.aborted reason, false, s)
  | none =>
    match s.state with
    | .stepping =>
      if holds then (.passed true, false, s)
      else if 0 < s.grants then (.passed true, false, { s with grants := s.grants - 1 })
      else (.parked, true, { s with state := .paused, parkedSince := some now })
    | .paused => (.parked, false, { s with parkedSince := some now })
    | _ => (.passed holds, false, s)

/-- one more operation is done -/
def count (s : Session) : Session := { s with index := s.index + 1 }

/-- the operation used a grant and no other one is left -/
def mustRepause (s : Session) : Bool := s.state == .stepping && s.grants == 0

/-- the session is paused again after an operation that used the last grant -/
def repause (s : Session) : Session :=
  if s.mustRepause then { s with state := .paused } else s

/-- a move, if the table allows it -/
def settle (s : Session) (next : RunState) : Session :=
  if s.state.canMove next then { s with state := next } else s

def percent? (s : Session) : Option Float := Progress.percent? s.index s.expectedTotal

end Session

end ScriptGuard
