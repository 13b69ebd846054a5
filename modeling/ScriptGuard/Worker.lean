import ScriptGuard.Host
import ScriptGuard.Session

/-!
# Workers

The worker of a run, one step at a time. A step is one section under a lock, one look at the kill
switch or at the approvals, or the beginning or the end of one call to the outside (the interpreter,
the device, the handler). Between two steps anything else may happen in the process.

* `Place`          where the worker stands: getting the interpreter ready, in the script, inside a
                   host call (`CallPoint`), releasing what is held, reporting;
* `Reply`          what the outside answers where the worker waits for it;
* `Run.advance`    the next step of the worker: the run afterwards and the `Deed`s it leaves behind,
                   or nothing if the reply is not one the worker waits for.

A host call goes through the slot, the kill switch, the limits and the gate; then it gets the
approvals it needs, waits in slices with the same checks after each slice, performs its input,
counts, and publishes its progress.
-/

namespace ScriptGuard

/-- what is told to those who watch the service -/
inductive Notice where
  | state (script : String) (state : RunState)
  | progress (script : String) (index : Nat) (total : Option Nat)
  | failed (result : RunResult)
  | completed (result : RunResult)
deriving DecidableEq, Repr

/-- what a host function gives back to the script; a device that breaks down takes the function
down with it -/
inductive CallReply where
  | ok
  | error (e : HostError)
  | brokeDown
deriving DecidableEq, Repr

/-- what a step leaves behind -/
inductive Deed where
  | told (notice : Notice)
  | began (call : DeviceCall)
  | ended (call : DeviceCall) (reply : DeviceReply)
  | asked (question : Question)
  | answered (question : Question) (verdict : Verdict)
  | called (function : HostFunction)
  | replied (function : HostFunction) (reply : CallReply)
  | polled (reason : Option AbortReason)
  | granted (category : Category)
  | deregistered
  | remembered (total : Nat)
deriving DecidableEq, Repr

/-- where a checkpoint goes on: at the beginning of the call, or with the rest of a wait -/
inductive Resume where
  | opening
  | between (remaining : Duration)
deriving DecidableEq, Repr

/-- a host call under way; `holds` says that it has used a grant of Step -/
structure Frame where
  function : HostFunction
  call : HostCall
  holds : Bool := false
deriving DecidableEq, Repr

/-- where a host call stands; the step named is the next one -/
inductive CallPoint where
  /-- look into the abort slot -/
  | slot (resume : Resume)
  /-- look at the kill switch -/
  | switch (resume : Resume)
  /-- compare count and time with the limits -/
  | limits (resume : Resume)
  /-- enter the pause gate; `shown` says that this call has paused the session -/
  | gate (resume : Resume) (shown : Bool)
  /-- wake up at the pause gate -/
  | parked (resume : Resume) (shown : Bool)
  /-- publish the pause made at the gate, then go on or unwind -/
  | announce (resume : Resume) (stop : Option AbortReason)
  /-- look whether the first of the needed categories is approved -/
  | permit (needed : List Category)
  /-- look for a handler to ask -/
  | seek (category : Category) (needed : List Category)
  /-- wait for the answer of the handler -/
  | asking (category : Category) (needed : List Category)
  /-- add the category to the approvals -/
  | grant (category : Category) (needed : List Category)
  /-- begin the next slice of the wait, or go on if nothing remains -/
  | sleep (remaining : Duration)
  /-- wait for the end of a slice -/
  | waiting (slice remaining : Duration)
  /-- begin the input, if there is one -/
  | act
  /-- wait for the end of the input -/
  | acting (input : Input)
  /-- write down what is held now -/
  | hold (input : Input)
  /-- count the operation -/
  | count
  /-- pause again after a stepped operation -/
  | repause (index : Nat)
  /-- publish the progress -/
  | progress (index : Nat) (repaused : Bool)
  /-- publish that the session is paused again -/
  | repaused
  /-- record the reason and unwind -/
  | raise (reason : AbortReason)
deriving DecidableEq, Repr

/-- where an interrupt check stands -/
inductive PollPoint where
  | slot
  | switch
  | raise (reason : AbortReason)
deriving DecidableEq, Repr

/-- how the work on a script ended: with the end of the script or before it began -/
inductive Ending where
  | script (e : ScriptEnd)
  | failure (cause : Failure)
deriving DecidableEq, Repr

/-- where a worker stands; the step named is the next one -/
inductive Place where
  /-- the worker has not been started -/
  | unborn
  /-- wait for an interpreter -/
  | creating
  /-- wait for the registration of the first of the functions -/
  | registering (functions : List HostFunction)
  /-- wait for the source to be compiled -/
  | loading
  /-- wait for the script -/
  | script
  | polling (point : PollPoint)
  | call (frame : Frame) (point : CallPoint)
  /-- begin to release the first of the held inputs, or finish -/
  | releasing (held : List Input) (ending : Ending)
  /-- wait for the end of a release -/
  | letting (input : Input) (held : List Input) (ending : Ending)
  /-- begin to release everything after a breakdown -/
  | rescue
  /-- wait for the end of that release -/
  | rescuing
  /-- read the abort slot -/
  | finishing (ending : Ending)
  /-- make the last move -/
  | settling (outcome : Outcome)
  /-- leave the registry -/
  | leaving (result : RunResult)
  /-- write down the number of operations of a completed run -/
  | remembering (result : RunResult)
  /-- publish the terminal state -/
  | tellState (result : RunResult)
  /-- publish the result -/
  | tellResult (result : RunResult)
  /-- publish that the script is idle -/
  | tellIdle (result : RunResult)
  /-- over -/
  | gone (result : RunResult)
  /-- broken down while everything was to be released: nobody finishes the run -/
  | lost
deriving DecidableEq, Repr

/-- what a script does next -/
inductive ScriptMove where
  | call (function : HostFunction) (args : List HostValue)
  | poll
  | finish (e : ScriptEnd)
  | breakDown

/-- how a stage of getting ready ends -/
inductive StageReply where
  | ready
  | failed (e : InterpreterError)
  | brokeDown
deriving DecidableEq, Repr

/-- what the outside answers; `go` where nothing is waited for -/
inductive Reply where
  | go
  | stage (r : StageReply)
  | script (m : ScriptMove)
  | device (r : DeviceReply)
  | verdict (v : Verdict)

/-- what a worker sees of the rest of the process when it takes a step -/
structure View where
  /-- the reason, while the kill switch is engaged -/
  killed : Option String
  approvals : Approvals
  /-- a handler is installed -/
  handler : Bool
  now : Nat
  settings : Settings

/-- a run: its session and what only its worker touches -/
structure Run where
  session : Session
  /-- what the script has pressed and not released -/
  held : Held := {}
  /-- the categories this run has been cleared for -/
  cleared : List Category := []
  place : Place := .unborn

/-- a run and what a step of it leaves behind -/
abbrev Step := Run × List Deed

namespace Run

/-- the message of a worker that broke down -/
def brokenDown : Failure := .script "execution worker panicked"

/-- the categories a call needs: one for text, one for any call of a fast run -/
def needed (r : Run) (settings : Settings) (c : HostCall) : List Category :=
  (match c with
    | .input (.text _) => [.textInjection]
    | _ => []) ++
  (if settings.rapidThreshold < r.session.options.speed then [.rapidInput] else [])

/-- the wait a call asks for, before scaling -/
def requestedWait (r : Run) : HostCall → Duration
  | .sleep d => d
  | .input _ => r.session.options.preDelay

/-- the wait of a call at the speed of the run -/
def totalWait (r : Run) (c : HostCall) : Duration :=
  r.session.options.scaled (r.requestedWait c)

def go (r : Run) (p : Place) (deeds : List Deed) : Step := ({ r with place := p }, deeds)

def goOn (r : Run) (f : Frame) (p : CallPoint) (deeds : List Deed) : Step := r.go (.call f p) deeds

/-- the call gives its reply and the script goes on -/
def answer (r : Run) (f : Frame) (reply : CallReply) : Step :=
  r.go .script [.replied f.function reply]

/-- the call gives back an abort -/
def unwind (r : Run) (f : Frame) (reason : AbortReason) : Step :=
  r.answer f (.error (.abort reason))

/-- what follows a passed checkpoint -/
def passed (r : Run) (settings : Settings) (f : Frame) : Resume → CallPoint
  | .opening => .permit (r.needed settings f.call)
  | .between remaining => .sleep remaining

/-- what follows the end of the script or a failure to get ready -/
def release (r : Run) (ending : Ending) : Step :=
  ({ r with held := {}, place := .releasing r.held.releases ending }, [])

/-- a worker at the pause gate -/
def atGate (r : Run) (v : View) (f : Frame) (resume : Resume) (shown : Bool) : Step :=
  let (verdict, paused, s) := r.session.gate v.killed f.holds v.now
  let r := { r with session := s }
  let shown := shown || paused
  match verdict with
  | .parked => r.goOn f (.parked resume shown) []
  | .passed holds =>
    let f := { f with holds := holds }
    if shown then r.goOn f (.announce resume none) []
    else r.goOn f (r.passed v.settings f resume) []
  | .aborted reason =>
    if shown then r.goOn f (.announce resume (some reason)) [] else r.unwind f reason

/-- a step of a host call where nothing is waited for -/
def advanceCall (r : Run) (v : View) (f : Frame) : CallPoint → Option Step
  | .slot resume =>
    match r.session.abort with
    | some reason => some (r.unwind f reason)
    | none => some (r.goOn f (.switch resume) [])
  | .switch resume =>
    match v.killed with
    | some reason => some (r.goOn f (.raise (.killSwitch reason)) [])
    | none => some (r.goOn f (.limits resume) [])
  | .limits resume =>
    match v.settings.limits.check r.session.index (r.session.elapsed v.now) with
    | some violation => some (r.goOn f (.raise (.failure (.limit violation))) [])
    | none => some (r.goOn f (.gate resume false) [])
  | .gate resume shown => some (r.atGate v f resume shown)
  | .parked resume shown => some (r.atGate v f resume shown)
  | .announce resume stop =>
    let notice := Deed.told (.state r.session.script.id .paused)
    match stop with
    | none => some (r.goOn f (r.passed v.settings f resume) [notice])
    | some reason =>
      some (r.go .script [notice, .replied f.function (.error (.abort reason))])
  | .permit [] => some (r.goOn f (.sleep (r.totalWait f.call)) [])
  | .permit (c :: needed) =>
    if c ∈ r.cleared then some (r.goOn f (.permit needed) [])
    else if v.approvals.has c then
      some ({ r with cleared := c :: r.cleared }.goOn f (.permit needed) [])
    else some (r.goOn f (.seek c needed) [])
  | .seek c needed =>
    if v.handler then
      some (r.goOn f (.asking c needed) [.asked ⟨c, r.session.script.name⟩])
    else some (r.goOn f (.raise (.failure (.denied c))) [])
  | .grant c needed =>
    some ({ r with cleared := c :: r.cleared }.goOn f (.permit needed) [.granted c])
  | .sleep remaining =>
    if remaining.isZero then some (r.goOn f .act [])
    else
      let slice := remaining.least v.settings.slice
      some (r.goOn f (.waiting slice (remaining - slice)) [.began (.wait slice)])
  | .act =>
    match f.call with
    | .sleep _ => some (r.goOn f .count [])
    | .input i => some (r.goOn f (.acting i) [.began (.input i)])
  | .hold i => some ({ r with held := r.held.after i }.goOn f .count [])
  | .count =>
    let s := r.session.count
    let r := { r with session := s }
    if f.holds then some (r.goOn f (.repause s.index) [])
    else some (r.goOn f (.progress s.index false) [])
  | .repause index =>
    some ({ r with session := r.session.repause }.goOn f
      (.progress index r.session.mustRepause) [])
  | .progress index repaused =>
    let notice := Deed.told (.progress r.session.script.id index r.session.expectedTotal)
    if repaused then some (r.goOn f .repaused [notice])
    else some (r.go .script [notice, .replied f.function .ok])
  | .repaused =>
    some (r.go .script
      [.told (.state r.session.script.id .paused), .replied f.function .ok])
  | .raise reason =>
    let (effective, s) := r.session.handIn reason
    some ({ r with session := s }.unwind f effective)
  | .asking .. | .waiting .. | .acting .. => none

/-- the answer of the device to a call under way -/
def deviceCall (r : Run) (f : Frame) (reply : DeviceReply) : CallPoint → Option Step
  | .waiting slice remaining =>
    let deed := Deed.ended (.wait slice) reply
    match reply with
    | .done => some (r.goOn f (.slot (.between remaining)) [deed])
    | .failed e => some (r.goOn f (.raise (.failure (.device f.function.name e.text))) [deed])
    | .brokeDown => some (r.go .script [deed, .replied f.function .brokeDown])
  | .acting i =>
    let deed := Deed.ended (.input i) reply
    match reply with
    | .done => some (r.goOn f (.hold i) [deed])
    | .failed e => some (r.goOn f (.raise (.failure (.device f.function.name e.text))) [deed])
    | .brokeDown => some (r.go .script [deed, .replied f.function .brokeDown])
  | _ => none

/-- the answer of the handler to the question of a call -/
def verdictCall (r : Run) (f : Frame) (verdict : Verdict) : CallPoint → Option Step
  | .asking c needed =>
    let deed := Deed.answered ⟨c, r.session.script.name⟩ verdict
    if verdict.grants then some (r.goOn f (.grant c needed) [deed])
    else some (r.goOn f (.raise (.failure (.denied c))) [deed])
  | _ => none

def advancePoll (r : Run) (v : View) : PollPoint → Step
  | .slot =>
    match r.session.abort with
    | some reason => r.go .script [.polled (some reason)]
    | none => r.go (.polling .switch) []
  | .switch =>
    match v.killed with
    | some reason => r.go (.polling (.raise (.killSwitch reason))) []
    | none => r.go .script [.polled none]
  | .raise reason =>
    let (effective, s) := r.session.handIn reason
    { r with session := s }.go .script [.polled (some effective)]

def scriptMove (r : Run) : ScriptMove → Step
  | .call function args =>
    match function.read? args with
    | .ok call => r.goOn ⟨function, call, false⟩ (.slot .opening) [.called function]
    | .error e =>
      r.go .script [.called function, .replied function (.error (.script e.message))]
  | .poll => r.go (.polling .slot) []
  | .finish e => r.release (.script e)
  | .breakDown => r.go .rescue []

/-- how a run ends that came to this ending: a recorded abort wins -/
def outcomeOf (slot : Option AbortReason) (ending : Ending) : Outcome :=
  match slot with
  | some reason => .ofAbort reason
  | none =>
    match ending with
    | .script .completed => .completed
    | .script (.aborted reason) => .ofAbort reason
    | .script (.failed message) => .failed (.script message)
    | .failure cause => .failed cause

def result (r : Run) (outcome : Outcome) (now : Nat) : RunResult :=
  ⟨r.session.script.id, r.session.script.name, outcome, r.session.index, r.session.elapsed now⟩

def resultNotice (result : RunResult) : Notice :=
  match result.outcome with
  | .failed _ => .failed result
  | _ => .completed result

def stage (r : Run) (reply : StageReply) (next : Place) : Step :=
  match reply with
  | .ready => r.go next []
  | .failed e => r.release (.failure (.script e.message))
  | .brokeDown => r.go .rescue []

/-- the place after the registration of the first function -/
def registered : List HostFunction → Place
  | _ :: f :: rest => .registering (f :: rest)
  | _ => .loading

def advance (r : Run) (v : View) (reply : Reply) : Option Step :=
  match r.place, reply with
  | .creating, .stage s => some (r.stage s (.registering HostFunction.all))
  | .registering functions, .stage s => some (r.stage s (registered functions))
  | .loading, .stage s => some (r.stage s .script)
  | .script, .script m => some (r.scriptMove m)
  | .polling p, .go => some (r.advancePoll v p)
  | .call f p, .go => r.advanceCall v f p
  | .call f p, .device d => r.deviceCall f d p
  | .call f p, .verdict a => r.verdictCall f a p
  | .releasing [] ending, .go => some (r.go (.finishing ending) [])
  | .releasing (i :: held) ending, .go =>
    some (r.go (.letting i held ending) [.began (.input i)])
  | .letting i held ending, .device d =>
    match d with
    | .brokeDown => some (r.go .rescue [.ended (.input i) d])
    | _ => some (r.go (.releasing held ending) [.ended (.input i) d])
  | .rescue, .go => some (r.go .rescuing [.began .releaseAll])
  | .rescuing, .device d =>
    match d with
    | .brokeDown => some (r.go .lost [.ended .releaseAll d])
    | _ => some (r.go (.finishing (.failure brokenDown)) [.ended .releaseAll d])
  | .finishing ending, .go =>
    some (r.go (.settling (outcomeOf r.session.abort ending)) [])
  | .settling outcome, .go =>
    let r := { r with session := r.session.settle outcome.state }
    some (r.go (.leaving (r.result outcome v.now)) [])
  | .leaving result, .go => some (r.go (.remembering result) [.deregistered])
  | .remembering result, .go =>
    some (r.go (.tellState result)
      (if result.isSuccess then [.remembered result.operations] else []))
  | .tellState result, .go =>
    some (r.go (.tellResult result) [.told (.state result.script result.state)])
  | .tellResult result, .go => some (r.go (.tellIdle result) [.told (resultNotice result)])
  | .tellIdle result, .go => some (r.go (.gone result) [.told (.state result.script .idle)])
  | _, _ => none

end Run

end ScriptGuard
