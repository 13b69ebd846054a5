import ScriptGuard.KillSwitch
import ScriptGuard.Worker

/-!
# The service

The whole process: the kill switch, the approvals, the registry of active runs, the totals of the
last completed runs, every run that was ever started, and the requests under way on the threads of
callers. Like a worker, a request proceeds in steps (`Task`), and anything may happen between two of
its steps.

* `Move`          a step of a worker, a step of a request, a new request, or time that passes;
* `System.step?`  the system after a move, or nothing if the move is not possible now;
* `System.play?`  the system after a list of moves;
* `System.log`    what has been done so far, latest first.

The functions at the end answer questions about a system at one moment.
-/

namespace ScriptGuard

/-- the number of a run, counted from zero in the order of the starts -/
abbrev RunId := Nat

/-- what a caller asks the service -/
inductive Request where
  | control (id : String) (command : Command)
  | activate (reason : String)
  | deactivate
  | preauthorize (category : Category)
  | authorize (question : Question)
  | install (handler : Bool)
  | start (script : Script) (options : Options)

inductive Answer where
  | done
  | said (b : Bool)
  | started (run : RunId)
  | refused (f : Fault)

/-- where a request stands; the step named is the next one -/
inductive Task where
  /-- look for the session -/
  | look (id : String) (command : Command)
  /-- enter the session -/
  | apply (run : RunId) (command : Command)
  /-- publish the state a command led to -/
  | announce (run : RunId) (state : RunState)
  /-- look for the session and terminate it, all under the lock of the registry -/
  | cut (id : String)
  /-- begin to release everything -/
  | free (run : RunId)
  /-- wait for the end of that release -/
  | freeing (run : RunId)
  /-- turn the kill switch on -/
  | engage (reason : String)
  /-- take down the active runs, the latest first; callers are not promised any order -/
  | survey (reason : String)
  /-- abort the first of the runs -/
  | sweep (reason : String) (runs : List RunId)
  /-- begin to release everything of a swept run -/
  | clear (reason : String) (run : RunId) (runs : List RunId)
  /-- wait for the end of that release -/
  | clearing (reason : String) (run : RunId) (runs : List RunId)
  | disengage
  | approve (category : Category)
  /-- look whether the category is approved -/
  | consult (question : Question)
  /-- look for a handler -/
  | seek (question : Question)
  /-- wait for the answer of the handler -/
  | asking (question : Question)
  /-- add the category to the approvals -/
  | grant (question : Question)
  | install (handler : Bool)
  /-- look at the options and at the kill switch -/
  | vet (script : Script) (options : Options)
  /-- wait for a device -/
  | provide (script : Script) (options : Options)
  /-- look up the last total -/
  | recall (script : Script) (options : Options)
  /-- enter the registry -/
  | enroll (script : Script) (options : Options) (total : Option Nat)
  /-- make the first move of the session -/
  | launch (run : RunId)
  /-- publish the first move; it has been made, for a session that has just been registered never
  refuses it -/
  | herald (run : RunId)
  /-- start the worker -/
  | spawn (run : RunId)

/-- what a step of a request leaves behind -/
inductive CallerDeed where
  /-- something concerning a run -/
  | run (run : RunId) (deed : Deed)
  | asked (question : Question)
  | answered (question : Question) (verdict : Verdict)
  | closed (answer : Answer)

/-- an entry of the log: by the worker of a run, or by the request of a number -/
inductive Entry where
  | worker (run : RunId) (deed : Deed)
  | caller (task : Nat) (deed : CallerDeed)

/-- the whole process -/
structure System where
  settings : Settings
  killSwitch : KillSwitch := {}
  approvals : Approvals := {}
  handler : Bool := false
  /-- the active run of each script that has one -/
  registry : List (String × RunId) := []
  /-- the operations of the last completed run of each script -/
  totals : List (String × Nat) := []
  runs : List Run := []
  /-- the requests under way -/
  tasks : List (Nat × Task) := []
  nextTask : Nat := 0
  clock : Nat := 0
  /-- what has been done so far, latest first -/
  log : List Entry := []

/-- a device that a provider hands out, or its refusal -/
abbrev Provision := Except DeviceError Unit

/-- what comes from outside to a request that waits for it -/
inductive CallerReply where
  | go
  | device (r : DeviceReply)
  | verdict (v : Verdict)
  | provision (p : Provision)

inductive Move where
  | work (run : RunId) (reply : Reply)
  | proceed (task : Nat) (reply : CallerReply)
  | request (r : Request)
  | elapse (d : Duration)

namespace System

/-! ## tables -/

def find? (table : List (String × α)) (key : String) : Option α :=
  (List.find? (fun e => e.1 = key) table).map (·.2)

def drop (table : List (String × α)) (key : String) : List (String × α) :=
  table.filter fun e => e.1 ≠ key

/-- a table with a key set to a value -/
def put (table : List (String × α)) (key : String) (v : α) : List (String × α) :=
  (key, v) :: drop table key

/-- the active run of a script -/
def active? (s : System) (id : String) : Option RunId := find? s.registry id

/-- what a worker sees of the process -/
def view (s : System) : View :=
  ⟨s.killSwitch.poll, s.approvals, s.handler, s.clock, s.settings⟩

/-! ## steps of workers -/

/-- the effect of a deed of a worker on the rest of the process -/
def absorb (s : System) (id : String) : Deed → System
  | .granted c => { s with approvals := s.approvals.approve c }
  | .deregistered => { s with registry := drop s.registry id }
  | .remembered n => { s with totals := put s.totals id n }
  | _ => s

/-- a deed of a worker written down and taken into account -/
def record (s : System) (run : RunId) (id : String) (d : Deed) : System :=
  let s := s.absorb id d
  { s with log := .worker run d :: s.log }

def work? (s : System) (run : RunId) (reply : Reply) : Option System :=
  match s.runs[run]? with
  | none => none
  | some r =>
    match r.advance s.view reply with
    | none => none
    | some (r', deeds) =>
      some (deeds.foldl (fun s d => s.record run r.session.script.id d)
        { s with runs := s.runs.set run r' })

/-! ## steps of requests -/

def note (s : System) (task : Nat) (d : CallerDeed) : System :=
  { s with log := .caller task d :: s.log }

def goOn (s : System) (task : Nat) (t : Task) : System :=
  { s with tasks := (task, t) :: s.tasks.filter fun e => e.1 ≠ task }

/-- the request is over, with no answer: its thread breaks down -/
def quit (s : System) (task : Nat) : System :=
  { s with tasks := s.tasks.filter fun e => e.1 ≠ task }

/-- the request is answered -/
def close (s : System) (task : Nat) (a : Answer) : System :=
  (s.quit task).note task (.closed a)

def onSession (s : System) (run : RunId) (f : Session → Session) : System :=
  { s with runs := s.runs.modify run fun r => { r with session := f r.session } }

def idOf (s : System) (run : RunId) : String :=
  ((s.runs[run]?).map fun r => r.session.script.id).getD ""

/-- a command on a session: the answer, or the state to publish before it -/
def command (s : System) (run : RunId) (c : Command) : Option (ControlReply × System) :=
  (s.runs[run]?).map fun r =>
    let (reply, session) := r.session.control c
    (reply, s.onSession run fun _ => session)

def applyTask (s : System) (task : Nat) (run : RunId) (c : Command) : Option System :=
  (s.command run c).map fun (reply, s) =>
    match reply with
    | .ignored => s.close task (.said false)
    | .refused state => s.close task (.refused (.unavailable c state))
    | .applied none => s.close task (.said true)
    | .applied (some state) => s.goOn task (.announce run state)

/-- the answer to a request to terminate, up to the release -/
def cutTask (s : System) (task : Nat) (id : String) : Option System :=
  match s.active? id with
  | none => some (s.close task (.refused (.noSession id)))
  | some run =>
    (s.command run .terminate).map fun (reply, s) =>
      match reply with
      | .refused state => s.close task (.refused (.unavailable .terminate state))
      | _ => s.goOn task (.free run)

/-- a request to start looks at the options and at the kill switch -/
def vetTask (s : System) (task : Nat) (script : Script) (options : Options) : System :=
  match options.check? with
  | .error e => s.close task (.refused (.invalidOptions e))
  | .ok _ =>
    if s.killSwitch.active then
      s.close task (.refused (.killSwitchActive s.killSwitch.shownReason))
    else s.goOn task (.provide script options)

/-- a new run enters the registry, unless its script has an active one -/
def enrollTask (s : System) (task : Nat) (script : Script) (options : Options)
    (total : Option Nat) : System :=
  match s.active? script.id with
  | some _ => s.close task (.refused (.alreadyRunning script.name))
  | none =>
    let run := s.runs.length
    let session : Session := ⟨script, options, total, s.clock, .idle, 0, none, 0, 0, none⟩
    let s : System :=
      { s with
        runs := s.runs ++ [{ session := session }]
        registry := (script.id, run) :: s.registry }
    s.goOn task (.launch run)

def taskStep? (s : System) (task : Nat) : Task → CallerReply → Option System
  | .look id c, .go =>
    match s.active? id with
    | none => some (s.close task (.refused (.noSession id)))
    | some run => some (s.goOn task (.apply run c))
  | .apply run c, .go => s.applyTask task run c
  | .announce run state, .go =>
    some (((s.note task (.run run (.told (.state (s.idOf run) state)))).close task (.said true)))
  | .cut id, .go => s.cutTask task id
  | .free run, .go =>
    some ((s.note task (.run run (.began .releaseAll))).goOn task (.freeing run))
  | .freeing run, .device r =>
    let s := s.note task (.run run (.ended .releaseAll r))
    match r with
    | .brokeDown => some (s.quit task)
    | _ => some (s.close task (.said true))
  | .engage reason, .go =>
    match s.killSwitch.engage reason with
    | (true, k) => some ({ s with killSwitch := k }.goOn task (.survey reason))
    | (false, k) => some ({ s with killSwitch := k }.close task (.said false))
  | .survey reason, .go => some (s.goOn task (.sweep reason (s.registry.map (·.2))))
  | .sweep _ [], .go => some (s.close task (.said true))
  | .sweep reason (run :: runs), .go =>
    some ((s.onSession run fun x => x.request (.killSwitch reason)).goOn task
      (.clear reason run runs))
  | .clear reason run runs, .go =>
    some ((s.note task (.run run (.began .releaseAll))).goOn task (.clearing reason run runs))
  | .clearing reason run runs, .device r =>
    let s := s.note task (.run run (.ended .releaseAll r))
    match r with
    | .brokeDown => some (s.close task (.said true))
    | _ => some (s.goOn task (.sweep reason runs))
  | .disengage, .go =>
    let (was, k) := s.killSwitch.disengage
    some ({ s with killSwitch := k }.close task (.said was))
  | .approve c, .go => some ({ s with approvals := s.approvals.approve c }.close task .done)
  | .consult q, .go =>
    if s.approvals.has q.category then some (s.close task (.said true))
    else some (s.goOn task (.seek q))
  | .seek q, .go =>
    if s.handler then some ((s.note task (.asked q)).goOn task (.asking q))
    else some (s.close task (.said false))
  | .asking q, .verdict v =>
    let s := s.note task (.answered q v)
    if v.grants then some (s.goOn task (.grant q)) else some (s.close task (.said false))
  | .grant q, .go =>
    some ({ s with approvals := s.approvals.approve q.category }.close task (.said true))
  | .install h, .go => some ({ s with handler := h }.close task .done)
  | .vet script options, .go => some (s.vetTask task script options)
  | .provide script options, .provision p =>
    match p with
    | .error e => some (s.close task (.refused (.deviceUnavailable e)))
    | .ok _ => some (s.goOn task (.recall script options))
  | .recall script options, .go =>
    some (s.goOn task (.enroll script options (find? s.totals script.id)))
  | .enroll script options total, .go => some (s.enrollTask task script options total)
  | .launch run, .go =>
    some ((s.onSession run fun x => x.settle .running).goOn task (.herald run))
  | .herald run, .go =>
    some ((s.note task (.run run (.told (.state (s.idOf run) .running)))).goOn task (.spawn run))
  | .spawn run, .go =>
    some ({ s with runs := s.runs.modify run fun r => { r with place := .creating } }.close task
      (.started run))
  | _, _ => none

def proceed? (s : System) (task : Nat) (reply : CallerReply) : Option System :=
  match s.tasks.find? fun e => e.1 = task with
  | none => none
  | some (_, t) => s.taskStep? task t reply

/-! ## moves -/

/-- where a request begins -/
def firstTask : Request → Task
  | .control id .terminate => .cut id
  | .control id c => .look id c
  | .activate reason => .engage reason
  | .deactivate => .disengage
  | .preauthorize c => .approve c
  | .authorize q => .consult q
  | .install h => .install h
  | .start script options => .vet script options

/-- a new request; its number is the next free one -/
def ask (s : System) (r : Request) : System :=
  { s with tasks := (s.nextTask, firstTask r) :: s.tasks, nextTask := s.nextTask + 1 }

/-- the system after a move, if it is possible now -/
def step? (s : System) : Move → Option System
  | .work run reply => s.work? run reply
  | .proceed task reply => s.proceed? task reply
  | .request r => some (s.ask r)
  | .elapse d => some { s with clock := s.clock + d.ns }

/-- the system after a list of moves, if each is possible in its turn -/
def play? (s : System) : List Move → Option System
  | [] => some s
  | m :: ms => (s.step? m).bind fun s' => s'.play? ms

@[simp] theorem play?_nil (s : System) : s.play? [] = some s := rfl

theorem play?_cons (s : System) (m : Move) (ms : List Move) :
    s.play? (m :: ms) = (s.step? m).bind fun s' => s'.play? ms := rfl

theorem play?_append (s : System) (ms ms' : List Move) :
    s.play? (ms ++ ms') = (s.play? ms).bind fun s' => s'.play? ms' := by
  induction ms generalizing s with
  | nil => rfl
  | cons m ms ih =>
    rw [List.cons_append, play?_cons, play?_cons]
    cases s.step? m with
    | none => rfl
    | some s' => exact ih s'

/-! ## questions about one moment -/

/-- the session of the active run of a script -/
def session? (s : System) (id : String) : Option Session :=
  ((s.active? id).bind fun run => s.runs[run]?).map (·.session)

/-- the state of a script; idle if it has no active run -/
def state (s : System) (id : String) : RunState :=
  ((s.session? id).map (·.state)).getD .idle

/-- the command would be applied to the active run of the script -/
def isAvailable (s : System) (id : String) (c : Command) : Bool :=
  match s.session? id with
  | none => false
  | some x => c.isAvailable x.mode x.state && (c == .terminate || x.abort.isNone)

/-- the scripts that have an active run, in the order of their ids -/
def activeIds (s : System) : List String :=
  (s.registry.map (·.1)).mergeSort fun a b => a < b || a == b

end System

structure Statistics where
  state : RunState
  index : Nat
  elapsed : Duration
  started : Bool
  expectedTotal : Option Nat
  percent : Option Float

def System.statistics (s : System) (id : String) : Statistics :=
  match s.session? id with
  | none => ⟨.idle, 0, .zero, false, none, none⟩
  | some x => ⟨x.state, x.index, x.elapsed s.clock, true, x.expectedTotal, x.percent?⟩

/-- the time the active run of a script will still take at its pace -/
def System.remaining? (s : System) (id : String) : Option (Except SecondsError Duration) :=
  (s.session? id).bind fun x => Progress.estimate? x.index x.expectedTotal (x.elapsed s.clock)

end ScriptGuard
