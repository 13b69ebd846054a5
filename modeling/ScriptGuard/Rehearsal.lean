import ScriptGuard.Rehearsal.Record

/-!
# Rehearsals

The whole process played through, one step after the other, with a device, a handler and scripts
that do what a plan and a cast lay down. Every step is a step of the system (`System.step?`); the
rehearsal only chooses the next one and supplies what comes from outside.

* `Cast`              how the interpreter of a run behaves;
* `Rehearsal.request` a request of the caller, up to its answer;
* `Rehearsal.settle`  all workers go on until none can, or until an instant;
* `Rehearsal.await`   all workers go on until something holds;
* `Rehearsal.drain`   what has been written down since the last time.

One worker goes on as long as it can, then the next one. A step takes a tenth of a microsecond;
where the plan is paced, a wait takes its time.
-/

namespace ScriptGuard

open Rehearsal (Plan Record Trace Thread Action Occasion Published actionsAt)

/-- what a script hears at the end of a call or of an interrupt check; with the reply of a call
comes the number of the last wait of the device -/
inductive Heard where
  | replied (function : HostFunction) (reply : CallReply) (waits : Nat)
  | polled (reason : Option AbortReason)

/-- how the interpreters of the runs behave -/
structure Cast (σ : Type) where
  /-- a worker waits for a stage of getting ready -/
  stage : σ → RunId → Script → Place → StageReply × σ
  /-- what the script does next and the time it takes until then; nothing if it has no part now -/
  move? : σ → RunId → Option (ScriptMove × Duration × σ)
  /-- the script hears something -/
  hear : σ → RunId → Heard → σ

/-- the calls of a device so far -/
structure Counts where
  effects : Nat := 0
  waits : Nat := 0
  releases : Nat := 0

structure Rehearsal (σ : Type) where
  plan : Plan
  system : System
  cast : σ
  /-- the calls of the device of each run -/
  counts : List (Nat × Counts) := []
  /-- the questions put to the handler so far -/
  questions : Nat := 0
  /-- when the waits under way end -/
  ends : List (RunId × Nat) := []
  record : Record := {}

namespace Rehearsal

/-- what a step takes -/
def tick : Duration := ⟨100⟩

def lookup? (table : List (Nat × α)) (key : Nat) : Option α :=
  (table.find? fun e => e.1 == key).map (·.2)

def without (table : List (Nat × α)) (key : Nat) : List (Nat × α) := table.filter (·.1 != key)

/-- a table with a number set to a value -/
def withEntry (table : List (Nat × α)) (key : Nat) (v : α) : List (Nat × α) :=
  (key, v) :: without table key

def elapse (r : Rehearsal σ) (d : Duration) : Rehearsal σ :=
  { r with system := (r.system.step? (.elapse d)).getD r.system }

/-! ## what is written down -/

def subject : Notice → String
  | .state script _ => script
  | .progress script _ _ => script
  | .failed result => result.script
  | .completed result => result.script

/-- what of a deed is written down -/
def jot (thread : Thread) (s : System) (record : Record) : Deed → Record
  | .told notice => record.publish ⟨thread, notice, (s.active? (subject notice)).isSome⟩
  | _ => record

/-- what of an entry of the log is written down, for a step made on a thread -/
def jotEntry (thread : Thread) (s : System) (record : Record) : Entry → Record
  | .worker _ d => jot thread s record d
  | .caller _ (.run _ d) => jot thread s record d
  | .caller _ _ => record

/-- a step of the system on a thread, with what it left behind -/
def step? (r : Rehearsal σ) (thread : Thread) (m : Move) : Option (Rehearsal σ × List Entry) :=
  let r := r.elapse tick
  (({ r.system with log := [] } : System).step? m).map fun s =>
    let entries := s.log.reverse
    ({ r with
        system := { s with log := [] }
        record := entries.foldl (jotEntry thread s) r.record }, entries)

/-! ## the device, the handler and the provider -/

def scriptOf (r : Rehearsal σ) (run : RunId) : String := r.system.idOf run

def deviceKey (r : Rehearsal σ) (run : RunId) : Nat := if r.plan.shared then 0 else run

/-- the calls of the device of a run so far -/
def countsOf (r : Rehearsal σ) (run : RunId) : Counts :=
  (lookup? r.counts (r.deviceKey run)).getD {}

/-- the calls of the device of a run from now on -/
def setCounts (r : Rehearsal σ) (run : RunId) (c : Counts) : Rehearsal σ :=
  { r with counts := withEntry r.counts (r.deviceKey run) c }

def trace (r : Rehearsal σ) (script : Option String) (t : Trace) : Rehearsal σ :=
  { r with record := r.record.trace script t }

/-- how an action is carried out on a thread -/
abbrev Actor (σ : Type) := Rehearsal σ → Thread → Action → Rehearsal σ × Answer

/-- the hooks at a call act one after the other -/
def fire (act : Actor σ) (r : Rehearsal σ) (thread : Thread) (occasion : Occasion)
    (script : Option String) (number : Nat) : Rehearsal σ :=
  let channel := if occasion == .question then none else script
  (actionsAt r.plan.hooks occasion script number).foldl
    (fun r a =>
      let (r, answer) := act r thread a
      r.trace channel (.acted a answer)) r

/-- the device of a run performs an input; the hooks come first -/
def perform (act : Actor σ) (r : Rehearsal σ) (thread : Thread) (run : RunId) (i : Input) :
    Rehearsal σ × DeviceReply :=
  let c := r.countsOf run
  let n := c.effects + 1
  let script := r.scriptOf run
  let r := (r.setCounts run { c with effects := n })
  let r := fire act r thread .effect (some script) n
  match r.plan.effectReply n with
  | .done => (r.trace (some script) (.input i), .done)
  | reply => (r.trace (some script) (.failed i), reply)

/-- the device of a run waits; the hooks come last -/
def wait (act : Actor σ) (r : Rehearsal σ) (thread : Thread) (run : RunId) (d : Duration) :
    Rehearsal σ × DeviceReply :=
  let c := r.countsOf run
  let n := c.waits + 1
  let script := r.scriptOf run
  let r := (r.setCounts run { c with waits := n })
  let r := { r with record := r.record.wait (some script) d }
  let r := fire act r thread .wait (some script) n
  (r, r.plan.waitReply n)

/-- the device of a run releases everything; the hooks come last -/
def release (act : Actor σ) (r : Rehearsal σ) (thread : Thread) (run : RunId) :
    Rehearsal σ × DeviceReply :=
  let c := r.countsOf run
  let n := c.releases + 1
  let script := r.scriptOf run
  let r := (r.setCounts run { c with releases := n })
  let r := r.trace (some script) .releasedAll
  let r := fire act r thread .release (some script) n
  (r, r.plan.releaseReply n)

/-- the handler answers a question; the hooks come last -/
def ask (act : Actor σ) (r : Rehearsal σ) (thread : Thread) (q : Question) :
    Rehearsal σ × Verdict :=
  let n := r.questions + 1
  let v := r.plan.verdict n q
  let r := { r with questions := n }
  let r := r.trace none (.asked q v)
  (fire act r thread .question none n, v)

/-- the provider answers; the hooks come first -/
def provide (act : Actor σ) (r : Rehearsal σ) (thread : Thread) (script : Script)
    (options : Options) : Rehearsal σ × Provision :=
  let r := fire act r thread .provision (some script.id) 1
  (r, r.plan.provision options.inputMode)

/-! ## requests -/

/-- what comes from outside to a request -/
def supply (act : Actor σ) (r : Rehearsal σ) (thread : Thread) :
    Task → Rehearsal σ × CallerReply
  | .freeing run => (release act r thread run).map id .device
  | .clearing _ run _ => (release act r thread run).map id .device
  | .asking q => (ask act r thread q).map id .verdict
  | .provide script options => (provide act r thread script options).map id .provision
  | _ => (r, .go)

/-- the answer among what a step left behind -/
def answerIn (task : Nat) : List Entry → Option Answer
  | [] => none
  | .caller n (.closed a) :: rest => if n = task then some a else answerIn task rest
  | _ :: rest => answerIn task rest

/-- a request goes on until it is answered -/
def pursue (act : Actor σ) (thread : Thread) (task : Nat) :
    Nat → Rehearsal σ → Rehearsal σ × Answer
  | 0, r => (r, .done)
  | fuel + 1, r =>
    match lookup? r.system.tasks task with
    | none => (r, .done)
    | some t =>
      let (r, reply) := supply act r thread t
      match r.step? thread (.proceed task reply) with
      | none => (r, .done)
      | some (r, entries) =>
        match answerIn task entries with
        | some a => (r, a)
        | none => pursue act thread task fuel r

/-- a request made on a thread, up to its answer -/
def raise (act : Actor σ) (r : Rehearsal σ) (thread : Thread) (q : Request) :
    Rehearsal σ × Answer :=
  let task := r.system.nextTask
  match r.step? thread (.request q) with
  | none => (r, .done)
  | some (r, _) => pursue act thread task (64 + 8 * r.system.runs.length) r

/-- an action carried out on a thread; actions may lead to calls at which other hooks act -/
def act : Nat → Actor σ
  | 0, r, _, _ => (r, .done)
  | fuel + 1, r, thread, a =>
    match a with
    | .control c id => raise (act fuel) r thread (.control id c)
    | .kill reason => raise (act fuel) r thread (.activate reason)
    | .unkill => raise (act fuel) r thread .deactivate
    | .sleep d => (r.elapse d, .done)

/-- hooks within hooks go no deeper than there are hooks in all runs -/
def actor (r : Rehearsal σ) : Actor σ :=
  let hooked := (r.plan.hooks.map fun h => h.actions.length + 1).foldl (· + ·) 0
  act (hooked * (r.system.runs.length + 2) + 1)

/-- a request of the caller, up to its answer -/
def request (r : Rehearsal σ) (q : Request) : Rehearsal σ × Answer :=
  raise r.actor r .caller q

/-! ## workers -/

/-- a worker takes a step with a reply from outside, and its script hears what it is told -/
def work? (c : Cast σ) (r : Rehearsal σ) (thread : Thread) (run : RunId) (reply : Reply) :
    Option (Rehearsal σ) :=
  (r.step? thread (.work run reply)).map fun (r, entries) =>
    entries.foldl
      (fun r e =>
        match e with
        | .worker _ (.replied f x) =>
          { r with cast := c.hear r.cast run (.replied f x (r.countsOf run).waits) }
        | .worker _ (.polled reason) => { r with cast := c.hear r.cast run (.polled reason) }
        | _ => r) r

/-- a wait of a worker: in a paced plan it begins first and ends when its time has come -/
def playWait? (c : Cast σ) (r : Rehearsal σ) (thread : Thread) (run : RunId) (d : Duration) :
    Option (Rehearsal σ) :=
  let finish (r : Rehearsal σ) : Option (Rehearsal σ) :=
    let (r, reply) := wait r.actor r thread run d
    work? c r thread run (.device reply)
  if r.plan.paced then
    match lookup? r.ends run with
    | none => some { r with ends := withEntry r.ends run (r.system.clock + d.ns) }
    | some t =>
      if t ≤ r.system.clock then finish { r with ends := without r.ends run } else none
  else finish r

/-- a parked worker wakes up; nothing happens if it parks again -/
def playParked? (c : Cast σ) (r : Rehearsal σ) (thread : Thread) (run : RunId) (place : Place) :
    Option (Rehearsal σ) :=
  (work? c r thread run .go).filter fun r' =>
    (r'.system.runs[run]?).map (·.place) != some place

/-- the next step of the worker of a run, if it can take one now -/
def play? (c : Cast σ) (r : Rehearsal σ) (run : RunId) : Option (Rehearsal σ) :=
  match r.system.runs[run]? with
  | none => none
  | some x =>
    let thread := Thread.worker x.session.script.id
    let device (answer : Rehearsal σ × DeviceReply) : Option (Rehearsal σ) :=
      work? c answer.1 thread run (.device answer.2)
    match x.place with
    | .unborn => none
    | .gone _ => none
    | .creating | .registering _ | .loading =>
      let (reply, cast) := c.stage r.cast run x.session.script x.place
      work? c { r with cast := cast } thread run (.stage reply)
    | .script =>
      match c.move? r.cast run with
      | none => none
      | some (m, d, cast) => work? c ({ r with cast := cast }.elapse d) thread run (.script m)
    | .call _ (.waiting slice _) => playWait? c r thread run slice
    | .call _ (.asking category _) =>
      let (r, v) := ask r.actor r thread ⟨category, x.session.script.name⟩
      work? c r thread run (.verdict v)
    | .call _ (.acting i) => device (perform r.actor r thread run i)
    | .letting i _ _ => device (perform r.actor r thread run i)
    | .rescuing => device (release r.actor r thread run)
    | .call _ (.parked _ _) => playParked? c r thread run x.place
    | _ => work? c r thread run .go

/-- the first of the runs whose worker can take a step takes it -/
def playFirst? (c : Cast σ) (r : Rehearsal σ) : List RunId → Option (Rehearsal σ)
  | [] => none
  | run :: runs =>
    match play? c r run with
    | some r => some r
    | none => playFirst? c r runs

/-- the end of the wait that ends first -/
def nextEnd? (r : Rehearsal σ) : Option Nat := (r.ends.map (·.2)).min?

/-- all workers go on until none can, or until an instant -/
def settle (c : Cast σ) (limit : Option Nat) : Nat → Rehearsal σ → Rehearsal σ
  | 0, r => r
  | fuel + 1, r =>
    if limit.any (· ≤ r.system.clock) then r
    else
      match playFirst? c r (List.range r.system.runs.length) with
      | some r => settle c limit fuel r
      | none =>
        match r.nextEnd? with
        | none => limit.elim r fun t => r.elapse ⟨t - r.system.clock⟩
        | some t =>
          let t := limit.elim t (min t)
          settle c limit fuel (r.elapse ⟨t - r.system.clock⟩)

/-- more steps than any rehearsal takes -/
def enough : Nat := 1000000000

/-- the workers go on until something holds; it is looked at so many times, at regular intervals -/
def await (c : Cast σ) (period : Duration) (holds : Rehearsal σ → Bool) :
    Nat → Rehearsal σ → Rehearsal σ
  | 0, r => r
  | n + 1, r =>
    if holds r then r
    else await c period holds n (r.settle c (some (r.system.clock + period.ns)) enough)

/-- how often, and at which interval, it is looked for a state of the service: for five seconds -/
def looks : Nat := 1000

/-- the interval at which it is looked for a state of the service -/
def lookPeriod : Duration := .ofMillis 5

/-- the workers go on until the service shows something, for five seconds at most -/
def reach (c : Cast σ) (r : Rehearsal σ) (holds : System → Bool) : Rehearsal σ :=
  r.await c lookPeriod (fun r => holds r.system) looks

/-- what has been written down since the last time -/
def drain (r : Rehearsal σ) : Record × Rehearsal σ :=
  (⟨r.record.traces.reverse, r.record.published.reverse⟩, { r with record := {} })

end Rehearsal

end ScriptGuard
