import ScriptGuard.Rehearsal.Plan

/-!
# Records of rehearsals

What is written down while a rehearsal goes on: what the device, the handler and the hooks did, and
what was published on which thread.
-/

namespace ScriptGuard.Rehearsal

/-- a thread: that of the caller, or the worker of a run of a script -/
inductive Thread where
  | caller
  | worker (script : String)
deriving DecidableEq, Repr

/-- something the device, the handler or a hook did; equal waits in a row are counted -/
inductive Trace where
  | input (i : Input)
  | failed (i : Input)
  | waited (d : Duration) (times : Nat)
  | releasedAll
  | acted (action : Action) (answer : Answer)
  | asked (question : Question) (verdict : Verdict)

/-- something published; `registered` says whether the script had an active run at that moment -/
structure Published where
  thread : Thread
  notice : Notice
  registered : Bool

/-- what has been written down, latest first; a trace without a script belongs to the handler -/
structure Record where
  traces : List (Option String × Trace) := []
  published : List Published := []

namespace Record

def trace (r : Record) (script : Option String) (t : Trace) : Record :=
  { r with traces := (script, t) :: r.traces }

/-- a wait adds to the count of the same wait just before it -/
def countWait (d : Duration) (script : Option String) :
    List (Option String × Trace) → Option (List (Option String × Trace))
  | [] => none
  | e :: rest =>
    if e.1 == script then
      match e.2 with
      | .waited d' n => if d' = d then some ((script, .waited d (n + 1)) :: rest) else none
      | _ => none
    else (countWait d script rest).map (e :: ·)

def wait (r : Record) (script : Option String) (d : Duration) : Record :=
  match countWait d script r.traces with
  | some traces => { r with traces := traces }
  | none => r.trace script (.waited d 1)

def publish (r : Record) (p : Published) : Record := { r with published := p :: r.published }

/-! ## what a record shows

A record that has been taken off a rehearsal is in the order in which things happened.
-/

def append (a b : Record) : Record := ⟨a.traces ++ b.traces, a.published ++ b.published⟩

instance : Append Record := ⟨append⟩

/-- what the device has done; inputs that failed and waits are left out -/
def performed (r : Record) : List DeviceCall :=
  r.traces.filterMap fun t => match t.2 with
    | .input i => some (.input i)
    | .releasedAll => some .releaseAll
    | _ => none

def moves (r : Record) : List Point :=
  r.traces.filterMap fun t => match t.2 with
    | .input (.move p) => some p
    | _ => none

def waited (r : Record) : Duration :=
  ⟨(r.traces.filterMap fun t => match t.2 with
    | .waited d n => some (d.ns * n)
    | _ => none).foldl (· + ·) 0⟩

def states (r : Record) : List RunState :=
  r.published.filterMap fun p => match p.notice with
    | .state _ s => some s
    | _ => none

def progress (r : Record) : List (Nat × Option Nat) :=
  r.published.filterMap fun p => match p.notice with
    | .progress _ index total => some (index, total)
    | _ => none

/-- the results of runs that completed or were terminated -/
def completed (r : Record) : List RunResult :=
  r.published.filterMap fun p => match p.notice with
    | .completed x => some x
    | _ => none

def failed (r : Record) : List RunResult :=
  r.published.filterMap fun p => match p.notice with
    | .failed x => some x
    | _ => none

def results (r : Record) : List RunResult :=
  r.published.filterMap fun p => match p.notice with
    | .completed x => some x
    | .failed x => some x
    | _ => none

end Record

end ScriptGuard.Rehearsal
