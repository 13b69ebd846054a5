import ScriptGuard.Interpreter
import ScriptGuard.Rehearsal

/-!
# Actors

A cast that plays the scripts: each run has an interpreter, and a step of a script takes as long as
a step of the system.
-/

namespace ScriptGuard

/-- the interpreters of the runs -/
structure Actors where
  interpreters : List (RunId × Interpreter) := []

namespace Actors

def interpreter (a : Actors) (run : RunId) : Interpreter :=
  (Rehearsal.lookup? a.interpreters run).getD {}

def put (a : Actors) (run : RunId) (i : Interpreter) : Actors :=
  ⟨Rehearsal.withEntry a.interpreters run i⟩

def stage (a : Actors) (run : RunId) (script : Script) : Place → StageReply × Actors
  | .creating => (.ready, a.put run {})
  | .registering (f :: _) => (.ready, a.put run ((a.interpreter run).register f.name))
  | .loading =>
    match (a.interpreter run).load? script.source script.name with
    | .ok i => (.ready, a.put run i)
    | .error message => (.failed (.compile message), a)
  | _ => (.ready, a)

/-- what happens in a script as its next move -/
def moveOf (i : Interpreter) : Happening → ScriptMove
  | .calls number args =>
    match HostFunction.ofName? (i.functionName number) with
    | some f => .call f args
    | none => .breakDown
  | .polls => .poll
  | .ends e => .finish e
  | .breaksDown => .breakDown

/-- the script goes on to its next move -/
def move? (a : Actors) (run : RunId) : Option (ScriptMove × Duration × Actors) :=
  let (happening, steps, i) := (a.interpreter run).run
  some (moveOf i happening, ⟨steps * Rehearsal.tick.ns⟩, a.put run i)

/-- the script hears the end of a call or an interrupt -/
def hear (a : Actors) (run : RunId) : Heard → Actors
  | .replied _ .ok _ => a
  | .replied _ (.error e) _ => a.put run ((a.interpreter run).hear (.error e))
  | .replied _ .brokeDown _ => a.put run (a.interpreter run).breakDown
  | .polled none => a
  | .polled (some reason) => a.put run ((a.interpreter run).interrupt (.abort reason))

def printed (a : Actors) (run : RunId) : List String := (a.interpreter run).drain.1

def cast : Cast Actors where
  stage := stage
  move? := move?
  hear := hear

end Actors

end ScriptGuard
