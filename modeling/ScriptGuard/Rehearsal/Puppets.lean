import ScriptGuard.Rehearsal

/-!
# Puppets

A cast without scripts of its own: each run makes the moves it is given from outside and keeps
going whatever it hears. What the puppets say is written down.
-/

namespace ScriptGuard

/-- what a puppet says: that it is ready, what it has heard, or that a function does not exist -/
inductive Utterance where
  | ready (name source : String)
  | heard (h : Heard)
  | noFunction (name : String)

/-- puppets, and the stages at which getting ready fails, with the messages -/
structure Puppets where
  startFailure : Option String := none
  /-- the function whose registration fails -/
  unregistrable : Option String := none
  compileFailure : Option String := none
  /-- the moves that are to be made -/
  moves : List (RunId × ScriptMove) := []
  /-- what was said, latest first -/
  said : List (RunId × Utterance) := []

namespace Puppets

/-- something is said -/
def say (p : Puppets) (run : RunId) (u : Utterance) : Puppets :=
  { p with said := (run, u) :: p.said }

/-- the end of a stage, a failure where there is a message -/
def ending (message : Option String) (error : String → InterpreterError) : StageReply :=
  match message with
  | some m => .failed (error m)
  | none => .ready

def stage (p : Puppets) (run : RunId) (script : Script) : Place → StageReply × Puppets
  | .creating => (ending p.startFailure .start, p)
  | .registering (f :: _) =>
    (if p.unregistrable = some f.name then .failed (.register f.name "injected") else .ready, p)
  | .loading =>
    match p.compileFailure with
    | some m => (.failed (.compile m), p)
    | none => (.ready, p.say run (.ready script.name script.source))
  | _ => (.ready, p)

/-- the move a puppet has been given -/
def move? (p : Puppets) (run : RunId) : Option (ScriptMove × Duration × Puppets) :=
  (Rehearsal.lookup? p.moves run).map fun m =>
    (m, .zero, { p with moves := Rehearsal.without p.moves run })

def give (p : Puppets) (run : RunId) (m : ScriptMove) : Puppets :=
  { p with moves := Rehearsal.withEntry p.moves run m }

/-- gives a puppet a call of the function of a name -/
def giveCall (p : Puppets) (run : RunId) (name : String) (args : List HostValue) : Puppets :=
  match HostFunction.ofName? name with
  | some f => p.give run (.call f args)
  | none => p.say run (.noFunction name)

def cast : Cast Puppets where
  stage := stage
  move? := move?
  hear := fun p run h => p.say run (.heard h)

end Puppets

end ScriptGuard
