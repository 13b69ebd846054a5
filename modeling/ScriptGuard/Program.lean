import ScriptGuard.Launch
import ScriptGuard.Rehearsal.Actors

/-!
# The program

One run of the program on a simulated device, played through from the command line to the last line
it writes. The run starts after the countdown; commands are read from the input as soon as the run
has started; an interrupt engages the kill switch.

* `Program.perform`   the countdown, the run and its report;
* `Program.run`       the same from arguments and files; a dry run only shows what would be run;
* `Program.play`      the whole program, with its exit code.
-/

namespace ScriptGuard

/-- what happens outside the program -/
structure Outside where
  /-- what can be read from the input -/
  input : String := ""
  /-- an interrupt comes some time after the first line with this text -/
  cue : Option String := none

/-- what a run of the program leaves behind: lines on both outputs, what the script printed, and
why the program gave up -/
structure Transcript where
  out : List String := []
  err : List String := []
  printed : List String := []
  refusal : Option Refusal := none

structure Performance where
  stage : Rehearsal Actors
  /-- log lines are shown -/
  showsLog : Bool
  cue : Option String
  /-- when the interrupt comes -/
  due : Option Nat := none
  /-- lines on the error output, latest first -/
  err : List String := []

namespace Performance

/-- the time between a cue and the interrupt -/
def interruptDelay : Duration := .ofMillis 150

/-- a text stands somewhere in a line -/
def isIn (text line : String) : Bool := 1 < (line.splitOn text).length

/-- the cue has been given -/
def cued (p : Performance) : Performance :=
  { p with cue := none, due := some (p.stage.system.clock + interruptDelay.ns) }

/-- a line is shown; it may be the cue -/
def see (p : Performance) (line : String) : Performance :=
  if p.cue.any fun text => isIn text line then p.cued else p

def log (p : Performance) (target text : String) : Performance :=
  if p.showsLog then p.see ("INFO " ++ target ++ ": " ++ text) else p

def complain (p : Performance) (line : String) : Performance :=
  ({ p with err := line :: p.err } : Performance).see line

def request (p : Performance) (q : Request) : Performance × Answer :=
  let (stage, a) := p.stage.request q
  ({ p with stage := stage }, a)

def interrupt (p : Performance) : Performance :=
  { (p.request (.activate "Ctrl-C")).1 with due := none }

/-- time passes while nothing runs; the interrupt may come in between -/
def pass (p : Performance) (d : Duration) : Performance :=
  let stop := p.stage.system.clock + d.ns
  let on (p : Performance) (t : Nat) : Performance :=
    { p with stage := p.stage.elapse ⟨t - p.stage.system.clock⟩ }
  match p.due with
  | some t => if t ≤ stop then on (on p t).interrupt stop else on p stop
  | none => on p stop

/-! ## the countdown -/

/-- one second after the other is announced, until the kill switch is engaged -/
def countdown : Nat → Duration → Performance → Performance
  | 0, _, p => p
  | n + 1, remaining, p =>
    if remaining.isZero || p.stage.system.killSwitch.active then p
    else
      let seconds := (remaining.ns + Duration.perSecond - 1) / Duration.perSecond
      let tick := remaining.least (.ofSeconds 1)
      countdown n (remaining - tick)
        ((p.log "macroguard" ("starting in " ++ toString seconds ++ "s...")).pass tick)

/-! ## commands -/

/-- the line that says which commands are understood -/
def commandsLine : String := "commands: pause | resume | step | stop | terminate"

def command (id : String) (p : Performance) (line : String) : Performance :=
  if Text.allBlank line then p
  else
    match Command.ofText? line with
    | .error e => p.complain e.message
    | .ok c =>
      match p.request (.control id c) with
      | (p, .refused f) => p.complain f.message
      | (p, .said false) => p.complain (c.title ++ " ignored")
      | (p, _) => p

def commands (id : String) (input : String) (p : Performance) : Performance :=
  (input.splitOn "\n").foldl (command id) (p.complain commandsLine)

/-! ## the run -/

/-- the result of a run that is over -/
def result? (p : Performance) (run : RunId) : Option RunResult :=
  match (p.stage.system.runs[run]?).map (·.place) with
  | some (Place.gone result) => some result
  | _ => none

/-- the interval at which it is looked for the cue -/
def lookPeriod : Duration := .ofMillis 1

/-- the script has printed the cue, or the run is over -/
def isCued (text : String) (run : RunId) (stage : Rehearsal Actors) : Bool :=
  ((stage.cast.printed run).any fun line => isIn text ("INFO macroguard::script: " ++ line)) ||
    (stage.system.runs[run]?).any fun r => r.place matches .gone _

/-- the script runs until it prints the cue -/
def awaitCue (p : Performance) (run : RunId) : Performance :=
  match p.cue with
  | some text =>
    if p.showsLog then
      let stage := p.stage.await Actors.cast lookPeriod (isCued text run) Rehearsal.enough
      ({ p with stage := stage } : Performance).cued
    else p
  | none => p

def awaitInterrupt (p : Performance) : Performance :=
  match p.due with
  | some t =>
    ({ p with stage := p.stage.settle Actors.cast (some t) Rehearsal.enough } : Performance).interrupt
  | none => p

def finish (p : Performance) (run : RunId) : Performance :=
  let p := (p.awaitCue run).awaitInterrupt
  { p with stage := p.stage.settle Actors.cast none Rehearsal.enough }

end Performance

namespace Program

/-- nothing but waits goes wrong with the simulated device, and they take their time -/
def plan : Rehearsal.Plan := { device := "simulated", effectWord := "effect", paced := true }

/-- the process in which the run is started -/
def system (l : Launch) (approved : List Category) : System :=
  { settings := l.config.settings, approvals := approved.foldl Approvals.approve {} }

def summary (r : RunResult) : String :=
  r.name ++ ": " ++ r.state.name ++ " after " ++ toString r.operations ++ " operation(s) in " ++
    r.elapsed.roundedText

/-- why the program gives up after a run -/
def refusalOf : Outcome → Option Refusal
  | .completed => none
  | .failed cause => some (.failed cause)
  | .terminated reason => some (.terminated reason)

/-- a run from its countdown to its report -/
def perform (l : Launch) (approved : List Category) (showsLog : Bool) (o : Outside) : Transcript :=
  let p : Performance := ⟨⟨plan, system l approved, {}, [], 0, [], {}⟩, showsLog, o.cue, none, []⟩
  let p := p.log "macroguard"
    ("kill switch armed (Ctrl-C here; the hotkey is handled by the host) trigger=" ++
      l.config.killSwitchTrigger)
  let p := if l.options.showCountdown then
      Performance.countdown (l.options.countdown.seconds + 1) l.options.countdown p
    else p
  match p.request (.start l.script l.options) with
  | (p, .started run) =>
    let p := if l.options.mode.isInteractive then p.commands l.script.id o.input else p
    let p := p.finish run
    let printed := p.stage.cast.printed run
    match p.result? run with
    | none => ⟨[], p.err.reverse, printed, none⟩
    | some r => ⟨[summary r], p.err.reverse, printed, refusalOf r.outcome⟩
  | (p, .refused f) => ⟨[], p.err.reverse, [], some (.start f)⟩
  | (p, _) => ⟨[], p.err.reverse, [], none⟩

/-- the program with its arguments, and with the configuration and the script they name -/
def run (a : CommandLine) (config : Except Fault Config) (script : Except Fault Script)
    (level : LogLevel) (o : Outside) : Transcript :=
  match Launch.of? config script a with
  | .error e => { refusal := some e }
  | .ok l =>
    if a.dryRun then
      match l.dryRun? with
      | .error e => { refusal := some e }
      | .ok lines => { out := lines }
    else
      match l.approvals? a with
      | .error e => { refusal := some e }
      | .ok approved => perform l approved level.showsScript o

/-- the program with its arguments in a directory -/
def runIn (f : Files) (a : CommandLine) (level : LogLevel) (o : Outside) : Transcript :=
  run a (Config.ofFiles? f a.config) (Script.ofFiles? f a.script) level o

/-! ## the whole program -/

def help : List String :=
  ["Run Lua input-automation scripts under kill-switch and limit control.", "",
    "Usage: macroguard [OPTIONS] <SCRIPT>", "", "Options:"] ++
  CommandLine.names.map fun n => "      --" ++ n.1

def version : String := "macroguard 0.1.0"

/-- what the whole program leaves behind -/
structure Report where
  exit : Nat
  out : List String := []
  err : List String := []
  printed : List String := []

/-- the report of a command line that is none -/
def usageReport : UsageError → Report
  | .help => { exit := 0, out := help }
  | .version => { exit := 0, out := [version] }
  | _ => { exit := 2 }

/-- the last lines on the error output -/
def errorLines : Refusal → List String := fun r =>
  match r.report with
  | [] => []
  | line :: lines => ("macroguard error: " ++ line) :: lines

/-- the report of a run of the program; what scripts print stands in the log -/
def reportOf (level : LogLevel) (t : Transcript) : Report :=
  { exit := if t.refusal.isSome then 1 else 0
    out := t.out
    err := t.err ++ t.refusal.elim [] errorLines
    printed := if level.showsScript then t.printed else [] }

/-- the whole program in a directory: its words, and the word in the environment for the log -/
def play (f : Files) (words : List String) (logWord : Option String) (o : Outside) : Report :=
  match CommandLine.ofWords? words with
  | .error e => usageReport e
  | .ok a =>
    let level := LogLevel.choose a.logLevel logWord
    reportOf level (runIn f a level o)

end Program

end ScriptGuard
