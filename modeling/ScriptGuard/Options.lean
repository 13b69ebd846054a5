import ScriptGuard.Duration
import ScriptGuard.Text

/-!
# What a run is given

The script, the modes of control and input, the limits, the options of one run and the settings of
the engine.
-/

namespace ScriptGuard

/-!
## Scripts

A script has an identity, a name and a source. A script read from a file is named after the last
part of the path, without its extension.
-/

/-- something to run -/
structure Script where
  id : String
  name : String
  source : String
deriving DecidableEq, Repr, Inhabited

namespace Path

/-- the parts of a path; empty ones and inner points do not count -/
def parts (path : String) : List String :=
  match path.splitOn "/" with
  | "." :: rest => "." :: rest.filter fun p => p ≠ "" ∧ p ≠ "."
  | all => all.filter fun p => p ≠ "" ∧ p ≠ "."

/-- the characters before the last point; all of them if there is no point but at the front -/
def beforeLastPoint (name : List Char) : List Char :=
  match name.reverse.dropWhile (· ≠ '.') with
  | _ :: c :: front => (c :: front).reverse
  | _ => name

/-- the name of the file a path leads to, without its extension -/
def stem? (path : String) : Option String :=
  match (parts path).getLast? with
  | none => none
  | some last =>
    if last = "." ∨ last = ".." then none
    else some (String.ofList (beforeLastPoint last.toList))

end Path

/-- the name of a script read from a path -/
def Script.nameOf (path : String) : String := (Path.stem? path).getD "script"

/-!
## Modes of a run

How a run may be controlled (`ControlMode`), which kind of device it drives (`InputMode`) and who
asked for it (`Trigger`).
-/

/-- whether a run may be paused, stepped and stopped, or only terminated -/
inductive ControlMode where
  | interactive
  | autonomous
deriving DecidableEq, Repr, Inhabited

namespace ControlMode

/-- commands for inspection are heeded -/
def isInteractive : ControlMode → Bool
  | interactive => true
  | autonomous => false

def title : ControlMode → String
  | interactive => "DebugInteractive"
  | autonomous => "AutonomousRun"

def ofText? (s : String) : Except NameError ControlMode :=
  let word := Text.keyword s
  if word = "debug" ∨ word = "debug_interactive" then .ok interactive
  else if word = "autonomous" ∨ word = "autonomous_run" then .ok autonomous
  else .error (.controlMode word)

end ControlMode

/-- the kind of device that performs the input -/
inductive InputMode where
  | software
  | lowLevel
  | hardwareRelay
deriving DecidableEq, Repr, Inhabited

namespace InputMode

def name : InputMode → String
  | software => "software"
  | lowLevel => "low_level"
  | hardwareRelay => "hardware_relay"

/-- the kind of device a word names; hyphens count as underscores -/
def ofText? (s : String) : Except NameError InputMode :=
  let word := String.ofList ((Text.keyword s).toList.map fun c => if c = '-' then '_' else c)
  if word = "software" then .ok software
  else if word = "low_level" ∨ word = "lowlevel" then .ok lowLevel
  else if word = "hardware_relay" ∨ word = "hardware" ∨ word = "relay" then .ok hardwareRelay
  else .error (.inputMode word)

end InputMode

/-- who asked for a run -/
inductive Trigger where
  | debugPanel
  | hotkey
  | commandLine
  | api
deriving DecidableEq, Repr, Inhabited

def Trigger.name : Trigger → String
  | debugPanel => "DebugPanel"
  | hotkey => "Hotkey"
  | commandLine => "CommandLine"
  | api => "Api"

/-!
## Execution limits

A run may be bounded in its number of operations and in its active time. `check` is asked before
an operation: with `index` operations done, the next one is number `index + 1`.
-/

/-- the bounds of a run; an absent one does not bind -/
structure Limits where
  operations : Option Nat := none
  duration : Option Duration := none
deriving DecidableEq, Repr, Inhabited

inductive Violation where
  | operations (limit attempted : Nat)
  | duration (limit elapsed : Duration)
deriving DecidableEq, Repr

def Violation.message : Violation → String
  | operations limit attempted =>
    "operation limit of " ++ toString limit ++ " reached (attempted operation #" ++
      toString attempted ++ ")"
  | duration limit elapsed =>
    "duration limit of " ++ limit.text ++ " exceeded after " ++ elapsed.text

namespace Limits

/-- one more, within 64 bits -/
def nextIndex (index : Nat) : Nat := min (index + 1) 18446744073709551615

/-- the bound on the number of operations, if the next one would exceed it -/
def checkCount (limits : Limits) (index : Nat) : Option Violation :=
  match limits.operations with
  | some limit =>
    if limit < nextIndex index then some (.operations limit (nextIndex index)) else none
  | none => none

/-- the bound on the time, if it has been exceeded -/
def checkTime (limits : Limits) (elapsed : Duration) : Option Violation :=
  match limits.duration with
  | some limit => if limit < elapsed then some (.duration limit elapsed) else none
  | none => none

/-- the bound that the next operation would exceed; the count is looked at first -/
def check (limits : Limits) (index : Nat) (elapsed : Duration) : Option Violation :=
  (limits.checkCount index).or (limits.checkTime elapsed)

end Limits

/-!
## Options of a run and settings of the engine

* `Options`    what the caller chooses for one run; `Options.check?` refuses a speed that is not a
               positive finite number;
* `Settings`   what holds for all runs: the limits, the length of a slice of a wait and the speed
               above which a run needs an approval.
-/

/-- what the caller chooses for one run -/
structure Options where
  mode : ControlMode := .autonomous
  speed : Float := 1.0
  showCountdown : Bool := false
  countdown : Duration := .ofSeconds 3
  inputMode : InputMode := .software
  trigger : Trigger := .api
  preDelay : Duration := .zero

/-- why options are refused: the speed is not a positive number -/
structure OptionsError where
  speed : Float

def OptionsError.message (e : OptionsError) : String :=
  "speed_multiplier must be a positive number (got " ++ Decimal.plain e.speed ++ ")"

namespace Options

/-- the speed is a positive finite number -/
def isValid (o : Options) : Bool := (read o.speed).isPositive

/-- the options, if they can be used -/
def check? (o : Options) : Except OptionsError Options :=
  if o.isValid then .ok o else .error ⟨o.speed⟩

/-- a wait at the speed of the run -/
def scaled (o : Options) (d : Duration) : Duration := d.scaled o.speed

end Options

/-- what holds for all runs -/
structure Settings where
  limits : Limits := ⟨some 10000, some (.ofSeconds 600)⟩
  slice : Duration := .ofMillis 20
  rapidThreshold : Float := 4.0

end ScriptGuard
