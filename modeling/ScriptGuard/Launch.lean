import ScriptGuard.CommandLine
import ScriptGuard.Files
import ScriptGuard.Interpreter

/-!
# Launching

From the command line, the configuration and the script to a run that can be started. The
configuration is looked at first, then the script, then what the command line changes.

* `Refusal`           why the program gives up, with `Refusal.chain` for its messages;
* `Launch.of?`        what is to be started;
* `Launch.dryRun?`    the lines shown instead of a run, if the script compiles;
* `Launch.approvals?` the categories approved beforehand.
-/

namespace ScriptGuard

/-- why the program gives up -/
inductive Refusal where
  | configuration (cause : Fault)
  | script (cause : Fault)
  | inputMode (cause : NameError)
  | options (cause : OptionsError)
  | compile (message : String)
  | category (cause : NameError)
  | start (cause : Fault)
  | failed (cause : Failure)
  | terminated (reason : AbortReason)

namespace Refusal

/-- the messages from the outermost to the innermost cause -/
def chain : Refusal → List String
  | configuration cause => "loading configuration" :: cause.chain
  | script cause => cause.chain
  | inputMode cause => [cause.message]
  | options cause => [(Fault.invalidOptions cause).message]
  | compile message => [(InterpreterError.compile message).message]
  | category cause => [cause.message]
  | start cause => cause.chain
  | failed cause => ["run failed: " ++ cause.message]
  | terminated reason => ["run terminated: " ++ reason.message]

/-- all messages in one line -/
def message (r : Refusal) : String := ": ".intercalate r.chain

/-- a message below another one: each line is indented, and numbered if there are several messages -/
def causeLines (number : Option Nat) (text : String) : List String :=
  match text.splitOn "\n", number with
  | [], _ => []
  | line :: lines, none => ("    " ++ line) :: lines.map ("    " ++ ·)
  | line :: lines, some n =>
    let mark := toString n
    (String.ofList (List.replicate (5 - mark.length) ' ') ++ mark ++ ": " ++ line) ::
      lines.map ("       " ++ ·)

/-- all messages as a report: the first one, and the list of its causes -/
def report (r : Refusal) : List String :=
  match r.chain with
  | [] => []
  | [text] => text.splitOn "\n"
  | [text, cause] => text.splitOn "\n" ++ ["", "Caused by:"] ++ causeLines none cause
  | text :: causes =>
    text.splitOn "\n" ++ ["", "Caused by:"] ++
      ((causes.zip (List.range causes.length)).map fun (cause, n) =>
        causeLines (some n) cause).flatten

end Refusal

/-- a run that can be started -/
structure Launch where
  config : Config
  script : Script
  options : Options

namespace Launch

/-- the kind of device, unless the command line names another one -/
def inputMode? (o : Options) (a : CommandLine) : Except Refusal InputMode :=
  match a.inputMode with
  | none => .ok o.inputMode
  | some word => (InputMode.ofText? word).mapError .inputMode

/-- the options with what the command line changes -/
def options? (o : Options) (a : CommandLine) : Except Refusal Options :=
  match inputMode? o a with
  | .error e => .error e
  | .ok inputMode =>
    ({ o with
        mode := if a.debug then .interactive else o.mode
        speed := a.speed.getD o.speed
        inputMode := inputMode
        showCountdown := o.showCountdown && !a.noCountdown } : Options).check?.mapError .options

def of? (config : Except Fault Config) (script : Except Fault Script) (a : CommandLine) :
    Except Refusal Launch :=
  match config with
  | .error e => .error (.configuration e)
  | .ok config =>
    match script with
    | .error e => .error (.script e)
    | .ok script => (options? config.options a).map fun options => ⟨config, script, options⟩

/-! ## dry runs -/

/-- a limit, or that there is none -/
def limitText (f : α → String) : Option α → String
  | some x => f x
  | none => "unlimited"

def safetyLines (c : Config) : List String :=
  ["safety:",
    "  max_operations = " ++ limitText toString c.settings.limits.operations,
    "  max_duration = " ++ limitText Duration.text c.settings.limits.duration,
    "  kill_switch_trigger = " ++ c.killSwitchTrigger,
    "  rapid_speed_threshold = " ++ Decimal.plain c.settings.rapidThreshold] ++
  (if c.preauthorized.isEmpty then []
    else
      ["  preauthorized = [" ++
        ", ".intercalate (c.preauthorized.map fun x => Text.quoted x.name) ++ "]"])

def executionLines (l : Launch) : List String :=
  ["execution:",
    "  control_mode = " ++ l.options.mode.title,
    "  input_mode = " ++ l.options.inputMode.name,
    "  speed_multiplier = " ++ Decimal.plain l.options.speed,
    "  pre_delay = " ++ l.options.preDelay.text] ++
  (if l.options.showCountdown then ["  countdown = " ++ l.options.countdown.text] else []) ++
  ["  checkpoint_slice = " ++ l.config.settings.slice.text]

/-- what is shown instead of a run -/
def lines (l : Launch) : List String :=
  ["macroguard dry-run",
    "  script = " ++ l.script.name ++ " (" ++ l.script.id ++ ")",
    "  script compiles = true",
    ""] ++ safetyLines l.config ++ [""] ++ l.executionLines

/-- what is shown instead of a run, if the script compiles -/
def dryRun? (l : Launch) : Except Refusal (List String) :=
  match ({} : Interpreter).load? l.script.source l.script.name with
  | .error message => .error (.compile message)
  | .ok _ => .ok l.lines

/-! ## approvals -/

/-- the categories of the configuration and those the command line names -/
def approvals? (l : Launch) (a : CommandLine) : Except Refusal (List Category) :=
  ((categories? a.allow).mapError .category).map (l.config.preauthorized ++ ·)

end Launch

end ScriptGuard
