import ScriptGuard.Duration
import ScriptGuard.Fault
import ScriptGuard.Options
import ScriptGuard.Toml.Reader

/-!
# Configuration

The file as it is written, how it is found in a document, and how it is checked.
-/

namespace ScriptGuard

/-!
## Configuration as written

The two sections of a configuration file before validation: durations and categories are still
texts. Every field has a default.
-/

structure SafetySection where
  maxOperations : Nat := 10000
  maxDuration : String := "10m"
  killSwitchTrigger : String := "ctrl+alt+escape"
  preauthorized : List String := []
  rapidThreshold : Float := 4.0

structure ExecutionSection where
  mode : ControlMode := .autonomous
  inputMode : InputMode := .software
  speed : Float := 1.0
  preDelay : String := "0ms"
  showCountdown : Bool := true
  countdown : String := "3s"
  checkpointSlice : String := "20ms"

structure RawConfig where
  safety : SafetySection := {}
  execution : ExecutionSection := {}

/-!
## Configuration documents

How the fields of a configuration are found in a document. A section is a table; it may also be an
array that gives the fields in their order. Missing fields have their defaults, unknown ones are
ignored, and a field of the wrong type makes the whole document unusable.
-/

open Toml (Value)

namespace Field

def natural? : Value → Option Nat
  | .integer n => if 0 ≤ n ∧ n < 18446744073709551616 then some n.toNat else none
  | _ => none

/-- a number, an integer of 64 bits included -/
def number? : Value → Option Float
  | .float x => some x
  | .integer n =>
    if -9223372036854775808 ≤ n ∧ n < 18446744073709551616 then some (Float.ofInt n) else none
  | _ => none

def string? : Value → Option String
  | .string s => some s
  | _ => none

def bool? : Value → Option Bool
  | .bool b => some b
  | _ => none

def strings? : Value → Option (List String)
  | .array items => items.mapM string?
  | _ => none

/-- the name of a choice: a string, or the only key of a table whose value is empty -/
def choice? : Value → Option String
  | .string s => some s
  | .table [(name, .table [])] => some name
  | .table [(name, .array [])] => some name
  | _ => none

/-- a control mode by its long or short name -/
def controlMode? (v : Value) : Option ControlMode :=
  match choice? v with
  | some "debug_interactive" => some .interactive
  | some "debug" => some .interactive
  | some "autonomous_run" => some .autonomous
  | some "autonomous" => some .autonomous
  | _ => none

def inputMode? (v : Value) : Option InputMode :=
  match choice? v with
  | some "software" => some .software
  | some "low_level" => some .lowLevel
  | some "hardware_relay" => some .hardwareRelay
  | _ => none

/-- a field that is there must be readable, one that is missing has its default -/
def orDefault (default : α) (read? : Value → Option α) : Option Value → Option α
  | none => some default
  | some v => read? v

/-- the way to the fields of a section: by key in a table, by place in an array -/
def section? : Value → Option (String → Nat → Option Value)
  | .table entries => some fun key _ => Toml.lookup? entries key
  | .array items => some fun _ place => items[place]?
  | _ => none

end Field

namespace SafetySection

def ofValue? (v : Value) : Option SafetySection := do
  let field ← Field.section? v
  let d : SafetySection := {}
  let maxOperations ← Field.orDefault d.maxOperations Field.natural? (field "max_operations" 0)
  let maxDuration ← Field.orDefault d.maxDuration Field.string? (field "max_duration" 1)
  let trigger ← Field.orDefault d.killSwitchTrigger Field.string? (field "kill_switch_trigger" 2)
  let preauthorized ← Field.orDefault d.preauthorized Field.strings? (field "preauthorized" 3)
  let threshold ← Field.orDefault d.rapidThreshold Field.number? (field "rapid_speed_threshold" 4)
  some ⟨maxOperations, maxDuration, trigger, preauthorized, threshold⟩

end SafetySection

namespace ExecutionSection

def ofValue? (v : Value) : Option ExecutionSection := do
  let field ← Field.section? v
  let d : ExecutionSection := {}
  let mode ← Field.orDefault d.mode Field.controlMode? (field "control_mode" 0)
  let inputMode ← Field.orDefault d.inputMode Field.inputMode? (field "input_mode" 1)
  let speed ← Field.orDefault d.speed Field.number? (field "speed_multiplier" 2)
  let preDelay ← Field.orDefault d.preDelay Field.string? (field "pre_delay" 3)
  let showCountdown ← Field.orDefault d.showCountdown Field.bool? (field "show_countdown" 4)
  let countdown ← Field.orDefault d.countdown Field.string? (field "countdown" 5)
  let slice ← Field.orDefault d.checkpointSlice Field.string? (field "checkpoint_slice" 6)
  some ⟨mode, inputMode, speed, preDelay, showCountdown, countdown, slice⟩

end ExecutionSection

def RawConfig.ofText? (s : String) : Option RawConfig := do
  let entries ← Toml.document? s
  let safety ← Field.orDefault {} SafetySection.ofValue? (Toml.lookup? entries "safety")
  let execution ← Field.orDefault {} ExecutionSection.ofValue? (Toml.lookup? entries "execution")
  some ⟨safety, execution⟩

/-!
## Validated configuration

`Config.ofRaw?` turns a configuration as written into settings and options that can be used. The
fields are looked at in a fixed order: the time limit, the threshold, the slice, the countdown, the
delay, the speed and the categories; the first wrong one is reported. A limit of zero, or a blank
time limit, means that there is none.
-/

structure Config where
  settings : Settings := {}
  options : Options := { showCountdown := true, trigger := .commandLine }
  killSwitchTrigger : String := "ctrl+alt+escape"
  preauthorized : List Category := []

/-- the categories of a list of names, or the first name that is none -/
def categories? : List String → Except NameError (List Category)
  | [] => .ok []
  | name :: names =>
    match Category.ofText? name with
    | .error e => .error e
    | .ok c => (categories? names).map (c :: ·)

namespace Config

/-- a limit of zero operations binds nothing -/
def operationLimit (n : Nat) : Option Nat := if n = 0 then none else some n

/-- a limit of no time binds nothing -/
def timeLimit (d : Option Duration) : Option Duration := d.filter fun d => !d.isZero

def settings? (safety : SafetySection) (execution : ExecutionSection) :
    Except ConfigError Settings :=
  match Duration.optional? safety.maxDuration with
  | .error e => .error (.maxDuration e)
  | .ok maxDuration =>
    if !(read safety.rapidThreshold).isPositive then .error (.rapidThreshold safety.rapidThreshold)
    else
      match Duration.ofText? execution.checkpointSlice with
      | .error e => .error (.checkpointSlice e)
      | .ok slice =>
        if slice.isZero then .error .zeroSlice
        else
          .ok {
            limits := ⟨operationLimit safety.maxOperations, timeLimit maxDuration⟩
            slice := slice
            rapidThreshold := safety.rapidThreshold }

def options? (execution : ExecutionSection) : Except ConfigError Options :=
  match Duration.ofText? execution.countdown with
  | .error e => .error (.countdown e)
  | .ok countdown =>
    match Duration.ofText? execution.preDelay with
    | .error e => .error (.preDelay e)
    | .ok preDelay =>
      ({  mode := execution.mode
          speed := execution.speed
          showCountdown := execution.showCountdown
          countdown := countdown
          inputMode := execution.inputMode
          trigger := .commandLine
          preDelay := preDelay } : Options).check?.mapError .speed

/-- a configuration that can be used, or the first wrong field -/
def ofRaw? (raw : RawConfig) : Except ConfigError Config :=
  match settings? raw.safety raw.execution with
  | .error e => .error e
  | .ok settings =>
    match options? raw.execution with
    | .error e => .error e
    | .ok options =>
      match categories? raw.safety.preauthorized with
      | .error e => .error (.preauthorized e)
      | .ok preauthorized => .ok ⟨settings, options, raw.safety.killSwitchTrigger, preauthorized⟩

def agrees (a b : Config) : Bool :=
  a.settings.limits == b.settings.limits && a.settings.slice == b.settings.slice &&
    a.settings.rapidThreshold == b.settings.rapidThreshold &&
    a.options.mode == b.options.mode && a.options.speed == b.options.speed &&
    a.options.showCountdown == b.options.showCountdown &&
    a.options.countdown == b.options.countdown && a.options.inputMode == b.options.inputMode &&
    a.options.trigger == b.options.trigger && a.options.preDelay == b.options.preDelay &&
    a.killSwitchTrigger == b.killSwitchTrigger && a.preauthorized == b.preauthorized

end Config

end ScriptGuard
