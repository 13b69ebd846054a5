import ScriptGuard.Authorization
import ScriptGuard.Device
import ScriptGuard.Duration
import ScriptGuard.Host
import ScriptGuard.Options

/-!
# Faults

Why the service or the program refuses a request, as causes with one message each.

* `IoError`      what can be wrong with a file;
* `ConfigError`  which field of a configuration is wrong;
* `Fault`        why a request to the service, or the reading of its inputs, fails.
-/

namespace ScriptGuard

inductive IoError where
  | notFound
  | notUtf8
  | isDirectory
  | notDirectory
  | nameTooLong
  | nulInName
  | other (text : String)
deriving DecidableEq, Repr

/-- the message for a file that cannot be read -/
def IoError.message : IoError → String
  | notFound => "No such file or directory (os error 2)"
  | notUtf8 => "stream did not contain valid UTF-8"
  | isDirectory => "Is a directory (os error 21)"
  | notDirectory => "Not a directory (os error 20)"
  | nameTooLong => "File name too long (os error 36)"
  | nulInName => "file name contained an unexpected NUL byte"
  | other text => text

/-- which field of a configuration is wrong, in the order in which the fields are looked at -/
inductive ConfigError where
  | maxDuration (cause : DurationError)
  | rapidThreshold (value : Float)
  | checkpointSlice (cause : DurationError)
  | zeroSlice
  | countdown (cause : DurationError)
  | preDelay (cause : DurationError)
  | speed (cause : OptionsError)
  | preauthorized (cause : NameError)

/-- why a request is refused -/
inductive Fault where
  | config (cause : ConfigError)
  | io (cause : IoError)
  | malformed
  | alreadyRunning (name : String)
  | noSession (id : String)
  | unavailable (command : Command) (state : RunState)
  | invalidOptions (cause : OptionsError)
  | killSwitchActive (reason : String)
  | deviceUnavailable (cause : DeviceError)
  | interpreter (cause : InterpreterError)
  | unreadableScript (quotedPath : String) (cause : IoError)

def Fault.optionsMessage (cause : OptionsError) : String :=
  "Invalid execution options: " ++ cause.message

def ConfigError.message : ConfigError → String
  | maxDuration cause => "[safety].max_duration: " ++ cause.message
  | rapidThreshold value =>
    "[safety].rapid_speed_threshold must be a positive number (got " ++ Decimal.plain value ++ ")"
  | checkpointSlice cause => "[execution].checkpoint_slice: " ++ cause.message
  | zeroSlice => "[execution].checkpoint_slice must be > 0"
  | countdown cause => "[execution].countdown: " ++ cause.message
  | preDelay cause => "[execution].pre_delay: " ++ cause.message
  | speed cause => "[execution]: " ++ Fault.optionsMessage cause
  | preauthorized cause => "[safety].preauthorized: " ++ cause.message

namespace Fault

def message : Fault → String
  | config cause => "Configuration error: " ++ cause.message
  | io cause => "IO error: " ++ cause.message
  | malformed => "TOML parsing error"
  | alreadyRunning name => "Script '" ++ name ++ "' is already running"
  | noSession id => "No active session for script '" ++ id ++ "'"
  | unavailable command state =>
    command.title ++ " is not available while the session is " ++ state.name
  | invalidOptions cause => optionsMessage cause
  | killSwitchActive reason => "Kill switch is active: " ++ reason
  | deviceUnavailable cause => "Input backend unavailable: " ++ cause.text
  | interpreter cause => "Interpreter error: " ++ cause.message
  | unreadableScript quotedPath _ => "reading script " ++ quotedPath

/-- the message of the cause below a fault, if there is one -/
def cause? : Fault → Option String
  | io cause => some cause.message
  | malformed => some "the document is malformed"
  | deviceUnavailable cause => some cause.text
  | interpreter cause => some cause.message
  | unreadableScript _ cause => some cause.message
  | _ => none

/-- a fault and the causes below it, outermost first -/
def chain (f : Fault) : List String := f.message :: f.cause?.toList

end Fault

end ScriptGuard
