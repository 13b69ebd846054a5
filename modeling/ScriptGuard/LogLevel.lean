import ScriptGuard.Text

/-!
# Levels of the log

The level is chosen on the command line, or else by a word in the environment, or else it is
`info`.
-/

namespace ScriptGuard

/-- how much is logged, from least to most -/
inductive LogLevel where
  | error
  | warn
  | info
  | debug
  | trace
deriving DecidableEq, Repr, Inhabited

namespace LogLevel

/-- all levels, from least to most -/
def all : List LogLevel := [error, warn, info, debug, trace]

def name : LogLevel → String
  | error => "error"
  | warn => "warn"
  | info => "info"
  | debug => "debug"
  | trace => "trace"

/-- the name of a level with a capital letter -/
def title : LogLevel → String
  | error => "Error"
  | warn => "Warn"
  | info => "Info"
  | debug => "Debug"
  | trace => "Trace"

/-- the level of exactly this name -/
def ofName? (s : String) : Option LogLevel := all.find? fun l => l.name = s

/-- the level a word in the environment names -/
def ofWord? (s : String) : Option LogLevel :=
  let word := Text.keyword s
  if word = "warning" then some warn else ofName? word

/-- the level on the command line, else the one in the environment, else `info` -/
def choose (flag : Option LogLevel) (word : Option String) : LogLevel :=
  (flag.or (word.bind ofWord?)).getD info

/-- what scripts print is logged at the level `info` -/
def showsScript (l : LogLevel) : Bool := l matches info | debug | trace

end LogLevel

end ScriptGuard
