import ScriptGuard.Decimal
import ScriptGuard.LogLevel

/-!
# The command line

What the program is asked for: a script, switches and settings. A setting takes the word behind an
equals sign or else the next word, unless that word looks like an option. Every setting but the
approvals, and every switch, may be given once.

* `CommandLine.ofWords?`   the command line that words make, or why they make none.
-/

namespace ScriptGuard

structure CommandLine where
  script : String := ""
  config : Option String := none
  debug : Bool := false
  speed : Option Float := none
  inputMode : Option String := none
  /-- the names of categories to be approved -/
  allow : List String := []
  noCountdown : Bool := false
  logLevel : Option LogLevel := none
  dryRun : Bool := false

/-- why words are no command line; asking for help or for the version is one of the reasons -/
inductive UsageError where
  | missingArgument
  | repeatedArgument
  | unknownArgument
  | badNumber
  | badValue
  | unexpectedValue
  | help
  | version
deriving DecidableEq, Repr

namespace CommandLine

inductive Switch where
  | debug
  | noCountdown
  | dryRun
deriving DecidableEq, Repr

inductive Setting where
  | config
  | speed
  | inputMode
  | allow
  | logLevel
deriving DecidableEq, Repr

inductive Name where
  | switch (s : Switch)
  | setting (s : Setting)
  | help
  | version

def names : List (String × Name) :=
  [("config", .setting .config), ("debug", .switch .debug), ("speed", .setting .speed),
    ("input-mode", .setting .inputMode), ("allow", .setting .allow),
    ("no-countdown", .switch .noCountdown), ("log-level", .setting .logLevel),
    ("dry-run", .switch .dryRun), ("help", .help), ("version", .version)]

inductive Word where
  /-- nothing behind it is an option -/
  | escape
  | long (name : Option Name) (value : Option String)
  | short (letter : Char)
  | plain (text : String)

/-- a long option with the value behind the equals sign -/
def longWord (cs : List Char) : Word :=
  let name := String.ofList (cs.takeWhile (· != '='))
  let value := match cs.dropWhile (· != '=') with
    | _ :: rest => some (String.ofList rest)
    | [] => none
  .long ((names.find? fun n => n.1 = name).map (·.2)) value

def Word.ofText (s : String) : Word :=
  match s.toList with
  | ['-', '-'] => .escape
  | '-' :: '-' :: cs => longWord cs
  | '-' :: c :: _ => .short c
  | _ => .plain s

structure Reading where
  commandLine : CommandLine := {}
  /-- the script has been named -/
  hasScript : Bool := false
  /-- the settings that have their value -/
  given : List Setting := []
  /-- a setting that waits for its value, or for being taken over with it -/
  pending : Option (Setting × Option String) := none
  /-- nothing to come is an option -/
  escaped : Bool := false

def assign (a : CommandLine) (s : Setting) (v : String) : Except UsageError CommandLine :=
  match s with
  | .config => .ok { a with config := some v }
  | .speed =>
    match Decimal.ofText? v with
    | some x => .ok { a with speed := some x }
    | none => .error .badNumber
  | .inputMode => .ok { a with inputMode := some v }
  | .allow => .ok { a with allow := a.allow ++ [v] }
  | .logLevel =>
    match LogLevel.ofName? v with
    | some l => .ok { a with logLevel := some l }
    | none => .error .badValue

/-- a setting gets its value; only approvals may be repeated -/
def take (r : Reading) (s : Setting) (v : String) : Except UsageError Reading :=
  if s ≠ .allow ∧ s ∈ r.given then .error .repeatedArgument
  else
    (assign r.commandLine s v).map fun a =>
      { r with commandLine := a, given := s :: r.given, pending := none }

/-- the setting that waits is taken over -/
def resolve (r : Reading) : Except UsageError Reading :=
  match r.pending with
  | none => .ok r
  | some (_, none) => .error .badValue
  | some (s, some v) => take r s v

def turnOn (a : CommandLine) : Switch → Except UsageError CommandLine
  | .debug => if a.debug then .error .repeatedArgument else .ok { a with debug := true }
  | .noCountdown =>
    if a.noCountdown then .error .repeatedArgument else .ok { a with noCountdown := true }
  | .dryRun => if a.dryRun then .error .repeatedArgument else .ok { a with dryRun := true }

/-- a word that is no option: the value of the setting that waits for one, or the script -/
def plain (r : Reading) (s : String) : Except UsageError Reading :=
  match r.pending, r.escaped with
  | some (setting, none), false => .ok { r with pending := some (setting, some s) }
  | _, _ =>
    if r.hasScript then .error .unknownArgument
    else
      (resolve r).map fun r =>
        { r with commandLine := { r.commandLine with script := s }, hasScript := true }

def long (r : Reading) (name : Name) (value : Option String) : Except UsageError Reading :=
  match name, value with
  | .setting s, some v => (resolve r).bind fun r => take r s v
  | .setting s, none => (resolve r).map fun r => { r with pending := some (s, none) }
  | _, some _ => .error .unexpectedValue
  | .switch s, none =>
    (resolve r).bind fun r => (turnOn r.commandLine s).map fun a => { r with commandLine := a }
  | .help, none => (resolve r).bind fun _ => .error .help
  | .version, none => (resolve r).bind fun _ => .error .version

def read (r : Reading) (s : String) : Except UsageError Reading :=
  if r.escaped then plain r s
  else
    match Word.ofText s with
    | .escape => .ok { r with escaped := true }
    | .long (some name) value => long r name value
    | .long none _ => .error .unknownArgument
    | .short 'h' => (resolve r).bind fun _ => .error .help
    | .short 'V' => (resolve r).bind fun _ => .error .version
    | .short _ => .error .unknownArgument
    | .plain s => plain r s

def finish (r : Reading) : Except UsageError CommandLine :=
  (resolve r).bind fun r => if r.hasScript then .ok r.commandLine else .error .missingArgument

def ofWords? (words : List String) : Except UsageError CommandLine :=
  (words.foldlM read {}).bind finish

end CommandLine

end ScriptGuard
