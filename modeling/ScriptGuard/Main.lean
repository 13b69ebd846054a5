import ScriptGuard.Program

/-!
# The executable

Reads the files and the input the command line asks for, has the program played and writes its
report. Scripts run on a simulated device, in simulated time.
-/

namespace ScriptGuard.Main

def ioError : IO.Error → IoError
  | .noFileOrDirectory .. => .notFound
  | .inappropriateType .. => .isDirectory
  | e => .other (toString e)

def readText (path : String) : IO (Except IoError String) := do
  try
    return decodeFile (← IO.FS.readBinFile path)
  catch e => return .error (ioError e)

/-- the configuration at a path, or the default one -/
def readConfig : Option String → IO (Except Fault Config)
  | some path => return Config.ofDocument? (← readText path)
  | none => do
    match ← readText Config.defaultPath with
    | .error .notFound => return .ok {}
    | text => return Config.ofDocument? text

def readScript (path : String) : IO (Except Fault Script) := do
  let text ← readText path
  let place ← try pure (← IO.FS.realPath path).toString catch _ => pure path
  return Script.ofText? path place text

/-- the program reads commands -/
def readsInput (config : Except Fault Config) (script : Except Fault Script) (a : CommandLine) :
    Bool :=
  match Launch.of? config script a with
  | .ok l => l.options.mode.isInteractive && !a.dryRun
  | .error _ => false

def report (words : List String) : IO Program.Report := do
  match CommandLine.ofWords? words with
  | .error e => return Program.usageReport e
  | .ok a =>
    let level := LogLevel.choose a.logLevel (← IO.getEnv "MACROGUARD_LOG")
    let config ← readConfig a.config
    let script ← readScript a.script
    let input ← if readsInput config script a then (← IO.getStdin).readToEnd else pure ""
    return Program.reportOf level (Program.run a config script level { input := input })

end ScriptGuard.Main

def main (words : List String) : IO UInt32 := do
  let r ← ScriptGuard.Main.report words
  r.printed.forM fun line => IO.eprintln ("INFO macroguard::script: " ++ line)
  r.out.forM IO.println
  r.err.forM IO.eprintln
  return UInt32.ofNat r.exit
