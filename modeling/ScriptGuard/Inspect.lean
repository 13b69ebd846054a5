import ScriptGuard.Interpreter
import ScriptGuard.Service
import ScriptGuard.Text

/-!
# Inspection

Parts of the service as texts for those who look for errors: a name and its fields in braces, two
points for what is not shown.
-/

namespace ScriptGuard.Inspect

def record (name : String) (fields : List (String × String)) : String :=
  name ++ " \x7b " ++ ", ".intercalate (fields.map fun f => f.1 ++ ": " ++ f.2) ++ " \x7d"

/-- a name with fields, some of which are not shown -/
def partly (name : String) (fields : List (String × String)) : String :=
  name ++ " \x7b " ++ ", ".intercalate ((fields.map fun f => f.1 ++ ": " ++ f.2) ++ [".."]) ++
    " \x7d"

def optional (f : α → String) : Option α → String
  | some x => "Some(" ++ f x ++ ")"
  | none => "None"

def truth (b : Bool) : String := if b then "true" else "false"

/-- a kill switch; `time` stands for the moment of the activation -/
def killSwitch (k : KillSwitch) (time : String) : String :=
  let shown (reason : String) : String :=
    record "KillSwitchRecord" [("reason", Text.quoted reason), ("activated_at", time)]
  partly "KillSwitch" [("active", truth k.active), ("record", optional shown k.record)]

def approvals (a : Approvals) (handler : Bool) : String :=
  record "Authorizations"
    [("approved", "\x7b" ++ ", ".intercalate (a.list.map Category.title) ++ "\x7d"),
      ("has_handler", truth handler)]

def safety (s : System) (time : String) : String :=
  record "SafetyService"
    [("kill_switch", killSwitch s.killSwitch time),
      ("authorizations", approvals s.approvals s.handler)]

def settings (s : Settings) : String :=
  record "EngineSettings"
    [("limits", record "ExecutionLimits"
        [("max_operations", optional toString s.limits.operations),
          ("max_duration", optional Duration.text s.limits.duration)]),
      ("checkpoint_slice", s.slice.text),
      ("rapid_speed_threshold", Decimal.pointed s.rapidThreshold)]

def scriptId (id : String) : String := "ScriptId(" ++ Text.quoted id ++ ")"

def service (s : System) : String :=
  partly "ExecutionService"
    [("active", "[" ++ ", ".intercalate (s.activeIds.map scriptId) ++ "]"),
      ("settings", settings s.settings)]

def observers (count : Nat) : String := record "Observers" [("count", toString count)]

def interpreter (i : Interpreter) : String :=
  partly "LuaInterpreter" [("loaded", truth i.isLoaded)]

def script (s : Script) : String :=
  record "Script"
    [("id", scriptId s.id), ("name", Text.quoted s.name), ("source", Text.quoted s.source)]

end ScriptGuard.Inspect
