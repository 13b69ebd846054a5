import ScriptGuard.Config
import ScriptGuard.Options
import ScriptGuard.Text

/-!
# Files

A directory with files below it, and the reading of configurations and scripts from it. Paths are
walked part by part: a point stays, two points go up, any other part has to be there.

* `Files.walk?`          the place a path leads to;
* `Files.text?`          the text of the file at a path;
* `Config.ofFiles?`      the configuration at a path, or the default one;
* `Script.ofFiles?`      the script at a path.
-/

namespace ScriptGuard

/-- the file that is read when no configuration is named -/
def Config.defaultPath : String := "Macroguard.toml"

def decodeFile (bytes : ByteArray) : Except IoError String :=
  match String.fromUTF8? bytes with
  | some s => .ok s
  | none => .error .notUtf8

def Config.ofDocument? (text : Except IoError String) : Except Fault Config :=
  match text with
  | .error e => .error (.io e)
  | .ok s =>
    match RawConfig.ofText? s with
    | none => .error .malformed
    | some raw => (Config.ofRaw? raw).mapError .config

/-- the script in a file: its id is the place of the file, its name comes from the path -/
def Script.ofText? (path place : String) (text : Except IoError String) : Except Fault Script :=
  match text with
  | .error e => .error (.unreadableScript (Text.quoted path) e)
  | .ok s => .ok ⟨place, Script.nameOf path, s⟩

/-- a directory: its own place, and the parts of the paths of the files below it -/
structure Files where
  place : String
  entries : List (List String × ByteArray)

namespace Files

/-- a directory from the relative paths of its files -/
def ofList (place : String) (files : List (String × ByteArray)) : Files :=
  ⟨place, files.map fun (path, bytes) => (path.splitOn "/", bytes)⟩

/-- where a walk stands: in the directory, the inner part first, or above it -/
inductive Spot where
  | inside (trail : List String)
  | above

def file? (f : Files) (trail : List String) : Option ByteArray :=
  (f.entries.find? fun e => e.1 = trail.reverse).map (·.2)

/-- some file lies below the trail -/
def isDirectory (f : Files) (trail : List String) : Bool :=
  trail.isEmpty || f.entries.any fun e =>
    trail.length < e.1.length && e.1.take trail.length == trail.reverse

/-- a part is longer than a file system takes -/
def isTooLong (part : String) : Bool := 255 < part.utf8ByteSize

/-- one part further; only from a directory -/
def enter? (f : Files) (spot : Spot) (part : String) : Except IoError Spot :=
  match spot with
  | .above => if part = "" ∨ part = "." ∨ part = ".." then .ok .above else .error .notFound
  | .inside trail =>
    if !f.isDirectory trail then .error .notDirectory
    else if part = "" ∨ part = "." then .ok spot
    else if part = ".." then
      match trail with
      | [] => .ok .above
      | _ :: outer => .ok (.inside outer)
    else if isTooLong part then .error .nameTooLong
    else if f.isDirectory (part :: trail) || (f.file? (part :: trail)).isSome then
      .ok (.inside (part :: trail))
    else .error .notFound

def walk? (f : Files) (path : String) : Except IoError Spot :=
  if path.toList.contains '\x00' then .error .nulInName
  else if path = "" then .error .notFound
  else if 4095 < path.utf8ByteSize then .error .nameTooLong
  else
    match path.splitOn "/" with
    | "" :: parts => parts.foldlM f.enter? .above
    | parts => parts.foldlM f.enter? (.inside [])

def contains (f : Files) (path : String) : Bool := (f.walk? path).isOk

def text? (f : Files) (path : String) : Except IoError String :=
  match f.walk? path with
  | .error e => .error e
  | .ok .above => .error .isDirectory
  | .ok (.inside trail) =>
    match f.file? trail with
    | some bytes => decodeFile bytes
    | none => .error .isDirectory

/-- the place a path leads to, written out; the path itself if it leads nowhere -/
def placeOf (f : Files) (path : String) : String :=
  match f.walk? path with
  | .ok (.inside trail) => "/".intercalate (f.place :: trail.reverse)
  | _ => path

end Files

/-- the configuration at a path; without one the configuration at the default path, or the default
if nothing is there -/
def Config.ofFiles? (f : Files) : Option String → Except Fault Config
  | some path => Config.ofDocument? (f.text? path)
  | none =>
    if f.contains Config.defaultPath then Config.ofDocument? (f.text? Config.defaultPath)
    else .ok {}

def Script.ofFiles? (f : Files) (path : String) : Except Fault Script :=
  Script.ofText? path (f.placeOf path) (f.text? path)

end ScriptGuard
