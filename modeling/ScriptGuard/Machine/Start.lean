import ScriptGuard.Machine.Step

/-!
# Machines before their scripts

* `State.fresh`      a machine with the libraries;
* `State.register`   a host function becomes a global;
* `State.load`       a script is about to run;
* `State.interrupt`  an error of the host is raised wherever the script is.
-/

namespace ScriptGuard.Machine

namespace Heap

/-- the table of the globals and the table with the metamethods of strings, both still empty, and
the script itself as the first of all coroutines -/
def bare : Heap :=
  ((({ threads := #[⟨.running, none, []⟩] } : Heap).addTable {}).1.addTable {}).1

/-- an empty table becomes a global -/
def addLibrary (h : Heap) (name : String) : Heap :=
  let (h, place) := h.addTable {}
  h.setField globalsPlace (.ofText name) (.table place)

/-- a library function is put where scripts find it -/
def addBuiltin (h : Heap) (library : Option String) (name : String) (f : Builtin) : Heap :=
  match library with
  | none => h.setField globalsPlace (.ofText name) (.builtin f)
  | some l =>
    match (h.table globalsPlace).get (.ofText l) with
    | .table place => h.setField place (.ofText name) (.builtin f)
    | _ => h

/-- a constant is put into the table of a library -/
def addConstant (h : Heap) (library name : String) (v : Value) : Heap :=
  match (h.table globalsPlace).get (.ofText library) with
  | .table place => h.setField place (.ofText name) v
  | _ => h

/-- the pattern that finds one code point -/
def codePointPattern : ByteArray :=
  ⟨#[0x5B, 0x00, 0x2D, 0x7F, 0xC2, 0x2D, 0xFD, 0x5D, 0x5B, 0x80, 0x2D, 0xBF, 0x5D, 0x2A]⟩

/-- the libraries; strings find the functions of theirs as methods -/
def libraries : Heap :=
  let h := Builtin.libraries.foldl addLibrary bare
  let h := Builtin.all.foldl (fun h (library, name, f) => h.addBuiltin library name f) h
  let globals := h.table globalsPlace
  let h := h.setField stringsPlace (.ofText "__index") (globals.get (.ofText "string"))
  let h := [("pi", Value.num 3.141592653589793), ("huge", .num (1.0 / 0.0)),
      ("maxinteger", .int greatest64), ("mininteger", .int least64)].foldl
    (fun h (name, v) => h.addConstant "math" name v) h
  let h := h.addConstant "utf8" "charpattern" (.str codePointPattern)
  (h.setField globalsPlace (.ofText "_G") (.table globalsPlace)).setField globalsPlace
    (.ofText "_VERSION") (.ofText "Lua 5.4")

end Heap

namespace State

/-- a machine with the libraries and nothing to do -/
def fresh : State := { control := .next, heap := Heap.libraries }

/-- the host function of a number becomes a global -/
def register (s : State) (name : String) (number : Nat) : State :=
  { s with heap := s.heap.setField globalsPlace (.ofText name) (.host number) }

/-- a script is about to run; what an earlier one left behind stays -/
def load (s : State) (body : Code.Body) (chunk : String) : State :=
  let (heap, f) := s.heap.addClosure ⟨body, ⟨[], [], chunk⟩⟩
  { control := .apply f [] none, heap := heap, printed := s.printed }

/-- an error of the host is raised wherever the script is -/
def interrupt (s : State) (e : HostError) : State := s.raise (.fault e)

/-- a host function that was called has failed -/
def refuse (s : State) (e : HostError) : State := s.raise (.fault e)

/-- a host function that was called has broken down -/
def breakDown (s : State) : State := s.raise .wreck

end State

end ScriptGuard.Machine
