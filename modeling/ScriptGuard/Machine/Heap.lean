import ScriptGuard.Machine.State

/-!
# The heap of a running script

Making and changing tables, variables and functions, and access to the fields of values along their
metatables.

* `Heap.index`, `Heap.assign`   a field read or written: done, a metamethod to be called, or a value
                                that has no fields.
-/

namespace ScriptGuard.Machine

def globalsPlace : Nat := 0

/-- the place of the script itself among the coroutines -/
def mainThread : Nat := 0

/-- the place of the table with the metamethods of strings -/
def stringsPlace : Nat := 1

namespace Heap

def addTable (h : Heap) (t : Table) : Heap × Nat :=
  ({ h with tables := h.tables.push t }, h.tables.size)

def table (h : Heap) (place : Nat) : Table := (h.tables[place]?).getD {}

def onTable (h : Heap) (place : Nat) (f : Table → Table) : Heap :=
  { h with tables := h.tables.modify place f }

def setField (h : Heap) (place : Nat) (key v : Value) : Heap := h.onTable place (·.set key v)

def addCell (h : Heap) (v : Value) : Heap × Nat :=
  ({ h with cells := h.cells.push v }, h.cells.size)

def cell (h : Heap) (place : Nat) : Value := (h.cells[place]?).getD .nil

def setCell (h : Heap) (place : Nat) (v : Value) : Heap :=
  { h with cells := h.cells.setIfInBounds place v }

def addClosure (h : Heap) (c : Closure) : Heap × Value :=
  ({ h with closures := h.closures.push c }, .function h.closures.size)

def addThread (h : Heap) (start : Value) : Heap × Nat :=
  ({ h with threads := h.threads.push ⟨.suspended, some start, []⟩ }, h.threads.size)

def onThread (h : Heap) (place : Nat) (f : Thread → Thread) : Heap :=
  { h with threads := h.threads.modify place f }

/-- new variables for names, missing values being nil; values left over do not count -/
def bindAll (h : Heap) (env : Env) : List String → List Value → Heap × Env
  | [], _ => (h, env)
  | x :: xs, vs =>
    let (h, place) := h.addCell (Value.first vs)
    bindAll h (env.bind x place) xs vs.tail

/-! ## metatables -/

/-- the place of the metatable of a value -/
def metatable? (h : Heap) : Value → Option Nat
  | .table p => (h.table p).metatable
  | .str _ => some stringsPlace
  | _ => none

/-- a metamethod of a value, nil if it has none -/
def metamethod (h : Heap) (v : Value) (name : String) : Value :=
  match h.metatable? v with
  | some p => (h.table p).get (.ofText name)
  | none => .nil

/-- what becomes of an access to a field -/
inductive Access where
  | value (v : Value)
  | stored (h : Heap)
  | call (f : Value) (args : List Value)
  /-- the value has no fields; true if it is the one that was accessed -/
  | noFields (v : Value) (isFirst : Bool)
  | badKey (text : String)

/-- as many metatables as one access may pass -/
def chainLimit : Nat := 2000

/-- the field of a value, looked up along the metatables -/
def indexFrom (h : Heap) (isFirst : Bool) (v key : Value) : Nat → Access
  | 0 => .badKey "'__index' chain too long; possibly a loop"
  | fuel + 1 =>
    let found := match v with
      | .table p => (h.table p).get key
      | _ => .nil
    if !found.isNil then .value found
    else
      match h.metamethod v "__index", v with
      | .nil, .table _ => .value .nil
      | .nil, _ => .noFields v isFirst
      | f, _ => if f.isFunction then .call f [v, key] else indexFrom h false f key fuel

def index (h : Heap) (v key : Value) : Access := indexFrom h true v key chainLimit

/-- a key that cannot be set -/
def badKey? (key : Value) : Option String :=
  match key with
  | .nil => some "table index is nil"
  | .num x => if x.isNaN then some "table index is NaN" else none
  | _ => none

/-- the field of a value set, looked up along the metatables -/
def assignFrom (h : Heap) (isFirst : Bool) (v key new : Value) : Nat → Access
  | 0 => .badKey "'__newindex' chain too long; possibly a loop"
  | fuel + 1 =>
    let isThere := match v with
      | .table p => !((h.table p).get key).isNil
      | _ => false
    let f := if isThere then .nil else h.metamethod v "__newindex"
    match f, v with
    | .nil, .table p =>
      match badKey? key with
      | some text => .badKey text
      | none => .stored (h.setField p key new)
    | .nil, _ => .noFields v isFirst
    | f, _ => if f.isFunction then .call f [v, key, new] else assignFrom h false f key new fuel

def assign (h : Heap) (v key new : Value) : Access := assignFrom h true v key new chainLimit

end Heap

end ScriptGuard.Machine
