import ScriptGuard.Machine.Number
import Std.Data.HashMap

/-!
# Tables

A table keeps its entries in the order in which their keys came; an entry whose value is nil does
not count. The keys `1` to `border` belong to the sequence of the table: `border` is a key with a
value whose successor has none, or zero.

* `Table.get`, `Table.set`   the value of a key;
* `Table.next?`              the entry after a key: the sequence first, then the others.
-/

namespace ScriptGuard.Machine

/-- what a key is looked up by -/
inductive Key where
  | bool (b : Bool)
  | int (n : Int)
  | bits (x : UInt64)
  | str (bytes : ByteArray)
  | place (kind place : Nat)
  | builtin (f : Builtin)
  | other
deriving BEq, Hashable

/-- the key a value is looked up by; a whole floating-point number is looked up as an integer, nil
and not-a-number are no keys -/
def Key.of? : Value → Option Key
  | .nil => none
  | .bool b => some (.bool b)
  | .int n => some (.int n)
  | .num x =>
    match exactInt? x with
    | some n => some (.int n)
    | none => if x.isNaN then none else some (.bits x.toBits)
  | .str b => some (.str b)
  | .table p => some (.place 0 p)
  | .function p => some (.place 1 p)
  | .thread p => some (.place 2 p)
  | .wrapped p => some (.place 3 p)
  | .matcher p => some (.place 4 p)
  | .host n => some (.place 5 n)
  | .builtin f => some (.builtin f)
  | .fault _ => some .other
  | .wreck => some .other

/-- two values are the same; integers and floating-point numbers are compared by their value -/
def Value.same : Value → Value → Bool
  | .nil, .nil => true
  | .bool a, .bool b => a == b
  | .str a, .str b => a == b
  | .table a, .table b => a == b
  | .function a, .function b => a == b
  | .thread a, .thread b => a == b
  | .wrapped a, .wrapped b => a == b
  | .matcher a, .matcher b => a == b
  | .host a, .host b => a == b
  | .builtin a, .builtin b => a == b
  | .fault a, .fault b => a == b
  | a, b => numberEq a b

structure Table where
  entries : Array (Value × Value) := #[]
  places : Std.HashMap Key Nat := {}
  border : Nat := 0
  /-- the place of the table that holds its metamethods -/
  metatable : Option Nat := none

instance : Inhabited Table := ⟨{}⟩

namespace Table

def look (t : Table) (k : Key) : Value :=
  match t.places[k]? with
  | some i => (t.entries[i]?).elim .nil (·.2)
  | none => .nil

def get (t : Table) (k : Value) : Value := (Key.of? k).elim .nil t.look

def item (t : Table) (i : Int) : Value := t.look (.int i)

/-- the border moved up as long as the next key has a value -/
def grow (t : Table) : Nat → Nat → Nat
  | 0, border => border
  | fuel + 1, border => if (t.item (border + 1)).isNil then border else grow t fuel (border + 1)

/-- the border moved down to a key with a value -/
def shrink (t : Table) : Nat → Nat
  | 0 => 0
  | n + 1 => if (t.item (n + 1)).isNil then shrink t n else n + 1

/-- the border after a key has been set -/
def adjusted (t : Table) (k : Key) (v : Value) : Table :=
  match k with
  | .int n =>
    if v.isNil then
      if n = t.border then { t with border := t.shrink t.border } else t
    else if n = t.border + 1 then
      { t with border := t.grow t.entries.size (t.border + 1) }
    else t
  | _ => t

/-- the table with a key set to a value -/
def put (t : Table) (key : Value) (k : Key) (v : Value) : Table :=
  match t.places[k]? with
  | some i => ({ t with entries := t.entries.modify i fun e => (e.1, v) } : Table).adjusted k v
  | none =>
    if v.isNil then t
    else
      ({ t with
          entries := t.entries.push (key, v)
          places := t.places.insert k t.entries.size } : Table).adjusted k v

/-- the key as it is kept: a whole floating-point number becomes an integer -/
def kept : Value → Key → Value
  | .num _, .int n => .int n
  | key, _ => key

/-- the table with a value as a key set to a value; nothing happens for nil and not-a-number -/
def set (t : Table) (key v : Value) : Table :=
  match Key.of? key with
  | some k => t.put (kept key k) k v
  | none => t

/-- the border of a table built with `n` items in a row, where the last ones may be nil -/
def withItems (t : Table) (n : Nat) : Table :=
  if (t.item n).isNil then { t with border := t.shrink n } else { t with border := n }

/-- the first entry with a value from a place on; keys of the sequence are left out -/
def entryFrom? (t : Table) (i : Nat) : Nat → Option (Value × Value)
  | 0 => none
  | fuel + 1 =>
    match t.entries[i]? with
    | none => none
    | some (k, v) =>
      let isItem := match k with
        | .int n => 1 ≤ n && n ≤ t.border
        | _ => false
      if v.isNil || isItem then entryFrom? t (i + 1) fuel else some (k, v)

/-- the first key of the sequence with a value from a number on, or else the first other entry -/
def itemFrom? (t : Table) (n : Nat) : Nat → Option (Value × Value)
  | 0 => t.entryFrom? 0 t.entries.size
  | fuel + 1 =>
    if t.border < n then t.entryFrom? 0 t.entries.size
    else
      let v := t.item n
      if v.isNil then itemFrom? t (n + 1) fuel else some (.int n, v)

/-- the entry after a key; an error if the key is not there -/
def next? (t : Table) (key : Value) : Option (Option (Value × Value)) :=
  match Key.of? key with
  | none => some (t.itemFrom? 1 (t.border + 1))
  | some k =>
    let isItem := match k with
      | .int n => 1 ≤ n && n ≤ t.border
      | _ => false
    match k, isItem with
    | .int n, true => some (t.itemFrom? (n.toNat + 1) (t.border + 1))
    | _, _ => (t.places[k]?).map fun i => t.entryFrom? (i + 1) t.entries.size

/-- the items `first` to `last` of a table -/
def items (t : Table) (first last : Int) : List Value :=
  (List.range (last - first + 1).toNat).map fun (i : Nat) => t.item (first + i)

def ofItems (vs : List Value) : Table :=
  ((vs.foldl (fun (s : Table × Int) v => (s.1.set (.int s.2) v, s.2 + 1)) ({}, 1)).1).withItems
    vs.length

end Table

end ScriptGuard.Machine
