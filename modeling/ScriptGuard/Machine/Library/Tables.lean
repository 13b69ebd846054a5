import ScriptGuard.Machine.Arguments
import ScriptGuard.Machine.Operation

/-!
# The table library

Functions on the items of tables. Sorting puts the median of the first, the middle and the last item
before the last one and parts the items around it; it asks a function whether one item is less than
another, so it is an inquiry.
-/

namespace ScriptGuard.Machine.Tables

open Arguments

/-- the texts of the items with a separator between them -/
def concat (t : Table) (separator : ByteArray) (first last : Int) : Except Complaint ByteArray :=
  let items := t.items first last
  ((items.zip (List.range items.length)).foldl
    (fun out (v, (i : Nat)) => out.bind fun out =>
      match textOf? v with
      | some b => .ok (if i = 0 then b else out ++ separator ++ b)
      | none => .error (.text ("invalid value (at index " ++ toString (first + i)
          ++ ") in table for 'concat'")))
    (.ok ByteArray.empty))

/-- items written to a table from a number on -/
def write (t : Table) (start : Int) (vs : List Value) : Table :=
  (vs.foldl (fun (s : Table × Int) v => (s.1.set (.int s.2) v, s.2 + 1)) (t, start)).1

/-- a value put before an item; the items from there on move up -/
def insert (args : List Value) (h : Heap) : Reply := do
  let place ← table args 1
  let t := h.table place
  let e : Int := t.border + 1
  match args.length with
  | 2 => return ([], h.setField place (.int e) (given args 2))
  | 3 =>
    let pos ← int args 2
    require (1 ≤ pos && pos ≤ e) 2 "position out of bounds"
    return ([], h.onTable place fun t => write t pos (given args 3 :: t.items pos (e - 1)))
  | _ => .error (.text "wrong number of arguments to 'insert'")

/-- an item taken out; the items after it move down -/
def remove (args : List Value) (h : Heap) : Reply := do
  let place ← table args 1
  let t := h.table place
  let size : Int := t.border
  let pos ← intOr args 2 size
  require (pos = size || (1 ≤ pos && pos ≤ size + 1)) 2 "position out of bounds"
  let moved := t.items (pos + 1) size
  return ([t.item pos],
    h.onTable place fun t => write t pos (moved ++ [.nil]))

def unpackLimit : Int := 1000000

/-- a function that calls nothing -/
def call (f : TableFunction) (args : List Value) (h : Heap) : Reply :=
  match f with
  | .concat => do
    let t := h.table (← table args 1)
    let separator ← textOr args 2 ByteArray.empty
    let first ← intOr args 3 1
    let last ← intOr args 4 t.border
    return ([.str (← concat t separator first last)], h)
  | .insert => insert args h
  | .move => do
    let source := h.table (← table args 1)
    let first ← int args 2
    let last ← int args 3
    let start ← int args 4
    let target ← if isAbsent args 5 then table args 1 else table args 5
    require (last - first < unpackLimit) 3 "too many elements to move"
    return ([.table target], h.onTable target fun t => write t start (source.items first last))
  | .pack =>
    let t := (Table.ofItems args).set (.ofText "n") (.int args.length)
    let (h, place) := h.addTable t
    .ok ([.table place], h)
  | .remove => remove args h
  | .unpack => do
    let t ← match given args 1 with
      | .table p => pure (h.table p)
      | v => .error (.value (.ofText ("attempt to get length of a " ++ v.typeName ++ " value")))
    let first ← intOr args 2 1
    let last ← intOr args 3 t.border
    if unpackLimit ≤ last - first then .error (.text "too many results to unpack")
    else return (t.items first last, h)
  | .sort => .ok ([], h)

/-! ## sorting -/

/-- whether one value is less than another, as an inquiry -/
abbrev Less := Value → Value → (Bool → Inquiry (List Value)) → Inquiry (List Value)

/-- a function decides -/
def lessBy (f : Value) : Less := fun a b next =>
  .call f [a, b] fun results => next (Value.first results).holds

/-- the order of values, with metamethods -/
def lessPlain (h : Heap) : Less := fun a b next =>
  match a, b with
  | .str x, .str y => next (bytesLess x y)
  | a, b =>
    if a.typeName = "number" ∧ b.typeName = "number" then next (numberLt a b)
    else
      let f := if (h.metamethod a "__lt").isNil then h.metamethod b "__lt"
        else h.metamethod a "__lt"
      if f.isNil then .fail (.value (.ofText (incomparable a b)))
      else .call f [a, b] fun results => next (Value.first results).holds

/-- the item of a number; items count from one -/
def at? (vs : Array Value) (i : Int) : Value :=
  if i < 1 then .nil else (vs[(i - 1).toNat]?).getD .nil

def swap (vs : Array Value) (i j : Int) : Array Value :=
  vs.swapIfInBounds (i - 1).toNat (j - 1).toNat

/-- what an order that contradicts itself is blamed for -/
def badOrder : Complaint := .text "invalid order function for sorting"

/-- the items between `lo` and `up` parted around the pivot, which stands before `up`: `i` climbs
past lesser items and `j` descends past greater ones -/
def part (less : Less) (lo up : Int) (pivot : Value)
    (next : Array Value → Int → Inquiry (List Value)) :
    Nat → Array Value → Bool → Int → Int → Inquiry (List Value)
  | 0, vs, _, i, _ => next vs i
  | fuel + 1, vs, true, i, j =>
    less (at? vs i) pivot fun isLess =>
      if !isLess then part less lo up pivot next fuel vs false i j
      else if i = up - 1 then .fail badOrder
      else part less lo up pivot next fuel vs true (i + 1) j
  | fuel + 1, vs, false, i, j =>
    less pivot (at? vs j) fun isLess =>
      if isLess then
        if j < i then .fail badOrder else part less lo up pivot next fuel vs false i (j - 1)
      else if j < i then next (swap vs (up - 1) i) i
      else part less lo up pivot next fuel (swap vs i j) true (i + 1) (j - 1)

/-- the first, the middle and the last of some items put in order -/
def order (less : Less) (lo mid up : Int) (vs : Array Value)
    (next : Array Value → Inquiry (List Value)) : Inquiry (List Value) :=
  less (at? vs up) (at? vs lo) fun isLess =>
    let vs := if isLess then swap vs lo up else vs
    if up - lo = 1 then next vs
    else
      less (at? vs mid) (at? vs lo) fun isLess =>
        if isLess then next (swap vs mid lo)
        else less (at? vs up) (at? vs mid) fun isLess => next (if isLess then swap vs mid up else vs)

/-- ranges of items sorted one after the other, of two parts the shorter one first -/
def sortRanges (less : Less) : Nat → Array Value → List (Int × Int) → Inquiry (List Value)
  | 0, vs, _ => .done vs.toList
  | _ + 1, vs, [] => .done vs.toList
  | fuel + 1, vs, (lo, up) :: rest =>
    if up ≤ lo then sortRanges less fuel vs rest
    else
      let mid := (lo + up) / 2
      order less lo mid up vs fun vs =>
        if up - lo ≤ 2 then sortRanges less fuel vs rest
        else
          part less lo up (at? vs mid)
            (fun vs p =>
              let below := (lo, p - 1)
              let above := (p + 1, up)
              sortRanges less fuel vs
                (if p - lo < up - p then below :: above :: rest else above :: below :: rest))
            (2 * (up - lo + 4).toNat) (swap vs mid (up - 1)) true (lo + 1) (up - 2)

def sort (args : List Value) (h : Heap) : Except Complaint (Nat × Inquiry (List Value)) := do
  let place ← table args 1
  let t := h.table place
  let less ← if isAbsent args 2 then pure (lessPlain h) else (function args 2).map lessBy
  let vs := (t.items 1 t.border).toArray
  return (place, sortRanges less (2 * vs.size + 4) vs [(1, vs.size)])

end ScriptGuard.Machine.Tables
