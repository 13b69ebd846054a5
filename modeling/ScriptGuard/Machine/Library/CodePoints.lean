import ScriptGuard.Code.Token
import ScriptGuard.Machine.Library.Text

/-!
# The library for code points

Strings as sequences of code points in their usual encoding.
-/

namespace ScriptGuard.Machine.CodePoints

open Arguments ScriptGuard.Machine.Text

/-- the code points that start between two places, or the first place where none starts -/
def pointsFrom (s : ByteArray) (last : Nat) : Nat → Nat → List Nat → Except Nat (List Nat)
  | 0, _, out => .ok out.reverse
  | fuel + 1, i, out =>
    if last ≤ i then .ok out.reverse
    else
      match s.utf8DecodeChar? i with
      | some c => pointsFrom s last fuel (i + c.utf8Size) (c.toNat :: out)
      | none => .error i

/-- the code points that start at positions `first` to `last` -/
def points (s : ByteArray) (first last : Nat) : Except Nat (List Nat) :=
  pointsFrom s last (s.size + 1) (first - 1) []

/-- a position, where negative ones count from the end; zero if it is before the first -/
def fromEnd (i : Int) (size : Nat) : Int :=
  if 0 ≤ i then i else if (size : Int) < -i then 0 else size + i + 1

/-- a byte that continues a code point -/
def continues (s : ByteArray) (i : Int) : Bool :=
  0 ≤ i && ((s[i.toNat]?).any fun b => b &&& 0xC0 == 0x80)

/-- the first place from one on where no byte continues a code point -/
def start (s : ByteArray) : Nat → Nat → Nat
  | 0, i => i
  | fuel + 1, i => if continues s i then start s fuel (i + 1) else i

/-- the next code point behind a position, with its own position -/
def nextPoint (s : ByteArray) (position : Nat) : Except Complaint (List Value) :=
  let i := start s s.size position
  if s.size ≤ i then .ok []
  else
    match s.utf8DecodeChar? i with
    | some c => .ok [.int (i + 1), .int c.toNat]
    | none => .error (.text "invalid UTF-8 code")

/-- `n` code points further back from a place, if there are as many -/
def back (s : ByteArray) : Nat → Nat → Int → Option Int
  | 0, _, i => some i
  | _ + 1, 0, _ => none
  | n + 1, fuel + 1, i =>
    if i ≤ 0 then none
    else if continues s (i - 1) then back s (n + 1) fuel (i - 1)
    else back s n fuel (i - 1)

/-- `n` code points further on from a place, if there are as many -/
def ahead (s : ByteArray) : Nat → Nat → Option Nat
  | 0, i => some i
  | n + 1, i => if s.size ≤ i then none else ahead s n (start s s.size (i + 1))

/-- the position of the code point of a number, counted from a position -/
def offset (args : List Value) (h : Heap) : Reply := do
  let s ← text args 1
  let n ← int args 2
  let position := fromEnd (← intOr args 3 (if 0 < n then 1 else s.size + 1)) s.size
  require (1 ≤ position && position ≤ s.size + 1) 3 "position out of bounds"
  let i := position.toNat - 1
  if n = 0 then
    let passed := (List.range (i + 1)).takeWhile fun k => 0 < i - k && continues s (i - k : Nat)
    return ([.int (i - passed.length + 1 : Nat)], h)
  else if continues s i then .error (.text "initial position is a continuation byte")
  else
    let place := if 0 < n then (ahead s (n.toNat - 1) i).map fun (k : Nat) => (k : Int)
      else back s n.natAbs s.size i
    return ([place.elim .nil fun k => .int (k + 1)], h)

def call (f : CodePointFunction) (args : List Value) (h : Heap) : Reply :=
  match f with
  | .char => do
    let bytes ← (List.range args.length).mapM fun i => do
      let n ← int args (i + 1)
      require (0 ≤ n && n < 2147483648) (i + 1) "value out of range"
      return Code.codeBytes n.toNat
    return ([.str bytes.flatten.toByteArray], h)
  | .codePoint => do
    let s ← text args 1
    let first := fromEnd (← intOr args 2 1) s.size
    let last := fromEnd (← intOr args 3 first) s.size
    require (1 ≤ first) 2 "out of bounds"
    require (last ≤ s.size) 3 "out of bounds"
    match points s first.toNat last.toNat with
    | .ok ns => return (ns.map fun (n : Nat) => .int n, h)
    | .error _ => .error (.text "invalid UTF-8 code")
  | .codes => do
    let s ← text args 1
    require (!continues s 0) 1 "invalid UTF-8 code"
    return ([.builtin (.codePoint .codesNext), .str s, .int 0], h)
  | .codesNext => do
    let s ← text args 1
    return (← nextPoint s (← int args 2).toNat, h)
  | .offset => offset args h
  | .len => do
    let s ← text args 1
    let first := fromEnd (← intOr args 2 1) s.size
    let last := fromEnd (← intOr args 3 (-1)) s.size
    require (1 ≤ first && first ≤ s.size + 1) 2 "initial position out of bounds"
    require (last ≤ s.size) 3 "final position out of bounds"
    match points s first.toNat last.toNat with
    | .ok ns => return ([.int ns.length], h)
    | .error i => return ([.nil, .int (i + 1)], h)

end ScriptGuard.Machine.CodePoints
