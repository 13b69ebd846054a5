import ScriptGuard.Machine.State
import ScriptGuard.Machine.Number

/-!
# Loops over numbers

A loop counts with integers if its start and its step are integers, and then it knows from the start
how often it runs; otherwise it adds floating-point numbers.

* `Counting.of?`    the loop over a start, a limit and a step, none if it does not run at all;
* `Counting.next?`  the loop after a turn.
-/

namespace ScriptGuard.Machine

namespace Counting

def value : Counting → Value
  | ints i _ _ => .int i
  | floats x _ _ => .num x

/-- the loop after a turn, none after the last one -/
def next? : Counting → Option Counting
  | ints _ _ 0 => none
  | ints i step (n + 1) => some (ints (i + step) step n)
  | floats x limit step =>
    let x := x + step
    if (if 0.0 < step then x ≤ limit else limit ≤ x) then some (floats x limit step) else none

/-- the last integer a loop may reach; none for not-a-number -/
def lastInt? (step : Int) : Value → Option Int
  | .int n => some n
  | .num x =>
    match read x with
    | .nan => none
    | .infinite negative => some (if negative then least64 - 1 else greatest64 + 1)
    | r => (if 0 < step then r.floor? else (read (-x)).floor?.map (- ·))
  | _ => none

def ofInts? (start step last : Int) : Option Counting :=
  if 0 < step then
    if last < start then none
    else some (ints start step ((min last greatest64 - start) / step).toNat)
  else if start < last then none
  else some (ints start step ((start - max last least64) / (-step)).toNat)

/-- the message about a part of a loop that is no number -/
def noNumber (what : String) (v : Value) : String :=
  "bad 'for' " ++ what ++ " (number expected, got " ++ v.typeName ++ ")"

/-- the number that a part of a loop has to be -/
def part (what : String) (v : Value) : Except String Float :=
  match toFloat? v with
  | some x => .ok x
  | none => .error (noNumber what v)

def ofFloats? (start limit step : Value) : Except String (Option Counting) := do
  let last ← part "limit" limit
  let add ← part "step" step
  let first ← part "initial value" start
  if add == 0.0 then .error "'for' step is zero"
  else if (if 0.0 < add then first ≤ last else last ≤ first) then
    return some (floats first last add)
  else return none

/-- the loop over a start, a limit and a step; none if it does not run at all -/
def of? (start limit step : Value) : Except String (Option Counting) :=
  match start, step with
  | .int i, .int k =>
    if k = 0 then .error "'for' step is zero"
    else
      match toNumber? limit with
      | some last => .ok ((lastInt? k last).bind (ofInts? i k))
      | none => .error (noNumber "limit" limit)
  | _, _ => ofFloats? start limit step

end Counting

end ScriptGuard.Machine
