import ScriptGuard.Machine.Arguments

/-!
# The mathematical library

Functions on numbers. Those that round give integers where they fit. Where a script asks for any
number of a range, the lowest one is as good as another.
-/

namespace ScriptGuard.Machine.Math

open Arguments

def mapFloat (f : Float → Float) (args : List Value) (h : Heap) : Reply := do
  return ([.num (f (← float args 1))], h)

/-- the number rounded by a function; integers stay as they are -/
def rounded (f : Float → Float) (args : List Value) (h : Heap) : Reply := do
  match ← number args 1 with
  | .num x => return ([ofFloor (f x)], h)
  | v => return ([v], h)

/-- of all arguments the one that no other beats -/
def extreme (beats : Value → Value → Bool) (args : List Value) (h : Heap) : Reply := do
  let first ← number args 1
  let v ← (List.range (args.length - 1)).foldlM
    (fun best i => do
      let v ← number args (i + 2)
      return if beats v best then v else best)
    first
  return ([v], h)

/-- the logarithm, in a base if there is one -/
def log (args : List Value) (h : Heap) : Reply := do
  let x ← float args 1
  if isAbsent args 2 then return ([.num x.log], h)
  else
    let base ← float args 2
    if base == 2.0 then return ([.num x.log2], h)
    else if base == 10.0 then return ([.num x.log10], h)
    else return ([.num (x.log / base.log)], h)

/-- the remainder of a division towards zero -/
def fmod (args : List Value) (h : Heap) : Reply := do
  match ← number args 1, ← number args 2 with
  | .int a, .int b =>
    require (b != 0) 2 "zero"
    return ([.int (Int.tmod a b)], h)
  | _, _ => return ([.num (remainder (← float args 1) (← float args 2))], h)

/-- the number cut off towards zero -/
def cut (x : Float) : Float := if x < 0.0 then x.ceil else x.floor

/-- a number as a fraction of at least one half and a power of two -/
def fraction (args : List Value) (h : Heap) : Reply := do
  let (m, e) := (← float args 1).frExp
  return ([.num m, .int e], h)

def scaled (args : List Value) (h : Heap) : Reply := do
  let x ← float args 1
  return ([.num (x.scaleB (← int args 2))], h)

def call (f : MathFunction) (args : List Value) (h : Heap) : Reply :=
  match f with
  | .abs => do
    match ← number args 1 with
    | .int n => return ([.int (wrap64 n.natAbs)], h)
    | _ => mapFloat Float.abs args h
  | .acos => mapFloat Float.acos args h
  | .asin => mapFloat Float.asin args h
  | .atan => do
    let y ← float args 1
    let x ← if isAbsent args 2 then pure 1.0 else float args 2
    return ([.num (y.atan2 x)], h)
  | .ceil => rounded Float.ceil args h
  | .cos => mapFloat Float.cos args h
  | .cosh => mapFloat Float.cosh args h
  | .exp => mapFloat Float.exp args h
  | .floor => rounded Float.floor args h
  | .fmod => fmod args h
  | .frexp => fraction args h
  | .ldexp => scaled args h
  | .log => log args h
  | .log10 => mapFloat Float.log10 args h
  | .max => extreme (fun v best => numberLt best v) args h
  | .min => extreme numberLt args h
  | .modf => do
    let x ← float args 1
    let whole := cut x
    let part := if (read x).isFinite then x - whole else if x.isNaN then x else 0.0
    return ([.num whole, .num part], h)
  | .pow => do return ([.num ((← float args 1).pow (← float args 2))], h)
  | .random => do
    if args.isEmpty then return ([.num 0.0], h)
    else if args.length = 1 then
      let last ← int args 1
      require (0 ≤ last) 1 "interval is empty"
      return ([.int (min last 1)], h)
    else
      let first ← int args 1
      require (first ≤ (← int args 2)) 2 "interval is empty"
      return ([.int first], h)
  | .randomSeed => .ok ([], h)
  | .sin => mapFloat Float.sin args h
  | .sinh => mapFloat Float.sinh args h
  | .sqrt => mapFloat Float.sqrt args h
  | .tan => mapFloat Float.tan args h
  | .tanh => mapFloat Float.tanh args h
  | .toInteger => do
    match ← any args 1 with
    | .int n => return ([.int n], h)
    | .num x => return ([(exactInt? x).elim .nil .int], h)
    | .str b => return ([((numberOfText? b).bind toInt?).elim .nil .int], h)
    | _ => return ([.nil], h)
  | .type => do
    match ← any args 1 with
    | .int _ => return ([.ofText "integer"], h)
    | .num _ => return ([.ofText "float"], h)
    | _ => return ([.nil], h)
  | .ult => do return ([.bool (bits64 (← int args 1) < bits64 (← int args 2))], h)

end ScriptGuard.Machine.Math
