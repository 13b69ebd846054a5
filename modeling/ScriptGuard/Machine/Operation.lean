import ScriptGuard.Machine.Heap
import ScriptGuard.Machine.State
import ScriptGuard.Text

/-!
# Operators

What an operator makes of its operands: a value, a call of a metamethod, or an error.

* `Heap.unary`, `Heap.binary`   the effect of an operator.
-/

namespace ScriptGuard.Machine

/-!
## What an error is blamed on

Messages name the variable or the field whose value was wrong, where the expression shows one, and
start with the line of the script.
-/

open Code (Expr BinaryOp UnaryOp)

/-- the message with the place in front of it -/
def Spot.mark (spot : Spot) (text : String) : String :=
  spot.chunk ++ ":" ++ toString spot.line ++ ": " ++ text

/-- the place of a call as it stands in front of a message; nothing without a place -/
def Site.mark (site : Option Site) (text : String) : String :=
  match site with
  | some s => s.spot.mark text
  | none => text

/-- the kind and the name of the variable or field an expression reads -/
def nameOf? : Expr → Option (String × String)
  | .name .inner x => some ("local", x)
  | .name .outer x => some ("upvalue", x)
  | .name .global x => some ("global", x)
  | .index _ _ (.str k) => some ("field", Text.lossy k)
  | .index _ _ (.int n) => some ("field", if 0 ≤ n ∧ n ≤ 255 then "integer index" else "?")
  | .index .. => some ("field", "?")
  | .method _ _ name _ => some ("method", name)
  | .str b => some ("constant", Text.lossy b)
  | .parens e => nameOf? e
  | _ => none

/-- a name as it stands behind a message -/
def shownName : Option (String × String) → String
  | some (kind, name) => " (" ++ kind ++ " '" ++ name ++ "')"
  | none => ""

/-- the message about a value that something cannot be done to -/
def cannot (deed : String) (v : Value) (name : Option (String × String)) : String :=
  "attempt to " ++ deed ++ " a " ++ v.typeName ++ " value" ++ shownName name

/-- the message about two values that have no order -/
def incomparable (a b : Value) : String :=
  if a.typeName = b.typeName then "attempt to compare two " ++ a.typeName ++ " values"
  else "attempt to compare " ++ a.typeName ++ " with " ++ b.typeName

/-! ## what an operator comes to -/

/-- what an operator comes to -/
inductive Effect where
  | value (v : Value)
  /-- a call of the metamethod of an event; a frame receives its values -/
  | call (event : String) (f : Value) (args : List Value) (frame : Frame)
  | fail (text : String)

/-- the event whose metamethod stands for an operator -/
def eventOf : BinaryOp → String
  | .add => "add" | .sub => "sub" | .mul => "mul" | .div => "div" | .floorDiv => "idiv"
  | .mod => "mod" | .pow => "pow" | .concat => "concat" | .eq => "eq" | .ne => "eq"
  | .lt => "lt" | .gt => "lt" | .le => "le" | .ge => "le"
  | .bitAnd => "band" | .bitOr => "bor" | .bitXor => "bxor" | .shiftLeft => "shl"
  | .shiftRight => "shr"

namespace Value

def isNumber : Value → Bool
  | int _ | num _ => true
  | _ => false

def isText : Value → Bool
  | str _ => true
  | _ => false

end Value

namespace Heap

/-- the metamethod of the first operand or else of the second one -/
def handler (h : Heap) (a b : Value) (event : String) : Value :=
  let f := h.metamethod a ("__" ++ event)
  if f.isNil then h.metamethod b ("__" ++ event) else f

/-- a metamethod of two operands called, or an error if there is none -/
def viaHandler (h : Heap) (event : String) (a b : Value) (frame : Frame) (text : String) : Effect :=
  let f := h.handler a b event
  if f.isNil then .fail text else .call event f [a, b] frame

/-! ## arithmetic -/

/-- the message about operands of arithmetic; strings that write no number are not named -/
def badOperands (deed : String) (a b : Value) (left right : Expr) : String :=
  if a.isText || b.isText then cannot deed a none
  else if a.isNumber then cannot deed b (nameOf? right)
  else cannot deed a (nameOf? left)

def badBits (a b : Value) (left right : Expr) : String :=
  if a.isNumber && b.isNumber then
    let name := if (toInt? a).isSome then nameOf? right else nameOf? left
    "number" ++ shownName name ++ " has no integer representation"
  else if a.isNumber then cannot "perform bitwise operation on" b (nameOf? right)
  else cannot "perform bitwise operation on" a (nameOf? left)

def arithmetic (h : Heap) (op : BinaryOp) (a b : Value) (left right : Expr) : Effect :=
  match Machine.arithmetic op a b with
  | .ok v => .value v
  | .error .divideByZero => .fail "attempt to perform 'n//0'"
  | .error .modByZero => .fail "attempt to perform 'n%%0'"
  | .error _ => h.viaHandler (eventOf op) a b .single
      (badOperands "perform arithmetic on" a b left right)

def bitwise (h : Heap) (op : BinaryOp) (a b : Value) (left right : Expr) : Effect :=
  match Machine.bitwise op a b with
  | .ok v => .value v
  | .error _ => h.viaHandler (eventOf op) a b .single (badBits a b left right)

def concat (h : Heap) (a b : Value) (left right : Expr) : Effect :=
  match textOf? a, textOf? b with
  | some x, some y => .value (.str (x ++ y))
  | some _, none => h.viaHandler "concat" a b .single (cannot "concatenate" b (nameOf? right))
  | none, _ => h.viaHandler "concat" a b .single (cannot "concatenate" a (nameOf? left))

/-! ## comparisons -/

/-- whether two values are equal; tables may have a metamethod for that -/
def equal (h : Heap) (negated : Bool) (a b : Value) : Effect :=
  if a.same b then .value (.bool !negated)
  else
    match a, b with
    | .table _, .table _ =>
      let f := h.handler a b "eq"
      if f.isNil then .value (.bool negated) else .call "eq" f [a, b] (.truth negated)
    | _, _ => .value (.bool negated)

def ordered (h : Heap) (event : String) (numbers : Value → Value → Bool)
    (texts : ByteArray → ByteArray → Bool) (a b : Value) : Effect :=
  match a, b with
  | .str x, .str y => .value (.bool (texts x y))
  | a, b =>
    if a.isNumber && b.isNumber then .value (.bool (numbers a b))
    else h.viaHandler event a b (.truth false) (incomparable a b)

def less (h : Heap) (a b : Value) : Effect := h.ordered "lt" numberLt bytesLess a b

/-- whether one value is at most another; without a metamethod of its own, whether the second one is
not less -/
def atMost (h : Heap) (a b : Value) : Effect :=
  let less := h.handler b a "lt"
  match h.ordered "le" numberLe (fun x y => !bytesLess y x) a b with
  | .fail text => if less.isNil then .fail text else .call "lt" less [b, a] (.truth true)
  | effect => effect

/-! ## all operators -/

def binary (h : Heap) (op : BinaryOp) (a b : Value) (left right : Expr) : Effect :=
  match op with
  | .concat => h.concat a b left right
  | .eq => h.equal false a b
  | .ne => h.equal true a b
  | .lt => h.less a b
  | .gt => h.less b a
  | .le => h.atMost a b
  | .ge => h.atMost b a
  | op => if isBitwise op then h.bitwise op a b left right else h.arithmetic op a b left right

/-- a metamethod of one operand called, or an error if there is none -/
def viaOwn (h : Heap) (event : String) (v : Value) (text : String) : Effect :=
  h.viaHandler event v v .single text

def unary (h : Heap) (op : UnaryOp) (v : Value) (operand : Expr) : Effect :=
  match op with
  | .not => .value (.bool !v.holds)
  | .negate =>
    match negate v with
    | some n => .value n
    | none => h.viaOwn "unm" v (badOperands "perform arithmetic on" v v operand operand)
  | .bitNot =>
    match toInt? v with
    | some n => .value (.int (-n - 1))
    | none => h.viaOwn "bnot" v (badBits v v operand operand)
  | .length =>
    match v with
    | .str b => .value (.int b.size)
    | v =>
      let f := h.metamethod v "__len"
      match f.isNil, v with
      | false, v => .call "len" f [v] .single
      | true, .table p => .value (.int (h.table p).border)
      | true, v => .fail (cannot "get length of" v (nameOf? operand))

end Heap

end ScriptGuard.Machine
