/-!
# Parsed scripts

Expressions and statements of a script. Where something can go wrong when the script runs, the line
for the message stands beside it.
-/

namespace ScriptGuard.Code

/-- how a name is found: in the function itself, in a function around it, or among the globals -/
inductive Reach where
  | inner
  | outer
  | global
deriving DecidableEq, Repr

/-- an operator with two operands, both of them always evaluated -/
inductive BinaryOp where
  | add | sub | mul | div | floorDiv | mod | pow
  | concat
  | eq | ne | lt | le | gt | ge
  | bitAnd | bitOr | bitXor | shiftLeft | shiftRight
deriving DecidableEq, Repr

inductive UnaryOp where
  | negate | not | length | bitNot
deriving DecidableEq, Repr

mutual

inductive Expr where
  | nil
  | bool (b : Bool)
  | int (n : Int)
  | num (x : Float)
  | str (bytes : ByteArray)
  | varargs
  | function (f : Body)
  | name (reach : Reach) (name : String)
  | index (line : Nat) (object key : Expr)
  | call (line : Nat) (function : Expr) (args : List Expr)
  | method (line : Nat) (object : Expr) (name : String) (args : List Expr)
  | binary (line : Nat) (op : BinaryOp) (left right : Expr)
  | unary (line : Nat) (op : UnaryOp) (operand : Expr)
  | both (left right : Expr)
  | either (left right : Expr)
  | parens (e : Expr)
  | table (line : Nat) (fields : List Field)

inductive Field where
  | item (e : Expr)
  | pair (key value : Expr)

inductive Stmt where
  | locals (names : List String) (values : List Expr)
  | assign (line : Nat) (targets values : List Expr)
  | run (call : Expr)
  | block (body : List Stmt)
  | whileLoop (condition : Expr) (body : List Stmt)
  | repeatUntil (body : List Stmt) (condition : Expr)
  | branch (condition : Expr) (yes no : List Stmt)
  | count (line : Nat) (name : String) (start limit : Expr) (step : Option Expr)
      (body : List Stmt)
  | iterate (line : Nat) (names : List String) (values : List Expr) (body : List Stmt)
  | localFunction (name : String) (f : Body)
  | giveBack (line : Nat) (values : List Expr)
  | leave
  | jump (label : String)
  | label (name : String)

/-- a function: its parameters, whether it takes more arguments, and its statements -/
inductive Body where
  | mk (params : List String) (isVariadic : Bool) (statements : List Stmt)

end

namespace Body

def params : Body → List String
  | mk p _ _ => p

/-- the function takes more arguments than it has parameters -/
def isVariadic : Body → Bool
  | mk _ v _ => v

def statements : Body → List Stmt
  | mk _ _ s => s

end Body

end ScriptGuard.Code
