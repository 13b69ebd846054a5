import ScriptGuard.Machine.Table

/-!
# States of a running script

A script runs on a machine with a control (what is done next), a stack of frames (what becomes of
the values or of the end of a statement) and a heap.

* `Site`      the place of a call in a script, for messages;
* `Complaint` why a library function fails;
* `Inquiry`   a computation that calls functions on its way;
* `Frame`     what waits on the stack;
* `Heap`      tables, variables, functions and coroutines;
* `State`     the whole;
* `Turn`      where a machine stands after a step.
-/

namespace ScriptGuard.Machine

open Code (Expr Stmt Field BinaryOp UnaryOp)

/-- a line of a chunk -/
structure Spot where
  chunk : String
  line : Nat

/-- a call in a script: where it stands, and the kind and the name of what is called there -/
structure Site where
  spot : Spot
  called : Option (String × String)

/-- why a library function fails -/
inductive Complaint where
  /-- something about the argument at a position -/
  | argument (position : Nat) (text : String)
  /-- a message, to be shown with the place of the call -/
  | text (s : String)
  /-- an error value as it is -/
  | value (v : Value)

/-- a computation that calls functions on its way -/
inductive Inquiry (α : Type) where
  | done (a : α)
  | call (f : Value) (args : List Value) (next : List Value → Inquiry α)
  | fail (c : Complaint)

inductive Target where
  | name (reach : Code.Reach) (name : String)
  | slot (object key : Value) (objectExpr : Expr)

/-- what becomes of a list of values -/
inductive After where
  | call (f : Value) (site : Site)
  | locals (names : List String)
  | assign (line : Nat) (targets : List Target)
  | giveBack
  | count (line : Nat) (name : String) (body : List Stmt)
  | iterate (line : Nat) (names : List String) (body : List Stmt)

inductive Counting where
  /-- integers: the number, the step and how often the step is still to be made -/
  | ints (i step : Int) (left : Nat)
  | floats (x limit step : Float)

/-- how a block ends: simply, or with the condition of a loop that sees its variables -/
inductive BlockEnd where
  | plain
  | condition (c : Expr)

/-- what waits on the stack -/
inductive Frame where
  /-- the value of an expression, then the rest of a list of expressions; `done` latest first -/
  | operands (done : List Value) (rest : List Expr) (env : Env) (after : After)
  /-- what is called -/
  | callee (line : Nat) (f : Expr) (args : List Expr) (env : Env)
  /-- the object of a method call, then its method -/
  | self (line : Nat) (object : Expr) (name : String) (args : List Expr) (env : Env)
  | method (line : Nat) (object : Value) (name : String) (args : List Expr) (env : Env)
  /-- the object of an index -/
  | object (line : Nat) (object key : Expr) (env : Env)
  /-- the key of an index -/
  | key (line : Nat) (object : Value) (objectExpr : Expr) (chunk : String)
  /-- the left operand -/
  | left (line : Nat) (op : BinaryOp) (left right : Expr) (env : Env)
  /-- the right operand -/
  | right (line : Nat) (op : BinaryOp) (value : Value) (left right : Expr) (chunk : String)
  | unary (line : Nat) (op : UnaryOp) (operand : Expr) (chunk : String)
  | both (right : Expr) (env : Env)
  | either (right : Expr) (env : Env)
  /-- only the first value counts -/
  | single
  /-- a truth value from a value, or its opposite -/
  | truth (negated : Bool)
  /-- the values do not count -/
  | nothing
  /-- the text of a value has to be a string -/
  | text
  /-- an item of a table constructor -/
  | item (line place next : Nat) (rest : List Field) (env : Env)
  | fieldKey (line place next : Nat) (value : Expr) (rest : List Field) (env : Env)
  | fieldValue (line place next : Nat) (key : Value) (rest : List Field) (env : Env)
  /-- the object, then the key of a target -/
  | targetObject (line : Nat) (done : List Target) (object key : Expr) (rest values : List Expr)
      (env : Env)
  | targetKey (line : Nat) (done : List Target) (object : Value) (objectExpr : Expr)
      (rest values : List Expr) (env : Env)
  /-- the targets that are still to be assigned, the last one first -/
  | assigning (line : Nat) (rest : List (Target × Value)) (env : Env)
  /-- the rest of a block: what it saw at its start, and what it sees now -/
  | block (whole rest : List Stmt) (outer env : Env) (ending : BlockEnd)
  | branch (yes no : List Stmt) (env : Env)
  /-- the value of a condition, or the end of the body -/
  | whileLoop (c : Expr) (body : List Stmt) (env : Env)
  /-- the value of the condition behind the body -/
  | untilTest (body : List Stmt) (c : Expr) (outer : Env)
  | counting (state : Counting) (name : String) (body : List Stmt) (env : Env)
  /-- the values of an iterator, or the end of the body -/
  | iterating (line : Nat) (f state : Value) (names : List String) (body : List Stmt)
      (control : Value) (env : Env)
  /-- a call whose values are those of the function around it -/
  | tail
  /-- the end of a function, with the place of its call and the depth of calls outside it -/
  | boundary (site : Option Site) (depth : Nat)
  /-- a protected call, with a handler for errors -/
  | protect (handler : Option Value) (site : Option Site) (depth : Nat)
  /-- the handler of a protected call -/
  | handler (depth : Nat)
  /-- a resumed coroutine; a wrapped one passes its errors on -/
  | resumed (thread : Nat) (isWrapped : Bool) (site : Option Site) (depth : Nat)
  /-- a call made by a computation; its result may replace the items of a table -/
  | inquiry (site : Option Site) (next : List Value → Inquiry (List Value)) (sorted : Option Nat)

/-- whether a coroutine can be resumed -/
inductive ThreadState where
  | suspended
  | running
  | normal
  | dead
deriving DecidableEq

/-- a coroutine: before its start it has a function, later a stack -/
structure Thread where
  state : ThreadState
  start : Option Value
  stack : List Frame

/-- tables, variables, functions and coroutines by their places -/
structure Heap where
  tables : Array Table := #[]
  cells : Array Value := #[]
  closures : Array Closure := #[]
  threads : Array Thread := #[]

inductive Control where
  /-- the values of an expression -/
  | eval (e : Expr) (env : Env)
  /-- values for the frame on top -/
  | give (vs : List Value)
  /-- a statement is done -/
  | next
  /-- a call; without a site it is made by a library function -/
  | apply (f : Value) (args : List Value) (site : Option Site)
  /-- an error looks for a protected call -/
  | raise (v : Value)

structure State where
  control : Control
  stack : List Frame := []
  heap : Heap := {}
  /-- how many calls are nested -/
  depth : Nat := 0
  /-- the lines printed so far, latest first -/
  printed : List String := []

/-- where a machine stands after a step -/
inductive Turn where
  | onward (s : State)
  /-- a host function is called; the machine waits for its values -/
  | asks (number : Nat) (args : List Value) (s : State)
  /-- the script has ended, perhaps with an error -/
  | ended (error : Option Value) (s : State)

end ScriptGuard.Machine
