import ScriptGuard.Machine.Call
import ScriptGuard.Machine.Loop
import ScriptGuard.Machine.Operation

/-!
# Steps of a running script

One step looks at the control of a machine and at the frame on top of its stack.

* `State.evaluate`  an expression;
* `State.execute`   a statement;
* `State.receive`   values for the frame on top;
* `State.proceed`   the end of a statement;
* `State.unwind`    an error on its way down the stack;
* `State.step`      any of them; `State.advance` as many as fit before something happens.
-/

namespace ScriptGuard.Machine.State

open Code (Expr Stmt Field BinaryOp UnaryOp)

def next (s : State) : State := { s with control := .next }

def eval (s : State) (e : Expr) (env : Env) : State := { s with control := .eval e env }

/-- an expression is evaluated, and a frame receives its values -/
def evalFor (s : State) (frame : Frame) (e : Expr) (env : Env) : State :=
  { s with control := .eval e env, stack := frame :: s.stack }

def start (s : State) (body : List Stmt) (env : Env) (ending : BlockEnd) : State :=
  { s with control := .next, stack := .block body body env env ending :: s.stack }

/-! ## operators and fields -/

def settle (s : State) (spot : Spot) : Effect → State
  | .value v => s.give [v]
  | .call event f args frame =>
    (s.push frame).apply f args (some ⟨spot, some ("metamethod", event)⟩)
  | .fail text => s.fail (spot.mark text)

/-- an access to a field of what an expression gave; a frame receives the values of a metamethod -/
def access (s : State) (spot : Spot) (object : Expr) (event : String) (frame : Frame) :
    Heap.Access → State
  | .value v => s.give [v]
  | .stored h => ({ s with heap := h } : State).next
  | .call f args => (s.push frame).apply f args (some ⟨spot, some ("metamethod", event)⟩)
  | .noFields v isFirst =>
    s.fail (spot.mark (cannot "index" v (if isFirst then nameOf? object else none)))
  | .badKey text => s.fail (spot.mark text)

def readField (s : State) (spot : Spot) (object : Expr) (v key : Value) : State :=
  s.access spot object "index" .single (s.heap.index v key)

def writeField (s : State) (spot : Spot) (object : Expr) (v key new : Value) : State :=
  s.access spot object "newindex" .nothing (s.heap.assign v key new)

/-! ## lists of values -/

/-- what the block on top sees -/
def env (s : State) : Env :=
  match s.stack with
  | .block _ _ _ env _ :: _ => env
  | _ => ⟨[], [], ""⟩

def withEnv (s : State) (env : Env) : State :=
  match s.stack with
  | .block whole rest outer _ ending :: stack => s.onto (.block whole rest outer env ending :: stack)
  | _ => s

def assignTarget (s : State) (line : Nat) (env : Env) (v : Value) : Target → State
  | .name .global x =>
    s.writeField ⟨env.chunk, line⟩ .nil (.table globalsPlace) (.ofText x) v
  | .name _ x =>
    match env.find? x with
    | some place => ({ s with heap := s.heap.setCell place v } : State).next
    | none => s.next
  | .slot object key e => s.writeField ⟨env.chunk, line⟩ e object key v

def assignAll (s : State) (line : Nat) (env : Env) : List (Target × Value) → State
  | [] => s.next
  | [(t, v)] => s.assignTarget line env v t
  | (t, v) :: rest => (s.push (.assigning line rest env)).assignTarget line env v t

/-- targets with the values they get, missing ones being nil -/
def pair : List Target → List Value → List (Target × Value)
  | [], _ => []
  | t :: ts, vs => (t, Value.first vs) :: pair ts vs.tail

def turn (s : State) (c : Counting) (name : String) (body : List Stmt) (env : Env) : State :=
  let (heap, place) := s.heap.addCell c.value
  (({ s with heap := heap } : State).push (.counting c name body env)).start body
    (env.bind name place) .plain

def iterate (s : State) (line : Nat) (f state : Value) (names : List String) (body : List Stmt)
    (control : Value) (env : Env) : State :=
  (s.push (.iterating line f state names body control env)).apply f [state, control]
    (some ⟨⟨env.chunk, line⟩, some ("for iterator", "for iterator")⟩)

def conclude (s : State) (vs : List Value) : After → State
  | .call f site => s.apply f vs (some site)
  | .locals names =>
    let (heap, env) := s.heap.bindAll s.env names vs
    (({ s with heap := heap } : State).withEnv env).next
  | .assign line targets => s.assignAll line s.env (pair targets vs).reverse
  | .giveBack => s.giveBack vs
  | .count line name body =>
    match Counting.of? (Value.first vs) (Value.first vs.tail) (Value.first (vs.drop 2)) with
    | .ok (some c) => s.turn c name body s.env
    | .ok none => s.next
    | .error text => s.fail ((⟨s.env.chunk, line⟩ : Spot).mark text)
  | .iterate line names body =>
    s.iterate line (Value.first vs) (Value.first vs.tail) names body (Value.first (vs.drop 2)) s.env

/-- the values of expressions; `done` holds those so far, latest first -/
def evalAll (s : State) (done : List Value) (es : List Expr) (env : Env) (after : After) : State :=
  match es with
  | [] => s.conclude done.reverse after
  | e :: rest => s.evalFor (.operands done rest env after) e env

/-- the objects and keys of the targets of an assignment, then the values -/
def evalTargets (s : State) (line : Nat) (done : List Target) (values : List Expr) (env : Env) :
    List Expr → State
  | [] => s.evalAll [] values env (.assign line done.reverse)
  | .name r x :: rest => evalTargets s line (.name r x :: done) values env rest
  | .index _ object key :: rest =>
    s.evalFor (.targetObject line done object key rest values env) object env
  | _ :: rest => evalTargets s line done values env rest

/-- the fields of a table constructor; `number` is that of the next item -/
def evalFields (s : State) (line place number : Nat) (env : Env) : List Field → State
  | [] =>
    let fixed (t : Table) : Table := if t.border < number - 1 then t.withItems (number - 1) else t
    ({ s with heap := s.heap.onTable place fixed } : State).give [.table place]
  | .item e :: rest => s.evalFor (.item line place number rest env) e env
  | .pair key value :: rest => s.evalFor (.fieldKey line place number value rest env) key env

/-! ## expressions -/

def evaluate (s : State) (env : Env) : Expr → State
  | .nil => s.give [.nil]
  | .bool b => s.give [.bool b]
  | .int n => s.give [.int n]
  | .num x => s.give [.num x]
  | .str b => s.give [.str b]
  | .varargs => s.give env.varargs
  | .function f =>
    let (heap, v) := s.heap.addClosure ⟨f, { env with varargs := [] }⟩
    ({ s with heap := heap } : State).give [v]
  | .name .global x =>
    s.readField ⟨env.chunk, 0⟩ .nil (.table globalsPlace) (.ofText x)
  | .name _ x => s.give [(env.find? x).elim .nil s.heap.cell]
  | .index line object key => s.evalFor (.object line object key env) object env
  | .call line f args => s.evalFor (.callee line f args env) f env
  | .method line object name args => s.evalFor (.self line object name args env) object env
  | .binary line op left right => s.evalFor (.left line op left right env) left env
  | .unary line op operand => s.evalFor (.unary line op operand env.chunk) operand env
  | .both left right => s.evalFor (.both right env) left env
  | .either left right => s.evalFor (.either right env) left env
  | .parens e => s.evalFor .single e env
  | .table line fields =>
    let (heap, place) := s.heap.addTable {}
    ({ s with heap := heap } : State).evalFields line place 1 env fields

/-! ## statements -/

/-- the frames around the loop that is left -/
def leaveLoop : List Frame → List Frame
  | [] => []
  | .whileLoop _ _ _ :: rest => rest
  | .counting _ _ _ _ :: rest => rest
  | .iterating _ _ _ _ _ _ _ :: rest => rest
  | .block _ _ _ _ (.condition _) :: rest => rest
  | _ :: rest => leaveLoop rest

/-- the statements behind a label and the number of variables declared before it -/
def behindLabel? (label : String) : List Stmt → Option (List Stmt × Nat)
  | [] => none
  | .label name :: rest => if name = label then some (rest, 0) else behindLabel? label rest
  | .locals names _ :: rest =>
    (behindLabel? label rest).map fun (after, n) => (after, n + names.length)
  | .localFunction _ _ :: rest => (behindLabel? label rest).map fun (after, n) => (after, n + 1)
  | _ :: rest => behindLabel? label rest

/-- the frames with the block on top that has the label, at the place behind the label -/
def jumpTo (label : String) : List Frame → List Frame
  | [] => []
  | .block whole _ outer env ending :: stack =>
    match behindLabel? label whole with
    | some (after, n) =>
      let extra := env.visible.length - (outer.visible.length + n)
      .block whole after outer { env with visible := env.visible.drop extra } ending :: stack
    | none => jumpTo label stack
  | _ :: stack => jumpTo label stack

/-- a statement; the block around it is on top of the stack -/
def execute (s : State) (env : Env) : Stmt → State
  | .locals names values => s.evalAll [] values env (.locals names)
  | .assign line targets values => s.evalTargets line [] values env targets
  | .run call => s.evalFor .nothing call env
  | .block body => s.start body env .plain
  | .whileLoop c body => s.evalFor (.whileLoop c body env) c env
  | .repeatUntil body c => s.start body env (.condition c)
  | .branch c yes no => s.evalFor (.branch yes no env) c env
  | .count line name start limit step body =>
    s.evalAll [] [start, limit, step.getD (.int 1)] env (.count line name body)
  | .iterate line names values body => s.evalAll [] values env (.iterate line names body)
  | .localFunction name f =>
    let (heap, place) := s.heap.addCell .nil
    let env := env.bind name place
    let (heap, v) := heap.addClosure ⟨f, { env with varargs := [] }⟩
    (({ s with heap := heap.setCell place v } : State).withEnv env).next
  | .giveBack _ [.call line f args] => (s.push .tail).evaluate env (.call line f args)
  | .giveBack _ [.method line object name args] =>
    (s.push .tail).evaluate env (.method line object name args)
  | .giveBack _ values => s.evalAll [] values env .giveBack
  | .leave => (s.onto (leaveLoop s.stack)).next
  | .jump label => (s.onto (jumpTo label s.stack)).next
  | .label _ => s.next

/-! ## frames -/

/-- the frame on top, taken off the stack, receives values -/
def receive (s : State) (vs : List Value) : Frame → State
  | .operands done [] _ after => s.conclude (done.reverseAux vs) after
  | .operands done rest env after => s.evalAll (Value.first vs :: done) rest env after
  | .callee line f args env =>
    s.evalAll [] args env (.call (Value.first vs) ⟨⟨env.chunk, line⟩, nameOf? f⟩)
  | .self line object name args env =>
    let v := Value.first vs
    (s.push (.method line v name args env)).readField ⟨env.chunk, line⟩ object v (.ofText name)
  | .method line v name args env =>
    s.evalAll [v] args env (.call (Value.first vs) ⟨⟨env.chunk, line⟩, some ("method", name)⟩)
  | .object line object key env =>
    s.evalFor (.key line (Value.first vs) object env.chunk) key env
  | .key line v object chunk => s.readField ⟨chunk, line⟩ object v (Value.first vs)
  | .left line op left right env =>
    s.evalFor (.right line op (Value.first vs) left right env.chunk) right env
  | .right line op v left right chunk =>
    s.settle ⟨chunk, line⟩ (s.heap.binary op v (Value.first vs) left right)
  | .unary line op operand chunk =>
    s.settle ⟨chunk, line⟩ (s.heap.unary op (Value.first vs) operand)
  | .both right env =>
    if (Value.first vs).holds then s.evalFor .single right env else s.give [Value.first vs]
  | .either right env =>
    if (Value.first vs).holds then s.give [Value.first vs] else s.evalFor .single right env
  | .single => s.give [Value.first vs]
  | .truth negated => s.give [.bool ((Value.first vs).holds != negated)]
  | .nothing => s.next
  | .text =>
    if (textOf? (Value.first vs)).isSome then s.give [Value.first vs]
    else s.fail "'__tostring' must return a string"
  | .item line place number [] env =>
    let heap := s.heap.onTable place fun t => Tables.write t number vs
    ({ s with heap := heap } : State).evalFields line place (number + vs.length) env []
  | .item line place number rest env =>
    let heap := s.heap.onTable place fun t => t.set (.int number) (Value.first vs)
    ({ s with heap := heap } : State).evalFields line place (number + 1) env rest
  | .fieldKey line place number value rest env =>
    match Heap.badKey? (Value.first vs) with
    | some text => s.fail ((⟨env.chunk, line⟩ : Spot).mark text)
    | none => s.evalFor (.fieldValue line place number (Value.first vs) rest env) value env
  | .fieldValue line place number key rest env =>
    ({ s with heap := s.heap.setField place key (Value.first vs) } : State).evalFields line place
      number env rest
  | .targetObject line done object key rest values env =>
    s.evalFor (.targetKey line done (Value.first vs) object rest values env) key env
  | .targetKey line done v object rest values env =>
    s.evalTargets line (.slot v (Value.first vs) object :: done) values env rest
  | .branch yes no env =>
    let body := if (Value.first vs).holds then yes else no
    if body.isEmpty then s.next else s.start body env .plain
  | .whileLoop c body env =>
    if (Value.first vs).holds then (s.push (.whileLoop c body env)).start body env .plain
    else s.next
  | .untilTest body c outer =>
    if (Value.first vs).holds then s.next else s.start body outer (.condition c)
  | .iterating line f state names body _ env =>
    let control := Value.first vs
    if control.isNil then s.next
    else
      let (heap, inner) := s.heap.bindAll env names vs
      (({ s with heap := heap } : State).push
        (.iterating line f state names body control env)).start body inner .plain
  | .tail => s.giveBack vs
  | .boundary _ depth => ({ s with depth := depth } : State).give vs
  | .protect _ _ depth => ({ s with depth := depth } : State).give (.bool true :: vs)
  | .handler depth => ({ s with depth := depth } : State).give (.bool false :: vs)
  | .resumed thread isWrapped _ _ => s.finish thread isWrapped vs
  | .inquiry site continuation sorted => s.pursue site sorted (continuation vs)
  | .assigning line rest env => s.assignAll line env rest
  | .block whole rest outer env ending => (s.push (.block whole rest outer env ending)).next
  | .counting _ _ _ _ => s.next

/-- the frame on top, taken off the stack, goes on after a statement -/
def proceed (s : State) : Frame → State
  | .block whole [] outer env ending =>
    match ending with
    | .plain => s.next
    | .condition c => s.evalFor (.untilTest whole c outer) c env
  | .block whole (st :: rest) outer env ending =>
    (s.push (.block whole rest outer env ending)).execute env st
  | .whileLoop c body env => s.evalFor (.whileLoop c body env) c env
  | .counting c name body env =>
    match c.next? with
    | some c => s.turn c name body env
    | none => s.next
  | .iterating line f state names body control env => s.iterate line f state names body control env
  | .assigning line rest env => s.assignAll line env rest
  | frame => s.receive [] frame

/-- an error passes the frames up to the first that takes it -/
def unwind (s : State) (v : Value) : List Frame → Turn
  | [] => .ended (some v) (s.onto [])
  | .protect none _ depth :: rest =>
    .onward (({ s with stack := rest, depth := depth } : State).give [.bool false, v])
  | .protect (some f) _ depth :: rest =>
    .onward (({ s with stack := .handler depth :: rest, depth := depth } : State).apply f [v] none)
  | .handler depth :: rest =>
    .onward (({ s with stack := rest, depth := depth } : State).give [.bool false, v])
  | .resumed thread isWrapped site depth :: rest =>
    let s := (({ s with stack := rest, depth := depth } : State).mark thread .dead).mark
      (running rest) .running
    if isWrapped then .onward (s.raise (s.marked v 1 site)) else .onward (s.give [.bool false, v])
  | _ :: rest => unwind s v rest

/-! ## steps -/

def step (s : State) : Turn :=
  match s.control with
  | .eval e env => .onward (s.evaluate env e)
  | .give vs =>
    match s.stack with
    | frame :: stack => .onward ((s.onto stack).receive vs frame)
    | [] => .ended none s
  | .next =>
    match s.stack with
    | frame :: stack => .onward ((s.onto stack).proceed frame)
    | [] => .ended none s
  | .apply f args site => s.call f args site
  | .raise v => s.unwind v s.stack

/-- steps until a host function is called, the script ends or `n` steps are made; with the number
of steps that were not made -/
def advance : Nat → State → Turn × Nat
  | 0, s => (.onward s, 0)
  | n + 1, s =>
    match s.step with
    | .onward s => advance n s
    | turn => (turn, n)

end ScriptGuard.Machine.State
