import ScriptGuard.Code.Parser
import ScriptGuard.Machine.Library.Base
import ScriptGuard.Machine.Library.CodePoints
import ScriptGuard.Machine.Library.Math
import ScriptGuard.Machine.Value
import ScriptGuard.Machine.Library.Tables

/-!
# Calls

What a call of a function does to a machine. Functions of a script put their body on the stack;
most library functions give their values at once, some call other functions or look at the stack.

* `State.call`      a call;
* `State.complain`  a library function fails.
-/

namespace ScriptGuard.Machine

def depthLimit : Nat := 200000

namespace State

def give (s : State) (vs : List Value) : State := { s with control := .give vs }

def raise (s : State) (v : Value) : State := { s with control := .raise v }

def fail (s : State) (text : String) : State := s.raise (.ofText text)

def push (s : State) (f : Frame) : State := { s with stack := f :: s.stack }

/-- the frame on top is taken off; the rest is given -/
def onto (s : State) (stack : List Frame) : State := { s with stack := stack }

def apply (s : State) (f : Value) (args : List Value) (site : Option Site) : State :=
  { s with control := .apply f args site }

/-! ## complaints -/

/-- the message about an argument; a method does not count its object -/
def argumentText (f : String) (site : Option Site) (i : Nat) (text : String) : String :=
  match site.bind (·.called) with
  | some ("method", name) =>
    if i ≤ 1 then "calling '" ++ name ++ "' on bad self (" ++ text ++ ")"
    else "bad argument #" ++ toString (i - 1) ++ " to '" ++ name ++ "' (" ++ text ++ ")"
  | some (_, name) => "bad argument #" ++ toString i ++ " to '" ++ name ++ "' (" ++ text ++ ")"
  | none => "bad argument #" ++ toString i ++ " to '" ++ f ++ "' (" ++ text ++ ")"

def complain (s : State) (f : String) (site : Option Site) : Complaint → State
  | .argument i text => s.fail (Site.mark site (argumentText f site i text))
  | .text t => s.fail (Site.mark site t)
  | .value v => s.raise v

/-- what a library function gives back, or its failure -/
def reply (s : State) (f : String) (site : Option Site) : Reply → State
  | .ok (vs, h) => ({ s with heap := h } : State).give vs
  | .error c => s.complain f site c

/-- a computation goes on to its next call; the items of a table may be waiting for its result -/
def pursue (s : State) (site : Option Site) (sorted : Option Nat) : Inquiry (List Value) → State
  | .done vs =>
    match sorted with
    | some place =>
      ({ s with heap := s.heap.onTable place fun t => Tables.write t 1 vs } : State).give []
    | none => s.give vs
  | .call f args next => (s.push (.inquiry site next sorted)).apply f args none
  | .fail c => s.complain "?" site c

/-! ## the stack -/

/-- the places of the calls around a point of the stack, the innermost first, up to the start of
the coroutine: the one of a number -/
def callSite? : Nat → List Frame → Option Site
  | _, [] => none
  | n, .boundary site _ :: rest => if n = 0 then site else callSite? (n - 1) rest
  | n, .protect _ site _ :: rest => if n = 0 then site else callSite? (n - 1) rest
  | n, .inquiry site _ _ :: rest => if n = 0 then site else callSite? (n - 1) rest
  | _, .resumed _ _ _ _ :: _ => none
  | n, _ :: rest => callSite? n rest

/-- the coroutine that a point of the stack belongs to; the script itself is one too -/
def running : List Frame → Nat
  | [] => mainThread
  | .resumed t _ _ _ :: _ => t
  | _ :: rest => running rest

/-- the frames down to the start of the coroutine, and the start with the frames below it -/
def splitAtResumed : List Frame → List Frame → Option (List Frame × Frame × List Frame)
  | _, [] => none
  | above, .resumed t w site d :: rest => some (above.reverse, .resumed t w site d, rest)
  | above, f :: rest => splitAtResumed (f :: above) rest

/-- the frames below the end of the function that is running, with that end -/
def belowBoundary? : List Frame → Option (Option Site × Nat × List Frame)
  | [] => none
  | .boundary site depth :: rest => some (site, depth, rest)
  | _ :: rest => belowBoundary? rest

/-- the function that is running ends with values -/
def giveBack (s : State) (vs : List Value) : State :=
  match belowBoundary? s.stack with
  | some (_, depth, rest) =>
    ({ s with stack := rest, depth := depth } : State).give vs
  | none => (s.onto []).give vs

/-! ## functions of the script -/

/-- the body of a function is put on the stack -/
def enter (s : State) (c : Closure) (args : List Value) (site : Option Site) (depth : Nat)
    (stack : List Frame) : State :=
  let (heap, env) := s.heap.bindAll c.env c.body.params args
  let rest := if c.body.isVariadic then args.drop c.body.params.length else []
  let env := { env with varargs := rest }
  let body := c.body.statements
  { s with
    control := .next
    stack := .block body body env env .plain :: .boundary site depth :: stack
    heap := heap
    depth := depth + 1 }

/-- a function of the script is called; a tail call takes the place of the function it ends -/
def callClosure (s : State) (place : Nat) (args : List Value) (site : Option Site) : State :=
  match s.heap.closures[place]? with
  | none => s.give []
  | some c =>
    match s.stack with
    | .tail :: rest =>
      match belowBoundary? rest with
      | some (outer, depth, below) => s.enter c args outer depth below
      | none => s.enter c args site s.depth []
    | stack =>
      if depthLimit ≤ s.depth then s.fail (Site.mark site "stack overflow")
      else s.enter c args site s.depth stack

/-! ## coroutines -/

def mark (s : State) (thread : Nat) (state : ThreadState) : State :=
  { s with heap := s.heap.onThread thread fun x => { x with state := state } }

def resume (s : State) (thread : Nat) (isWrapped : Bool) (args : List Value) (site : Option Site) :
    State :=
  let refuse (text : String) : State :=
    if isWrapped then s.fail (Site.mark site text) else s.give [.bool false, .ofText text]
  match s.heap.threads[thread]? with
  | none => refuse "cannot resume dead coroutine"
  | some t =>
    match t.state with
    | .dead => refuse "cannot resume dead coroutine"
    | .running => refuse "cannot resume non-suspended coroutine"
    | .normal => refuse "cannot resume non-suspended coroutine"
    | .suspended =>
      let s := s.mark (running s.stack) .normal
      let heap := s.heap.onThread thread fun x =>
        { x with state := .running, start := none, stack := [] }
      let stack := t.stack ++ .resumed thread isWrapped site s.depth :: s.stack
      let s : State := { s with heap := heap, stack := stack }
      match t.start with
      | some f => s.apply f args none
      | none => s.give args

/-- the values of a coroutine for the one that resumed it -/
def resumedValues (isWrapped : Bool) (vs : List Value) : List Value :=
  if isWrapped then vs else .bool true :: vs

/-- the running coroutine waits to be resumed -/
def yield (s : State) (args : List Value) : State :=
  match splitAtResumed [] s.stack with
  | some (above, .resumed t isWrapped _ depth, rest) =>
    let heap := s.heap.onThread t fun x => { x with state := .suspended, stack := above }
    (({ s with heap := heap, stack := rest, depth := depth } : State).mark (running rest)
      .running).give (resumedValues isWrapped args)
  | _ => s.fail "attempt to yield from outside a coroutine"

def finish (s : State) (thread : Nat) (isWrapped : Bool) (vs : List Value) : State :=
  ((s.mark thread .dead).mark (running s.stack) .running).give (resumedValues isWrapped vs)

def statusName : ThreadState → String
  | .suspended => "suspended"
  | .running => "running"
  | .normal => "normal"
  | .dead => "dead"

/-- the coroutine that is the argument at a position -/
def threadAt (args : List Value) (i : Nat) : Except Complaint Nat :=
  match Arguments.given args i with
  | .thread t => .ok t
  | _ => Arguments.wrongType args i "coroutine"

def callRoutine (s : State) (f : RoutineFunction) (args : List Value) (site : Option Site) :
    Except Complaint State :=
  match f with
  | .create => do
    let (h, t) := s.heap.addThread (← Arguments.function args 1)
    return ({ s with heap := h } : State).give [.thread t]
  | .wrap => do
    let (h, t) := s.heap.addThread (← Arguments.function args 1)
    return ({ s with heap := h } : State).give [.wrapped t]
  | .resume => do return s.resume (← threadAt args 1) false args.tail site
  | .yield => .ok (s.yield args)
  | .isYieldable => .ok (s.give [.bool (running s.stack != mainThread)])
  | .running =>
    let t := running s.stack
    .ok (s.give [.thread t, .bool (t == mainThread)])
  | .status => do
    let t ← threadAt args 1
    return s.give [.ofText (statusName ((s.heap.threads[t]?).elim .dead (·.state)))]
  | .close => do
    let t ← threadAt args 1
    return (s.mark t .dead).give [.bool true]

/-! ## the basic library -/

/-- what `print` shows of a value -/
def shown : Value → String
  | .bool b => if b then "true" else "false"
  | .int n => toString n
  | .num x => Decimal.plain x
  | .str b => Text.lossy b
  | v => v.hostTypeName

/-- one of the values is a wreck -/
def holdsWreck (vs : List Value) : Bool :=
  vs.any fun v => match v with
    | .wreck => true
    | _ => false

/-- an error value with the place of the call of a level in front -/
def marked (s : State) (v : Value) (level : Int) (site : Option Site) : Value :=
  match v with
  | .str b =>
    if level ≤ 0 then v
    else
      let place := if level = 1 then site else callSite? (level - 2).toNat s.stack
      .str ((Site.mark place "").toUTF8 ++ b)
  | v => v

/-- the name of a chunk that is given as a text -/
def chunkName (source : String) : String :=
  let line := String.ofList (source.toList.takeWhile (· != '\n'))
  "[string \x22" ++ (if line = source then line else line ++ "...") ++ "\x22]"

def loadText (s : State) (args : List Value) : Except Complaint State := do
  let source := Text.lossy (← Arguments.text args 1)
  let name := Text.lossy (← Arguments.textOr args 2 source.toUTF8)
  let chunk := if name.startsWith "=" || name.startsWith "@" then (name.drop 1).toString
    else chunkName name
  match Code.parse? source with
  | .error e => return s.give [.nil, .ofText (chunk ++ ":" ++ toString e.line ++ ": " ++ e.text)]
  | .ok body =>
    let (h, f) := s.heap.addClosure ⟨body, ⟨[], [], chunk⟩⟩
    return ({ s with heap := h } : State).give [f]

/-- the text of a value; a metamethod has to give a string -/
def textOf (s : State) (v : Value) : State :=
  let f := s.heap.metamethod v "__tostring"
  if f.isNil then s.give [.str (Text.plainText s.heap v)]
  else (s.push .text).apply f [v] none

/-- a function that calls others or looks at the machine -/
def callBase (s : State) (f : BaseFunction) (args : List Value) (site : Option Site) :
    Except Complaint State :=
  match f with
  | .error => do
    return s.raise (s.marked (Arguments.given args 1) (← Arguments.intOr args 2 1) site)
  | .ipairsNext => do
    let i := wrap64 ((← Arguments.int args 2) + 1)
    let item (v : Value) : List Value := if v.isNil then [.nil] else [.int i, v]
    match s.heap.index (Arguments.given args 1) (.int i) with
    | .value v => return s.give (item v)
    | .call f args =>
      return s.pursue site none (.call f args fun vs => .done (item (Value.first vs)))
    | .noFields v _ => .error (.value (.ofText (cannot "index" v none)))
    | .badKey text => .error (.value (.ofText text))
    | .stored _ => return s.give []
  | .load => s.loadText args
  | .pairs => do
    let v ← Arguments.any args 1
    let f := s.heap.metamethod v "__pairs"
    if f.isNil then return s.give [.builtin (.base .next), v, .nil]
    else
      let three (vs : List Value) : List Value := (vs ++ List.replicate 3 Value.nil).take 3
      return s.pursue site none (.call f [v] fun vs => .done (three vs))
  | .pcall => do
    let f ← Arguments.any args 1
    return (s.push (.protect none site s.depth)).apply f args.tail none
  | .xpcall => do
    let handler ← Arguments.function args 2
    return (s.push (.protect (some handler) site s.depth)).apply (Arguments.given args 1)
      (args.drop 2) none
  | .print =>
    if holdsWreck args then .ok (s.raise .wreck)
    else
      let line := "\t".intercalate (args.map shown)
      .ok (({ s with printed := line :: s.printed } : State).give [])
  | .toText => do return s.textOf (← Arguments.any args 1)
  | f => (Base.call f args s.heap).map fun (vs, h) => ({ s with heap := h } : State).give vs

/-! ## all calls -/

def callBuiltin (s : State) (f : Builtin) (args : List Value) (site : Option Site) : State :=
  let settle : Except Complaint State → State
    | .ok s => s
    | .error c => s.complain f.fullName site c
  match f with
  | .base f => settle (s.callBase f args site)
  | .text .gsub => settle ((Text.replace s.heap args).map (s.pursue site none))
  | .text g => s.reply f.fullName site (Text.call g args s.heap)
  | .table .sort =>
    settle ((Tables.sort args s.heap).map fun (place, i) => s.pursue site (some place) i)
  | .table g => s.reply f.fullName site (Tables.call g args s.heap)
  | .math g => s.reply f.fullName site (Math.call g args s.heap)
  | .codePoint g => s.reply f.fullName site (CodePoints.call g args s.heap)
  | .routine f => settle (s.callRoutine f args site)

def call (s : State) (f : Value) (args : List Value) (site : Option Site) : Turn :=
  match f with
  | .function place => .onward (s.callClosure place args site)
  | .builtin f => .onward (s.callBuiltin f args site)
  | .host number =>
    if holdsWreck args then .onward (s.raise .wreck) else .asks number args (s.give [])
  | .wrapped t => .onward (s.resume t true args site)
  | .matcher place => .onward (s.reply "?" site (Text.nextMatch s.heap place))
  | v =>
    let f := s.heap.metamethod v "__call"
    if f.isNil then
      .onward (s.fail (Site.mark site (cannot "call" v (site.bind (·.called)))))
    else .onward (s.apply f (v :: args) site)

end State

end ScriptGuard.Machine
