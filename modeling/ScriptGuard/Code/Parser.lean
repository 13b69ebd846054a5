import ScriptGuard.Code.Scope

/-!
# Parsing scripts

`parse? source` is the main function of a script, or the first error. Expressions are read by
precedence climbing; the fuel bounds the depth of the recursion and is computed from the number of
tokens.
-/

namespace ScriptGuard.Code

structure Parsing where
  tokens : List (Token × Nat)
  /-- the line of the token before -/
  line : Nat := 1
  scope : Scope := {}
  /-- how deeply expressions and statements are nested -/
  nesting : Nat := 0

abbrev Parse := StateT Parsing (Except CompileError)

namespace Parse

def nestingLimit : Nat := 195

def shown : Token → String
  | .name s => s
  | .symbol s => s
  | .int n => toString n
  | .num x => toString x
  | .str b => (String.fromUTF8? b).getD "string"
  | .finish => "<eof>"

def ahead : Parse (Token × Nat) := do
  match (← get).tokens with
  | t :: _ => return t
  | [] => return (.finish, (← get).line)

def fail (text : String) : Parse α := do
  let (t, line) ← ahead
  throw ⟨line, text ++ " near '" ++ shown t ++ "'"⟩

def advance : Parse Unit :=
  modify fun p =>
    match p.tokens with
    | (_, line) :: rest => { p with tokens := rest, line := line }
    | [] => p

def sees (s : String) : Parse Bool := do
  match (← ahead).1 with
  | .symbol x => return x == s
  | _ => return false

/-- the symbol is taken if it is ahead -/
def accepts (s : String) : Parse Bool := do
  if ← sees s then advance; return true
  else return false

/-- the symbol has to be ahead -/
def expect (s : String) : Parse Unit := do
  if !(← accepts s) then fail ("'" ++ s ++ "' expected")

def name : Parse String := do
  match (← ahead).1 with
  | .name s => advance; return s
  | _ => fail "<name> expected"

def lineAhead : Parse Nat := return (← ahead).2

def lineBefore : Parse Nat := return (← get).line

/-! ## scopes -/

def onScope (f : Scope → Scope) : Parse Unit := modify fun p => { p with scope := f p.scope }

/-- the scope changes, or the parser gives up -/
def onScope? (f : Scope → Except CompileError Scope) : Parse Unit := do
  match f (← get).scope with
  | .ok s => onScope fun _ => s
  | .error e => throw e

def declare (x : String) (isConstant : Bool) : Parse Unit := do
  match (← get).scope.declare? x isConstant with
  | some s => onScope fun _ => s
  | none => fail "too many local variables"

def declareAll : List (String × Bool) → Parse Unit
  | [] => return
  | (x, isConstant) :: rest => do declare x isConstant; declareAll rest

/-- variables that a loop keeps for itself; no name in a script means them -/
def hidden (count : Nat) : List (String × Bool) := List.replicate count ("(for state)", false)

def nested (p : Parse α) : Parse α := do
  if nestingLimit < (← get).nesting then fail "chunk has too many nested levels"
  modify fun p => { p with nesting := p.nesting + 1 }
  let x ← p
  modify fun p => { p with nesting := p.nesting - 1 }
  return x

def inBlock (isLoop : Bool) (p : Parse α) : Parse α := do
  onScope fun s => s.enter isLoop
  let x ← p
  onScope? Scope.close?
  return x

def named (x : String) : Parse Expr := return .name ((← get).scope.reach x) x

/-! ## operators -/

inductive Infix where
  | op (o : BinaryOp)
  | both
  | either

/-- an operator by its symbol, with its priorities on the left and on the right -/
def infixOf? : String → Option (Infix × Nat × Nat)
  | "or" => some (.either, 1, 1)
  | "and" => some (.both, 2, 2)
  | "==" => some (.op .eq, 3, 3)
  | "~=" => some (.op .ne, 3, 3)
  | "<" => some (.op .lt, 3, 3)
  | "<=" => some (.op .le, 3, 3)
  | ">" => some (.op .gt, 3, 3)
  | ">=" => some (.op .ge, 3, 3)
  | "|" => some (.op .bitOr, 4, 4)
  | "~" => some (.op .bitXor, 5, 5)
  | "&" => some (.op .bitAnd, 6, 6)
  | "<<" => some (.op .shiftLeft, 7, 7)
  | ">>" => some (.op .shiftRight, 7, 7)
  | ".." => some (.op .concat, 9, 8)
  | "+" => some (.op .add, 10, 10)
  | "-" => some (.op .sub, 10, 10)
  | "*" => some (.op .mul, 11, 11)
  | "/" => some (.op .div, 11, 11)
  | "//" => some (.op .floorDiv, 11, 11)
  | "%" => some (.op .mod, 11, 11)
  | "^" => some (.op .pow, 14, 13)
  | _ => none

/-- an operator before its operand, by its symbol -/
def unaryOf? : String → Option UnaryOp
  | "not" => some .not
  | "-" => some .negate
  | "#" => some .length
  | "~" => some .bitNot
  | _ => none

def unaryPriority : Nat := 12

/-- a comparison is reported on the line where it ends -/
def isComparison : BinaryOp → Bool
  | .eq | .ne | .lt | .le | .gt | .ge => true
  | _ => false

/-- two operands and an operator between them on a line -/
def combined (o : Infix) (line last : Nat) (left right : Expr) : Expr :=
  match o with
  | .op o => .binary (if isComparison o then last else line) o left right
  | .both => .both left right
  | .either => .either left right

def infixAhead : Parse (Option (Infix × Nat × Nat)) := do
  match (← ahead).1 with
  | .symbol s => return infixOf? s
  | _ => return none

def unaryAhead : Parse (Option UnaryOp) := do
  match (← ahead).1 with
  | .symbol s => return unaryOf? s
  | _ => return none

/-! ## small pieces -/

def names : Nat → Parse (List String)
  | 0 => fail "too long"
  | fuel + 1 => do
    let x ← name
    if ← accepts "," then return x :: (← names fuel)
    else return [x]

/-- the attribute of a local variable, if it has one -/
def attribute? : Parse (Option String) := do
  if ← accepts "<" then
    let x ← name
    expect ">"
    if x = "const" ∨ x = "close" then return some x
    else fail ("unknown attribute '" ++ x ++ "'")
  else return none

/-- names with attributes, separated by commas: a variable with an attribute may not be assigned,
and only one of them may have to be closed -/
def attributedNames : Nat → Bool → Parse (List (String × Bool))
  | 0, _ => fail "too long"
  | fuel + 1, hasClosing => do
    let x ← name
    let mark ← attribute?
    let isClosing := mark == some "close"
    if hasClosing && isClosing then fail "multiple to-be-closed variables in local list"
    if ← accepts "," then
      return (x, mark.isSome) :: (← attributedNames fuel (hasClosing || isClosing))
    else return [(x, mark.isSome)]

/-- parameters up to the closing bracket: their names, and whether more arguments are taken -/
def params : Nat → Parse (List String × Bool)
  | 0 => fail "too long"
  | fuel + 1 => do
    if ← accepts "..." then return ([], true)
    else
      let x ← name
      if ← accepts "," then
        let (rest, isVariadic) ← params fuel
        return (x :: rest, isVariadic)
      else return ([x], false)

def bracketedParams (fuel : Nat) : Parse (List String × Bool) := do
  expect "("
  if ← accepts ")" then return ([], false)
  else
    let ps ← params fuel
    expect ")"
    return ps

/-- a block ends here; `until` ends one too, if it is asked for -/
def endsBlock (withUntil : Bool) : Parse Bool := do
  match (← ahead).1 with
  | .finish => return true
  | .symbol s =>
    return s == "end" || s == "else" || s == "elseif" || (withUntil && s == "until")
  | _ => return false

/-- an expression that can be assigned; a constant cannot -/
def checkTarget (e : Expr) : Parse Unit := do
  match e with
  | .name _ x =>
    if (← get).scope.isConstant x then
      fail ("attempt to assign to const variable '" ++ x ++ "'")
  | .index .. => return
  | _ => fail "syntax error"

/-! ## expressions and statements -/

mutual

/-- an expression whose operators bind more tightly than a limit -/
def expression : Nat → Nat → Parse Expr
  | 0, _ => fail "too long"
  | fuel + 1, limit => nested do
    let left ← operand fuel
    climb fuel limit left

/-- an operand: with an operator before it, or a simple one -/
def operand : Nat → Parse Expr
  | 0 => fail "too long"
  | fuel + 1 => do
    match ← unaryAhead with
    | some o =>
      let line ← lineAhead
      advance
      return .unary line o (← expression fuel unaryPriority)
    | none => simple fuel

/-- more operators and operands behind a left operand -/
def climb : Nat → Nat → Expr → Parse Expr
  | 0, _, _ => fail "too long"
  | fuel + 1, limit, left => do
    match ← infixAhead with
    | some (o, leftPriority, rightPriority) =>
      if limit < leftPriority then
        let line ← lineAhead
        advance
        let right ← expression fuel rightPriority
        climb fuel limit (combined o line (← lineBefore) left right)
      else return left
    | none => return left

def simple : Nat → Parse Expr
  | 0 => fail "too long"
  | fuel + 1 => do
    match (← ahead).1 with
    | .int n => advance; return .int n
    | .num x => advance; return .num x
    | .str b => advance; return .str b
    | .symbol "nil" => advance; return .nil
    | .symbol "true" => advance; return .bool true
    | .symbol "false" => advance; return .bool false
    | .symbol "..." =>
      if (← get).scope.isVariadic then advance; return .varargs
      else fail "cannot use '...' outside a vararg function"
    | .symbol "\x7b" => table fuel
    | .symbol "function" => advance; return .function (← functionBody fuel [])
    | _ => suffixed fuel

def primary : Nat → Parse Expr
  | 0 => fail "too long"
  | fuel + 1 => do
    match (← ahead).1 with
    | .name x => advance; named x
    | .symbol "(" =>
      advance
      let e ← expression fuel 0
      expect ")"
      return .parens e
    | _ => fail "unexpected symbol"

/-- a primary expression with fields, keys and calls behind it -/
def suffixed : Nat → Parse Expr
  | 0 => fail "too long"
  | fuel + 1 => do suffixes fuel (← primary fuel)

/-- fields, keys and calls behind an expression -/
def suffixes : Nat → Expr → Parse Expr
  | 0, _ => fail "too long"
  | fuel + 1, e => do
    match (← ahead).1 with
    | .symbol "." =>
      advance
      let line ← lineAhead
      let key ← name
      suffixes fuel (.index line e (.str key.toUTF8))
    | .symbol "[" =>
      advance
      let key ← expression fuel 0
      let line ← lineAhead
      expect "]"
      suffixes fuel (.index line e key)
    | .symbol ":" =>
      advance
      let method ← name
      let line ← lineAhead
      let args ← arguments fuel
      suffixes fuel (.method line e method args)
    | .symbol "(" | .symbol "\x7b" | .str _ =>
      let line ← lineAhead
      let args ← arguments fuel
      suffixes fuel (.call line e args)
    | _ => return e

def arguments : Nat → Parse (List Expr)
  | 0 => fail "too long"
  | fuel + 1 => do
    match (← ahead).1 with
    | .str b => advance; return [.str b]
    | .symbol "\x7b" => return [← table fuel]
    | .symbol "(" =>
      advance
      if ← accepts ")" then return []
      else
        let args ← expressions fuel
        expect ")"
        return args
    | _ => fail "function arguments expected"

def expressions : Nat → Parse (List Expr)
  | 0 => fail "too long"
  | fuel + 1 => do
    let e ← expression fuel 0
    if ← accepts "," then return e :: (← expressions fuel)
    else return [e]

def table : Nat → Parse Expr
  | 0 => fail "too long"
  | fuel + 1 => do
    expect "\x7b"
    let fs ← fields fuel
    expect "\x7d"
    return .table (← lineBefore) fs

/-- the fields of a table constructor, up to its closing brace -/
def fields : Nat → Parse (List Field)
  | 0 => fail "too long"
  | fuel + 1 => do
    if ← sees "\x7d" then return []
    else
      let f ← tableField fuel
      if (← accepts ",") || (← accepts ";") then return f :: (← fields fuel)
      else return [f]

def tableField : Nat → Parse Field
  | 0 => fail "too long"
  | fuel + 1 => do
    match (← get).tokens with
    | (.name x, _) :: (.symbol "=", _) :: _ =>
      advance
      advance
      return .pair (.str x.toUTF8) (← expression fuel 0)
    | (.symbol "[", _) :: _ =>
      advance
      let key ← expression fuel 0
      expect "]"
      expect "="
      return .pair key (← expression fuel 0)
    | _ => return .item (← expression fuel 0)

/-- a function from its parameters on; `front` are parameters before the written ones -/
def functionBody : Nat → List String → Parse Body
  | 0, _ => fail "too long"
  | fuel + 1, front => do
    let (ps, isVariadic) ← bracketedParams fuel
    onScope fun s => s.enterFunction isVariadic
    declareAll ((front ++ ps).map fun x => (x, false))
    let body ← statements fuel
    expect "end"
    onScope? Scope.close?
    return .mk (front ++ ps) isVariadic body

def statements : Nat → Parse (List Stmt)
  | 0 => fail "too long"
  | fuel + 1 => do
    if ← endsBlock true then return []
    else if ← sees "return" then return [← nested (giveBack fuel)]
    else if ← accepts ";" then statements fuel
    else
      let s ← nested (statement fuel)
      return s ++ (← statements fuel)

/-- a block up to `end`, in a scope of its own -/
def blockToEnd : Nat → Bool → Parse (List Stmt)
  | 0, _ => fail "too long"
  | fuel + 1, isLoop => do
    let body ← inBlock isLoop (statements fuel)
    expect "end"
    return body

def giveBack : Nat → Parse Stmt
  | 0 => fail "too long"
  | fuel + 1 => do
    let line ← lineAhead
    advance
    let isBare ← do
      if ← endsBlock true then pure true else sees ";"
    let values ← if isBare then pure [] else expressions fuel
    let _ ← accepts ";"
    return .giveBack line values

/-- a statement; a label stands with the idle statements behind it -/
def statement : Nat → Parse (List Stmt)
  | 0 => fail "too long"
  | fuel + 1 => do
    match (← ahead).1 with
    | .symbol "if" => advance; return [← branch fuel]
    | .symbol "while" =>
      advance
      let condition ← expression fuel 0
      expect "do"
      return [.whileLoop condition (← blockToEnd fuel true)]
    | .symbol "do" => advance; return [.block (← blockToEnd fuel false)]
    | .symbol "for" => let line ← lineAhead; advance; return [← forLoop fuel line]
    | .symbol "repeat" =>
      advance
      return [← inBlock true do
        let body ← statements fuel
        expect "until"
        return .repeatUntil body (← expression fuel 0)]
    | .symbol "function" => let line ← lineAhead; advance; return [← namedFunction fuel line]
    | .symbol "local" => advance; return [← localStatement fuel]
    | .symbol "::" => advance; labels fuel
    | .symbol "break" =>
      if (← get).scope.isInLoop then advance; return [.leave]
      else fail "break outside a loop"
    | .symbol "goto" =>
      advance
      let line ← lineAhead
      let x ← name
      onScope fun s => s.jump x line
      return [.jump x]
    | _ => return [← expressionStatement fuel]

/-- a label behind its first mark, and the idle statements behind it -/
def labels : Nat → Parse (List Stmt)
  | 0 => fail "too long"
  | fuel + 1 => do
    let line ← lineAhead
    let x ← name
    expect "::"
    let rest ← idleStatements fuel
    let isLast ← endsBlock false
    onScope? fun s => s.label? x line isLast
    return .label x :: rest

/-- semicolons and labels -/
def idleStatements : Nat → Parse (List Stmt)
  | 0 => fail "too long"
  | fuel + 1 => do
    if ← accepts ";" then idleStatements fuel
    else if ← accepts "::" then
      let here ← nested (labels fuel)
      return here ++ (← idleStatements fuel)
    else return []

/-- a condition with its block and what follows it, behind `if` or `elseif` -/
def branch : Nat → Parse Stmt
  | 0 => fail "too long"
  | fuel + 1 => do
    let condition ← expression fuel 0
    expect "then"
    let yes ← inBlock false (statements fuel)
    if ← accepts "elseif" then return .branch condition yes [← branch fuel]
    else if ← accepts "else" then return .branch condition yes (← blockToEnd fuel false)
    else
      expect "end"
      return .branch condition yes []

/-- a loop over numbers or over the values of an iterator, behind `for` -/
def forLoop : Nat → Nat → Parse Stmt
  | 0, _ => fail "too long"
  | fuel + 1, line => do
    let x ← name
    if ← accepts "=" then
      let start ← expression fuel 0
      expect ","
      let limit ← expression fuel 0
      let step ← if ← accepts "," then pure (some (← expression fuel 0)) else pure none
      expect "do"
      let doLine ← lineBefore
      let body ← inBlock true do
        declareAll (hidden 3)
        declare x false
        inBlock false (statements fuel)
      expect "end"
      return .count doLine x start limit step body
    else
      let more ← if ← accepts "," then names fuel else pure []
      expect "in"
      let values ← expressions fuel
      expect "do"
      let body ← inBlock true do
        declareAll (hidden 4)
        declareAll ((x :: more).map fun y => (y, false))
        inBlock false (statements fuel)
      expect "end"
      return .iterate line (x :: more) values body

/-- the place where a named function goes, and whether it is a method -/
def functionName : Nat → Expr → Parse (Expr × Bool)
  | 0, _ => fail "too long"
  | fuel + 1, e => do
    if ← accepts "." then
      let line ← lineAhead
      let key ← name
      functionName fuel (.index line e (.str key.toUTF8))
    else if ← accepts ":" then
      let line ← lineAhead
      let key ← name
      return (.index line e (.str key.toUTF8), true)
    else return (e, false)

/-- a named function behind `function` -/
def namedFunction : Nat → Nat → Parse Stmt
  | 0, _ => fail "too long"
  | fuel + 1, line => do
    let x ← name
    let (target, isMethod) ← functionName fuel (← named x)
    let body ← functionBody fuel (if isMethod then ["self"] else [])
    checkTarget target
    return .assign line [target] [.function body]

/-- local variables or a local function behind `local` -/
def localStatement : Nat → Parse Stmt
  | 0 => fail "too long"
  | fuel + 1 => do
    if ← accepts "function" then
      let x ← name
      declare x false
      return .localFunction x (← functionBody fuel [])
    else
      let xs ← attributedNames fuel false
      let values ← if ← accepts "=" then expressions fuel else pure []
      declareAll xs
      return .locals (xs.map (·.1)) values

def targets : Nat → Parse (List Expr)
  | 0 => fail "too long"
  | fuel + 1 => do
    if ← accepts "," then
      let e ← suffixed fuel
      checkTarget e
      return e :: (← nested (targets fuel))
    else return []

/-- a call or an assignment -/
def expressionStatement : Nat → Parse Stmt
  | 0 => fail "too long"
  | fuel + 1 => do
    let e ← suffixed fuel
    if (← sees "=") || (← sees ",") then
      checkTarget e
      let more ← targets fuel
      expect "="
      let values ← expressions fuel
      return .assign (← lineBefore) (e :: more) values
    else
      match e with
      | .call .. => return .run e
      | .method .. => return .run e
      | _ => fail "syntax error"

end

def chunk (fuel : Nat) : Parse Body := do
  onScope fun s => s.enterFunction true
  let body ← statements fuel
  match (← ahead).1 with
  | .finish =>
    onScope? Scope.close?
    return .mk [] true body
  | _ => fail "'<eof>' expected"

end Parse

/-- the main function of a script -/
def parse? (source : String) : Except CompileError Body :=
  match tokens? source with
  | .error e => .error e
  | .ok tokens =>
    ((Parse.chunk (16 * tokens.length + 64)).run { tokens := tokens }).map (·.1)

end ScriptGuard.Code
