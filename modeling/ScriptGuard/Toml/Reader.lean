import ScriptGuard.Toml.Scalar
import ScriptGuard.Toml.Tree

/-!
# Reading TOML documents

`document? s` is the table that a document describes, or `none` if the text is not well formed. A
reader of one construct takes the remaining characters and gives back its value and what is left.
Values nest at most eighty deep.
-/

namespace ScriptGuard.Toml

/-- the rest of the input -/
abbrev Rest := List Char

/-- a blank inside a line -/
def isSpace (c : Char) : Bool := c == ' ' || c == '\t'

def skipSpace (cs : Rest) : Rest := cs.dropWhile isSpace

/-- a control character that may stand nowhere but for tabs and ends of lines -/
def isControl (c : Char) : Bool := (c.toNat < 0x20 && c != '\t') || c.toNat == 0x7f

/-- the input after a comment, if one stands here; refused if it holds a control character -/
def skipComment? : Rest → Option Rest
  | '#' :: rest =>
    let text := rest.takeWhile (· ≠ '\n')
    let body := if text.getLast? = some '\r' then text.dropLast else text
    if body.any isControl then none
    else some ((if text.getLast? = some '\r' then ['\r'] else []) ++ rest.dropWhile (· ≠ '\n'))
  | cs => some cs

/-- the input after the end of a line -/
def newline? : Rest → Option Rest
  | '\n' :: rest => some rest
  | '\r' :: '\n' :: rest => some rest
  | _ => none

/-- the input after the blanks, the comment and the end of a line, or at the end of the document -/
def lineEnd? (cs : Rest) : Option Rest := do
  let cs ← skipComment? (skipSpace cs)
  match cs with
  | [] => some []
  | cs => newline? cs

/-- the input after blanks, comments and line ends -/
def skipLines? : Nat → Rest → Option Rest
  | 0, cs => some cs
  | fuel + 1, cs => do
    let cs ← skipComment? (skipSpace cs)
    match newline? cs with
    | some rest => skipLines? fuel rest
    | none => some cs

/-! ## strings -/

def scalar? (n : Nat) : Option Char :=
  if n < 0xd800 ∨ (0xdfff < n ∧ n < 0x110000) then some (Char.ofNat n) else none

/-- a character by `n` digits of base 16 -/
def numbered? (n : Nat) (rest : Rest) : Option (Char × Rest) :=
  let front := rest.take n
  if front.length = n && front.all (fun c => (digitValue? c).isSome) then
    ((digits? 16 front).bind scalar?).map fun c => (c, rest.drop n)
  else none

/-- the character of an escape, after the backslash -/
def escape? : Rest → Option (Char × Rest)
  | 'b' :: rest => some ('\x08', rest)
  | 't' :: rest => some ('\t', rest)
  | 'n' :: rest => some ('\n', rest)
  | 'f' :: rest => some ('\x0c', rest)
  | 'r' :: rest => some ('\r', rest)
  | '"' :: rest => some ('"', rest)
  | '\\' :: rest => some ('\\', rest)
  | 'u' :: rest => numbered? 4 rest
  | 'U' :: rest => numbered? 8 rest
  | _ => none

/-- the rest of a string between single quotation marks of one kind on one line -/
def shortString? (escapes : Bool) (quote : Char) (out : List Char) :
    Nat → Rest → Option (String × Rest)
  | 0, _ => none
  | _, [] => none
  | fuel + 1, c :: rest =>
    if c = quote then some (String.ofList out.reverse, rest)
    else if c = '\\' && escapes then
      match escape? rest with
      | some (x, rest) => shortString? escapes quote (x :: out) fuel rest
      | none => none
    else if isControl c then none
    else shortString? escapes quote (c :: out) fuel rest

/-- the input after a backslash at the end of a line and the blank lines that follow, if the line
ends here -/
def continuation? (cs : Rest) : Option Rest :=
  match newline? (skipSpace cs) with
  | some rest => some (rest.dropWhile fun c => isSpace c || c == '\n' || c == '\r')
  | none => none

/-- the rest of a string between triple quotation marks; up to two marks may stand before the
closing ones -/
def longString? (escapes : Bool) (quote : Char) (out : List Char) :
    Nat → Rest → Option (String × Rest)
  | 0, _ => none
  | _, [] => none
  | fuel + 1, c :: rest =>
    if c = quote then
      let marks := (c :: rest).takeWhile (· = quote)
      let after := (c :: rest).dropWhile (· = quote)
      if marks.length < 3 then longString? escapes quote (marks ++ out) fuel after
      else if marks.length ≤ 5 then
        some (String.ofList (marks.drop 3 ++ out).reverse, after)
      else none
    else if c = '\\' && escapes then
      match continuation? rest with
      | some rest => longString? escapes quote out fuel rest
      | none =>
        match escape? rest with
        | some (x, rest) => longString? escapes quote (x :: out) fuel rest
        | none => none
    else
      match newline? (c :: rest) with
      | some rest => longString? escapes quote ('\n' :: out) fuel rest
      | none => if isControl c then none else longString? escapes quote (c :: out) fuel rest

/-- the input without a line end at its front -/
def dropNewline (cs : Rest) : Rest := (newline? cs).getD cs

/-- a string in any of its four forms -/
def string? (cs : Rest) : Option (String × Rest) :=
  match cs with
  | '"' :: '"' :: '"' :: rest => longString? true '"' [] (rest.length + 1) (dropNewline rest)
  | '\x27' :: '\x27' :: '\x27' :: rest => longString? false '\x27' [] (rest.length + 1) (dropNewline rest)
  | '"' :: rest => shortString? true '"' [] (rest.length + 1) rest
  | '\x27' :: rest => shortString? false '\x27' [] (rest.length + 1) rest
  | _ => none

/-! ## keys -/

/-- a character of a key without quotes -/
def isKeyChar (c : Char) : Bool := c.isAlphanum || c == '_' || c == '-'

def keyPart? (cs : Rest) : Option (String × Rest) :=
  match cs with
  | '"' :: rest => shortString? true '"' [] (rest.length + 1) rest
  | '\x27' :: rest => shortString? false '\x27' [] (rest.length + 1) rest
  | _ =>
    if (cs.takeWhile isKeyChar).isEmpty then none
    else some (String.ofList (cs.takeWhile isKeyChar), cs.dropWhile isKeyChar)

/-- a key: parts with points between them, the last part apart -/
def key? : Nat → Rest → Option ((List String × String) × Rest)
  | 0, _ => none
  | fuel + 1, cs => do
    let (part, rest) ← keyPart? (skipSpace cs)
    match skipSpace rest with
    | '.' :: rest =>
      let ((way, last), rest) ← key? fuel rest
      some ((part :: way, last), rest)
    | rest => some (([], part), rest)

/-! ## values -/

def isWordChar (c : Char) : Bool :=
  c.isAlphanum || c == '_' || c == '-' || c == '+' || c == '.' || c == ':'

/-- a word; a date is joined with the time that follows after one space -/
def word? (cs : Rest) : Option (Value × Rest) :=
  let front := cs.takeWhile isWordChar
  let rest := cs.dropWhile isWordChar
  let joined : List Char × Rest :=
    match date? front, rest with
    | some [], ' ' :: c :: more =>
      if c.isDigit then
        (front ++ ' ' :: (c :: more).takeWhile isWordChar, (c :: more).dropWhile isWordChar)
      else (front, rest)
    | _, _ => (front, rest)
  (Value.ofWord? joined.1).map fun v => (v, joined.2)

mutual

/-- a value that holds at most `depth` levels of arrays and tables -/
def value? : Nat → Rest → Option (Value × Rest)
  | 0, _ => none
  | depth + 1, cs =>
    match cs with
    | '[' :: rest => (items? depth [] (rest.length + 1) rest).map fun r => (.array r.1, r.2)
    | '\x7b' :: rest =>
      match skipSpace rest with
      | '\x7d' :: rest => some (.table [], rest)
      | rest => (fields? depth [] (rest.length + 1) rest).map fun r => (.table (entriesValue r.1), r.2)
    | '"' :: _ => (string? cs).map fun r => (.string r.1, r.2)
    | '\x27' :: _ => (string? cs).map fun r => (.string r.1, r.2)
    | _ => word? cs
termination_by depth _ => (depth, 0)

/-- the items of an array up to its closing bracket -/
def items? (depth : Nat) (out : List Value) : Nat → Rest → Option (List Value × Rest)
  | 0, _ => none
  | fuel + 1, cs => do
    let cs ← skipLines? (cs.length + 1) cs
    match cs with
    | ']' :: rest => some (out.reverse, rest)
    | cs =>
      let (v, rest) ← value? depth cs
      let rest ← skipLines? (rest.length + 1) rest
      match rest with
      | ',' :: rest => items? depth (v :: out) fuel rest
      | ']' :: rest => some ((v :: out).reverse, rest)
      | _ => none
termination_by fuel _ => (depth, fuel + 1)

/-- the fields of a table in braces up to the closing one -/
def fields? (depth : Nat) (out : Entries) : Nat → Rest → Option (Entries × Rest)
  | 0, _ => none
  | fuel + 1, cs => do
    let ((way, key), rest) ← key? (cs.length + 1) cs
    let rest ← expect? '=' (skipSpace rest)
    let (v, rest) ← value? depth (skipSpace rest)
    let out ← out.assign? way key v
    match skipSpace rest with
    | ',' :: rest => fields? depth out fuel rest
    | '\x7d' :: rest => some (out, rest)
    | _ => none
termination_by fuel _ => (depth, fuel + 1)

end

/-! ## documents -/

/-- the lines of a document, added to the tables read so far; `header` is the open table -/
def lines? (header : List String) (out : Entries) : Nat → Rest → Option Entries
  | 0, _ => none
  | fuel + 1, cs => do
    let cs ← skipLines? (cs.length + 1) cs
    match cs with
    | [] => some out
    | '[' :: '[' :: rest =>
      let ((way, key), rest) ← key? (rest.length + 1) rest
      let rest ← expect? ']' (skipSpace rest)
      let rest ← expect? ']' rest
      let rest ← lineEnd? rest
      let out ← out.push? way key
      lines? (way ++ [key]) out fuel rest
    | '[' :: rest =>
      let ((way, key), rest) ← key? (rest.length + 1) rest
      let rest ← expect? ']' (skipSpace rest)
      let rest ← lineEnd? rest
      let out ← out.open? way key
      lines? (way ++ [key]) out fuel rest
    | cs =>
      let ((way, key), rest) ← key? (cs.length + 1) cs
      let rest ← expect? '=' (skipSpace rest)
      let (v, rest) ← value? 80 (skipSpace rest)
      let rest ← lineEnd? rest
      let out ← out.within? header way key v
      lines? header out fuel rest

/-- the table that a document describes; a byte-order mark at the front is ignored -/
def document? (s : String) : Option (List (String × Value)) :=
  let cs := match s.toList with
    | '\ufeff' :: rest => rest
    | cs => cs
  (lines? [] [] (cs.length + 1) cs).map entriesValue

end ScriptGuard.Toml
