import ScriptGuard.Decimal
import ScriptGuard.Numbers

/-!
# Tokens of a script

How a script is cut into words, and how its numbers are read.
-/

namespace ScriptGuard.Code

/-!
## Numerals

How a number is written in a script: digits for an integer, digits with a point or an exponent for a
floating-point number, either of them in base ten or, after `0x`, in base sixteen. A decimal integer
that does not fit a word is a floating-point number; a hexadecimal one wraps around.
-/

inductive Numeral where
  | int (n : Int)
  | num (x : Float)

def hexValue? (c : Char) : Option Nat :=
  if c.isDigit then some (c.toNat - '0'.toNat)
  else if 'a' ≤ c ∧ c ≤ 'f' then some (c.toNat - 'a'.toNat + 10)
  else if 'A' ≤ c ∧ c ≤ 'F' then some (c.toNat - 'A'.toNat + 10)
  else none

def isHexDigit (c : Char) : Bool := (hexValue? c).isSome

/-- the value of digits in a base up to sixteen -/
def digitsIn (base : Nat) (cs : List Char) : Nat :=
  cs.foldl (fun n c => base * n + (hexValue? c).getD 0) 0

namespace Numeral

open Decimal (unsign mantissa exponent?)

/-- a decimal number with a point or an exponent, or too long for a word -/
def decimal? (negative : Bool) (cs : List Char) : Option Numeral :=
  (Decimal.unsigned? negative cs).map .num

/-- `m * 2 ^ e`, from a numerator and a denominator that are not formed when they are huge -/
def binary (negative : Bool) (m : Nat) (e : Int) : Float :=
  let x :=
    if m = 0 ∨ m.log2 + e < -1100 then 0.0
    else if 1100 < m.log2 + e then 1.0 / 0.0
    else Float.scaleB (Float.ofNat m) e
  if negative then -x else x

/-- a hexadecimal number after its mark -/
def hexadecimal? (negative : Bool) (cs : List Char) : Option Numeral :=
  let (digits, places, rest) := mantissa isHexDigit cs
  if digits.isEmpty then none
  else if rest.isEmpty && !cs.contains '.' then
    let n : Int := digitsIn 16 digits
    some (.int (wrap64 (if negative then -n else n)))
  else
    (exponent? 'p' 'P' rest).map fun e =>
      .num (binary negative (digitsIn 16 digits) (e - 4 * places))

def ofTrimmed? (cs : List Char) : Option Numeral :=
  let (negative, body) := unsign cs
  match body with
  | '0' :: 'x' :: rest => hexadecimal? negative rest
  | '0' :: 'X' :: rest => hexadecimal? negative rest
  | _ =>
    if !body.isEmpty && body.all Char.isDigit then
      let n : Int := digitsIn 10 body
      let n := if negative then -n else n
      if fits64 n then some (.int n) else decimal? negative body
    else decimal? negative body

/-- one of the six blanks of the basic character set -/
def isBlank (c : Char) : Bool := c == ' ' || (9 ≤ c.toNat && c.toNat ≤ 13)

/-- the number a text writes, with blanks around it -/
def ofText? (cs : List Char) : Option Numeral :=
  ofTrimmed? ((cs.dropWhile isBlank).reverse.dropWhile isBlank).reverse

end Numeral

/-!
## Tokens of a script

The words a script is made of, each with the line on which it ends. `tokens? source` cuts a source
into tokens; blanks and comments are left out.
-/

/-- a token; reserved words and punctuation are symbols -/
inductive Token where
  | name (s : String)
  | symbol (s : String)
  | int (n : Int)
  | num (x : Float)
  | str (bytes : ByteArray)
  | finish

/-- why a source is no script: what is wrong and the line -/
structure CompileError where
  line : Nat
  text : String

def CompileError.message (e : CompileError) (chunk : String) : String :=
  "syntax error: " ++ chunk ++ ":" ++ toString e.line ++ ": " ++ e.text

/-- the words that are no names -/
def reserved : List String :=
  ["and", "break", "do", "else", "elseif", "end", "false", "for", "function", "goto", "if", "in",
   "local", "nil", "not", "or", "repeat", "return", "then", "true", "until", "while"]

/-- the punctuation marks, longer ones first -/
def marks : List String :=
  ["...", "==", "~=", "<=", ">=", "//", "::", "<<", ">>", "..",
   "+", "-", "*", "/", "%", "^", "#", "&", "~", "|", "<", ">", "=", "(", ")", "\x7b", "\x7d",
   "[", "]", ";", ":", ",", "."]

def isNameStart (c : Char) : Bool := c.isAlpha || c == '_'

/-- a letter, a digit or an underscore -/
def isNamePart (c : Char) : Bool := isNameStart c || c.isDigit

/-- a token of a line with the rest of the source, or an error -/
abbrev Cut := Except CompileError (Token × Nat × List Char)

/-! ## line ends -/

/-- a line end taken off; two different marks in a row are one line end -/
def lineEnd? : List Char → Option (List Char)
  | '\r' :: '\n' :: rest => some rest
  | '\n' :: '\r' :: rest => some rest
  | '\n' :: rest => some rest
  | '\r' :: rest => some rest
  | _ => none

/-- no line end -/
def isInLine (c : Char) : Bool := c != '\n' && c != '\r'

/-! ## long brackets -/

/-- the level of a long bracket, from behind its first bracket on, and the rest behind it -/
def longOpening? (cs : List Char) : Option (Nat × List Char) :=
  let level := (cs.takeWhile (· == '=')).length
  match cs.dropWhile (· == '=') with
  | '[' :: rest => some (level, rest)
  | _ => none

/-- the rest behind the closing bracket of a level -/
def longClosing? (level : Nat) (cs : List Char) : Option (List Char) :=
  match cs with
  | ']' :: rest =>
    if (rest.takeWhile (· == '=')).length = level then
      match rest.drop level with
      | ']' :: rest => some rest
      | _ => none
    else none
  | _ => none

/-- the characters up to the closing bracket, latest first, with the line and the rest -/
def longBody (level : Nat) (start : Nat) :
    Nat → Nat → List Char → List Char → Except CompileError (List Char × Nat × List Char)
  | 0, _, _, _ => .error ⟨start, "unfinished long bracket"⟩
  | _ + 1, _, _, [] => .error ⟨start, "unfinished long bracket"⟩
  | fuel + 1, line, out, c :: cs =>
    match longClosing? level (c :: cs) with
    | some rest => .ok (out, line, rest)
    | none =>
      match lineEnd? (c :: cs) with
      | some rest => longBody level start fuel (line + 1) ('\n' :: out) rest
      | none => longBody level start fuel line (c :: out) cs

/-- the text of a long bracket behind its opening; a line end at its front does not count -/
def longText (level line : Nat) (cs : List Char) :
    Except CompileError (List Char × Nat × List Char) :=
  match lineEnd? cs with
  | some rest => longBody level line (cs.length + 1) (line + 1) [] rest
  | none => longBody level line (cs.length + 1) line [] cs

/-! ## strings -/

/-- the bytes of a code point of up to 31 bits; `n` continuation bytes are already known -/
def wideBytes (code n : Nat) (out : List UInt8) : Nat → List UInt8
  | 0 => out
  | fuel + 1 =>
    let room := Nat.pow 2 (6 - n)
    if code < room then UInt8.ofNat (256 - Nat.pow 2 (7 - n) + code) :: out
    else wideBytes (code / 64) (n + 1) (UInt8.ofNat (128 + code % 64) :: out) fuel

def codeBytes (code : Nat) : List UInt8 :=
  if code < 0x80 then [UInt8.ofNat code] else wideBytes code 0 [] 6

/-- the characters of an escape sequence that stand for themselves -/
def simpleEscape? : Char → Option Nat
  | 'a' => some 7
  | 'b' => some 8
  | 'f' => some 12
  | 'n' => some 10
  | 'r' => some 13
  | 't' => some 9
  | 'v' => some 11
  | '\\' => some 92
  | '\x22' => some 34
  | '\x27' => some 39
  | _ => none

/-- blanks and line ends are skipped; the line, and the rest -/
def skipBlanks : Nat → Nat → List Char → Nat × List Char
  | 0, line, cs => (line, cs)
  | fuel + 1, line, cs =>
    match lineEnd? cs with
    | some rest => skipBlanks fuel (line + 1) rest
    | none =>
      match cs with
      | c :: rest => if Numeral.isBlank c then skipBlanks fuel line rest else (line, cs)
      | [] => (line, [])

/-- an escape sequence behind its backslash: its bytes, the line and the rest -/
def escape (line : Nat) (cs : List Char) :
    Except CompileError (List UInt8 × Nat × List Char) :=
  match lineEnd? cs with
  | some rest => .ok ([10], line + 1, rest)
  | none =>
    match cs with
    | 'x' :: a :: b :: rest =>
      match hexValue? a, hexValue? b with
      | some x, some y => .ok ([UInt8.ofNat (16 * x + y)], line, rest)
      | _, _ => .error ⟨line, "hexadecimal digit expected"⟩
    | 'z' :: rest =>
      let (line, rest) := skipBlanks (rest.length + 1) line rest
      .ok ([], line, rest)
    | 'u' :: '\x7b' :: rest =>
      let digits := rest.takeWhile isHexDigit
      match rest.dropWhile isHexDigit with
      | '\x7d' :: rest =>
        if digits.isEmpty then .error ⟨line, "hexadecimal digit expected"⟩
        else if Nat.pow 2 31 ≤ digitsIn 16 digits then .error ⟨line, "UTF-8 value too large"⟩
        else .ok (codeBytes (digitsIn 16 digits), line, rest)
      | _ => .error ⟨line, "missing closing brace"⟩
    | c :: rest =>
      match simpleEscape? c with
      | some n => .ok ([UInt8.ofNat n], line, rest)
      | none =>
        let digits := (cs.take 3).takeWhile Char.isDigit
        if digits.isEmpty then .error ⟨line, "invalid escape sequence"⟩
        else if 255 < digitsIn 10 digits then .error ⟨line, "decimal escape too large"⟩
        else .ok ([UInt8.ofNat (digitsIn 10 digits)], line, cs.drop digits.length)
    | [] => .error ⟨line, "unfinished string"⟩

/-- the rest of a string up to its quote -/
def stringBody (quote : Char) : Nat → Nat → ByteArray → List Char → Cut
  | 0, line, _, _ => .error ⟨line, "unfinished string"⟩
  | _ + 1, line, _, [] => .error ⟨line, "unfinished string"⟩
  | fuel + 1, line, out, c :: cs =>
    if c = quote then .ok (.str out, line, cs)
    else if c = '\\' then
      match escape line cs with
      | .error e => .error e
      | .ok (bytes, line, rest) => stringBody quote fuel line (out ++ bytes.toByteArray) rest
    else if isInLine c then stringBody quote fuel line (out ++ c.toString.toUTF8) cs
    else .error ⟨line, "unfinished string"⟩

/-! ## numbers, names and marks -/

/-- the characters of a numeral, from its second one on; `mark` begins an exponent -/
def numeralBody (mark : Char → Bool) : List Char → List Char
  | c :: d :: rest =>
    if mark c && (d == '+' || d == '-') then c :: d :: numeralBody mark rest
    else if mark c || isHexDigit c || c == '.' then c :: numeralBody mark (d :: rest)
    else []
  | [c] => if mark c || isHexDigit c || c == '.' then [c] else []
  | [] => []

/-- a numeral at the front; a letter that touches it spoils it -/
def numeral (line : Nat) (cs : List Char) : Cut :=
  let isHex := match cs with
    | '0' :: 'x' :: _ => true
    | '0' :: 'X' :: _ => true
    | _ => false
  let front := cs.take (if isHex then 2 else 1)
  let mark (c : Char) : Bool := if isHex then c == 'p' || c == 'P' else c == 'e' || c == 'E'
  let text := front ++ numeralBody mark (cs.drop front.length)
  let rest := cs.drop text.length
  let isSpoilt := match rest with
    | c :: _ => isNameStart c
    | [] => false
  if isSpoilt then .error ⟨line, "malformed number"⟩
  else
    match Numeral.ofText? text with
    | some (.int n) => .ok (.int n, line, rest)
    | some (.num x) => .ok (.num x, line, rest)
    | none => .error ⟨line, "malformed number"⟩

/-- a mark at the front -/
def mark? (cs : List Char) : Option (String × List Char) :=
  (marks.find? fun m => m.toList.isPrefixOf cs).map fun m => (m, cs.drop m.length)

/-- a name or a reserved word at the front -/
def word (line : Nat) (cs : List Char) : Cut :=
  let text := String.ofList (cs.takeWhile isNamePart)
  let rest := cs.dropWhile isNamePart
  .ok (if reserved.contains text then .symbol text else .name text, line, rest)

/-- a token at the front of a source without blanks there -/
def tokenAtFront (line : Nat) (cs : List Char) : Cut :=
  match cs with
  | [] => .ok (.finish, line, [])
  | c :: rest =>
    if isNameStart c then word line cs
    else if c.isDigit || (c == '.' && (rest.head?.any Char.isDigit)) then numeral line cs
    else if c = '\x22' ∨ c = '\x27' then
      stringBody c (rest.length + 1) line ByteArray.empty rest
    else
      let long := if c = '[' then longOpening? rest else none
      match long with
      | some (level, rest) =>
        match longText level line rest with
        | .error e => .error e
        | .ok (text, line, rest) => .ok (.str (String.ofList text.reverse).toUTF8, line, rest)
      | none =>
        match mark? cs with
        | some (m, rest) => .ok (.symbol m, line, rest)
        | none => .error ⟨line, "unexpected symbol near '" ++ c.toString ++ "'"⟩

/-- the rest behind a comment, from behind its two dashes on, with the line -/
def skipComment (line : Nat) (cs : List Char) : Except CompileError (Nat × List Char) :=
  let long := match cs with
    | '[' :: rest => longOpening? rest
    | _ => none
  match long with
  | some (level, rest) => (longText level line rest).map fun (_, line, rest) => (line, rest)
  | none => .ok (line, cs.dropWhile isInLine)

/-- the tokens of a source, latest first, each with the line on which it ends -/
def tokensFrom : Nat → Nat → List (Token × Nat) → List Char →
    Except CompileError (List (Token × Nat))
  | 0, line, out, _ => .ok ((.finish, line) :: out)
  | fuel + 1, line, out, cs =>
    let (line, cs) := skipBlanks (cs.length + 1) line cs
    match cs with
    | [] => .ok ((.finish, line) :: out)
    | '-' :: '-' :: rest =>
      match skipComment line rest with
      | .error e => .error e
      | .ok (line, rest) => tokensFrom fuel line out rest
    | _ =>
      match tokenAtFront line cs with
      | .error e => .error e
      | .ok (t, line, rest) => tokensFrom fuel line ((t, line) :: out) rest

/-- the tokens of a source, the last of them `finish` -/
def tokens? (source : String) : Except CompileError (List (Token × Nat)) :=
  let cs := source.toList
  (tokensFrom (cs.length + 1) 1 [] cs).map List.reverse

end ScriptGuard.Code
