import ScriptGuard.Machine.Arguments
import ScriptGuard.Machine.Pattern

/-!
# The string library

Strings are bytes; positions count from one, and negative ones from the end.
-/

namespace ScriptGuard.Machine.Text

open Arguments

/-- a position, where negative ones count from the end and are at least one -/
def startPosition (i : Int) (size : Nat) : Nat :=
  if 0 < i then i.toNat
  else if i = 0 then 1
  else if i < -(size : Int) then 1
  else (size + i + 1).toNat

/-- a last position, where negative ones count from the end -/
def endPosition (i : Int) (size : Nat) : Nat :=
  if (size : Int) < i then size
  else if 0 ≤ i then i.toNat
  else if i < -(size : Int) then 0
  else (size + i + 1).toNat

def slice (b : ByteArray) (first last : Nat) : ByteArray := b.extract (first - 1) last

def mapBytes (f : Nat → Nat) (b : ByteArray) : ByteArray :=
  (b.toList.map fun x => UInt8.ofNat (f x.toNat)).toByteArray

def lowerByte (c : Nat) : Nat := if 65 ≤ c && c ≤ 90 then c + 32 else c

def upperByte (c : Nat) : Nat := if 97 ≤ c && c ≤ 122 then c - 32 else c

/-- `n` copies with a separator between them -/
def copies (b separator : ByteArray) : Nat → ByteArray
  | 0 => ByteArray.empty
  | n + 1 => (List.range n).foldl (fun out _ => out ++ separator ++ b) b

/-- the longest string that is built by repetition -/
def lengthLimit : Nat := Nat.pow 2 28

/-! ## formats -/

/-- the flags, the width and the precision of a conversion -/
structure Conversion where
  left : Bool := false
  plus : Bool := false
  space : Bool := false
  zero : Bool := false
  alternate : Bool := false
  width : Nat := 0
  precision : Option Nat := none

/-- the flags at the front of a conversion -/
def flags : List Char → Conversion → Conversion × List Char
  | '-' :: r, c => flags r { c with left := true }
  | '+' :: r, c => flags r { c with plus := true }
  | ' ' :: r, c => flags r { c with space := true }
  | '0' :: r, c => flags r { c with zero := true }
  | '#' :: r, c => flags r { c with alternate := true }
  | r, c => (c, r)

/-- a conversion up to its letter -/
def conversion (cs : List Char) : Conversion × List Char :=
  let (c, cs) := flags cs {}
  let width := cs.takeWhile Char.isDigit
  let c := { c with width := Code.digitsIn 10 width }
  match cs.drop width.length with
  | '.' :: rest =>
    let places := rest.takeWhile Char.isDigit
    ({ c with precision := some (Code.digitsIn 10 places) }, rest.drop places.length)
  | rest => (c, rest)

/-- blanks, or zeros behind the sign, up to the width -/
def pad (c : Conversion) (zeros : Bool) (sign body : List Char) : List Char :=
  let missing := c.width - (sign.length + body.length)
  if c.left then sign ++ body ++ List.replicate missing ' '
  else if zeros then sign ++ List.replicate missing '0' ++ body
  else List.replicate missing ' ' ++ sign ++ body

def shownSign (c : Conversion) (negative : Bool) : List Char :=
  if negative then ['-'] else if c.plus then ['+'] else if c.space then [' '] else []

/-- at least as many digits as the precision says -/
def withPrecision (c : Conversion) (digits : List Char) : List Char :=
  match c.precision with
  | some n =>
    if n = 0 && digits == ['0'] then [] else List.replicate (n - digits.length) '0' ++ digits
  | none => digits

def formatInt (c : Conversion) (n : Int) : List Char :=
  pad c (c.zero && c.precision.isNone) (shownSign c (n < 0))
    (withPrecision c (Nat.toDigits 10 n.natAbs))

/-- the bits of an integer in another base -/
def formatBits (c : Conversion) (base : Nat) (mark : List Char) (isUpper : Bool) (n : Int) :
    List Char :=
  let digits := Nat.toDigits base (bits64 n)
  let digits := if isUpper then digits.map Char.toUpper else digits
  pad c (c.zero && c.precision.isNone) (if c.alternate && n != 0 then mark else [])
    (withPrecision c digits)

/-- a floating-point number written by a function of its magnitude -/
def formatFloat (c : Conversion) (isUpper : Bool) (write : Nat → Float → String) (x : Float) :
    List Char :=
  let text := (write (c.precision.getD 6) x).toList
  let negative := text.head? == some '-'
  let body := if negative then text.drop 1 else text
  let body := if isUpper then body.map Char.toUpper else body
  let isFinite := (read x).isFinite
  pad c (c.zero && isFinite) (shownSign c negative) body

/-- at least one significant digit -/
def generalText (n : Nat) (x : Float) : String := Decimal.general (max n 1) x

/-- the text of a value that needs no metamethod -/
def plainText (h : Heap) (v : Value) : ByteArray :=
  match v with
  | .nil => "nil".toUTF8
  | .bool b => (if b then "true" else "false").toUTF8
  | .str b => b
  | .int n => (toString n).toUTF8
  | .num x => (floatText x).toUTF8
  | .table p => (h.metamethod v "__name" |> fun name => match name with
      | .str b => b ++ (": 0x" ++ toString p).toUTF8
      | _ => ("table: 0x" ++ toString p).toUTF8)
  | .function p => ("function: 0x" ++ toString p).toUTF8
  | .builtin _ => "function: builtin".toUTF8
  | .host n => ("function: builtin: " ++ toString n).toUTF8
  | .wrapped p => ("function: 0x" ++ toString p).toUTF8
  | .matcher p => ("function: 0x" ++ toString p).toUTF8
  | .thread p => ("thread: 0x" ++ toString p).toUTF8
  | .fault e => e.message.toUTF8
  | .wreck => "error".toUTF8

/-- a string as a script can write it -/
def quotedBytes : List Char → List Char
  | [] => []
  | c :: r =>
    let nextIsDigit := r.head?.any Char.isDigit
    if c = '\x22' then '\\' :: '\x22' :: quotedBytes r
    else if c = '\\' then '\\' :: '\\' :: quotedBytes r
    else if c = '\n' then '\\' :: '\n' :: quotedBytes r
    else if c = '\r' then "\\r".toList ++ quotedBytes r
    else if c = '\x00' then (if nextIsDigit then "\\000" else "\\0").toList ++ quotedBytes r
    else if c.toNat < 32 || c.toNat == 127 then
      '\\' :: (if nextIsDigit then
          List.replicate (3 - (Nat.toDigits 10 c.toNat).length) '0'
        else []) ++ Nat.toDigits 10 c.toNat ++ quotedBytes r
    else c :: quotedBytes r

def convert (h : Heap) (args : List Value) (i : Nat) (c : Conversion) (letter : Char) :
    Except Complaint (List Char) :=
  match letter with
  | 'd' => (int args i).map (formatInt c)
  | 'i' => (int args i).map (formatInt c)
  | 'x' => (int args i).map (formatBits c 16 ['0', 'x'] false)
  | 'X' => (int args i).map (formatBits c 16 ['0', 'X'] true)
  | 'o' => (int args i).map (formatBits c 8 ['0'] false)
  | 'c' => (int args i).map fun n => pad c false [] [Char.ofNat (n.emod 256).toNat]
  | 'f' => (float args i).map (formatFloat c false Decimal.fixed)
  | 'F' => (float args i).map (formatFloat c true Decimal.fixed)
  | 'e' => (float args i).map (formatFloat c false Decimal.scientific)
  | 'E' => (float args i).map (formatFloat c true Decimal.scientific)
  | 'g' => (float args i).map (formatFloat c false generalText)
  | 'G' => (float args i).map (formatFloat c true generalText)
  | 's' => (any args i).map fun v =>
    let text := byteChars (plainText h v)
    pad c false [] (c.precision.elim text text.take)
  | 'q' => (any args i).map fun v =>
    match v with
    | .str b => '\x22' :: quotedBytes (byteChars b) ++ ['\x22']
    | v => byteChars (plainText h v)
  | letter => .error (.text ("invalid conversion '%" ++ letter.toString ++ "' to 'format'"))

/-- a format filled in, from the argument at a position on -/
def fill (h : Heap) (args : List Value) :
    Nat → Nat → List Char → List Char → Except Complaint (List Char)
  | 0, _, out, _ => .ok out
  | _ + 1, _, out, [] => .ok out
  | fuel + 1, i, out, '%' :: '%' :: rest => fill h args fuel i ('%' :: out) rest
  | fuel + 1, i, out, '%' :: rest =>
    match conversion rest with
    | (_, []) => .error (.text "invalid conversion '%' to 'format'")
    | (c, letter :: rest) =>
      match convert h args i c letter with
      | .error e => .error e
      | .ok text => fill h args fuel (i + 1) (text.reverse ++ out) rest
  | fuel + 1, i, out, c :: rest => fill h args fuel i (c :: out) rest

/-- characters below 256 as bytes -/
def charBytes (cs : List Char) : ByteArray :=
  (cs.map fun c => UInt8.ofNat c.toNat).toByteArray

/-! ## searching -/

/-- some characters of a pattern have a meaning of their own -/
def isSpecial (p : ByteArray) : Bool :=
  (byteChars p).any fun c => "^$*+?.([%-".toList.contains c

/-- the first place of a part from a place on -/
def findPlain (s part : ByteArray) (i : Nat) : Nat → Option Nat
  | 0 => none
  | fuel + 1 =>
    if s.size < i + part.size then none
    else if s.extract i (i + part.size) = part then some i
    else findPlain s part (i + 1) fuel

/-- a failed match as a complaint -/
def complain : Except String α → Except Complaint α
  | .ok a => .ok a
  | .error e => .error (.text e)

/-- the places or the captures of the first match -/
def search (args : List Value) (wantsPlaces : Bool) : Except Complaint (List Value) := do
  let s ← text args 1
  let p ← text args 2
  let start := startPosition (← intOr args 3 1) s.size
  if s.size + 1 < start then return [.nil]
  if wantsPlaces && ((given args 4).holds || !isSpecial p) then
    match findPlain s p (start - 1) (s.size + 2) with
    | some i => return [.int (i + 1), .int (i + p.size)]
    | none => return [.nil]
  match ← complain (Pattern.search s p (start - 1)) with
  | none => return [.nil]
  | some (i, e, cs) =>
    if wantsPlaces then
      return [.int (i + 1), .int e] ++ (← complain (cs.mapM (Pattern.captureValue s)))
    else complain (Pattern.values s i e cs)

/-! ## replacing -/

/-- a replacement text with references to captures filled in -/
def expand (s : ByteArray) (start finish : Nat) (cs : Captures) : List Char → ByteArray →
    Except String ByteArray
  | [], out => .ok out
  | '%' :: d :: rest, out =>
    if d = '%' then expand s start finish cs rest (out.push 37)
    else if d = '0' then expand s start finish cs rest (out ++ s.extract start finish)
    else if d.isDigit then
      match Pattern.values s start finish cs with
      | .error e => .error e
      | .ok vs =>
        match (vs[d.toNat - 49]?).bind textOf? with
        | some b => expand s start finish cs rest (out ++ b)
        | none => .error ("invalid capture index %" ++ d.toString ++ " in replacement string")
    else .error "invalid use of '%' in replacement string"
  | ['%'], _ => .error "invalid use of '%' in replacement string"
  | c :: rest, out => expand s start finish cs rest (out.push (UInt8.ofNat c.toNat))

inductive Replacement where
  | text (b : ByteArray)
  | table (place : Nat)
  | function (f : Value)

/-- the bytes that replace a match; nil and false leave it as it is -/
def replaced (matched : ByteArray) (v : Value) : Except String ByteArray :=
  match v with
  | .nil => .ok matched
  | .bool false => .ok matched
  | v =>
    match textOf? v with
    | some b => .ok b
    | none => .error ("invalid replacement value (a " ++ v.typeName ++ ")")

/-- the replacements of all matches from a place on, up to a number of them -/
def replaceFrom (h : Heap) (s p : ByteArray) (r : Replacement) (limit : Nat) :
    Nat → Nat → Nat → ByteArray → Inquiry (List Value)
  | 0, _, count, out => .done [.str out, .int count]
  | fuel + 1, i, count, out =>
    let finish : Inquiry (List Value) := .done [.str (out ++ s.extract i s.size), .int count]
    if limit ≤ count || s.size < i then finish
    else
      match Pattern.matchAt s p i (if Pattern.isAnchored p then 1 else 0) with
      | .error e => .fail (.text e)
      | .ok none =>
        if Pattern.isAnchored p || s.size ≤ i then finish
        else replaceFrom h s p r limit fuel (i + 1) count (out ++ s.extract i (i + 1))
      | .ok (some (e, cs)) =>
        let matched := s.extract i e
        let go (b : Except String ByteArray) : Inquiry (List Value) :=
          match b with
          | .error e => .fail (.text e)
          | .ok b =>
            let out := out ++ b
            if Pattern.isAnchored p then
              .done [.str (out ++ s.extract e s.size), .int (count + 1)]
            else if e = i then
              replaceFrom h s p r limit fuel (i + 1) (count + 1) (out ++ s.extract i (i + 1))
            else replaceFrom h s p r limit fuel e (count + 1) out
        match Pattern.values s i e cs with
        | .error e => .fail (.text e)
        | .ok vs =>
          match r with
          | .text b => go (expand s i e cs (byteChars b) ByteArray.empty)
          | .table place => go (replaced matched ((h.table place).get (Value.first vs)))
          | .function f => .call f vs fun results => go (replaced matched (Value.first results))

def replace (h : Heap) (args : List Value) : Except Complaint (Inquiry (List Value)) := do
  let s ← text args 1
  let p ← text args 2
  let r ← match given args 3 with
    | .table place => pure (Replacement.table place)
    | v =>
      if v.isFunction then pure (.function v)
      else
        match textOf? v with
        | some b => pure (.text b)
        | none => wrongType args 3 "string/function/table"
  let limit ← intOr args 4 (s.size + 1)
  return replaceFrom h s p r limit.toNat (2 * s.size + 4) 0 0 ByteArray.empty

/-- the next match of an iterator, whose string, pattern and place are kept in a table -/
def nextMatch (h : Heap) (place : Nat) : Reply :=
  let t := h.table place
  match t.item 1, t.item 2, t.item 3, t.item 4 with
  | .str s, .str p, .int i, .int last => do
    match ← complain (Pattern.search s p i.toNat) with
    | none => return ([.nil], h)
    | some (start, e, cs) =>
      if (e : Int) = last ∧ start = e then
        -- an empty match right behind the last one does not count
        match ← complain (Pattern.search s p (e + 1)) with
        | none => return ([.nil], h)
        | some (start, e, cs) =>
          let h := (h.setField place (.int 3) (.int e)).setField place (.int 4) (.int e)
          return (← complain (Pattern.values s start e cs), h)
      else
        let h := (h.setField place (.int 3) (.int e)).setField place (.int 4) (.int e)
        return (← complain (Pattern.values s start e cs), h)
  | _, _, _, _ => return ([.nil], h)

/-- a string function that calls nothing -/
def call (f : TextFunction) (args : List Value) (h : Heap) : Reply :=
  match f with
  | .byte => do
    let s ← text args 1
    let i ← intOr args 2 1
    let first := startPosition i s.size
    let last := endPosition (← intOr args 3 (first : Int)) s.size
    return ((slice s first last).toList.map fun b => .int b.toNat, h)
  | .char => do
    let bytes ← (List.range args.length).mapM fun i => do
      let n ← int args (i + 1)
      require (0 ≤ n && n < 256) (i + 1) "value out of range"
      return UInt8.ofNat n.toNat
    return ([.str bytes.toByteArray], h)
  | .len => do return ([.int (← text args 1).size], h)
  | .lower => do return ([.str (mapBytes lowerByte (← text args 1))], h)
  | .upper => do return ([.str (mapBytes upperByte (← text args 1))], h)
  | .reverse => do return ([.str (← text args 1).toList.reverse.toByteArray], h)
  | .rep => do
    let s ← text args 1
    let n ← int args 2
    let separator ← textOr args 3 ByteArray.empty
    if lengthLimit < n.toNat * (s.size + separator.size) then
      .error (.text "resulting string too large")
    else return ([.str (copies s separator n.toNat)], h)
  | .sub => do
    let s ← text args 1
    let first := startPosition (← int args 2) s.size
    let last := endPosition (← intOr args 3 (-1)) s.size
    return ([.str (if last < first then ByteArray.empty else slice s first last)], h)
  | .format => do
    let template ← text args 1
    return ([.str (charBytes (← fill h args (template.size + 1) 2 [] (byteChars template)).reverse)], h)
  | .find => do return (← search args true, h)
  | .matches => do return (← search args false, h)
  | .gmatch => do
    let s ← text args 1
    let p ← text args 2
    let (h, place) := h.addTable (Table.ofItems [.str s, .str p, .int 0, .int (-1)])
    return ([.matcher place], h)
  | .gsub => .error (.text "not enough memory")

end ScriptGuard.Machine.Text
