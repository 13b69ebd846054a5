import ScriptGuard.Machine.Value

/-!
# Patterns

Matching of byte strings against patterns: classes, sets, repetitions, captures, balanced pairs,
frontiers and references to captures.

* `Pattern.matchAt`   a match that begins at a place;
* `Pattern.search`    the first match from a place on.
-/

namespace ScriptGuard.Machine

/-- what has been captured: still open, a place only, or a number of bytes -/
inductive Extent where
  | pending
  | place
  | bytes (n : Nat)
deriving DecidableEq

/-- the captures of a match, with their starts -/
abbrev Captures := List (Nat × Extent)

namespace Pattern

/-- a byte of a string; 0 behind its end -/
def byteAt (b : ByteArray) (i : Nat) : Nat := (b[i]?).elim 0 UInt8.toNat

def isLetter (c : Nat) : Bool := (65 ≤ c && c ≤ 90) || (97 ≤ c && c ≤ 122)

def isDigit (c : Nat) : Bool := 48 ≤ c && c ≤ 57

/-- the byte belongs to the class of a lower-case letter; none if the letter names no class -/
def inClass? (letter c : Nat) : Option Bool :=
  match Char.ofNat letter with
  | 'a' => some (isLetter c)
  | 'c' => some (c < 32 || c == 127)
  | 'd' => some (isDigit c)
  | 'g' => some (33 ≤ c && c ≤ 126)
  | 'l' => some (97 ≤ c && c ≤ 122)
  | 'p' => some (33 ≤ c && c ≤ 126 && !isLetter c && !isDigit c)
  | 's' => some (c == 32 || (9 ≤ c && c ≤ 13))
  | 'u' => some (65 ≤ c && c ≤ 90)
  | 'w' => some (isLetter c || isDigit c)
  | 'x' => some (isDigit c || (65 ≤ c && c ≤ 70) || (97 ≤ c && c ≤ 102))
  | _ => none

/-- the byte matches a letter behind a percent sign; an upper-case class is the opposite -/
def matchesEscape (letter c : Nat) : Bool :=
  let isUpper := 65 ≤ letter && letter ≤ 90
  match inClass? (if isUpper then letter + 32 else letter) c with
  | some yes => yes != isUpper
  | none => letter == c

/-- the end of a set from a place within it on -/
def setEnd (p : ByteArray) (i : Nat) : Nat → Except String Nat
  | 0 => .error "malformed pattern (missing ']')"
  | fuel + 1 =>
    if p.size ≤ i then .error "malformed pattern (missing ']')"
    else if byteAt p i = 93 then .ok (i + 1)
    else if byteAt p i = 37 then setEnd p (i + 2) fuel
    else setEnd p (i + 1) fuel

/-- the end of the single item at a place -/
def itemEnd (p : ByteArray) (i : Nat) : Except String Nat :=
  let c := byteAt p i
  if c = 37 then
    if p.size ≤ i + 1 then .error "malformed pattern (ends with '%')" else .ok (i + 2)
  else if c = 91 then
    let start := if byteAt p (i + 1) = 94 then i + 2 else i + 1
    let start := if byteAt p start = 37 then start + 2 else start + 1
    if p.size < start then .error "malformed pattern (missing ']')"
    else setEnd p start (p.size + 1)
  else .ok (i + 1)

/-- the byte belongs to the set between a place and its closing bracket -/
def inSet (p : ByteArray) (c i last : Nat) : Nat → Bool
  | 0 => false
  | fuel + 1 =>
    if last ≤ i then false
    else if byteAt p i = 37 then
      matchesEscape (byteAt p (i + 1)) c || inSet p c (i + 2) last fuel
    else if byteAt p (i + 1) = 45 && i + 2 < last then
      (byteAt p i ≤ c && c ≤ byteAt p (i + 2)) || inSet p c (i + 3) last fuel
    else byteAt p i == c || inSet p c (i + 1) last fuel

/-- the byte matches the single item between two places -/
def matchesItem (p : ByteArray) (i after c : Nat) : Bool :=
  let x := byteAt p i
  if x = 46 then true
  else if x = 37 then matchesEscape (byteAt p (i + 1)) c
  else if x = 91 then
    if byteAt p (i + 1) = 94 then !inSet p c (i + 2) (after - 1) (p.size + 1)
    else inSet p c (i + 1) (after - 1) (p.size + 1)
  else x == c

/-- the string has a byte there and it matches the item -/
def matchesHere (s p : ByteArray) (si i after : Nat) : Bool :=
  decide (si < s.size) && matchesItem p i after (byteAt s si)

/-- how many bytes from a place on match the item -/
def countItem (s p : ByteArray) (si i after : Nat) : Nat → Nat
  | 0 => 0
  | fuel + 1 =>
    if matchesHere s p si i after then countItem s p (si + 1) i after fuel + 1 else 0

/-- the end of a balanced pair that begins at a place -/
def balanced (s : ByteArray) (opening closing si depth : Nat) : Nat → Option Nat
  | 0 => none
  | fuel + 1 =>
    if s.size ≤ si then none
    else if byteAt s si = closing then
      if depth = 1 then some (si + 1) else balanced s opening closing (si + 1) (depth - 1) fuel
    else if byteAt s si = opening then balanced s opening closing (si + 1) (depth + 1) fuel
    else balanced s opening closing (si + 1) depth fuel

/-- the result of an attempt: the end of the match with its captures -/
abbrev Attempt := Except String (Option (Nat × Captures))

/-- the first success among attempts at fewer and fewer bytes -/
def fewer (attempt : Nat → Attempt) : Nat → Attempt
  | 0 => attempt 0
  | n + 1 =>
    match attempt (n + 1) with
    | .ok none => fewer attempt n
    | result => result

/-- the last capture that is still open, closed at a place -/
def closeLast (si : Nat) : Captures → Option Captures
  | [] => none
  | c :: rest =>
    match closeLast si rest with
    | some rest => some (c :: rest)
    | none => if c.2 = .pending then some ((c.1, .bytes (si - c.1)) :: rest) else none

def captured (s : ByteArray) (cs : Captures) (n : Nat) : Except String ByteArray :=
  match cs[n]? with
  | some (start, .bytes len) => .ok (s.extract start (start + len))
  | _ => .error ("invalid capture index %" ++ toString (n + 1))

/-- a match from the place `si` of the string with the pattern from its place `pi` on -/
def matchFrom (s p : ByteArray) : Nat → Nat → Nat → Captures → Attempt
  | 0, _, _, _ => .error "pattern too complex"
  | fuel + 1, si, pi, cs =>
    if p.size ≤ pi then .ok (some (si, cs))
    else
      let c := byteAt p pi
      let d := byteAt p (pi + 1)
      if c = 40 then
        if d = 41 then matchFrom s p fuel si (pi + 2) (cs ++ [(si, .place)])
        else matchFrom s p fuel si (pi + 1) (cs ++ [(si, .pending)])
      else if c = 41 then
        match closeLast si cs with
        | some cs => matchFrom s p fuel si (pi + 1) cs
        | none => .error "invalid pattern capture"
      else if c = 36 && pi + 1 = p.size then
        .ok (if si = s.size then some (si, cs) else none)
      else if c = 37 && d = 98 then
        if p.size < pi + 4 then
          .error "malformed pattern (missing arguments to '%b')"
        else if si < s.size && byteAt s si = byteAt p (pi + 2) then
          match balanced s (byteAt p (pi + 2)) (byteAt p (pi + 3)) (si + 1) 1 (s.size + 1) with
          | some e => matchFrom s p fuel e (pi + 4) cs
          | none => .ok none
        else .ok none
      else if c = 37 && d = 102 then
        if byteAt p (pi + 2) ≠ 91 then .error "missing '[' after '%f' in pattern"
        else
          match itemEnd p (pi + 2) with
          | .error e => .error e
          | .ok after =>
            let before := if si = 0 then 0 else byteAt s (si - 1)
            if !matchesItem p (pi + 2) after before && matchesItem p (pi + 2) after (byteAt s si)
            then matchFrom s p fuel si after cs
            else .ok none
      else if c = 37 && isDigit d then
        match captured s cs (d - 49) with
        | .error e => .error e
        | .ok b =>
          if d ≠ 48 ∧ s.extract si (si + b.size) = b then
            matchFrom s p fuel (si + b.size) (pi + 2) cs
          else .ok none
      else
        match itemEnd p pi with
        | .error e => .error e
        | .ok after =>
          let mark := byteAt p after
          if mark = 63 then
            if matchesHere s p si pi after then
              match matchFrom s p fuel (si + 1) (after + 1) cs with
              | .ok none => matchFrom s p fuel si (after + 1) cs
              | result => result
            else matchFrom s p fuel si (after + 1) cs
          else if mark = 42 then
            fewer (fun n => matchFrom s p fuel (si + n) (after + 1) cs)
              (countItem s p si pi after (s.size + 1))
          else if mark = 43 then
            match countItem s p si pi after (s.size + 1) with
            | 0 => .ok none
            | n + 1 => fewer (fun m => matchFrom s p fuel (si + 1 + m) (after + 1) cs) n
          else if mark = 45 then
            match matchFrom s p fuel si (after + 1) cs with
            | .ok none =>
              if matchesHere s p si pi after then matchFrom s p fuel (si + 1) pi cs else .ok none
            | result => result
          else if matchesHere s p si pi after then matchFrom s p fuel (si + 1) after cs
          else .ok none

/-- a match that begins at a place, with the pattern from behind its anchor on -/
def matchAt (s p : ByteArray) (si start : Nat) : Attempt :=
  matchFrom s p (2 * (s.size + p.size) + 16) si start []

def isAnchored (p : ByteArray) : Bool := byteAt p 0 == 94 && decide (0 < p.size)

/-- the first match from a place on: its start, its end and its captures -/
def searchFrom (s p : ByteArray) (si : Nat) : Nat → Except String (Option (Nat × Nat × Captures))
  | 0 => .ok none
  | fuel + 1 =>
    match matchAt s p si (if isAnchored p then 1 else 0) with
    | .error e => .error e
    | .ok (some (e, cs)) => .ok (some (si, e, cs))
    | .ok none =>
      if isAnchored p || s.size ≤ si then .ok none else searchFrom s p (si + 1) fuel

/-- the first match from a place on -/
def search (s p : ByteArray) (si : Nat) : Except String (Option (Nat × Nat × Captures)) :=
  searchFrom s p si (s.size + 2)

def captureValue (s : ByteArray) : Nat × Extent → Except String Value
  | (start, .place) => .ok (.int (start + 1))
  | (start, .bytes n) => .ok (.str (s.extract start (start + n)))
  | (_, .pending) => .error "unfinished capture"

/-- the values of the captures of a match, or of the whole match if there are none -/
def values (s : ByteArray) (start finish : Nat) (cs : Captures) : Except String (List Value) :=
  if cs.isEmpty then .ok [.str (s.extract start finish)] else cs.mapM (captureValue s)

end Pattern

end ScriptGuard.Machine
