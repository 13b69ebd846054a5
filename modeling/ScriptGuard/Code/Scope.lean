import ScriptGuard.Code.Token
import ScriptGuard.Code.Tree

/-!
# Names and labels in scope

What a parser has to know about the place it has reached: the variables that can be seen, the blocks
around it, their labels, and the jumps whose labels are still to come. A jump may not enter the
scope of a variable; a label at the end of a block counts as outside the scopes of the variables of
that block.
-/

namespace ScriptGuard.Code

/-- a variable in scope; `depth` is the nesting of the function that declares it -/
structure Variable where
  name : String
  depth : Nat
  isConstant : Bool

/-- a jump to a label that has not been seen; `active` counts the variables in scope there -/
structure Jump where
  label : String
  line : Nat
  active : Nat

/-- a block around the current place; `base` counts the variables in scope at its start -/
structure Region where
  base : Nat
  isLoop : Bool
  isFunction : Bool
  isVariadic : Bool
  labels : List (String × Nat) := []
  jumps : List Jump := []

/-- the place a parser has reached; the innermost region and the latest variable come first -/
structure Scope where
  visible : List Variable := []
  regions : List Region := []
  depth : Nat := 0

namespace Scope

def variableLimit : Nat := 200

def find? (s : Scope) (name : String) : Option Variable :=
  s.visible.find? fun v => v.name = name

def reach (s : Scope) (name : String) : Reach :=
  match s.find? name with
  | none => .global
  | some v => if v.depth = s.depth then .inner else .outer

/-- the name means a variable that may not be assigned -/
def isConstant (s : Scope) (name : String) : Bool := (s.find? name).any (·.isConstant)

/-- one more variable; too many are refused -/
def declare? (s : Scope) (name : String) (isConstant : Bool) : Option Scope :=
  let s' := { s with visible := ⟨name, s.depth, isConstant⟩ :: s.visible }
  if variableLimit < (s'.visible.filter fun v => v.depth == s.depth).length then none
  else some s'

def enter (s : Scope) (isLoop : Bool) : Scope :=
  { s with regions := ⟨s.visible.length, isLoop, false, false, [], []⟩ :: s.regions }

def enterFunction (s : Scope) (isVariadic : Bool) : Scope :=
  { s with
    depth := s.depth + 1
    regions := ⟨s.visible.length, false, true, isVariadic, [], []⟩ :: s.regions }

/-- the regions of the current function -/
def ofFunction : List Region → List Region
  | [] => []
  | r :: rest => if r.isFunction then [r] else r :: ofFunction rest

/-- a loop of the current function is around the place -/
def isInLoop (s : Scope) : Bool := (ofFunction s.regions).any (·.isLoop)

/-- the current function takes more arguments than it has parameters -/
def isVariadic (s : Scope) : Bool := (ofFunction s.regions).any (·.isVariadic)

def hasLabel (s : Scope) (name : String) : Bool :=
  (ofFunction s.regions).any fun r => r.labels.any fun l => l.1 = name

def onRegion (s : Scope) (f : Region → Region) : Scope :=
  match s.regions with
  | [] => s
  | r :: rest => { s with regions := f r :: rest }

/-- a jump; it waits if its label has not been seen -/
def jump (s : Scope) (name : String) (line : Nat) : Scope :=
  if s.hasLabel name then s
  else s.onRegion fun r => { r with jumps := ⟨name, line, s.visible.length⟩ :: r.jumps }

/-- a label; the waiting jumps of its block find it, unless one would enter a scope -/
def label? (s : Scope) (name : String) (line : Nat) (isLast : Bool) :
    Except CompileError Scope :=
  match s.regions with
  | [] => .ok s
  | r :: rest =>
    let active := if isLast then r.base else s.visible.length
    if s.hasLabel name then .error ⟨line, "label '" ++ name ++ "' already defined"⟩
    else
      match r.jumps.find? fun j => j.label = name ∧ j.active < active with
      | some j => .error ⟨j.line, "<goto " ++ name ++ "> jumps into the scope of a local"⟩
      | none =>
        let r := { r with
          labels := (name, active) :: r.labels
          jumps := r.jumps.filter fun j => j.label ≠ name }
        .ok { s with regions := r :: rest }

/-- the end of the innermost block; its waiting jumps wait in the block around it -/
def close? (s : Scope) : Except CompileError Scope :=
  match s.regions with
  | [] => .ok s
  | r :: rest =>
    let visible := s.visible.drop (s.visible.length - r.base)
    if r.isFunction then
      match r.jumps with
      | j :: _ => .error ⟨j.line, "no visible label '" ++ j.label ++ "' for goto"⟩
      | [] => .ok ⟨visible, rest, s.depth - 1⟩
    else
      let moved := r.jumps.map fun j => { j with active := r.base }
      .ok (({ s with visible := visible, regions := rest } : Scope).onRegion fun q =>
        { q with jumps := moved ++ q.jumps })

end Scope

end ScriptGuard.Code
