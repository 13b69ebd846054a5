import ScriptGuard.Text

/-!
# Categories and approvals

The operations that need an approval, and the approvals of the whole process.
-/

namespace ScriptGuard

/-!
## Categories of dangerous operations

Operations that need an approval before they are performed: typing text, and any operation of a
run that is faster than the set threshold.
-/

inductive Category where
  | textInjection
  | rapidInput
deriving DecidableEq, Repr, Inhabited

namespace Category

def all : List Category := [textInjection, rapidInput]

def name : Category → String
  | textInjection => "text_injection"
  | rapidInput => "rapid_input"

def title : Category → String
  | textInjection => "TextInjection"
  | rapidInput => "RapidInput"

def ofText? (s : String) : Except NameError Category :=
  let word := Text.keyword s
  if word = "text_injection" then .ok textInjection
  else if word = "rapid_input" then .ok rapidInput
  else .error (.category word)

end Category

/-!
## Approvals

The categories approved in the whole process, and the handler that is asked about the others. An
approval is remembered, a denial is not; a handler that breaks down, or none at all, denies.
-/

structure Question where
  category : Category
  context : String
deriving DecidableEq, Repr

inductive Verdict where
  | approved
  | denied
  | brokeDown
deriving DecidableEq, Repr

/-- only a plain yes grants -/
def Verdict.grants : Verdict → Bool
  | approved => true
  | _ => false

structure Approvals where
  categories : List Category := []
deriving DecidableEq, Repr, Inhabited

namespace Approvals

def has (a : Approvals) (c : Category) : Bool := a.categories.contains c

def approve (a : Approvals) (c : Category) : Approvals :=
  if a.has c then a else ⟨a.categories ++ [c]⟩

/-- the approved categories in the order of the categories -/
def list (a : Approvals) : List Category := Category.all.filter a.has

/-- the answer to a request, the question that was put to the handler, if any, and the approvals
afterwards -/
def request (a : Approvals) (handler : Option (Question → Verdict)) (q : Question) :
    Bool × Option Question × Approvals :=
  if a.has q.category then (true, none, a)
  else
    match handler with
    | none => (false, none, a)
    | some ask =>
      if (ask q).grants then (true, some q, a.approve q.category) else (false, some q, a)

@[simp] theorem has_approve (a : Approvals) (c d : Category) :
    (a.approve c).has d = (a.has d || d == c) := by
  unfold approve
  split
  · next h =>
    by_cases hd : d = c
    · subst hd; simp [h]
    · simp [hd]
  · simp only [has, List.contains_eq_mem, List.mem_append, List.mem_singleton, Bool.decide_or]
    rfl

theorem request_of_has {a : Approvals} {q : Question} (h : a.has q.category = true)
    (handler : Option (Question → Verdict)) : a.request handler q = (true, none, a) := if_pos h

theorem request_none {a : Approvals} {q : Question} (h : a.has q.category = false) :
    a.request none q = (false, none, a) := if_neg (by simp [h])

theorem request_some {a : Approvals} {q : Question} (h : a.has q.category = false)
    (ask : Question → Verdict) : a.request (some ask) q =
      ((ask q).grants, some q, if (ask q).grants then a.approve q.category else a) := by
  have hasks : a.request (some ask) q =
      if (ask q).grants then (true, some q, a.approve q.category) else (false, some q, a) :=
    if_neg (by simp [h])
  rw [hasks]
  cases (ask q).grants <;> rfl

end Approvals

end ScriptGuard
