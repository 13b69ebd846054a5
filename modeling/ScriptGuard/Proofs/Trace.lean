import ScriptGuard.Proofs.Permission

/-!
# Traces

A list of moves as a list of strides: each move with the system that it met and the one that it
left.  What is said about the steps of one run or of one request, in the order in which they were
taken, is read off it.

* `System.trace s ms`       the strides of the moves `ms` from `s` on;
* `trace_induction`         what holds before the first stride and is kept by every other one;
* `System.course s n ms`    the strides of the request of number `n`;
* `System.answer? s n`      what this request has been answered;
* `course_induction`        the same induction over the strides of one request, whatever others do
                            between them;
* `System.Spares s n s'`    between two systems the request has done nothing but answer.
-/

namespace ScriptGuard

structure Stride where
  before : System
  move : Move
  after : System

def Stride.isOf (n : Nat) (x : Stride) : Bool :=
  match x.move with
  | .proceed k _ => k == n
  | _ => false

def Entry.answer? (n : Nat) : Entry → Option Answer
  | .caller k (.closed a) => if k = n then some a else none
  | _ => none

namespace System

/-- the strides of a list of moves, as far as they are possible -/
def trace : System → List Move → List Stride
  | _, [] => []
  | s, m :: ms =>
    match s.step? m with
    | none => []
    | some s' => ⟨s, m, s'⟩ :: trace s' ms

def course (s : System) (n : Nat) (ms : List Move) : List Stride :=
  (s.trace ms).filter (Stride.isOf n)

def answer? (s : System) (n : Nat) : Option Answer := s.log.findSome? (Entry.answer? n)

section
variable {s s₁ s' t : System} {m : Move} {ms ms' : List Move} {x : Stride} {n : Nat}

@[simp] theorem trace_nil (s : System) : s.trace [] = [] := rfl

theorem trace_cons (h : s.step? m = some s₁) (ms : List Move) :
    s.trace (m :: ms) = ⟨s, m, s₁⟩ :: s₁.trace ms := by
  rw [trace, h]

theorem trace_induction {P : List Stride → System → Prop}
    (step : ∀ {past : List Stride} {t t' : System} {m : Move}, P past t → t.step? m = some t' →
      P (past ++ [⟨t, m, t'⟩]) t')
    (start : P [] s) (h : s.play? ms = some s') : P (s.trace ms) s' := by
  suffices hP : ∀ past, P past s → P (past ++ s.trace ms) s' by simpa using hP [] start
  clear start
  induction ms generalizing s with
  | nil =>
    cases h
    intro past hp
    simpa using hp
  | cons m ms ih =>
    obtain ⟨s₁, h₁, h₂⟩ := exists_of_play?_cons h
    intro past hp
    have hnext := ih h₂ _ (step hp h₁)
    rwa [List.append_assoc, List.singleton_append, ← trace_cons h₁] at hnext

/-- the moves up to a stride, and those after it -/
theorem exists_of_trace_eq_append {past rest : List Stride} (h : s.trace ms = past ++ x :: rest) :
    ∃ ms₁ ms₂, ms = ms₁ ++ x.move :: ms₂ ∧ s.trace ms₁ = past ∧ s.play? ms₁ = some x.before ∧
      x.before.step? x.move = some x.after := by
  induction ms generalizing s past with
  | nil => simp at h
  | cons m ms ih =>
    cases hm : s.step? m with
    | none => simp [trace, hm] at h
    | some s₁ =>
      rw [trace_cons hm] at h
      cases past with
      | nil =>
        cases h
        exact ⟨[], ms, rfl, rfl, rfl, hm⟩
      | cons y past =>
        obtain ⟨rfl, hrest⟩ := List.cons.inj h
        obtain ⟨ms₁, ms₂, rfl, htrace, hplay, hstep⟩ := ih hrest
        refine ⟨m :: ms₁, ms₂, rfl, ?_, ?_, hstep⟩
        · rw [trace_cons hm, htrace]
        · rw [play?_cons, hm, Option.bind_some, hplay]

theorem exists_of_mem_trace (hx : x ∈ s.trace ms) :
    ∃ ms₁ ms₂, ms = ms₁ ++ x.move :: ms₂ ∧ s.play? ms₁ = some x.before ∧
      x.before.step? x.move = some x.after := by
  obtain ⟨past, rest, h⟩ := List.append_of_mem hx
  obtain ⟨ms₁, ms₂, hms, _, hplay, hstep⟩ := exists_of_trace_eq_append h
  exact ⟨ms₁, ms₂, hms, hplay, hstep⟩

theorem Reachable.of_mem_trace (hs : s.Reachable) (hx : x ∈ s.trace ms) : x.before.Reachable := by
  obtain ⟨_, _, _, hplay, _⟩ := exists_of_mem_trace hx
  exact hs.play hplay

theorem step?_of_mem_trace (hx : x ∈ s.trace ms) : x.before.step? x.move = some x.after := by
  obtain ⟨_, _, _, _, hstep⟩ := exists_of_mem_trace hx
  exact hstep

/-! ## the strides of one request -/

section
variable (s : System) (n k : Nat) (t : Task) (a : Answer)

@[simp] theorem answer?_goOn : (s.goOn n t).answer? k = s.answer? k := rfl

@[simp] theorem answer?_quit : (s.quit n).answer? k = s.answer? k := rfl

@[simp] theorem answer?_close : (s.close n a).answer? n = some a := by
  show List.findSome? _ (Entry.caller n (.closed a) :: s.log) = _
  rw [List.findSome?_cons, Entry.answer?, if_pos rfl]

@[simp] theorem answer?_note_run (i : RunId) (d : Deed) :
    (s.note n (.run i d)).answer? k = s.answer? k := rfl

@[simp] theorem answer?_onSession (i : RunId) (f : Session → Session) :
    (s.onSession i f).answer? k = s.answer? k := rfl

end

theorem answer?_aside (h : s.step? m = some s') (hm : ∀ reply, m ≠ .proceed n reply) :
    s'.answer? n = s.answer? n := by
  obtain ⟨es, hlog, hes⟩ := log_step h
  have hnone : es.findSome? (Entry.answer? n) = none := by
    rw [List.findSome?_eq_none_iff]
    intro e he
    unfold Entry.answer?
    split
    · rw [if_neg]
      rintro rfl
      obtain ⟨reply, hmove⟩ := hes _ _ he
      exact hm reply hmove
    · rfl
  rw [answer?, hlog, List.findSome?_append, hnone, Option.none_or, answer?]

theorem answer?_eq_none (h : ∀ a, Entry.caller n (.closed a) ∉ s.log) : s.answer? n = none := by
  rw [answer?, List.findSome?_eq_none_iff]
  intro e he
  unfold Entry.answer?
  split
  · rw [if_neg]
    rintro rfl
    exact h _ he
  · rfl

theorem Reachable.unanswered (hs : s.Reachable) {t : Task} (ht : s.task? n = some t) :
    s.answer? n = none :=
  answer?_eq_none fun a => hs.numbered.unanswered _ (mem_of_task? ht) a

theorem task?_ask (s : System) (q : Request) :
    (s.ask q).task? s.nextTask = some (firstTask q) := by
  simp [task?, ask]

theorem exists_step {task : Task} (ht : s.task? n = some task) (reply : CallerReply)
    (h : (s.taskStep? n task reply).isSome = true) :
    ∃ reply t, s.step? (.proceed n reply) = some t := by
  obtain ⟨t, h⟩ := Option.isSome_iff_exists.1 h
  exact ⟨reply, t, by rw [step?_of_task? ht, h]⟩

/-- **An induction over the strides of one request.**  Between them anything may happen. -/
theorem course_induction {P : List Stride → Option Task → Option Answer → Prop} {q : Request}
    (hs : s.Reachable) (start : P [] (some (firstTask q)) none)
    (step : ∀ {past : List Stride} {t t' : System} {task : Task} {reply : CallerReply},
      P past (some task) none → t.Reachable → t.task? s.nextTask = some task →
      t.answer? s.nextTask = none → (∀ x ∈ past, ∃ ms, x.after.play? ms = some t) →
      RequestStep t s.nextTask task reply t' →
      P (past ++ [⟨t, .proceed s.nextTask reply, t'⟩]) (t'.task? s.nextTask)
        (t'.answer? s.nextTask))
    (h : (s.ask q).play? ms = some s') :
    P ((s.ask q).course s.nextTask ms) (s'.task? s.nextTask) (s'.answer? s.nextTask) := by
  have hask : s.step? (.request q) = some (s.ask q) := rfl
  refine (trace_induction (P := fun past t => t.Reachable ∧ s.nextTask < t.nextTask ∧
    (∀ x ∈ past, ∃ ms, x.after.play? ms = some t) ∧
    P (past.filter (Stride.isOf s.nextTask)) (t.task? s.nextTask) (t.answer? s.nextTask)) ?_ ?_
    h).2.2.2
  · rintro past t t' m ⟨ht, hn, hleads, hP⟩ hstep
    refine ⟨ht.step hstep, Nat.lt_of_lt_of_le hn (nextTask_step hstep), fun x hx => ?_, ?_⟩
    · rcases List.mem_append.1 hx with hx | hx
      · obtain ⟨ms, hplay⟩ := hleads x hx
        exact ⟨ms ++ [m], by rw [play?_append, hplay, Option.bind_some, play?_singleton hstep]⟩
      · obtain rfl := List.mem_singleton.1 hx
        exact ⟨[], rfl⟩
    rw [List.filter_append]
    by_cases hm : ∃ reply, m = .proceed s.nextTask reply
    · obtain ⟨reply, rfl⟩ := hm
      obtain ⟨task, htask, hr⟩ := requestStep hstep
      have hnone := ht.unanswered htask
      rw [htask, hnone] at hP
      have hown : Stride.isOf s.nextTask ⟨t, .proceed s.nextTask reply, t'⟩ = true :=
        beq_self_eq_true _
      rw [List.filter_cons_of_pos hown]
      exact step hP ht htask hnone (fun x hx => hleads x (List.mem_of_mem_filter hx)) hr
    · have haside : ∀ reply, m ≠ .proceed s.nextTask reply := fun reply he => hm ⟨reply, he⟩
      have hother : ¬ Stride.isOf s.nextTask ⟨t, m, t'⟩ = true := by
        cases m with
        | proceed k reply =>
          have hk : k ≠ s.nextTask := fun e => haside reply (by rw [e])
          simpa [Stride.isOf] using hk
        | _ => simp [Stride.isOf]
      rw [List.filter_cons_of_neg hother, List.filter_nil, List.append_nil,
        task?_aside hstep hn haside, answer?_aside hstep haside]
      exact hP
  · refine ⟨hs.step hask, Nat.lt_succ_self _, List.forall_mem_nil _, ?_⟩
    have hnone : (s.ask q).answer? s.nextTask = none :=
      answer?_eq_none fun a => hs.numbered.ahead _ _ (Nat.le_refl _)
    rw [task?_ask, hnone]
    exact start

/-! ## requests that leave everything alone -/

/-- between two systems the request of a number has done nothing but answer, and nobody else has
done anything -/
structure Spares (s : System) (n : Nat) (s' : System) : Prop where
  settings : s'.settings = s.settings
  killSwitch : s'.killSwitch = s.killSwitch
  approvals : s'.approvals = s.approvals
  handler : s'.handler = s.handler
  registry : s'.registry = s.registry
  totals : s'.totals = s.totals
  runs : s'.runs = s.runs
  clock : s'.clock = s.clock
  others : ∀ k, k ≠ n → s'.task? k = s.task? k
  log : ∃ as : List Answer, s'.log = as.map (fun a => Entry.caller n (.closed a)) ++ s.log

theorem Spares.refl (s : System) (n : Nat) : s.Spares n s :=
  ⟨rfl, rfl, rfl, rfl, rfl, rfl, rfl, rfl, fun _ _ => rfl, [], rfl⟩

theorem Spares.trans (h : s.Spares n t) (h' : t.Spares n s') : s.Spares n s' where
  settings := h'.settings.trans h.settings
  killSwitch := h'.killSwitch.trans h.killSwitch
  approvals := h'.approvals.trans h.approvals
  handler := h'.handler.trans h.handler
  registry := h'.registry.trans h.registry
  totals := h'.totals.trans h.totals
  runs := h'.runs.trans h.runs
  clock := h'.clock.trans h.clock
  others := fun k hk => (h'.others k hk).trans (h.others k hk)
  log := by
    obtain ⟨as, has⟩ := h.log
    obtain ⟨as', has'⟩ := h'.log
    exact ⟨as' ++ as, by rw [has', has, List.map_append, List.append_assoc]⟩

theorem spares_goOn (s : System) (n : Nat) (t : Task) : s.Spares n (s.goOn n t) :=
  ⟨rfl, rfl, rfl, rfl, rfl, rfl, rfl, rfl, fun k hk => by rw [task?_of_goOn rfl, if_neg hk], [],
    rfl⟩

theorem spares_close (s : System) (n : Nat) (a : Answer) : s.Spares n (s.close n a) :=
  ⟨rfl, rfl, rfl, rfl, rfl, rfl, rfl, rfl, fun k hk => by rw [task?_of_quit rfl, if_neg hk], [a],
    rfl⟩

theorem spares_ask (s : System) (q : Request) : s.Spares s.nextTask (s.ask q) :=
  ⟨rfl, rfl, rfl, rfl, rfl, rfl, rfl, rfl, fun k hk => by
    rw [task?, ask, List.find?_cons_of_neg (by simpa using Ne.symm hk), task?], [], rfl⟩

/-- a request that is left to itself and leaves everything alone -/
theorem spares_of_alone (ha : ∀ m ∈ ms, ∃ reply, m = .proceed n reply)
    (hx : ∀ x ∈ s.course n ms, x.before.Spares n x.after) (h : s.play? ms = some s') :
    s.Spares n s' := by
  induction ms generalizing s with
  | nil =>
    cases h
    exact Spares.refl _ n
  | cons m ms ih =>
    obtain ⟨s₁, h₁, h₂⟩ := exists_of_play?_cons h
    obtain ⟨reply, rfl⟩ := ha m List.mem_cons_self
    have hown : Stride.isOf n ⟨s, .proceed n reply, s₁⟩ = true := beq_self_eq_true _
    rw [course, trace_cons h₁, List.filter_cons_of_pos hown, List.forall_mem_cons] at hx
    exact hx.1.trans (ih (fun m' hm' => ha m' (List.mem_cons_of_mem _ hm')) hx.2 h₂)

end

end System

end ScriptGuard
