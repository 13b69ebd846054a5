import ScriptGuard.Proofs.Isolation
import ScriptGuard.Proofs.Trace

/-!
# Whether a command is available

`System.isAvailable` looks at the registry and at a session from outside.  A request to control a
run looks for the run, enters its session and goes on to publish a state or to release what is held;
Terminate does the first two in one step.  The two agree.

* `Session.accepts`       the answer of a session to the question whether a command is available;
* `control_accepts`       it says which commands the session applies;
* `System.Commanding`     how far a request to control a run has come: the invariant;
* `System.Foretells`      the request is answered with yes if and only if the command was available,
                          and with anything else it leaves everything as it was;
* `foretells_of_play`     all requests to control a run are so.
-/

namespace ScriptGuard

namespace Session

def accepts (x : Session) (c : Command) : Bool :=
  c.isAvailable x.mode x.state && (c == .terminate || x.abort.isNone)

section
variable {x : Session} {c : Command}

/-- **What a session is asked about a command is what it does with it.** -/
theorem control_accepts : (∃ shown, (x.control c).1 = .applied shown) ↔ x.accepts c = true := by
  constructor
  · rintro ⟨shown, h⟩
    rcases x.control_cases c with ⟨_, hn⟩ | ⟨_, ha, hs⟩
    · exact absurd h (hn shown)
    · rw [accepts, ha, Bool.true_and]
      by_cases hc : c = .terminate
      · simp [hc]
      · simp [hs hc]
  · intro h
    rw [accepts, Bool.and_eq_true] at h
    obtain ⟨ha, hs⟩ := h
    have hmode : ¬ (c.needsInteractive && !x.mode.isInteractive) = true := by
      intro hm
      unfold Command.isAvailable at ha
      simp_all
    have hslot : ¬ (c ≠ .terminate ∧ x.abort.isSome = true) := by
      rintro ⟨hc, hset⟩
      simp_all
    exact ⟨shownBy c, by rw [control, if_neg hmode, if_neg hslot, if_pos ha]⟩

theorem accepts_eq_false (hn : ∀ shown, (x.control c).1 ≠ .applied shown) :
    x.accepts c = false := by
  rw [Bool.eq_false_iff]
  intro ha
  obtain ⟨shown, h⟩ := control_accepts.2 ha
  exact hn shown h

theorem accepts_terminate (hn : ∀ state, (x.control .terminate).1 ≠ .refused state) :
    x.accepts .terminate = true := by
  by_contra ha
  have hav : ¬ Command.terminate.isAvailable x.mode x.state = true := by
    intro hav
    exact ha (by rw [accepts, hav]; rfl)
  refine hn x.state ?_
  rw [control, if_neg (by simp [Command.needsInteractive]), if_neg (by simp), if_neg hav]

end

end Session

namespace System

inductive Rejects (id : String) (c : Command) : Answer → Prop
  | ignored : Rejects id c (.said false)
  | missing : Rejects id c (.refused (.noSession id))
  | unavailable {state : RunState} : Rejects id c (.refused (.unavailable c state))

/-- the strides have come to a session and found the command available there or not, or they have
found no session -/
inductive Decides (n : Nat) (id : String) (c : Command) : List Stride → Bool → Prop
  | missing {x : Stride} (hx : x.before.active? id = none) : Decides n id c [x] false
  /-- first the run is looked for, then its session is entered -/
  | put {x y : Stride} {rest : List Stride} {i : RunId} {r : Run}
      (hx : x.before.active? id = some i) (hs : x.before.Spares n x.after)
      (hr : y.before.runs[i]? = some r) : Decides n id c (x :: y :: rest) (r.session.accepts c)
  /-- both in one step -/
  | cut {x : Stride} {rest : List Stride} {i : RunId} {r : Run} (hc : c = .terminate)
      (hx : x.before.active? id = some i) (hr : x.before.runs[i]? = some r) :
      Decides n id c (x :: rest) (r.session.accepts c)

/-- what is still to be done, after so many strides, when the command has been applied -/
inductive Awaits : Nat → Task → Prop
  | announce {i : RunId} {state : RunState} : Awaits 2 (.announce i state)
  | free {i : RunId} : Awaits 1 (.free i)
  | freeing {i : RunId} : Awaits 2 (.freeing i)

/-- how far a request to control a run has come: its strides, its next stage and its answer -/
inductive Commanding (n : Nat) (id : String) (c : Command) :
    List Stride → Option Task → Option Answer → Prop
  | look (hc : c ≠ .terminate) : Commanding n id c [] (some (.look id c)) none
  | cut (hc : c = .terminate) : Commanding n id c [] (some (.cut id)) none
  | found {x : Stride} {i : RunId} (hx : x.before.active? id = some i)
      (hs : x.before.Spares n x.after) : Commanding n id c [x] (some (.apply i c)) none
  | granted {own : List Stride} {task : Task} (h : Decides n id c own true)
      (ht : Awaits own.length task) : Commanding n id c own (some task) none
  | done {own : List Stride} (h : Decides n id c own true) :
      Commanding n id c own none (some (.said true))
  | lost {own : List Stride} {x : Stride} (h : Decides n id c own true) (hx : x ∈ own)
      (hm : x.move = .proceed n (.device .brokeDown)) : Commanding n id c own none none
  | rejected {own : List Stride} {a : Answer} (h : Decides n id c own false)
      (ha : Rejects id c a) (hs : ∀ x ∈ own, x.before.Spares n x.after) :
      Commanding n id c own none (some a)

section
variable {s s' t t' : System} {ms : List Move} {n : Nat} {id : String} {c : Command} {b : Bool}
  {past own : List Stride} {x : Stride} {task : Task} {reply : CallerReply} {i : RunId} {r : Run}
  {a : Answer}

theorem isAvailable_of_none (ha : s.active? id = none) : s.isAvailable id c = false := by
  rw [isAvailable, session?, ha]
  rfl

theorem isAvailable_of_run (ha : s.active? id = some i) (hr : s.runs[i]? = some r) :
    s.isAvailable id c = r.session.accepts c := by
  rw [isAvailable, session?, ha, Option.bind_some, hr]
  rfl

/-- once a command has been found available, the strides that follow decide nothing -/
theorem Decides.append (h : Decides n id c own true) (xs : List Stride) :
    Decides n id c (own ++ xs) true := by
  generalize hb : true = b at h ⊢
  cases h with
  | missing => cases hb
  | put hx hs hr => exact .put hx hs hr
  | cut hc hx hr => exact .cut hc hx hr

/-- a command that is not applied leaves everything alone -/
theorem spares_of_rejected (hr : t.runs[i]? = some r)
    (hn : ∀ shown, (r.session.control c).1 ≠ .applied shown) :
    t.Spares n ((t.onSession i fun _ => (r.session.control c).2).close n a) := by
  have hsame : (r.session.control c).2 = r.session := by
    rcases r.session.control_cases c with ⟨h, _⟩ | ⟨h, _⟩
    · exact h
    · exact absurd (by rw [h]) (hn (Session.shownBy c))
  rw [hsame, onSession_self hr]
  exact spares_close t n a

theorem Commanding.rejects (hno : ∀ shown, (r.session.control c).1 ≠ .applied shown)
    (hd : Decides n id c own (r.session.accepts c)) (ha : Rejects id c a)
    (hs : ∀ x ∈ own, x.before.Spares n x.after) : Commanding n id c own none (some a) := by
  rw [Session.accepts_eq_false hno] at hd
  exact .rejected hd ha hs

theorem Commanding.step_look (hn : t.answer? n = none)
    (hr : RequestStep t n (.look id c) reply t') :
    Commanding n id c [⟨t, .proceed n reply, t'⟩] (t'.task? n) (t'.answer? n) := by
  cases hr with
  | missing ha =>
    rw [task?_close, answer?_close]
    exact .rejected (.missing ha) .missing (List.forall_mem_singleton.2 (spares_close _ _ _))
  | found ha =>
    rw [task?_goOn, answer?_goOn, hn]
    exact .found ha (spares_goOn _ _ _)

theorem Commanding.step_cut (hn : t.answer? n = none)
    (hr : RequestStep t n (.cut id) reply t') :
    Commanding n id .terminate [⟨t, .proceed n reply, t'⟩] (t'.task? n) (t'.answer? n) := by
  cases hr with
  | cutMissing ha =>
    rw [task?_close, answer?_close]
    exact .rejected (.missing ha) .missing (List.forall_mem_singleton.2 (spares_close _ _ _))
  | @cutRefused _ i r state ha hrun hctl =>
    have hno : ∀ shown, (r.session.control .terminate).1 ≠ .applied shown := by simp [hctl]
    rw [task?_close, answer?_close]
    exact .rejects hno (.cut rfl ha hrun) .unavailable
      (List.forall_mem_singleton.2 (spares_of_rejected hrun hno))
  | cuts ha hrun hctl =>
    rw [task?_goOn, answer?_goOn, answer?_onSession, hn]
    refine .granted ?_ .free
    rw [← Session.accepts_terminate hctl]
    exact .cut rfl ha hrun

theorem Commanding.step_apply (hx : x.before.active? id = some i)
    (hs : x.before.Spares n x.after) (hn : t.answer? n = none)
    (hr : RequestStep t n (.apply i c) reply t') :
    Commanding n id c [x, ⟨t, .proceed n reply, t'⟩] (t'.task? n) (t'.answer? n) := by
  cases hr with
  | @ignored _ _ r hrun hctl =>
    have hno : ∀ shown, (r.session.control c).1 ≠ .applied shown := by simp [hctl]
    rw [task?_close, answer?_close]
    exact .rejects hno (.put hx hs hrun) .ignored (by simp [hs, spares_of_rejected hrun hno])
  | @refused _ _ r state hrun hctl =>
    have hno : ∀ shown, (r.session.control c).1 ≠ .applied shown := by simp [hctl]
    rw [task?_close, answer?_close]
    exact .rejects hno (.put hx hs hrun) .unavailable (by simp [hs, spares_of_rejected hrun hno])
  | applied hrun hctl =>
    rw [task?_close, answer?_close]
    refine .done ?_
    rw [← Session.control_accepts.1 ⟨_, hctl⟩]
    exact .put hx hs hrun
  | shown hrun hctl =>
    rw [task?_goOn, answer?_goOn, answer?_onSession, hn]
    refine .granted ?_ .announce
    rw [← Session.control_accepts.1 ⟨_, hctl⟩]
    exact .put hx hs hrun

/-- what is left to do once the command has been applied -/
theorem Commanding.step_awaits (h : Decides n id c past true) (ht : Awaits past.length task)
    (hn : t.answer? n = none) (hr : RequestStep t n task reply t') :
    Commanding n id c (past ++ [⟨t, .proceed n reply, t'⟩]) (t'.task? n) (t'.answer? n) := by
  generalize hlen : past.length = k at ht
  cases ht with
  | announce =>
    cases hr with
    | announced =>
      rw [task?_close, answer?_close]
      exact .done (h.append _)
  | free =>
    cases hr with
    | frees =>
      rw [task?_goOn, answer?_goOn, answer?_note_run, hn]
      refine .granted (h.append _) ?_
      rw [List.length_append, hlen]
      exact .freeing
  | freeing =>
    cases hr with
    | freed =>
      rw [task?_close, answer?_close]
      exact .done (h.append _)
    | freeBroke =>
      rw [task?_quit, answer?_quit, answer?_note_run, hn]
      exact .lost (h.append _) (List.mem_append_right _ List.mem_cons_self) rfl

theorem Commanding.step (h : Commanding n id c past (some task) none) (hn : t.answer? n = none)
    (hr : RequestStep t n task reply t') :
    Commanding n id c (past ++ [⟨t, .proceed n reply, t'⟩]) (t'.task? n) (t'.answer? n) := by
  cases h with
  | look => exact .step_look hn hr
  | cut hc =>
    subst hc
    exact .step_cut hn hr
  | found hx hs => exact .step_apply hx hs hn hr
  | granted h ht => exact .step_awaits h ht hn hr

theorem commanding_of_play (hs : s.Reachable)
    (h : (s.ask (.control id c)).play? ms = some s') :
    Commanding s.nextTask id c ((s.ask (.control id c)).course s.nextTask ms)
      (s'.task? s.nextTask) (s'.answer? s.nextTask) := by
  refine course_induction hs ?_ (fun hP _ _ hn _ hr => hP.step hn hr) h
  cases c with
  | terminate => exact .cut rfl
  | _ => exact .look nofun

/-! ## a request that is left to itself -/

theorem Spares.isAvailable_eq (h : s.Spares n t) : t.isAvailable id c = s.isAvailable id c := by
  rw [isAvailable, isAvailable, session?, session?, active?, active?, h.registry, h.runs]

theorem trace_eq_cons (h : s.trace ms = x :: own) :
    x.before = s ∧ ∃ ms', own = x.after.trace ms' := by
  cases ms with
  | nil => cases h
  | cons m ms =>
    cases hstep : s.step? m with
    | none => simp [trace, hstep] at h
    | some s₁ =>
      rw [trace_cons hstep] at h
      cases h
      exact ⟨rfl, ms, rfl⟩

/-- if nobody else moves, what the strides find is what is asked before -/
theorem Decides.isAvailable_eq (h : Decides n id c own b) (ho : s.trace ms = own) :
    s.isAvailable id c = b := by
  cases h with
  | missing hx =>
    obtain ⟨rfl, _⟩ := trace_eq_cons ho
    exact isAvailable_of_none hx
  | put hx hs hr =>
    -- the session is entered in the second stride, and the first one has changed nothing
    obtain ⟨rfl, ms', ho'⟩ := trace_eq_cons ho
    obtain ⟨hy, _⟩ := trace_eq_cons ho'.symm
    rw [← hs.isAvailable_eq, ← hy]
    refine isAvailable_of_run ?_ hr
    rw [hy, active?, hs.registry]
    exact hx
  | cut _ hx hr =>
    obtain ⟨rfl, _⟩ := trace_eq_cons ho
    exact isAvailable_of_run hx hr

theorem course_of_alone (ha : ∀ m ∈ ms, ∃ reply, m = .proceed n reply) :
    s.course n ms = s.trace ms := by
  refine List.filter_eq_self.2 fun x hx => ?_
  obtain ⟨ms₁, ms₂, rfl, _⟩ := exists_of_mem_trace hx
  obtain ⟨reply, hm⟩ := ha x.move (by simp)
  rw [Stride.isOf, hm]
  exact beq_self_eq_true n

/-! ## what the request comes to -/

/-- what a request to control a run is answered, and what `System.isAvailable` says about it -/
structure Foretells (s : System) (id : String) (c : Command) (ms : List Move) (s' : System) :
    Prop where
  /-- it is answered with yes if and only if the command was available -/
  agrees : (∀ m ∈ ms, ∃ reply, m = .proceed s.nextTask reply) →
    ∀ a, s'.answer? s.nextTask = some a → (a = .said true ↔ s.isAvailable id c = true)
  /-- if others move too, the session that it comes to decides -/
  decides : ∀ a, s'.answer? s.nextTask = some a → ∃ b,
    Decides s.nextTask id c ((s.ask (.control id c)).course s.nextTask ms) b ∧
      (b = true ∧ a = .said true ∨ b = false ∧ Rejects id c a)
  /-- any other answer than yes leaves everything as it was -/
  spares : ∀ a, s'.answer? s.nextTask = some a → a ≠ .said true →
    ∀ x ∈ (s.ask (.control id c)).course s.nextTask ms, x.before.Spares s.nextTask x.after
  alone : (∀ m ∈ ms, ∃ reply, m = .proceed s.nextTask reply) →
    ∀ a, s'.answer? s.nextTask = some a → a ≠ .said true → s.Spares s.nextTask s'
  /-- and nothing keeps it from an answer, unless the device breaks down under Terminate -/
  onward : s'.answer? s.nextTask = none →
    ((s.ask (.control id c)).course s.nextTask ms).length < 3 ∧
      (∃ reply t, s'.step? (.proceed s.nextTask reply) = some t) ∨
    ∃ x ∈ (s.ask (.control id c)).course s.nextTask ms,
      x.move = .proceed s.nextTask (.device .brokeDown)

theorem Commanding.answered {next : Option Task} (h : Commanding n id c own next (some a)) :
    ∃ b, Decides n id c own b ∧
      (b = true ∧ a = .said true ∨
        b = false ∧ Rejects id c a ∧ ∀ x ∈ own, x.before.Spares n x.after) := by
  cases h with
  | done h => exact ⟨true, h, Or.inl ⟨rfl, rfl⟩⟩
  | rejected h ha hs => exact ⟨false, h, Or.inr ⟨rfl, ha, hs⟩⟩

theorem Rejects.ne (h : Rejects id c a) : a ≠ .said true := by
  cases h <;> exact nofun

theorem Awaits.lt {k : Nat} (h : Awaits k task) : k < 3 := by cases h <;> decide

theorem Awaits.exists_step {k : Nat} (h : Awaits k task) (ht : s.task? n = some task) :
    ∃ reply t, s.step? (.proceed n reply) = some t := by
  cases h with
  | announce => exact System.exists_step ht .go rfl
  | free => exact System.exists_step ht .go rfl
  | freeing => exact System.exists_step ht (.device .done) rfl

theorem isSome_applyTask (hr : s.runs[i]? = some r) : (s.applyTask n i c).isSome = true := by
  simp [applyTask, command, hr]

theorem isSome_cutTask (hs : s.Reachable) : (s.cutTask n id).isSome = true := by
  cases ha : s.active? id with
  | none => simp [cutTask, ha]
  | some i =>
    obtain ⟨r, hr, _⟩ := hs.listed.active?_iff.1 ha
    simp [cutTask, ha, command, hr]

/-- one that has not been answered can go on, unless the device has broken down -/
theorem Commanding.onward (hs : s.Reachable)
    (h : Commanding n id c own (s.task? n) none) :
    own.length < 3 ∧ (∃ reply t, s.step? (.proceed n reply) = some t) ∨
      ∃ x ∈ own, x.move = .proceed n (.device .brokeDown) := by
  generalize ht : s.task? n = task at h
  cases h with
  | look hc =>
    refine Or.inl ⟨by simp, exists_step ht .go ?_⟩
    rw [taskStep?]
    cases s.active? id <;> rfl
  | cut hc => exact Or.inl ⟨by simp, exists_step ht .go (isSome_cutTask hs)⟩
  | @found x i hx hsp =>
    obtain ⟨qs, hst⟩ := hs.stems
    obtain ⟨_, r, hr, _⟩ := hst.homed n _ ht i List.mem_cons_self
    exact Or.inl ⟨by simp, exists_step ht .go (isSome_applyTask hr)⟩
  | granted h hw => exact Or.inl ⟨hw.lt, hw.exists_step ht⟩
  | lost _ hx hm => exact Or.inr ⟨_, hx, hm⟩

/-- **A request to control a run is answered with yes if and only if the command was available, and
with any other answer it leaves everything as it was.** -/
theorem foretells_of_play (hs : s.Reachable) (h : (s.ask (.control id c)).play? ms = some s') :
    s.Foretells id c ms s' := by
  have hP := commanding_of_play hs h
  have hanswered {a : Answer} (ha : s'.answer? s.nextTask = some a) := (ha ▸ hP).answered
  refine ⟨fun halone a ha => ?agrees, fun a ha => ?decides, fun a ha hne => ?spares,
    fun halone a ha hne => ?alone, fun hn => ?onward⟩
  case agrees =>
    obtain ⟨b, hd, hb⟩ := hanswered ha
    rw [← (spares_ask s (.control id c)).isAvailable_eq,
      hd.isAvailable_eq (course_of_alone halone).symm]
    rcases hb with ⟨rfl, rfl⟩ | ⟨rfl, hrej, _⟩
    · exact iff_of_true rfl rfl
    · exact iff_of_false hrej.ne nofun
  case decides =>
    obtain ⟨b, hd, ⟨hb, rfl⟩ | ⟨hb, hrej, _⟩⟩ := hanswered ha
    · exact ⟨b, hd, Or.inl ⟨hb, rfl⟩⟩
    · exact ⟨b, hd, Or.inr ⟨hb, hrej⟩⟩
  case spares =>
    obtain ⟨b, _, ⟨_, he⟩ | ⟨_, _, hsp⟩⟩ := hanswered ha
    · exact absurd he hne
    · exact hsp
  case alone =>
    obtain ⟨b, _, ⟨_, he⟩ | ⟨_, _, hsp⟩⟩ := hanswered ha
    · exact absurd he hne
    · exact (spares_ask s _).trans (spares_of_alone halone hsp h)
  case onward =>
    have hask : s.step? (.request (.control id c)) = some (s.ask (.control id c)) := rfl
    exact (hn ▸ hP).onward ((hs.step hask).play h)

/-- a run that was stopped and has not noticed yet -/
def stopping : System :=
  (questioned { mode := .interactive }).after
    [.request (.control "s" .stop), .proceed 2 .go, .proceed 2 .go]

/-- a run that unwinds ignores Pause, and Terminate is still available -/
theorem foretells_of_play_stopping :
    let again : List Move := [.proceed 3 .go, .proceed 3 .go]
    let release : List Move := [.proceed 3 .go, .proceed 3 .go, .proceed 3 (.device .done)]
    let s := stopping.after (.request (.control "s" .pause) :: again)
    let t := stopping.after (.request (.control "s" .terminate) :: release)
    stopping.Foretells "s" .pause again s ∧ s.answer? 3 = some (.said false) ∧
      stopping.isAvailable "s" .pause = false ∧
      stopping.Foretells "s" .terminate release t ∧ t.answer? 3 = some (.said true) ∧
      stopping.isAvailable "s" .terminate = true := by
  intro again release s t
  have hs : stopping.Reachable := (reachable_questioned _).after _
  have hpause : stopping.play? (.request (.control "s" .pause) :: again) = some s :=
    play?_after (by decide +kernel)
  have hterminate : stopping.play? (.request (.control "s" .terminate) :: release) = some t :=
    play?_after (by decide +kernel)
  exact ⟨foretells_of_play hs hpause, rfl, by decide +kernel, foretells_of_play hs hterminate, rfl,
    by decide +kernel⟩

end

end System

end ScriptGuard
