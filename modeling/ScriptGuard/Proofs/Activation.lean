import ScriptGuard.Proofs.RunChange

/-!
# Histories of the kill switch

An activation is not done in one step: the section that looks at the flag and sets it together with
the record, a copy of the list of listeners, and one call after the other.  Between these steps, and
from within a call, other threads and the listeners themselves may do anything to the switch.

* `KillSwitch.Board`       a switch with the activations that turned it on and what has been done,
                           latest first;
* `Board.step?`, `Board.play?`   one step, and any list of steps;
* `Board.whole`            the steps of one activation that nothing interrupts: what
                           `KillSwitch.activate` does;
* `Announced`              how far the listeners of an activation have been told;
* `Board.Sound`            what holds after every list of steps;
* `System.Reasoned`        a service reads the reason of a switch that is on, and never a stopgap;
* `sound_of_play`          both, for every list of steps and every service.
-/

namespace ScriptGuard

namespace KillSwitch

/-- a step of one who uses the switch -/
inductive Act where
  /-- an activation looks at the flag, and sets it with the record if it is off -/
  | engage (reason : String)
  /-- the activation of a number copies the list of listeners -/
  | survey (alarm : Nat)
  /-- it calls the next of them -/
  | tell (alarm : Nat)
  | disengage
  | subscribe (l : Listener)

/-- what has been done; a call of a listener is written down as `announce` lists it -/
inductive Event where
  /-- an activation, and whether it turned the switch on -/
  | engaged (reason : String) (turned : Bool)
  | surveyed (alarm : Nat) (listeners : List Listener)
  | told (alarm : Nat) (call : Nat × String × Reaction)
  /-- a deactivation, and whether the switch was on -/
  | disengaged (was : Bool)
  | subscribed (l : Listener)

namespace Event

def act : Event → Act
  | engaged reason _ => .engage reason
  | surveyed n _ => .survey n
  | told n _ => .tell n
  | disengaged _ => .disengage
  | subscribed l => .subscribe l

def flag? : Event → Option Bool
  | engaged _ true => some true
  | disengaged _ => some false
  | _ => none

def reason? : Event → Option String
  | engaged reason true => some reason
  | _ => none

def answer? : Event → Option Bool
  | engaged _ turned => some turned
  | _ => none

def listener? : Event → Option Listener
  | subscribed l => some l
  | _ => none

def call? : Event → Option (Nat × String × Reaction)
  | told _ call => some call
  | _ => none

/-- the number of the activation that copies the list or calls a listener -/
def alarm? : Event → Option Nat
  | surveyed n _ => some n
  | told n _ => some n
  | _ => none

/-- a call made by the activation of a number -/
def callOf? (n : Nat) : Event → Option (Nat × String × Reaction)
  | told k call => if k = n then some call else none
  | _ => none

end Event

/-! ## what a history says, its latest event first -/

def isOn (log : List Event) : Bool := (log.findSome? Event.flag?).getD false

/-- the reason of the last activation that turned the switch on -/
def lastReason (log : List Event) : Option String := log.findSome? Event.reason?

/-- the number of activations that turned the switch on -/
def turns (log : List Event) : Nat := (log.filterMap Event.reason?).length

/-- the listeners in the order of their subscription -/
def subscribers (log : List Event) : List Listener := log.reverse.filterMap Event.listener?

def answers (log : List Event) : List Bool := log.reverse.filterMap Event.answer?

/-- the calls made by the activation of a number, in their order -/
def callsOf (n : Nat) (log : List Event) : List (Nat × String × Reaction) :=
  log.reverse.filterMap (Event.callOf? n)

/-! ## steps -/

/-- an activation that turned the switch on: its reason, and the listeners it has still to tell
once it has copied the list -/
structure Alarm where
  reason : String
  pending : Option (List Listener) := none

/-- a switch, the activations that turned it on, and what has been done, latest first -/
structure Board where
  switch : KillSwitch := {}
  alarms : List Alarm := []
  log : List Event := []

namespace Board

/-- the board after a step, if it is possible now; the call of a listener that breaks down is over
like any other -/
def step? (b : Board) : Act → Option Board
  | .engage reason =>
    match b.switch.engage reason with
    | (true, k) => some ⟨k, b.alarms ++ [{ reason := reason }], .engaged reason true :: b.log⟩
    | (false, k) => some ⟨k, b.alarms, .engaged reason false :: b.log⟩
  | .survey n =>
    match b.alarms[n]? with
    | some ⟨reason, none⟩ =>
      some ⟨b.switch, b.alarms.set n ⟨reason, some b.switch.listeners⟩,
        .surveyed n b.switch.listeners :: b.log⟩
    | _ => none
  | .tell n =>
    match b.alarms[n]? with
    | some ⟨reason, some (l :: ls)⟩ =>
      some ⟨b.switch, b.alarms.set n ⟨reason, some ls⟩,
        .told n (l.number, reason, l.react) :: b.log⟩
    | _ => none
  | .disengage =>
    let (was, k) := b.switch.disengage
    some ⟨k, b.alarms, .disengaged was :: b.log⟩
  | .subscribe l => some ⟨b.switch.subscribe l, b.alarms, .subscribed l :: b.log⟩

/-- the board after a list of steps, if each is possible in its turn -/
def play? (b : Board) : List Act → Option Board
  | [] => some b
  | a :: as => (b.step? a).bind fun b' => b'.play? as

/-- the steps of one activation that nothing interrupts -/
def whole (b : Board) (reason : String) : List Act :=
  if b.switch.active then [.engage reason]
  else .engage reason :: .survey b.alarms.length ::
    List.replicate b.switch.listeners.length (.tell b.alarms.length)

/-- what a step does -/
inductive Step (b : Board) : Act → Board → Prop
  | turned {reason : String} (h : b.switch.active = false) :
      Step b (.engage reason) ⟨{ b.switch with active := true, record := some reason },
        b.alarms ++ [⟨reason, none⟩], .engaged reason true :: b.log⟩
  | again {reason : String} (h : b.switch.active = true) :
      Step b (.engage reason) ⟨b.switch, b.alarms, .engaged reason false :: b.log⟩
  | surveyed {n : Nat} {reason : String} (h : b.alarms[n]? = some ⟨reason, none⟩) :
      Step b (.survey n) ⟨b.switch, b.alarms.set n ⟨reason, some b.switch.listeners⟩,
        .surveyed n b.switch.listeners :: b.log⟩
  | told {n : Nat} {reason : String} {l : Listener} {ls : List Listener}
      (h : b.alarms[n]? = some ⟨reason, some (l :: ls)⟩) :
      Step b (.tell n) ⟨b.switch, b.alarms.set n ⟨reason, some ls⟩,
        .told n (l.number, reason, l.react) :: b.log⟩
  | disengaged : Step b .disengage
      ⟨{ b.switch with active := false }, b.alarms, .disengaged b.switch.active :: b.log⟩
  | subscribed {l : Listener} : Step b (.subscribe l)
      ⟨b.switch.subscribe l, b.alarms, .subscribed l :: b.log⟩

section
variable {b b' : Board} {a : Act} {as : List Act} {n : Nat} {reason : String}

theorem step_of_step? (h : b.step? a = some b') : Step b a b' := by
  cases a with
  | engage reason =>
    simp only [step?, KillSwitch.engage] at h
    cases hk : b.switch.active with
    | true =>
      rw [hk] at h
      cases h
      exact .again hk
    | false =>
      rw [hk] at h
      cases h
      exact .turned hk
  | survey n =>
    simp only [step?] at h
    split at h
    · rename_i ha
      cases h
      exact .surveyed ha
    · cases h
  | tell n =>
    simp only [step?] at h
    split at h
    · rename_i ha
      cases h
      exact .told ha
    · cases h
  | disengage =>
    cases h
    exact .disengaged
  | subscribe l =>
    cases h
    exact .subscribed

theorem Step.log_eq (h : Step b a b') : ∃ e : Event, b'.log = e :: b.log ∧ e.act = a := by
  cases h <;> exact ⟨_, rfl, rfl⟩

theorem play?_induction {P : Board → Prop}
    (step : ∀ {b b' : Board} {a : Act}, P b → Step b a b' → P b')
    (hb : P b) (h : b.play? as = some b') : P b' := by
  induction as generalizing b with
  | nil =>
    cases h
    exact hb
  | cons a as ih =>
    obtain ⟨b₁, h₁, h₂⟩ := Option.bind_eq_some_iff.1 h
    exact ih (step hb (step_of_step? h₁)) h₂

end

end Board

/-! ## what every step keeps -/

section
variable {log later early : List Event} {e x : Event} {n : Nat}

theorem subscribers_cons : subscribers (e :: log) = subscribers log ++ e.listener?.toList := by
  rw [subscribers, List.reverse_cons, List.filterMap_append, subscribers]
  cases h : e.listener? <;> simp [h]

theorem answers_cons : answers (e :: log) = answers log ++ e.answer?.toList := by
  rw [answers, List.reverse_cons, List.filterMap_append, answers]
  cases h : e.answer? <;> simp [h]

theorem answers_cons_of_none (h : e.answer? = none) : answers (e :: log) = answers log := by
  rw [answers_cons, h, Option.toList_none, List.append_nil]

theorem callsOf_cons : callsOf n (e :: log) = callsOf n log ++ (e.callOf? n).toList := by
  rw [callsOf, List.reverse_cons, List.filterMap_append, callsOf]
  cases h : e.callOf? n <;> simp [h]

theorem Event.callOf?_eq_none (h : e.alarm? ≠ some n) : e.callOf? n = none := by
  cases e with
  | told k call =>
    refine if_neg ?_
    rintro rfl
    exact h rfl
  | _ => rfl

theorem callsOf_eq_nil (h : ∀ e ∈ log, e.alarm? ≠ some n) : callsOf n log = [] := by
  rw [callsOf, List.filterMap_eq_nil_iff]
  exact fun e he => Event.callOf?_eq_none (h e (List.mem_reverse.1 he))

theorem subscribers_append : subscribers (later ++ early) = subscribers early ++ subscribers later := by
  rw [subscribers, List.reverse_append, List.filterMap_append]
  rfl

/-- those who had been subscribed before an activation come first, then those who are since -/
theorem subscribers_since (hx : x.listener? = none) :
    subscribers (later ++ x :: early) = subscribers early ++ subscribers later := by
  rw [subscribers_append, subscribers_cons, hx, Option.toList_none, List.append_nil]

theorem turns_le (h : log = later ++ x :: early) : turns early ≤ turns log := by
  rw [h, turns, turns, List.filterMap_append, List.length_append]
  refine Nat.le_add_left_of_le ?_
  rw [List.filterMap_cons]
  split
  · exact Nat.le_refl _
  · exact Nat.le_succ _

/-- each of the activations that turned the switch on stands somewhere in the history -/
theorem exists_turned (h : n < turns log) :
    ∃ later reason early, log = later ++ .engaged reason true :: early ∧ turns early = n := by
  induction log with
  | nil => cases h
  | cons e log ih =>
    have hbefore (hlt : n < turns log) : ∃ later reason early,
        e :: log = later ++ .engaged reason true :: early ∧ turns early = n := by
      obtain ⟨later, reason, early, rfl, hn⟩ := ih hlt
      exact ⟨e :: later, reason, early, rfl, hn⟩
    cases hr : e.reason? with
    | none =>
      rw [turns, List.filterMap_cons_none hr] at h
      exact hbefore h
    | some reason =>
      rw [turns, List.filterMap_cons_some hr] at h
      rcases Nat.lt_succ_iff_lt_or_eq.1 h with hlt | rfl
      · exact hbefore hlt
      · obtain rfl : e = .engaged reason true := by
          unfold Event.reason? at hr
          split at hr
          · cases hr
            rfl
          · cases hr
        exact ⟨[], reason, log, rfl, rfl⟩

/-- an event of a longer history is its last one, or has happened before -/
theorem cons_split (h : e :: log = later ++ x :: early) :
    later = [] ∧ e = x ∧ log = early ∨ ∃ since, later = e :: since ∧ log = since ++ x :: early := by
  rcases List.cons_eq_append_iff.1 h with ⟨rfl, hx⟩ | ⟨since, rfl, hlog⟩
  · cases hx
    exact Or.inl ⟨rfl, rfl, rfl⟩
  · exact Or.inr ⟨since, rfl, hlog⟩

end

/-- how far the listeners of an activation have been told: `early` had been done before it turned
the switch on, `later` has been done since -/
inductive Announced (b : Board) (reason : String) (later early : List Event) : Prop
  /-- the list has not been copied yet, and nobody has been told -/
  | unsurveyed (ha : b.alarms[turns early]? = some ⟨reason, none⟩)
      (hn : ∀ e ∈ b.log, e.alarm? ≠ some (turns early))
  /-- the copy, made once, is the list of all who had been subscribed by then; those who come first
  in it have been told once each, and the others not yet -/
  | surveyed {told rest : List Listener} {since mid : List Event}
      (ha : b.alarms[turns early]? = some ⟨reason, some rest⟩)
      (hs : later = since ++ .surveyed (turns early) (told ++ rest) :: mid)
      (hn : ∀ ls, Event.surveyed (turns early) ls ∉ since ++ mid)
      (hl : told ++ rest = subscribers (mid ++ .engaged reason true :: early))
      (hc : callsOf (turns early) b.log = announce told reason)

/-- flag, record, listeners and activations of a board are what its history says -/
structure Board.Kept (b : Board) : Prop where
  active : b.switch.active = isOn b.log
  record : b.switch.record = lastReason b.log
  listeners : b.switch.listeners = subscribers b.log
  number : turns b.log = b.alarms.length
  callers : ∀ later e early n, b.log = later ++ e :: early → e.alarm? = some n → n < turns early
  answered : ∀ later reason turned early, b.log = later ++ .engaged reason turned :: early →
    turned = !isOn early
  announced : ∀ later reason early, b.log = later ++ .engaged reason true :: early →
    Announced b reason later early

section
variable {b b' : Board} {a : Act} {as : List Act} {n : Nat} {reason : String}
  {later early : List Event} {e : Event}

theorem Announced.lt (h : Announced b reason later early) : turns early < b.alarms.length := by
  cases h with
  | unsurveyed ha => exact (List.getElem?_eq_some_iff.1 ha).1
  | surveyed ha => exact (List.getElem?_eq_some_iff.1 ha).1

/-- what is neither a survey nor a call of the activation leaves its announcement as it is -/
theorem Announced.grow (h : Announced b reason later early)
    (ha : b'.alarms[turns early]? = b.alarms[turns early]?) (hlog : b'.log = e :: b.log)
    (he : e.alarm? ≠ some (turns early)) : Announced b' reason (e :: later) early := by
  cases h with
  | unsurveyed h hn =>
    refine .unsurveyed (ha.trans h) ?_
    rw [hlog]
    exact List.forall_mem_cons.2 ⟨he, hn⟩
  | @surveyed told rest since mid h hs hn hl hc =>
    have hs' : e :: later = (e :: since) ++ .surveyed (turns early) (told ++ rest) :: mid := by
      rw [hs]
      rfl
    refine .surveyed (ha.trans h) hs' (fun ls hmem => ?_) hl ?_
    · rcases List.mem_cons.1 hmem with rfl | hmem
      · exact he rfl
      · exact hn ls hmem
    · rw [hlog, callsOf_cons, Event.callOf?_eq_none he, Option.toList_none, List.append_nil, hc]

/-- an activation that turns the switch on has not told anybody -/
theorem Board.Kept.announces (hk : b.Kept) {k : KillSwitch} :
    Announced ⟨k, b.alarms ++ [⟨reason, none⟩], .engaged reason true :: b.log⟩ reason [] b.log := by
  refine .unsurveyed ?_ (List.forall_mem_cons.2 ⟨nofun, fun e he hn => ?_⟩)
  · show (b.alarms ++ [_])[turns b.log]? = _
    rw [hk.number, List.getElem?_concat_length]
  · obtain ⟨later, early, hsplit⟩ := List.append_of_mem he
    exact absurd (turns_le hsplit) (Nat.not_le.2 (hk.callers later e early _ hsplit hn))

/-- the copy that an activation makes is the list of all who have been subscribed by then -/
theorem Announced.survey (h : Announced b reason later early) {given : String}
    (hn : b.alarms[turns early]? = some ⟨given, none⟩) (hl : b.switch.listeners = subscribers b.log)
    (hlog : b.log = later ++ .engaged reason true :: early) :
    Announced ⟨b.switch, b.alarms.set (turns early) ⟨given, some b.switch.listeners⟩,
      .surveyed (turns early) b.switch.listeners :: b.log⟩ reason
      (.surveyed (turns early) b.switch.listeners :: later) early := by
  cases h with
  | unsurveyed ha hfirst =>
    rw [hn] at ha
    cases ha
    have hnone : callsOf (turns early) b.log = [] := callsOf_eq_nil hfirst
    have hs : .surveyed (turns early) b.switch.listeners :: later =
        [] ++ .surveyed (turns early) ([] ++ b.switch.listeners) :: later := rfl
    refine .surveyed ?_ hs (fun ls hmem => ?_) ?_ ?_
    · exact List.getElem?_set_self (List.getElem?_eq_some_iff.1 hn).1
    · refine hfirst (.surveyed (turns early) ls) ?_ rfl
      rw [hlog]
      exact List.mem_append_left _ hmem
    · exact hl.trans (by rw [hlog])
    · exact callsOf_cons.trans (by rw [hnone]; rfl)
  | surveyed ha =>
    rw [hn] at ha
    cases ha

/-- the listener that is called goes over to those who have been told -/
theorem Announced.tell (h : Announced b reason later early) {given : String} {l : Listener}
    {ls : List Listener} (hn : b.alarms[turns early]? = some ⟨given, some (l :: ls)⟩) :
    Announced ⟨b.switch, b.alarms.set (turns early) ⟨given, some ls⟩,
      .told (turns early) (l.number, given, l.react) :: b.log⟩ reason
      (.told (turns early) (l.number, given, l.react) :: later) early := by
  cases h with
  | unsurveyed ha =>
    rw [hn] at ha
    cases ha
  | @surveyed told _ since mid ha hs hone hl hc =>
    rw [hn] at ha
    cases ha
    have hcopy : told ++ l :: ls = (told ++ [l]) ++ ls := List.append_cons told l ls
    rw [hcopy] at hs hl
    have hs' : .told (turns early) (l.number, reason, l.react) :: later =
        (.told (turns early) (l.number, reason, l.react) :: since) ++
          .surveyed (turns early) ((told ++ [l]) ++ ls) :: mid := by
      rw [hs]
      rfl
    refine .surveyed (List.getElem?_set_self (List.getElem?_eq_some_iff.1 hn).1) hs'
      (fun ls hmem => ?_) hl ?_
    · rcases List.mem_cons.1 hmem with he | hmem
      · cases he
      · exact hone ls hmem
    · refine callsOf_cons.trans ?_
      rw [hc, announce, announce, List.map_append]
      simp [Event.callOf?]

/-- **What a step does to an announcement.** -/
theorem Announced.step (h : Announced b reason later early)
    (hl : b.switch.listeners = subscribers b.log)
    (hlog : b.log = later ++ .engaged reason true :: early) (hs : Board.Step b a b') :
    ∃ e, b'.log = e :: b.log ∧ Announced b' reason (e :: later) early := by
  cases hs with
  | turned => exact ⟨_, rfl, h.grow (List.getElem?_append_left h.lt) rfl nofun⟩
  | @surveyed n given hn =>
    by_cases hne : n = turns early
    · subst hne
      exact ⟨_, rfl, h.survey hn hl hlog⟩
    · exact ⟨_, rfl, h.grow (List.getElem?_set_ne hne) rfl fun he => hne (Option.some.inj he)⟩
  | @told n given l ls hn =>
    by_cases hne : n = turns early
    · subst hne
      exact ⟨_, rfl, h.tell hn⟩
    · exact ⟨_, rfl, h.grow (List.getElem?_set_ne hne) rfl fun he => hne (Option.some.inj he)⟩
  | _ => exact ⟨_, rfl, h.grow rfl rfl nofun⟩

theorem Board.Kept.announced_step (hk : b.Kept) (h : Board.Step b a b') :
    ∀ later reason early, b'.log = later ++ .engaged reason true :: early →
      Announced b' reason later early := by
  intro later reason early hlog
  obtain ⟨e, he, _⟩ := h.log_eq
  rw [he] at hlog
  rcases cons_split hlog with ⟨rfl, rfl, rfl⟩ | ⟨since, rfl, hbefore⟩
  · cases h with
    | turned =>
      cases he
      exact hk.announces
    | _ => cases he
  · -- an activation that turned the switch on before
    obtain ⟨e', he', hstep⟩ := (hk.announced since reason early hbefore).step hk.listeners hbefore h
    cases he.symm.trans he'
    exact hstep

theorem Board.Kept.answered_step (hk : b.Kept) (h : Board.Step b a b') :
    ∀ later reason turned early, b'.log = later ++ .engaged reason turned :: early →
      turned = !isOn early := by
  intro later reason turned early hlog
  have hold (e : Event) (hl : e :: b.log = later ++ .engaged reason turned :: early)
      (he : e = .engaged reason turned → turned = !isOn b.log) : turned = !isOn early := by
    rcases cons_split hl with ⟨_, hhead, rfl⟩ | ⟨since, _, hbefore⟩
    · exact he hhead
    · exact hk.answered since reason turned early hbefore
  cases h with
  | turned hoff =>
    refine hold _ hlog fun he => ?_
    cases he
    rw [← hk.active, hoff]
    rfl
  | again hon =>
    refine hold _ hlog fun he => ?_
    cases he
    rw [← hk.active, hon]
    rfl
  | _ => exact hold _ hlog nofun

theorem Board.Kept.callers_step (hk : b.Kept) (h : Board.Step b a b') :
    ∀ later e early n, b'.log = later ++ e :: early → e.alarm? = some n → n < turns early := by
  intro later x early n hlog hx
  obtain ⟨e, he, _⟩ := h.log_eq
  rw [he] at hlog
  rcases cons_split hlog with ⟨_, rfl, rfl⟩ | ⟨since, _, hbefore⟩
  · rw [hk.number]
    cases h with
    | surveyed hn =>
      cases he
      cases hx
      exact (List.getElem?_eq_some_iff.1 hn).1
    | told hn =>
      cases he
      cases hx
      exact (List.getElem?_eq_some_iff.1 hn).1
    | _ =>
      cases he
      cases hx
  · exact hk.callers since x early n hbefore hx

theorem Board.Kept.step (hk : b.Kept) (h : Board.Step b a b') : b'.Kept where
  active := by
    cases h with
    | turned => rfl
    | disengaged => rfl
    | _ => exact hk.active
  record := by
    cases h with
    | turned => rfl
    | _ => exact hk.record
  listeners := by
    cases h with
    | subscribed =>
      show b.switch.listeners ++ [_] = _
      rw [hk.listeners, subscribers_cons]
      rfl
    | _ => exact hk.listeners.trans (subscribers_cons.trans (List.append_nil _)).symm
  number := by
    cases h with
    | turned =>
      show (b.log.filterMap Event.reason?).length + 1 = (b.alarms ++ [_]).length
      rw [List.length_append]
      exact congrArg (· + 1) hk.number
    | surveyed => exact hk.number.trans List.length_set.symm
    | told => exact hk.number.trans List.length_set.symm
    | _ => exact hk.number
  callers := hk.callers_step h
  answered := hk.answered_step h
  announced := hk.announced_step h

theorem Board.kept_of_play (h : ({} : Board).play? as = some b) : b.Kept :=
  Board.play?_induction (fun hk hs => hk.step hs)
    ⟨rfl, rfl, rfl, rfl, by simp, by simp, by simp⟩ h

/-- of the activations after a deactivation, up to the next one, the first turns the switch on -/
theorem Board.Kept.first {mid : List Event} (hk : b.Kept) (hoff : isOn early = false)
    (hmid : ∀ was, Event.disengaged was ∉ mid) (hlog : b.log = later ++ (mid ++ early)) :
    answers mid = [] ∧ isOn (mid ++ early) = false ∨
      ∃ k, answers mid = true :: List.replicate k false ∧ isOn (mid ++ early) = true := by
  induction mid generalizing later with
  | nil => exact Or.inl ⟨rfl, hoff⟩
  | cons e mid ih =>
    have hbefore : b.log = (later ++ [e]) ++ (mid ++ early) := by
      rw [hlog, List.append_assoc]
      rfl
    have ih := ih (fun was hw => hmid was (List.mem_cons_of_mem _ hw)) hbefore
    cases e with
    | engaged reason turned =>
      rw [answers_cons]
      have hturned := hk.answered later reason turned (mid ++ early) hlog
      rcases ih with ⟨hnone, hoff⟩ | ⟨k, hans, hon⟩
      · rw [hoff] at hturned
        subst hturned
        exact Or.inr ⟨0, by rw [hnone]; rfl, rfl⟩
      · rw [hon] at hturned
        subst hturned
        refine Or.inr ⟨k + 1, ?_, hon⟩
        rw [hans, List.replicate_succ', List.cons_append]
        rfl
    | disengaged was => exact absurd List.mem_cons_self (hmid was)
    | _ =>
      rw [answers_cons_of_none rfl]
      exact ih

/-! ## activations that nothing interrupts -/

/-- the listeners that are left can be told one after the other, whichever of them break down -/
theorem Board.tell_all {ls : List Listener} (ha : b.alarms[n]? = some ⟨reason, some ls⟩) :
    ∃ b', b.play? (List.replicate ls.length (.tell n)) = some b' ∧ b'.switch = b.switch ∧
      b'.log = ((announce ls reason).map (Event.told n)).reverse ++ b.log ∧
      b'.alarms = b.alarms.set n ⟨reason, some []⟩ := by
  have hlt := (List.getElem?_eq_some_iff.1 ha).1
  induction ls generalizing b with
  | nil =>
    refine ⟨b, rfl, rfl, rfl, ?_⟩
    rw [← (List.getElem?_eq_some_iff.1 ha).2, List.set_getElem_self]
  | cons l ls ih =>
    obtain ⟨b', hplay, hswitch, hlog, halarms⟩ := ih
      (b := ⟨b.switch, b.alarms.set n ⟨reason, some ls⟩, .told n (l.number, reason, l.react) :: b.log⟩)
      (List.getElem?_set_self hlt) (by rw [List.length_set]; exact hlt)
    refine ⟨b', ?_, hswitch, ?_, halarms.trans (List.set_set _)⟩
    · rw [List.length_cons, List.replicate_succ, play?, step?, ha]
      exact hplay
    · rw [hlog, announce, announce, List.map_cons, List.map_cons, List.reverse_cons,
        List.append_assoc]
      rfl

/-- a copy of the list is told from the first to the last -/
theorem Board.tell_copy (ha : b.alarms[n]? = some ⟨reason, none⟩) :
    ∃ b', b.play? (.survey n :: List.replicate b.switch.listeners.length (.tell n)) = some b' ∧
      b'.switch = b.switch ∧
      b'.log = ((announce b.switch.listeners reason).map (Event.told n)).reverse ++
        .surveyed n b.switch.listeners :: b.log ∧
      b'.alarms = b.alarms.set n ⟨reason, some []⟩ := by
  have hlt := (List.getElem?_eq_some_iff.1 ha).1
  obtain ⟨b', hplay, hswitch, hlog, halarms⟩ := tell_all (b := ⟨b.switch,
    b.alarms.set n ⟨reason, some b.switch.listeners⟩, .surveyed n b.switch.listeners :: b.log⟩)
    (List.getElem?_set_self hlt)
  refine ⟨b', ?_, hswitch, hlog, halarms.trans (List.set_set _)⟩
  rw [play?, step?, ha]
  exact hplay

/-- an activation that has not told all its listeners can do so, if nobody comes between -/
theorem Board.completes {pending : Option (List Listener)}
    (ha : b.alarms[n]? = some ⟨reason, pending⟩) :
    ∃ as b', (∀ a ∈ as, a = .survey n ∨ a = .tell n) ∧ b.play? as = some b' ∧
      b'.alarms[n]? = some ⟨reason, some []⟩ := by
  have htell (k : Nat) : ∀ a ∈ List.replicate k (Act.tell n), a = .survey n ∨ a = .tell n :=
    fun a hmem => Or.inr (List.eq_of_mem_replicate hmem)
  have hover : (b.alarms.set n ⟨reason, some []⟩)[n]? = some ⟨reason, some []⟩ :=
    List.getElem?_set_self (List.getElem?_eq_some_iff.1 ha).1
  cases pending with
  | some ls =>
    obtain ⟨b', hplay, _, _, halarms⟩ := tell_all ha
    exact ⟨_, b', htell _, hplay, by rw [halarms, hover]⟩
  | none =>
    obtain ⟨b', hplay, _, _, halarms⟩ := tell_copy ha
    exact ⟨_, b', List.forall_mem_cons.2 ⟨Or.inl rfl, htell _⟩, hplay, by rw [halarms, hover]⟩

theorem activate_of_on {k : KillSwitch} (hk : k.active = true) (reason : String) :
    k.activate reason = (false, k, []) := by
  have hengage : k.engage reason = (false, k) := if_pos hk
  rw [activate, hengage]

theorem activate_of_off {k : KillSwitch} (hk : k.active = false) (reason : String) :
    k.activate reason = (true, { k with active := true, record := some reason },
      announce k.listeners reason) := by
  have hengage : k.engage reason = (true, { k with active := true, record := some reason }) :=
    if_neg (by simp [hk])
  rw [activate, hengage]

theorem Board.play?_engage_of_off (hk : b.switch.active = false) :
    b.play? (.engage reason :: as) =
      Board.play? ⟨{ b.switch with active := true, record := some reason },
        b.alarms ++ [⟨reason, none⟩], .engaged reason true :: b.log⟩ as := by
  have hengage : b.switch.engage reason =
      (true, { b.switch with active := true, record := some reason }) := if_neg (by simp [hk])
  rw [play?, step?, hengage]
  rfl

/-- **The steps of one activation that nothing interrupts are what `KillSwitch.activate` does.** -/
theorem Board.play?_whole (b : Board) (reason : String) :
    ∃ b' new, b.play? (b.whole reason) = some b' ∧ b'.log = new ++ b.log ∧
      b'.alarms = b.alarms ++ (if b.switch.active then [] else [⟨reason, some []⟩]) ∧
      b'.switch = (b.switch.activate reason).2.1 ∧
      answers new = [(b.switch.activate reason).1] ∧
      new.reverse.filterMap Event.call? = (b.switch.activate reason).2.2 := by
  cases hk : b.switch.active with
  | true =>
    have hengage : b.switch.engage reason = (false, b.switch) := if_pos hk
    rw [activate_of_on hk]
    refine ⟨⟨b.switch, b.alarms, .engaged reason false :: b.log⟩, [.engaged reason false], ?_, rfl,
      (List.append_nil _).symm, rfl, rfl, rfl⟩
    rw [whole, if_pos hk, play?, step?, hengage]
    rfl
  | false =>
    let calls := announce b.switch.listeners reason
    obtain ⟨b', hplay, hswitch, hlog, halarms⟩ := tell_copy (n := b.alarms.length)
      (b := ⟨{ b.switch with active := true, record := some reason }, b.alarms ++ [⟨reason, none⟩],
        .engaged reason true :: b.log⟩) List.getElem?_concat_length
    rw [activate_of_off hk]
    refine ⟨b', (calls.map (Event.told b.alarms.length)).reverse ++
      [.surveyed b.alarms.length b.switch.listeners, .engaged reason true], ?_, ?_, ?_, hswitch,
      ?_, ?_⟩
    · rw [whole, if_neg (by simp [hk]), play?_engage_of_off hk]
      exact hplay
    · rw [hlog, List.append_assoc]
      rfl
    · rw [halarms]
      simp
    · have hnone : (calls.map (Event.told b.alarms.length)).filterMap Event.answer? = [] := by
        rw [List.filterMap_map, List.filterMap_eq_nil_iff]
        exact fun _ _ => rfl
      rw [answers, List.reverse_append, List.reverse_reverse, List.filterMap_append, hnone]
      rfl
    · have hall : (calls.map (Event.told b.alarms.length)).filterMap Event.call? = calls := by
        rw [List.filterMap_map]
        exact List.filterMap_some
      rw [List.reverse_append, List.reverse_reverse, List.filterMap_append, hall]
      rfl

/-! ## the reason of a switch that is on -/

theorem isSome_lastReason {log : List Event} (h : isOn log = true) :
    (lastReason log).isSome = true := by
  induction log with
  | nil => cases h
  | cons e log ih =>
    cases e with
    | engaged reason turned =>
      cases turned with
      | true => rfl
      | false => exact ih h
    | disengaged was => cases h
    | _ => exact ih h

theorem Board.isSome_lastReason_play (hb : (lastReason b.log).isSome = true)
    (h : b.play? as = some b') : (lastReason b'.log).isSome = true := by
  refine play?_induction (P := fun b => (lastReason b.log).isSome = true) ?_ hb h
  intro b b' a hb hs
  obtain ⟨e, hlog, _⟩ := hs.log_eq
  rw [hlog, lastReason, List.findSome?_cons]
  cases e.reason? with
  | none => exact hb
  | some reason => rfl

theorem Board.play?_append (b : Board) (as as' : List Act) :
    b.play? (as ++ as') = (b.play? as).bind fun b' => b'.play? as' := by
  induction as generalizing b with
  | nil => rfl
  | cons a as ih =>
    rw [List.cons_append, play?, play?]
    cases b.step? a with
    | none => rfl
    | some b' => exact ih b'

theorem Board.acts_of_play (h : b.play? as = some b') :
    b'.log.reverse.map Event.act = b.log.reverse.map Event.act ++ as := by
  induction as generalizing b with
  | nil =>
    cases h
    rw [List.append_nil]
  | cons a as ih =>
    obtain ⟨b₁, h₁, h₂⟩ := Option.bind_eq_some_iff.1 h
    obtain ⟨e, hlog, rfl⟩ := (step_of_step? h₁).log_eq
    rw [ih h₂, hlog, List.reverse_cons, List.map_append, List.append_assoc]
    rfl

/-- who finds the switch on finds its reason too -/
theorem poll_of_record {k : KillSwitch} (hk : k.active = true) (hr : k.record = some reason) :
    k.poll = some reason ∧ k.shownReason = reason := by
  rw [poll, if_pos hk, shownReason, hr]
  exact ⟨rfl, rfl⟩

/-- what holds after a list of steps -/
structure Board.Sound (as : List Act) (b : Board) : Prop where
  /-- every step has been written down, and nothing else -/
  logged : b.log.reverse.map Event.act = as
  active : b.switch.active = isOn b.log
  /-- an activation turns the switch on, and says so, exactly when it finds it off -/
  turned : ∀ later reason turned early, b.log = later ++ .engaged reason turned :: early →
    (turned = true ↔ isOn early = false) ∧ isOn (.engaged reason turned :: early) = true
  /-- of those between two deactivations the first does -/
  first : ∀ later mid early, b.log = later ++ (mid ++ early) →
    (early = [] ∨ ∃ was rest, early = .disengaged was :: rest) →
    (∀ was, Event.disengaged was ∉ mid) →
    answers mid = [] ∨ ∃ k, answers mid = true :: List.replicate k false
  /-- the record is that of the last one that did, and outlives the deactivation -/
  record : b.switch.record = lastReason b.log
  reasoned : b.switch.active = true → ∃ reason, b.switch.record = some reason ∧
    b.switch.poll = some reason ∧ b.switch.shownReason = reason
  /-- also when it is read later than the flag -/
  lasting : b.switch.active = true → ∀ as b', b.play? as = some b' →
    b'.switch.record.isSome = true
  announced : ∀ later reason early, b.log = later ++ .engaged reason true :: early →
    Announced b reason later early
  /-- an activation that is over has told each of those who had been subscribed before it once, and
  then each of those who were in the meantime, up to its copy of the list; in their order, with its
  own reason, and nobody else -/
  finished : ∀ later reason early, b.log = later ++ .engaged reason true :: early →
    b.alarms[turns early]? = some ⟨reason, some []⟩ → ∃ since mid,
      later = since ++ .surveyed (turns early) (subscribers early ++ subscribers mid) :: mid ∧
      callsOf (turns early) b.log = announce (subscribers early ++ subscribers mid) reason
  /-- whoever breaks down, it can come to its end -/
  completes : ∀ n reason pending, b.alarms[n]? = some ⟨reason, pending⟩ →
    ∃ as b', (∀ a ∈ as, a = .survey n ∨ a = .tell n) ∧ b.play? as = some b' ∧
      b'.alarms[n]? = some ⟨reason, some []⟩
  /-- nobody but an activation that turned the switch on before calls a listener -/
  callers : ∀ later n call early, b.log = later ++ .told n call :: early →
    ∃ mid reason first, early = mid ++ .engaged reason true :: first ∧ turns first = n
  /-- an activation that nothing interrupts does it all at once, and is over then -/
  whole : ∀ reason, ∃ b' new, b.play? (b.whole reason) = some b' ∧ b'.log = new ++ b.log ∧
    b'.alarms = b.alarms ++ (if b.switch.active then [] else [⟨reason, some []⟩]) ∧
    b'.switch = (b.switch.activate reason).2.1 ∧
    answers new = [(b.switch.activate reason).1] ∧
    new.reverse.filterMap Event.call? = (b.switch.activate reason).2.2

theorem Board.Kept.reasoned (hk : b.Kept) (hon : b.switch.active = true) :
    ∃ reason, b.switch.record = some reason ∧ b.switch.poll = some reason ∧
      b.switch.shownReason = reason := by
  obtain ⟨reason, hr⟩ := Option.isSome_iff_exists.1 (isSome_lastReason (hk.active ▸ hon))
  have hrecord := hk.record.trans hr
  exact ⟨reason, hrecord, poll_of_record hon hrecord⟩

theorem Board.Kept.isSome_record_play (hk : b.Kept) (hon : b.switch.active = true)
    (h : b.play? as = some b') : b'.switch.record.isSome = true := by
  have hrecord : b'.Kept := play?_induction (fun hk hs => hk.step hs) hk h
  rw [hrecord.record]
  exact isSome_lastReason_play (isSome_lastReason (hk.active ▸ hon)) h

theorem Announced.finished (h : Announced b reason later early)
    (ha : b.alarms[turns early]? = some ⟨reason, some []⟩) : ∃ since mid,
      later = since ++ .surveyed (turns early) (subscribers early ++ subscribers mid) :: mid ∧
      callsOf (turns early) b.log = announce (subscribers early ++ subscribers mid) reason := by
  cases h with
  | unsurveyed h =>
    rw [h] at ha
    cases ha
  | @surveyed told rest since mid h hs _ hl hc =>
    rw [h] at ha
    cases ha
    rw [List.append_nil] at hs hl
    rw [subscribers_since rfl] at hl
    subst hl
    exact ⟨since, mid, hs, hc⟩

theorem Board.sound (h : ({} : Board).play? as = some b) : b.Sound as where
  logged := acts_of_play h
  active := (kept_of_play h).active
  turned := fun later reason turned early hlog => by
    have hk := kept_of_play h
    have hturned := hk.answered later reason turned early hlog
    subst hturned
    cases hoff : isOn early with
    | false => exact ⟨iff_of_true rfl rfl, rfl⟩
    | true => exact ⟨iff_of_false nofun nofun, hoff⟩
  first := fun later mid early hlog hstart hmid => by
    have hoff : isOn early = false := by
      rcases hstart with rfl | ⟨was, rest, rfl⟩ <;> rfl
    exact ((kept_of_play h).first hoff hmid hlog).imp And.left fun ⟨k, hk⟩ => ⟨k, hk.1⟩
  record := (kept_of_play h).record
  reasoned := (kept_of_play h).reasoned
  lasting := fun hon _ _ => (kept_of_play h).isSome_record_play hon
  announced := (kept_of_play h).announced
  finished := fun later reason early hlog => ((kept_of_play h).announced later reason early hlog).finished
  completes := fun _ _ _ => Board.completes
  callers := fun later n call early hlog =>
    exists_turned ((kept_of_play h).callers later (.told n call) early n hlog rfl)
  whole := b.play?_whole

end

end KillSwitch

/-! ## the switch of a service -/

namespace System

open KillSwitch (Act Board)

section
variable {s s' : System} {m : Move} {ms : List Move}

theorem killSwitch_step (h : s.step? m = some s') : s'.killSwitch = s.killSwitch ∨
    ∃ a, ∀ b : Board, b.switch = s.killSwitch → ∃ b', b.step? a = some b' ∧
      b'.switch = s'.killSwitch := by
  cases m with
  | work i reply =>
    obtain ⟨r, r', ds, _, _, rfl⟩ := work?_eq_foldl h
    exact Or.inl (foldl_record_shared i r.session.script.id ds _).1
  | proceed n reply =>
    obtain ⟨_, _, hr⟩ := requestStep h
    cases hr with
    | @engages reason hk =>
      refine Or.inr ⟨.engage reason, fun b hb => ?_⟩
      have hengage : b.switch.engage reason =
          (true, { b.switch with active := true, record := some reason }) :=
        if_neg (by simp [hb, hk])
      refine ⟨_, by rw [Board.step?, hengage], ?_⟩
      rw [hb]
      rfl
    | disengages => exact Or.inr ⟨.disengage, fun b hb => ⟨_, rfl, by rw [← hb]; rfl⟩⟩
    | _ => exact Or.inl rfl
  | request q =>
    cases h
    exact Or.inl rfl
  | elapse d =>
    cases h
    exact Or.inl rfl

theorem board_play {b : Board} (hb : b.switch = s.killSwitch) (h : s.play? ms = some s') :
    ∃ as b', b.play? as = some b' ∧ b'.switch = s'.killSwitch := by
  refine play?_induction (P := fun t => ∃ as b', b.play? as = some b' ∧
    b'.switch = t.killSwitch) ?_ ⟨[], b, rfl, hb⟩ h
  rintro t t' m ⟨as, b₁, hplay, hb₁⟩ hstep
  rcases killSwitch_step hstep with hsame | ⟨a, hact⟩
  · exact ⟨as, b₁, hplay, hb₁.trans hsame.symm⟩
  · obtain ⟨b', hb', hswitch⟩ := hact b₁ hb₁
    refine ⟨as ++ [a], b', ?_, hswitch⟩
    rw [Board.play?_append, hplay, Option.bind_some, Board.play?, hb']
    rfl

/-- a service reads the reason of a switch that is on, and never a stopgap -/
structure Reasoned (s : System) : Prop where
  /-- its switch goes through such a list of steps -/
  history : ∃ as b, ({} : Board).play? as = some b ∧ b.switch = s.killSwitch
  reasoned : s.killSwitch.active = true → ∃ reason, s.killSwitch.record = some reason ∧
    s.view.killed = some reason ∧ s.killSwitch.shownReason = reason
  /-- also when the record is read later than the flag -/
  lasting : s.killSwitch.active = true → ∀ ms s', s.play? ms = some s' →
    s'.killSwitch.record.isSome = true

theorem Reachable.reasoned (hs : s.Reachable) : s.Reasoned := by
  obtain ⟨settings, approvals, ms, h⟩ := hs
  obtain ⟨as, b, hplay, hb⟩ := board_play (b := {}) rfl h
  have hk : b.Kept := KillSwitch.Board.kept_of_play hplay
  refine ⟨⟨as, b, hplay, hb⟩, fun hon => ?_, fun hon ms' s' h' => ?_⟩
  · rw [← hb] at hon
    have hreason := hk.reasoned hon
    rwa [hb] at hreason
  · obtain ⟨as', b', hplay', hb'⟩ := board_play hb h'
    rw [← hb] at hon
    rw [← hb']
    exact hk.isSome_record_play hon hplay'

end

end System

/-! ## every history -/

/-- **The kill switch is turned on by the first activation after each deactivation, its flag never
stands without its record, and each activation that turned it on tells the listeners there were,
once each and in their order**, whatever other threads and the listeners do meanwhile and whichever
of them break down; so that a service never falls back on a stopgap for the reason. -/
theorem sound_of_play {as : List KillSwitch.Act} {b : KillSwitch.Board} {s : System}
    (h : ({} : KillSwitch.Board).play? as = some b) (hs : s.Reachable) :
    b.Sound as ∧ s.Reasoned :=
  ⟨KillSwitch.Board.sound h, hs.reasoned⟩

/-- two listeners, the first of which breaks down; while it is told, the switch is turned off and on
again, and a third listener is subscribed -/
theorem sound_of_play_rearmed :
    let as : List KillSwitch.Act := [.subscribe ⟨1, true⟩, .subscribe ⟨2, false⟩, .engage "first",
      .survey 0, .tell 0, .disengage, .subscribe ⟨3, false⟩, .engage "again", .engage "third",
      .survey 1, .tell 1, .tell 0, .tell 1, .tell 1]
    let b := (({} : KillSwitch.Board).play? as).getD {}
    let s := (System.fresh {} {}).after [.request (.activate "stop"), .proceed 0 .go]
    (b.Sound as ∧ s.Reasoned) ∧ KillSwitch.answers b.log = [true, true, false] ∧
      b.switch.record = some "again" ∧
      KillSwitch.callsOf 0 b.log = [(1, "first", .brokeDown), (2, "first", .noted)] ∧
      (KillSwitch.callsOf 1 b.log).length = 3 ∧ s.view.killed = some "stop" := by
  intro as b s
  have h : ({} : KillSwitch.Board).play? as = some b := rfl
  have hs : s.Reachable := System.Reachable.after ⟨_, _, [], rfl⟩ _
  exact ⟨sound_of_play h hs, by decide +kernel, rfl, by decide +kernel, rfl, by decide +kernel⟩

end ScriptGuard
