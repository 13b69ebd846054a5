import ScriptGuard.Proofs.Lifecycle
import ScriptGuard.Proofs.RequestStep
import ScriptGuard.Proofs.Unwinding

/-!
# Aborts that come late

The worker looks into the abort slot once when it finishes its run, and makes the last move of the
run in a later step.  The run is active in between, so that an abort is still accepted there.

* `System.Aborts s m i a`    the move records the abort `a` of the run: an accepted Stop or
                             Terminate, or an activation of the kill switch that comes to the run;
* `settled_play`             the outcome is what the slot held when the worker looked into it, and
                             from then on it is kept;
* `terminated_of_aborts`     an abort that is recorded before that is not lost, and one that is
                             recorded after that changes nothing;
* `not_terminated_of_aborts` so not every abort that is accepted ends the run as terminated.
-/

namespace ScriptGuard

/-! ## reasons that terminate -/

namespace AbortReason

theorem priority_le_three (a : AbortReason) : a.priority ≤ 3 := by
  cases a <;> simp [priority]

/-- nothing replaces a reason of the highest priority -/
theorem Upgrade.eq_of_top {a b : AbortReason} (h : Upgrade a b) (ha : a.priority = 3) : b = a := by
  rcases h with h | h
  · exact h
  · have hb := b.priority_le_three
    omega

theorem Upgrade.priority_le {a b : AbortReason} (h : Upgrade a b) : a.priority ≤ b.priority := by
  rcases h with rfl | h
  · exact Nat.le_refl _
  · omega

theorem le_priority_merge (slot : Option AbortReason) (a : AbortReason) :
    a.priority ≤ (merge slot a).priority := by
  cases slot with
  | none => exact Nat.le_refl _
  | some b =>
    rw [priority_merge]
    omega

end AbortReason

theorem Outcome.ofAbort_of_priority {a : AbortReason} (h : 2 ≤ a.priority) :
    Outcome.ofAbort a = .terminated a := by
  cases a with
  | failure cause => simp [AbortReason.priority] at h
  | _ => rfl

/-! ## one step -/

section
variable {v : View} {r r' : Run} {reply : Reply} {ds : List Deed} {o : Outcome}

theorem WorkerStep.settles_on (h : WorkerStep v r reply r' ds) (hn : r.place.outcome? = none)
    (ho : r'.place.outcome? = some o) :
    ∃ e, r.place = .finishing e ∧ o = Run.outcomeOf r.session.abort e := by
  cases h with
  | call _ h =>
    cases h with
    | atGate _ h => cases h <;> cases ho
    | _ => cases ho
  | staged _ hs => rw [Place.outcome?_of_isStage hs] at ho; cases ho
  | concludes hp => exact ⟨_, hp, (Option.some.inj ho).symm⟩
  | settles hp => rw [hp] at hn; cases hn
  | leaves hp => rw [hp] at hn; cases hn
  | remembers hp => rw [hp] at hn; cases hn
  | tellsState hp => rw [hp] at hn; cases hn
  | tellsResult hp => rw [hp] at hn; cases hn
  | tellsIdle hp => rw [hp] at hn; cases hn
  | _ => cases ho

theorem WorkerStep.keeps_outcome (h : WorkerStep v r reply r' ds)
    (ho : r.place.outcome? = some o) : r'.place.outcome? = some o := by
  cases h with
  | call hp => rw [hp] at ho; cases ho
  | staged hp => rw [Place.outcome?_of_isStage hp] at ho; cases ho
  | unready hp => rw [Place.outcome?_of_isStage hp] at ho; cases ho
  | stageBroke hp => rw [Place.outcome?_of_isStage hp] at ho; cases ho
  | settles hp => rw [hp] at ho; exact ho
  | leaves hp => rw [hp] at ho; exact ho
  | remembers hp => rw [hp] at ho; exact ho
  | tellsState hp => rw [hp] at ho; exact ho
  | tellsResult hp => rw [hp] at ho; exact ho
  | tellsIdle hp => rw [hp] at ho; exact ho
  | _ hp => rw [hp] at ho; cases ho

end

theorem Place.outcome?_of_result? {p : Place} {x : RunResult} (h : p.result? = some x) :
    p.outcome? = some x.outcome := by
  cases p with
  | leaving _ | remembering _ | tellState _ | tellResult _ | tellIdle _ | gone _ =>
    cases h
    rfl
  | _ => cases h

namespace System

/-- the outcome that the worker of a run has settled on -/
def outcome? (s : System) (i : RunId) : Option Outcome := (s.placeOf? i).bind Place.outcome?

theorem outcome?_of_run {s : System} {i : RunId} {r : Run} (hr : s.runs[i]? = some r) :
    s.outcome? i = r.place.outcome? := by
  rw [outcome?, placeOf?_of_run hr, Option.bind_some]

theorem outcome?_of_result {s : System} {i : RunId} {x : RunResult}
    (hx : (s.placeOf? i).bind Place.result? = some x) : s.outcome? i = some x.outcome := by
  obtain ⟨p, hp, hx⟩ := Option.bind_eq_some_iff.1 hx
  rw [outcome?, hp, Option.bind_some, Place.outcome?_of_result? hx]

section
variable {s s₁ s' : System} {m : Move} {i : RunId} {ms : List Move} {a : AbortReason} {o : Outcome}

theorem outcome?_step (ht : s.Tidy) (ho : s.outcome? i = some o) (h : s.step? m = some s') :
    s'.outcome? i = some o := by
  obtain ⟨p, hp, ho⟩ := Option.bind_eq_some_iff.1 ho
  obtain ⟨r, hr, rfl⟩ := Option.map_eq_some_iff.1 hp
  rcases worked_or h hr with ⟨reply, r', ds, _, hr', _, hw⟩ | ⟨hm, r', hr', _, hc⟩
  · rw [outcome?, placeOf?, hr']
    exact hw.keeps_outcome ho
  · have hb : r.place ≠ .unborn := fun hb => by rw [hb] at ho; cases ho
    obtain ⟨hp', _⟩ := hc.aside ht hr hm hb
    rw [outcome?_of_run hr', hp', ho]

theorem outcome?_play (ht : s.Tidy) (ho : s.outcome? i = some o) (h : s.play? ms = some s') :
    s'.outcome? i = some o := by
  refine (play?_induction (P := fun t => t.Tidy ∧ t.outcome? i = some o) ?_ ⟨ht, ho⟩ h).2
  rintro t t' m ⟨ht, ho⟩ hstep
  exact ⟨ht.step hstep, outcome?_step ht ho hstep⟩

/-- a step in which an outcome is settled on is one in which the worker looks into the slot -/
theorem looked_step (ht : s.Tidy) (hn : s.outcome? i = none) (h : s.step? m = some s')
    (ho : s'.outcome? i = some o) :
    ∃ e, s.placeOf? i = some (.finishing e) ∧ o = Run.outcomeOf (s.slot? i) e := by
  cases hr : s.runs[i]? with
  | none =>
    obtain ⟨_, hnew | ⟨_, _, _, hnew⟩⟩ := newRun h hr
    · rw [outcome?, placeOf?, hnew] at ho
      cases ho
    · rw [outcome?_of_run hnew] at ho
      cases ho
  | some r =>
    rw [outcome?_of_run hr] at hn
    rcases worked_or h hr with ⟨reply, r', ds, _, hr', _, hw⟩ | ⟨hm, r', hr', _, hc⟩
    · rw [outcome?_of_run hr'] at ho
      obtain ⟨e, hp, rfl⟩ := hw.settles_on hn ho
      exact ⟨e, by rw [placeOf?_of_run hr, hp], by rw [slot?_of_run hr]⟩
    · rw [outcome?_of_run hr'] at ho
      rcases (hc.unmoved ht hr hm).1 with hp | ⟨_, hp⟩
      · rw [hp, hn] at ho
        cases ho
      · rw [hp] at ho
        cases ho

/-- the outcome of a run is what the slot says when its worker looks into it -/
theorem looked_play (ht : s.Tidy) (hn : s.outcome? i = none) (h : s.play? ms = some s')
    (ho : s'.outcome? i = some o) :
    ∃ ms₁ ms₂ t e, ms = ms₁ ++ ms₂ ∧ s.play? ms₁ = some t ∧
      t.placeOf? i = some (.finishing e) ∧ o = Run.outcomeOf (t.slot? i) e := by
  induction ms generalizing s with
  | nil =>
    cases h
    rw [hn] at ho
    cases ho
  | cons m ms ih =>
    obtain ⟨s₁, h₁, h₂⟩ := exists_of_play?_cons h
    cases hn₁ : s₁.outcome? i with
    | some o₁ =>
      obtain ⟨e, he, rfl⟩ := looked_step ht hn h₁ hn₁
      have hkept := outcome?_play (ht.step h₁) hn₁ h₂
      rw [ho] at hkept
      exact ⟨[], m :: ms, s, e, rfl, rfl, he, Option.some.inj hkept⟩
    | none =>
      obtain ⟨ms₁, ms₂, t, e, rfl, hplay, hrest⟩ := ih (ht.step h₁) hn₁ h₂
      refine ⟨m :: ms₁, ms₂, t, e, rfl, ?_, hrest⟩
      rw [play?_cons, h₁, Option.bind_some, hplay]

/-- **A run whose slot is set before its outcome is settled on ends with what the slot holds when
its worker looks into it.** -/
theorem settled_play (ht : s.Tidy) (ha : s.slot? i = some a) (hn : s.outcome? i = none)
    (hp : s.play? ms = some s') (ho : s'.outcome? i = some o) :
    ∃ ms₁ ms₂ t b e, ms = ms₁ ++ ms₂ ∧ s.play? ms₁ = some t ∧
      t.placeOf? i = some (.finishing e) ∧ t.slot? i = some b ∧ AbortReason.Upgrade a b ∧
      o = .ofAbort b := by
  obtain ⟨ms₁, ms₂, t, e, rfl, hplay, he, rfl⟩ := looked_play ht hn hp ho
  obtain ⟨b, hb, hab⟩ := slot_play ha hplay
  exact ⟨ms₁, ms₂, t, b, e, rfl, hplay, he, hb, hab, by rw [hb, Run.outcomeOf_some]⟩

/-! ## accepted aborts -/

/-- the move records an abort of the run: it is an accepted Stop or Terminate, or an active run is
asked to unwind for the kill switch -/
inductive Aborts (s : System) (m : Move) (s₁ : System) (i : RunId) : AbortReason → Prop
  | stop (h : s.Accepts m i .stop) : Aborts s m s₁ i .stopped
  | terminate (h : s.Accepts m i .terminate) : Aborts s m s₁ i .terminated
  | killSwitch {r : Run} {reason : String} (hr : s.runs[i]? = some r)
      (ha : r.session.state.isActive = true)
      (h : s₁.slot? i = some (AbortReason.merge r.session.abort (.killSwitch reason))) :
      Aborts s m s₁ i (.killSwitch reason)

theorem Aborts.slot (h : s.Aborts m s₁ i a) (hm : s.step? m = some s₁) :
    ∃ b, s₁.slot? i = some b ∧ a.priority ≤ b.priority ∧ 2 ≤ b.priority := by
  have hpriority {a b : AbortReason} (ha : 2 ≤ a.priority) (hb : a.priority ≤ b.priority) :
      a.priority ≤ b.priority ∧ 2 ≤ b.priority := ⟨hb, Nat.le_trans ha hb⟩
  cases h with
  | stop h =>
    obtain ⟨r, _, _, hr⟩ := run_of_accepts h hm
    exact ⟨AbortReason.merge r.session.abort .stopped, by rw [slot?_of_run hr]; rfl,
      hpriority (Nat.le_refl 2) (AbortReason.le_priority_merge _ _)⟩
  | terminate h =>
    obtain ⟨r, _, _, hr⟩ := run_of_accepts h hm
    exact ⟨AbortReason.merge r.session.abort .terminated, by rw [slot?_of_run hr]; rfl,
      hpriority (by decide) (AbortReason.le_priority_merge _ _)⟩
  | killSwitch _ _ h =>
    exact ⟨_, h, hpriority (by simp [AbortReason.priority]) (AbortReason.le_priority_merge _ _)⟩

/-- the run ends as terminated, for the reason its slot held when the worker looked into it; only
Stop can have given way to another reason since -/
structure EndsFor (s : System) (ms : List Move) (s' : System) (i : RunId) (x : RunResult)
    (b : AbortReason) : Prop where
  outcome : x.outcome = .terminated b
  read : ∃ ms₁ ms₂ t e, ms = ms₁ ++ ms₂ ∧ s.play? ms₁ = some t ∧
    t.placeOf? i = some (.finishing e) ∧ t.slot? i = some b
  slot : ∃ c, s'.slot? i = some c ∧ AbortReason.Upgrade b c ∧ (b ≠ .stopped → c = b)

theorem endsFor_of_slot {x : RunResult} (ht : s.Tidy) (ha : s.slot? i = some a)
    (hp : 2 ≤ a.priority) (hn : s.outcome? i = none) (hplay : s.play? ms = some s')
    (hx : (s'.placeOf? i).bind Place.result? = some x) :
    ∃ b, a.priority ≤ b.priority ∧ s.EndsFor ms s' i x b := by
  obtain ⟨ms₁, ms₂, t, b, e, rfl, h₁, he, hb, hab, hob⟩ :=
    settled_play ht ha hn hplay (outcome?_of_result hx)
  have hpb : 2 ≤ b.priority := Nat.le_trans hp hab.priority_le
  rw [play?_append, h₁, Option.bind_some] at hplay
  obtain ⟨c, hc, hbc⟩ := slot_play hb hplay
  rw [Outcome.ofAbort_of_priority hpb] at hob
  refine ⟨b, hab.priority_le, hob, ⟨ms₁, ms₂, t, e, rfl, h₁, he, hb⟩, c, hc, hbc, fun hne => ?_⟩
  cases b with
  | stopped => exact absurd rfl hne
  | failure cause => simp [AbortReason.priority] at hpb
  | killSwitch reason => exact hbc.eq_of_top rfl
  | terminated => exact hbc.eq_of_top rfl

/-- **An abort that is recorded before the worker looks into the slot for the last time ends the run
as terminated; one that is recorded later, though the run is still active, changes nothing.** -/
theorem terminated_of_aborts {x : RunResult} (hs : s.Reachable) (h : s.Aborts m s₁ i a)
    (h₁ : s.step? m = some s₁) (hp : s₁.play? ms = some s')
    (hx : (s'.placeOf? i).bind Place.result? = some x) :
    (s₁.outcome? i = none → ∃ b, a.priority ≤ b.priority ∧ s₁.EndsFor ms s' i x b) ∧
      ∀ o, s₁.outcome? i = some o → x.outcome = o := by
  have ht := (hs.step h₁).tidy
  obtain ⟨b, hb, hab, hpb⟩ := h.slot h₁
  constructor
  · intro hn
    obtain ⟨c, hbc, hends⟩ := endsFor_of_slot ht hb hpb hn hp hx
    exact ⟨c, Nat.le_trans hab hbc, hends⟩
  · intro o ho
    have hkept := outcome?_play ht ho hp
    rw [outcome?_of_result hx] at hkept
    exact Option.some.inj hkept

/-- a run whose script has come to its end, and whose worker is about to look into the slot -/
def finishing : System :=
  (attended { mode := .interactive }).after
    [.work 0 (.script (.finish .completed)), .work 0 .go, .request (.control "s" .stop),
      .proceed 2 .go]

/-- Stop comes just in time, Terminate after it -/
theorem terminated_of_aborts_finishing :
    let s₁ := finishing.after [.proceed 2 .go]
    let ms : List Move := [.work 0 .go, .request (.control "s" .terminate), .proceed 3 .go,
      .work 0 .go]
    let s' := s₁.after ms
    finishing.placeOf? 0 = some (.finishing (.script .completed)) ∧
      s'.slot? 0 = some .terminated ∧ ∃ x b, (s'.placeOf? 0).bind Place.result? = some x ∧
        s₁.EndsFor ms s' 0 x b := by
  intro s₁ ms s'
  have hs : finishing.Reachable := (reachable_attended _).after _
  have hm : finishing.step? (.proceed 2 .go) = some s₁ := step?_after (by decide +kernel)
  have hp : s₁.play? ms = some s' := play?_after (by decide +kernel)
  have hrun : (finishing.runs[0]?).map (fun r => (r.session.control .stop).1)
      = some (.applied none) := by decide +kernel
  obtain ⟨r, hr, happ⟩ := Option.map_eq_some_iff.1 hrun
  have ha : finishing.Accepts (.proceed 2 .go) 0 .stop := ⟨by decide +kernel, r, _, hr, happ⟩
  have hx : ((s'.placeOf? 0).bind Place.result?).isSome = true := by decide +kernel
  obtain ⟨x, hx⟩ := Option.isSome_iff_exists.1 hx
  obtain ⟨b, _, hends⟩ := (terminated_of_aborts hs (.stop ha) hm hp hx).1 (by decide +kernel)
  exact ⟨by decide +kernel, by decide +kernel, x, b, hx, hends⟩

/-- **An abort may be accepted and lost.**  The worker has looked into the slot; Terminate finds the
run still active, and the run ends as completed. -/
theorem not_terminated_of_aborts :
    ¬ ∀ (s s₁ s' : System) (m : Move) (i : RunId) (a : AbortReason) (ms : List Move)
        (x : RunResult), s.Reachable → s.Aborts m s₁ i a → s.step? m = some s₁ →
      s₁.play? ms = some s' → (s'.placeOf? i).bind Place.result? = some x →
      ∃ b, x.outcome = .terminated b ∧ s'.slot? i = some b := by
  intro h
  let s := (attended {}).after [.work 0 (.script (.finish .completed)), .work 0 .go, .work 0 .go,
    .request (.control "s" .terminate)]
  let s₁ := s.after [.proceed 2 .go]
  let s' := s₁.after [.work 0 .go]
  have hs : s.Reachable := (reachable_attended _).after _
  have hm : s.step? (.proceed 2 .go) = some s₁ := step?_after (by decide +kernel)
  have hp : s₁.play? [.work 0 .go] = some s' := play?_after (by decide +kernel)
  have hrun : (s.runs[0]?).map (fun r => (r.session.control .terminate).1)
      = some (.applied none) := by decide +kernel
  obtain ⟨r, hr, happ⟩ := Option.map_eq_some_iff.1 hrun
  have ha : s.Accepts (.proceed 2 .go) 0 .terminate := ⟨by decide +kernel, r, _, hr, happ⟩
  have hx : ((s'.placeOf? 0).bind Place.result?).map (·.outcome) = some .completed := by
    decide +kernel
  obtain ⟨x, hx, ho⟩ := Option.map_eq_some_iff.1 hx
  obtain ⟨b, hb, _⟩ := h s s₁ s' _ 0 _ _ x hs (.terminate ha) hm hp hx
  rw [ho] at hb
  cases hb

end

end System

end ScriptGuard
