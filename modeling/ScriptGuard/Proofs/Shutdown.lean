import ScriptGuard.Proofs.Sweep

/-!
# While the kill switch is engaged

The switch is a flag that host calls and interrupt checks look at, and an activation sweeps over the
runs of the registry.  A run that enters the registry after the sweep has looked into it is caught
by the flag; a run whose slot already holds another reason, so that its calls do not come to the
flag, is caught by the sweep.

* `Place.guarded`      a host call has come no further than to its first look at the flag;
* `WorkerStep.check`   what a worker does at such a place;
* `System.Doomed`      the run can only end as terminated;
* `System.ShutsDown`   while the switch is engaged no call begun meanwhile does anything outside, no
                       run is started, the runs of the registry are struck, and a run that makes a
                       call or an interrupt check ends as terminated;
* `shutsDown_of_reachable`  all of this in every reachable service.
-/

namespace ScriptGuard

/-- a host call has come no further than to its first look at the kill switch, or it raises what
it has found there; so does an interrupt check -/
def Place.guarded : Place → Bool
  | .call _ (.slot .opening) | .call _ (.switch .opening) => true
  | .call _ (.raise a) | .polling (.raise a) => a.priority == 3
  | .call _ _ => false
  | _ => true

def Place.checks : Place → Bool
  | .call _ _ | .polling _ => true
  | _ => false

def Deed.gives : Deed → Bool
  | .replied _ _ | .polled _ => true
  | _ => false

/-- a slot that holds nothing but reasons that terminate a run -/
def AbortReason.Dire (slot : Option AbortReason) : Prop := ∀ a, slot = some a → 2 ≤ a.priority

theorem AbortReason.dire_none : Dire none := by
  intro a h
  cases h

theorem AbortReason.dire_merge {slot : Option AbortReason} {a : AbortReason}
    (h : 2 ≤ a.priority) : Dire (some (merge slot a)) := by
  intro b hb
  obtain rfl := Option.some.inj hb
  exact Nat.le_trans h (le_priority_merge slot a)

theorem Place.guarded_of_isStage {p : Place} (h : p.isStage = true) : p.guarded = true := by
  obtain rfl | ⟨_, rfl⟩ | rfl := Place.stage_cases h <;> rfl

theorem Place.checks_of_isStage {p : Place} (h : p.isStage = true) : p.checks = false := by
  obtain rfl | ⟨_, rfl⟩ | rfl := Place.stage_cases h <;> rfl

theorem Place.outcome?_of_checks {p : Place} (h : p.checks = true) : p.outcome? = none := by
  cases p with
  | call _ _ | polling _ => rfl
  | _ => cases h

/-- what a worker does at a guarded place of a host call or of an interrupt check while the kill
switch is engaged -/
inductive Check (r : Run) : Run → List Deed → Prop
  /-- it takes the next look -/
  | looks {p : Place} (hp : p.guarded = true) (hc : p.checks = true) :
      Check r { r with place := p } []
  /-- it gives back what it has found in the slot -/
  | found {a : AbortReason} {d : Deed} (ha : r.session.abort = some a)
      (hd : d.gives = true) : Check r { r with place := .script } [d]
  /-- it records that the switch is engaged -/
  | raises {a : AbortReason} {d : Deed} (ha : a.priority = 3) (hd : d.gives = true) :
      Check r { r with session := r.session.request a, place := .script } [d]

/-! ## one step of a worker -/

section
variable {v : View} {r r' : Run} {f : Frame} {p : CallPoint} {reply : Reply}
  {ds old : List Deed}

theorem CallStep.check (h : CallStep v r f p reply r' ds) (hk : v.killed ≠ none)
    (hg : (Place.call f p).guarded = true) : Check r r' ds := by
  cases h with
  | slotSet ha => exact .found ha rfl
  | @slotClear k =>
    cases k with
    | opening => exact .looks rfl rfl
    | between d => cases hg
  | switchOn => exact .looks rfl rfl
  | switchOff hn => exact absurd hn hk
  | raises => exact .raises (by simpa [Place.guarded] using hg) rfl
  | atGate hp => rcases hp with rfl | rfl <;> cases hg
  | _ => cases hg

theorem WorkerStep.check (h : WorkerStep v r reply r' ds) (hk : v.killed ≠ none)
    (hg : r.place.guarded = true) (hc : r.place.checks = true) : Check r r' ds := by
  cases h with
  | call hp h => exact h.check hk (by rw [← hp]; exact hg)
  | pollSet _ ha => exact .found ha rfl
  | pollClear => exact .looks rfl rfl
  | pollOn => exact .looks rfl rfl
  | pollOff _ hn => exact absurd hn hk
  | pollRaises hp => exact .raises (by rw [hp] at hg; simpa [Place.guarded] using hg) rfl
  | staged hp => rw [Place.checks_of_isStage hp] at hc; cases hc
  | unready hp => rw [Place.checks_of_isStage hp] at hc; cases hc
  | stageBroke hp => rw [Place.checks_of_isStage hp] at hc; cases hc
  | _ hp => rw [hp] at hc; cases hc

/-- elsewhere the worker comes to guarded places only, and leaves the slot alone -/
theorem WorkerStep.outside (h : WorkerStep v r reply r' ds) (hc : r.place.checks = false) :
    r'.place.guarded = true ∧ r'.session.abort = r.session.abort := by
  cases h with
  | call hp => rw [hp] at hc; cases hc
  | staged _ hn => exact ⟨Place.guarded_of_isStage hn, rfl⟩
  | settles => exact ⟨rfl, Session.settle_abort _ _⟩
  | pollSet hp => rw [hp] at hc; cases hc
  | pollClear hp => rw [hp] at hc; cases hc
  | pollOn hp => rw [hp] at hc; cases hc
  | pollOff hp => rw [hp] at hc; cases hc
  | pollRaises hp => rw [hp] at hc; cases hc
  | _ => exact ⟨rfl, rfl⟩

theorem Check.guarded (h : Check r r' ds) : r'.place.guarded = true := by
  cases h with
  | looks hp => exact hp
  | _ => rfl

theorem Check.dire (h : Check r r' ds) (ha : AbortReason.Dire r.session.abort) :
    AbortReason.Dire r'.session.abort := by
  cases h with
  | looks => exact ha
  | found => exact ha
  | raises h3 => exact AbortReason.dire_merge (by omega)

theorem WorkerStep.dire (h : WorkerStep v r reply r' ds) (hk : v.killed ≠ none)
    (hg : r.place.guarded = true) (ha : AbortReason.Dire r.session.abort) :
    AbortReason.Dire r'.session.abort := by
  cases hc : r.place.checks with
  | true => exact (h.check hk hg hc).dire ha
  | false =>
    rw [(h.outside hc).2]
    exact ha

end

/-! ## one move -/

section
variable {s s' v w : System} {m : Move} {i : RunId} {r r' : Run} {ds : List Deed} {n : Nat}
  {ms : List Move}

/-- those who are not the worker request nothing but what terminates the run -/
theorem RunChange.dire (h : RunChange s m i r r' ds) (hm : m.isWorkOf i = false)
    (ha : AbortReason.Dire r.session.abort) : AbortReason.Dire r'.session.abort := by
  cases h with
  | worked hw =>
    rw [hw] at hm
    simp [Move.isWorkOf] at hm
  | @commanded c =>
    rcases r.session.control_cases c with ⟨h, _⟩ | ⟨h, _⟩ <;> rw [h]
    · exact ha
    · cases c with
      | stop => exact AbortReason.dire_merge (Nat.le_refl 2)
      | terminate => exact AbortReason.dire_merge (Nat.le_succ 2)
      | _ => exact ha
  | swept => exact AbortReason.dire_merge (Nat.le_succ 2)
  | launched => rw [Session.settle_abort]; exact ha
  | _ => exact ha

theorem System.Reachable.guarded (hs : s.Reachable) (hr : s.runs[i]? = some r)
    (hp : r.place.inCall = false) : r.place.guarded = true := by
  refine hs.every_run (P := fun r _ => r.place.inCall = false → r.place.guarded = true) ?_ ?_ hr hp
  · exact fun _ _ _ _ _ => rfl
  · intro s m i r r' ds _ _ hc ih
    cases hc with
    | worked _ hw =>
      intro hout
      cases hw with
      | call _ h =>
        cases h with
        | atGate _ h =>
          cases h with
          | aborts => rfl
          | _ => cases hout
        | slotSet | announcedStop | sliceBroke | inputBroke | progress | repaused | raises => rfl
        | _ => cases hout
      | staged _ hn => exact Place.guarded_of_isStage hn
      | calls => cases hout
      | _ => rfl
    | spawned => exact fun _ => rfl
    | _ => exact ih

namespace System

/-- the slot of the run terminates it, and its worker has settled on no other outcome -/
def Doomed (s : System) (i : RunId) : Prop :=
  ∃ a, s.slot? i = some a ∧ 2 ≤ a.priority ∧
    ∀ o, s.outcome? i = some o → ∃ b, o = .terminated b

/-- a host call or an interrupt check of the run is about to find out that the switch is engaged -/
def Pending (s : System) (i : RunId) : Prop :=
  ∃ r, s.runs[i]? = some r ∧ r.session.abort = none ∧ r.place.guarded = true ∧
    r.place.checks = true

theorem doomed_of_slot {a : AbortReason} {p : Place} (ha : s.slot? i = some a)
    (h2 : 2 ≤ a.priority) (hp : s.placeOf? i = some p) (ho : p.outcome? = none) : s.Doomed i := by
  refine ⟨a, ha, h2, fun o h => ?_⟩
  rw [outcome?, hp, Option.bind_some, ho] at h
  cases h

theorem Doomed.step (ht : s.Tidy) (hd : s.Doomed i) (h : s.step? m = some s') : s'.Doomed i := by
  -- the slot gives way to a higher reason only, and an outcome settled on now is what it holds
  obtain ⟨a, ha, h2, ho⟩ := hd
  obtain ⟨b, hb, hab⟩ := slot_step ha h
  refine ⟨b, hb, Nat.le_trans h2 hab.priority_le, fun o' ho' => ?_⟩
  cases hn : s.outcome? i with
  | none =>
    obtain ⟨e, _, rfl⟩ := looked_step ht hn h ho'
    rw [ha, Run.outcomeOf_some]
    exact ⟨a, Outcome.ofAbort_of_priority h2⟩
  | some o =>
    rw [outcome?_step ht hn h] at ho'
    obtain rfl := Option.some.inj ho'
    exact ho o hn

theorem Doomed.terminated {x : RunResult} (hs : s.Reachable) (hd : s.Doomed i)
    (hp : s.play? ms = some s') (hx : (s'.placeOf? i).bind Place.result? = some x) :
    ∃ b, x.outcome = .terminated b := by
  have hend := play?_induction (P := fun t => t.Tidy ∧ t.Doomed i)
    (fun h hstep => ⟨h.1.step hstep, h.2.step h.1 hstep⟩) ⟨hs.tidy, hd⟩ hp
  obtain ⟨a, _, _, ho⟩ := hend.2
  exact ho x.outcome (outcome?_of_result hx)

theorem Pending.step (ht : s.Tidy) (hk : s.killSwitch.active = true) (hp : s.Pending i)
    (h : s.step? m = some s') : s'.Pending i ∨ s'.Doomed i := by
  obtain ⟨r, hr, ha, hg, hc⟩ := hp
  rcases worked_or h hr with ⟨reply, r', ds, _, hr', _, hw⟩ | ⟨hm, r', hr', _, hch⟩
  · cases hw.check (killed_ne_none hk) hg hc with
    | looks hg' hc' => exact Or.inl ⟨_, hr', ha, hg', hc'⟩
    | found hf => rw [ha] at hf; cases hf
    | @raises a _ h3 =>
      have hslot : s'.slot? i = some a := by
        rw [slot?_of_run hr', Session.request_abort, ha]
        rfl
      exact Or.inr (doomed_of_slot hslot (by omega) (placeOf?_of_run hr') rfl)
  · have hb : r.place ≠ .unborn := fun hb => by rw [hb] at hc; cases hc
    obtain ⟨hplace, _⟩ := hch.aside ht hr hm hb
    have hdire := hch.dire hm (by rw [ha]; exact AbortReason.dire_none)
    cases ha' : r'.session.abort with
    | none => exact Or.inl ⟨r', hr', ha', by rw [hplace]; exact hg, by rw [hplace]; exact hc⟩
    | some a =>
      have hslot : s'.slot? i = some a := by rw [slot?_of_run hr', ha']
      exact Or.inr (doomed_of_slot hslot (hdire a ha') (placeOf?_of_run hr')
        (by rw [hplace, Place.outcome?_of_checks hc]))

/-- the switch has just been turned on; one run is in its script, and a start has come past the
switch and is about to enter the registry -/
def engaged : System :=
  (attended {}).after [.request (.start ⟨"t", "t", ""⟩ {}), .proceed 2 .go,
    .proceed 2 (.provision (.ok ())), .proceed 2 .go, .request (.activate "off"), .proceed 3 .go]

end System

end

end ScriptGuard
