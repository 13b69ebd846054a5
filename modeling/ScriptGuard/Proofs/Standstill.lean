import ScriptGuard.Proofs.Starts

/-!
# A run that is stopped begins one more call of its device at most

A run stands still (`System.Halted`) when its abort slot is set, when the kill switch is engaged,
when its session is paused, or when it has made its last move.  While it does, the pause gate is
not passed.  Between two passages of the gate a host call begins at most one call of the device, so

* `CallPoint.credit`            1 where the gate has been passed and no call has been begun since;
* `WorkerStep.outlay_le`        in a run that stands still no step raises the number of calls begun
                                by host calls plus the credit;
* `hostCalls_le_of_halted`      hence one more call at most while the run stands still.

A set slot stays set (`slot_step`), and a paused run stays paused until an accepted Resume or Step
(`held_step`), so that a run stands still from each of the three moments on.
-/

namespace ScriptGuard

/-! ## the credit of a place -/

/-- the device calls that can still be begun before the gate is passed again -/
def CallPoint.credit : CallPoint → Nat
  | .announce _ none | .permit _ | .seek _ _ | .asking _ _ | .grant _ _ | .sleep _ | .act => 1
  | _ => 0

def Place.credit : Place → Nat
  | .call _ p => p.credit
  | _ => 0

theorem Place.credit_le_one (p : Place) : p.credit ≤ 1 := by
  cases p with
  | call f p =>
    cases p with
    | announce k stop => cases stop <;> simp [credit, CallPoint.credit]
    | _ => simp [credit, CallPoint.credit]
  | _ => simp [credit]

theorem Place.credit_of_not_inCall {p : Place} (h : p.inCall = false) : p.credit = 0 := by
  cases p with
  | call f q => cases h
  | _ => rfl

/-! ## one step -/

section
variable {v : View} {r r' : Run} {f : Frame} {p : CallPoint} {reply : Reply}
  {ds old : List Deed}

/-- what keeps a worker from passing the gate -/
def Run.Blocked (r : Run) (v : View) : Prop :=
  r.session.abort ≠ none ∨ v.killed ≠ none ∨ r.session.state = .paused

theorem Run.Blocked.not_passed {holds held paused : Bool} {now : Nat} {s : Session}
    (hb : r.Blocked v)
    (hg : r.session.GateMove v.killed holds now (.passed held) paused s) : False := by
  obtain ⟨ha, hk, hp⟩ := hg.clear_of_passed
  rcases hb with hb | hb | hb
  · exact hb ha
  · exact hb hk
  · exact hp hb

theorem CallStep.outlay_le (h : CallStep v r f p reply r' ds) (hb : r.Blocked v)
    (ho : Deed.underWay old = true) :
    (Deed.hostCalls (ds.reverse ++ old)).length + r'.place.credit
      ≤ (Deed.hostCalls old).length + p.credit := by
  cases h with
  | atGate hp h =>
    have hc : p.credit = 0 := by rcases hp with rfl | rfl <;> rfl
    rw [hc]
    cases h with
    | passes hg => exact (hb.not_passed hg).elim
    | passesShown hg => exact (hb.not_passed hg).elim
    | _ => simp [Place.credit, CallPoint.credit, Deed.hostCalls]
  | @announced k => cases k <;> simp [Run.passed, Place.credit, CallPoint.credit, Deed.hostCalls]
  | _ => simp [Place.credit, CallPoint.credit, Deed.hostCalls, ho]

theorem WorkerStep.outlay_le (h : WorkerStep v r reply r' ds)
    (hb : r.place.inCall = true → r.Blocked v) (ho : Deed.underWay old = r.place.inCall) :
    (Deed.hostCalls (ds.reverse ++ old)).length + r'.place.credit
      ≤ (Deed.hostCalls old).length + r.place.credit := by
  cases h with
  | call hp h =>
    rw [hp] at ho hb ⊢
    exact h.outlay_le (hb rfl) ho
  | staged _ hn =>
    have h0 := Place.credit_of_not_inCall (Place.inCall_of_isStage hn)
    simp [h0]
  | remembers hp => split <;> simp [Place.credit, Deed.hostCalls]
  | lets hp =>
    rw [hp] at ho
    simp [Place.credit, Deed.hostCalls, ho, Place.inCall]
  | rescues hp =>
    rw [hp] at ho
    simp [Place.credit, Deed.hostCalls, ho, Place.inCall]
  | _ => simp [Place.credit, CallPoint.credit, Deed.hostCalls]

theorem WorkerStep.upgrade (h : WorkerStep v r reply r' ds) {a : AbortReason}
    (ha : r.session.abort = some a) :
    ∃ b, r'.session.abort = some b ∧ AbortReason.Upgrade a b := by
  have same : ∃ b, r.session.abort = some b ∧ AbortReason.Upgrade a b := ⟨a, ha, .refl a⟩
  cases h with
  | call _ h =>
    cases h with
    | atGate _ h =>
      obtain ⟨_, _, hg⟩ := h.gateMove
      exact hg.upgrade ha
    | repauses => simpa using same
    | raises => exact Session.request_upgrade _ ha
    | _ => exact same
  | pollRaises => exact Session.request_upgrade _ ha
  | settles => simpa using same
  | _ => exact same

/-- a step of a worker keeps a paused session paused, until its last move -/
theorem WorkerStep.held (h : WorkerStep v r reply r' ds)
    (hs : r.session.state = .paused ∨ r.place.isOver = true) :
    r'.session.state = .paused ∨ r'.place.isOver = true := by
  have hstay (hp : r.place.isOver = false) : r.session.state = .paused := by
    rcases hs with hs | hs
    · exact hs
    · rw [hp] at hs
      cases hs
  rcases h.kinds with ⟨f, p, hp, h⟩ | ⟨g, args, rfl⟩ | ⟨_, hb⟩
  · have hp' := hstay (by rw [hp]; rfl)
    left
    cases h with
    | atGate _ h =>
      obtain ⟨_, _, hg⟩ := h.gateMove
      exact hg.paused_of_paused hp'
    | repauses =>
      have hm : r.session.mustRepause = false := by simp [Session.mustRepause, hp']
      rw [Session.repause_eq_self _ hm]
      exact hp'
    | _ => exact hp'
  · obtain ⟨hp, ⟨c, _, rfl, _⟩ | ⟨e, _, rfl, _⟩⟩ := h.of_call
    · exact Or.inl (hstay (by rw [hp]; rfl))
    · exact Or.inl (hstay (by rw [hp]; rfl))
  · have hbt := hb [] rfl
    rcases hs with hs | hs
    · exact hbt.state.imp (fun he => he.trans hs) id
    · exact Or.inr (hbt.past hs)

end

theorem RunChange.upgrade {s : System} {m : Move} {i : RunId} {r r' : Run} {ds : List Deed}
    (h : RunChange s m i r r' ds) {a : AbortReason} (ha : r.session.abort = some a) :
    ∃ b, r'.session.abort = some b ∧ AbortReason.Upgrade a b := by
  cases h with
  | still => exact ⟨a, ha, .refl a⟩
  | worked _ hw => exact hw.upgrade ha
  | commanded => exact Session.control_upgrade _ ha
  | swept => exact Session.request_upgrade _ ha
  | launched => exact ⟨a, by simpa using ha, .refl a⟩
  | spawned => exact ⟨a, ha, .refl a⟩

namespace System

/-! ## runs that stand still -/

/-- the run of a number does not pass the gate now -/
def Halted (run : RunId) (s : System) : Prop :=
  s.killSwitch.active = true ∨ ∃ r, s.runs[run]? = some r ∧
    (r.session.abort ≠ none ∨ r.session.state = .paused ∨ r.place.isOver = true)

/-- the calls begun by the host calls of a run, with the credit of its place -/
def outlay (s : System) (run : RunId) : Nat :=
  (s.hostCalls run).length + ((s.runs[run]?).map (·.place.credit)).getD 0

section
variable {s s' : System} {m : Move} {i : RunId}

theorem outlay_of_run {r : Run} (hr : s.runs[i]? = some r) :
    s.outlay i = (Deed.hostCalls (s.deeds i)).length + r.place.credit := by
  simp [outlay, hostCalls, hr]

theorem killed_ne_none (h : s.killSwitch.active = true) : s.view.killed ≠ none := by
  simp [view, KillSwitch.poll, h]

theorem Halted.blocked {r : Run} (h : s.Halted i) (hr : s.runs[i]? = some r)
    (hc : r.place.inCall = true) : r.Blocked s.view := by
  rcases h with hk | ⟨r₁, hr₁, h⟩
  · exact Or.inr (Or.inl (killed_ne_none hk))
  · rw [hr] at hr₁
    cases hr₁
    rcases h with ha | hp | ho
    · exact Or.inl ha
    · exact Or.inr (Or.inr hp)
    · cases hplace : r.place <;> simp_all [Place.inCall, Place.isOver]

theorem outlay_step (ht : s.Tidy) (hh : s.Halted i) (hs : s.step? m = some s') :
    s'.outlay i ≤ s.outlay i := by
  cases hr : s.runs[i]? with
  | none =>
    obtain ⟨hd, hn⟩ := newRun hs hr
    rcases hn with hn | ⟨_, _, _, hn⟩
    · simp [outlay, hostCalls, hd, hr, hn]
    · simp [outlay, hostCalls, hd, hr, hn, enrolled, Place.credit]
  | some r =>
    obtain ⟨r', ds, hr', hd, hc⟩ := runChange hs hr
    rw [outlay_of_run hr, outlay_of_run hr', hd]
    cases hc with
    | worked _ hw => exact hw.outlay_le (hh.blocked hr) (ht.bracket i r hr)
    | spawned => simp [Place.credit]
    | _ => exact Nat.le_refl _

/-- **One more call of the device at most while a run stands still.** -/
theorem hostCalls_le_of_halted {ms : List Move}
    (hh : s.Throughout (fun t => t.Tidy ∧ t.Halted i) ms) (hs : s.play? ms = some s') :
    (s'.hostCalls i).length ≤ (s.hostCalls i).length + 1 := by
  have hle : s'.outlay i ≤ s.outlay i :=
    hh.induction (Q := fun t => t.outlay i ≤ s.outlay i)
      (fun hp _ hq h => Nat.le_trans (outlay_step hp.1 hp.2 h) hq) (Nat.le_refl _) hs
  have hone : ((s.runs[i]?).map (·.place.credit)).getD 0 ≤ 1 := by
    cases s.runs[i]? with
    | none => exact Nat.zero_le 1
    | some r => exact r.place.credit_le_one
  unfold outlay at hle
  omega

/-- a set slot stays set; a reason in it gives way to one of higher priority only -/
theorem slot_step {a : AbortReason} (ha : s.slot? i = some a) (hs : s.step? m = some s') :
    ∃ b, s'.slot? i = some b ∧ AbortReason.Upgrade a b := by
  obtain ⟨r, hr, ha⟩ := Option.bind_eq_some_iff.1 ha
  obtain ⟨r', ds, hr', _, hc⟩ := runChange hs hr
  obtain ⟨b, hb, hab⟩ := hc.upgrade ha
  exact ⟨b, by simp [slot?, hr', hb], hab⟩

theorem not_resume_step {r : Run} {c : Command} (hr : s.runs[i]? = some r)
    (hm : s.puts? m = some (i, c)) (hf : ¬ s.Frees i m) (shown : Option RunState)
    (ha : (r.session.control c).1 = .applied shown) : c ≠ .resume ∧ c ≠ .step := by
  refine ⟨?_, ?_⟩
  · rintro rfl
    exact hf (Or.inl ⟨hm, r, shown, hr, ha⟩)
  · rintro rfl
    exact hf (Or.inr ⟨hm, r, shown, hr, ha⟩)

theorem held_step (ht : s.Tidy) {r : Run} (hr : s.runs[i]? = some r)
    (hh : r.session.state = .paused ∨ r.place.isOver = true) (hf : ¬ s.Frees i m)
    (hs : s.step? m = some s') :
    ∃ r', s'.runs[i]? = some r' ∧
      (r'.session.state = .paused ∨ r'.place.isOver = true) := by
  obtain ⟨r', ds, hr', _, hc⟩ := runChange hs hr
  refine ⟨r', hr', ?_⟩
  cases hc with
  | still => exact hh
  | worked _ hw => exact hw.held hh
  | @commanded c hm =>
    rcases hh with hp | ho
    · left
      exact Session.control_paused hp (not_resume_step hr hm hf)
    · exact Or.inr ho
  | swept => exact hh
  | launched _ _ hin =>
    obtain ⟨hp, hi⟩ := ht.unborn_of_launch hr hin
    rcases hh with hh | hh
    · rw [hi] at hh
      cases hh
    · rw [hp] at hh
      cases hh
  | spawned _ _ hin =>
    rcases hh with hh | hh
    · exact Or.inl hh
    · rw [ht.unborn_of_spawn hr hin] at hh
      cases hh

theorem run_of_accepts {c : Command} (ha : s.Accepts m i c) (hs : s.step? m = some s') :
    ∃ r, s.runs[i]? = some r ∧ c.isAvailable r.session.mode r.session.state = true ∧
      s'.runs[i]? = some { r with session := r.session.apply c } := by
  obtain ⟨hm, r, shown, hr, hap⟩ := ha
  obtain ⟨r', ds, hr', _, hc⟩ := runChange hs hr
  have happ : r.session.control c = (.applied (Session.shownBy c), r.session.apply c) ∧
      c.isAvailable r.session.mode r.session.state = true := by
    rcases r.session.control_cases c with ⟨_, hn⟩ | ⟨h, hav, _⟩
    · exact absurd hap (hn shown)
    · exact ⟨h, hav⟩
  refine ⟨r, hr, happ.2, ?_⟩
  rw [hr']
  cases hc with
  | still hn => exact absurd hm (hn c)
  | worked hw => rw [hw] at hm; cases hm
  | commanded hm' =>
    rw [hm] at hm'
    cases hm'
    rw [happ.1]
  | swept hn => rw [hm] at hn; cases hn
  | launched hn => rw [hm] at hn; cases hn
  | spawned hn => rw [hm] at hn; cases hn

/-! ## the three moments -/

/-- from now on, while the moves are made, the run is to unwind: its slot is set, or the kill
switch stays engaged -/
def Stopped (s : System) (i : RunId) (ms : List Move) : Prop :=
  (s.slot? i).isSome = true ∨ s.Throughout (fun t => t.killSwitch.active = true) ms

/-- from now on, while the moves are made, the run is not to go on: it is stopped, or it is paused
and no Resume or Step is accepted -/
def Stilled (s : System) (i : RunId) (ms : List Move) : Prop :=
  s.Stopped i ms ∨ (s.stateOf? i = some .paused ∧ s.Without (Frees i) ms)

theorem Stopped.throughout {ms : List Move} (h : s.Stopped i ms) :
    s.Throughout (fun t => t.killSwitch.active = true ∨ ∃ a, t.slot? i = some a) ms := by
  rcases h with h | h
  · obtain ⟨a, ha⟩ := Option.isSome_iff_exists.1 h
    refine Throughout.mono (fun _ => Or.inr) (Throughout.of_step ?_ ⟨a, ha⟩)
    rintro t t' m ⟨b, hb⟩ hstep
    obtain ⟨c, hc, _⟩ := slot_step hb hstep
    exact ⟨c, hc⟩
  · exact h.mono fun _ => Or.inl

theorem Stilled.halted {ms : List Move} (hs : s.Reachable) (h : s.Stilled i ms) :
    s.Throughout (fun t => t.Tidy ∧ t.Halted i) ms := by
  rcases h with h | ⟨h, hw⟩
  · refine (Throughout.and_step (fun ht hstep => ht.step hstep) hs.tidy h.throughout).mono ?_
    rintro t ⟨ht, hk | ⟨a, ha⟩⟩
    · exact ⟨ht, Or.inl hk⟩
    · obtain ⟨r, hr, ha⟩ := Option.bind_eq_some_iff.1 ha
      exact ⟨ht, Or.inr ⟨r, hr, Or.inl (by rw [ha]; simp)⟩⟩
  · obtain ⟨r, hr, hp⟩ := Option.map_eq_some_iff.1 h
    refine Throughout.mono (P := fun t => t.Tidy ∧ ∃ r, t.runs[i]? = some r ∧
      (r.session.state = .paused ∨ r.place.isOver = true)) ?_
      (Throughout.of_without ?_ ⟨hs.tidy, r, hr, Or.inl hp⟩ hw)
    · rintro t ⟨ht, r, hr, hh⟩
      exact ⟨ht, Or.inr ⟨r, hr, Or.inr hh⟩⟩
    · rintro t t' m ⟨ht, r, hr, hh⟩ hf hstep
      exact ⟨ht.step hstep, held_step ht hr hh hf hstep⟩

theorem paused_of_accepts (ha : s.Accepts m i .pause) (hs : s.step? m = some s') :
    s'.stateOf? i = some .paused := by
  obtain ⟨r, _, _, hr'⟩ := run_of_accepts ha hs
  rw [stateOf?, hr']
  rfl

end

/-- **From the moment its slot is set, while the kill switch stays engaged, and from an accepted
Pause to the next accepted Resume or Step, the host calls of a run begin at most one more call of
the device, waits and inputs counted together.** -/
theorem hostCalls_le_succ {s s' : System} {i : RunId} {ms : List Move} (hs : s.Reachable)
    (h : (∃ a, s.slot? i = some a) ∨ s.Throughout (fun t => t.killSwitch.active = true) ms ∨
      ((∃ (t : System) (m : Move), t.step? m = some s ∧ t.Accepts m i .pause) ∧
        s.Without (Frees i) ms))
    (hp : s.play? ms = some s') :
    (s'.hostCalls i).length ≤ (s.hostCalls i).length + 1 := by
  have hstill : s.Stilled i ms := by
    rcases h with ⟨a, ha⟩ | h | ⟨⟨t, m, hm, ha⟩, hw⟩
    · exact Or.inl (Or.inl (by rw [ha]; rfl))
    · exact Or.inl (Or.inr h)
    · exact Or.inr ⟨paused_of_accepts ha hm, hw⟩
  exact hostCalls_le_of_halted (hstill.halted hs) hp

/-- the bound is met: Terminate comes while the handler is asked, and the text is typed -/
theorem hostCalls_le_succ_questioned :
    let s := (questioned {}).after [.request (.control "s" .terminate), .proceed 2 .go]
    let s' := s.after (.work 0 (.verdict .approved) :: List.replicate 4 (.work 0 .go))
    s.slot? 0 = some .terminated ∧ s'.hostCalls 0 = [.input (.text "hi")] ∧
      (s'.hostCalls 0).length ≤ (s.hostCalls 0).length + 1 := by
  intro s s'
  have hs : s.Reachable := (reachable_questioned _).after _
  have ha : s.slot? 0 = some .terminated := by decide +kernel
  have hp : s.play? (.work 0 (.verdict .approved) :: List.replicate 4 (.work 0 .go)) = some s' :=
    play?_after (by decide +kernel)
  exact ⟨ha, by decide +kernel, hostCalls_le_succ hs (Or.inl ⟨_, ha⟩) hp⟩

end System

end ScriptGuard
