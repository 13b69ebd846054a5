import ScriptGuard.Proofs.Standstill

/-!
# A set slot brings the run to its end

Once the abort slot of a run is set, whatever the script does and whatever else happens:

* `slot_play`            the slot stays set, and gives way to reasons of higher priority only;
* `System.Unwinds`       calls begun from now on do nothing outside and are not counted; a call and
                         an interrupt check give back the reason the slot then holds; the run ends
                         with the outcome of such a reason, whatever the interpreter gave back;
* `unwinds_of_slot`      all of this at every moment after the slot has been set.

A call begun with a set slot comes to its first look into the slot and no further
(`Place.atDoor`, `WorkerStep.quiet`).
-/

namespace ScriptGuard

/-- no host call has come past its first look into the slot -/
def Place.atDoor : Place → Bool
  | .call _ (.slot .opening) => true
  | .call _ _ => false
  | _ => true

/-- the outcome that has been settled on -/
def Place.outcome? : Place → Option Outcome
  | .settling o => some o
  | .leaving x | .remembering x | .tellState x | .tellResult x | .tellIdle x | .gone x =>
    some x.outcome
  | _ => none

theorem Place.atDoor_of_not_inCall {p : Place} (h : p.inCall = false) : p.atDoor = true := by
  cases p with
  | call f q => cases h
  | _ => rfl

theorem Place.outcome?_of_isStage {p : Place} (h : p.isStage = true) : p.outcome? = none := by
  obtain rfl | ⟨_, rfl⟩ | rfl := Place.stage_cases h <;> rfl

theorem Run.outcomeOf_some (a : AbortReason) (e : Ending) :
    Run.outcomeOf (some a) e = .ofAbort a := rfl

/-! ## one step -/

section
variable {v : View} {r r' : Run} {reply : Reply} {ds old : List Deed} {a : AbortReason}

/-- with a set slot a step leaves every host call at its door and does nothing for one -/
theorem WorkerStep.quiet (h : WorkerStep v r reply r' ds) (ha : r.session.abort = some a)
    (hd : r.place.atDoor = true) (ho : Deed.underWay old = r.place.inCall) :
    r'.place.atDoor = true ∧ r'.session.index = r.session.index ∧
      Deed.hostCalls (ds.reverse ++ old) = Deed.hostCalls old ∧
      ds.filterMap Deed.question? = [] ∧ ds.filterMap Deed.progress? = [] := by
  rcases h.kinds with ⟨f, p, hp, h⟩ | ⟨g, args, rfl⟩ | ⟨hc, hb⟩
  · rw [hp] at hd
    cases h with
    | slotSet => exact ⟨rfl, rfl, rfl, rfl, rfl⟩
    | slotClear hn => rw [ha] at hn; cases hn
    | atGate hg => rcases hg with rfl | rfl <;> cases hd
    | _ => cases hd
  · obtain ⟨_, ⟨c, _, rfl, rfl⟩ | ⟨e, _, rfl, rfl⟩⟩ := h.of_call
    · exact ⟨rfl, rfl, rfl, rfl, rfl⟩
    · exact ⟨rfl, rfl, rfl, rfl, rfl⟩
  · have hbt := hb old (ho.trans hc)
    refine ⟨Place.atDoor_of_not_inCall hbt.outside, hbt.index, hbt.hostCalls, ?_, ?_⟩
    · exact List.filterMap_eq_nil_iff.2 fun d hd => (hbt.quiet d hd).2.2.1
    · exact List.filterMap_eq_nil_iff.2 fun d hd => (hbt.quiet d hd).2.2.2

theorem WorkerStep.outcome?_eq (h : WorkerStep v r reply r' ds) (ha : r.session.abort = some a)
    {o : Outcome} (ho : r'.place.outcome? = some o) :
    r.place.outcome? = some o ∨ o = .ofAbort a := by
  cases h with
  | call _ h =>
    cases h with
    | atGate _ h => cases h <;> cases ho
    | _ => cases ho
  | staged _ hn => rw [Place.outcome?_of_isStage hn] at ho; cases ho
  | concludes hp =>
    right
    rw [ha, Run.outcomeOf_some] at ho
    exact (Option.some.inj ho).symm
  | settles hp => left; rw [hp]; exact ho
  | leaves hp => left; rw [hp]; exact ho
  | remembers hp => left; rw [hp]; exact ho
  | tellsState hp => left; rw [hp]; exact ho
  | tellsResult hp => left; rw [hp]; exact ho
  | tellsIdle hp => left; rw [hp]; exact ho
  | _ => cases ho

end

namespace System

/-! ## from one moment to a later one -/

/-- between two moments the host calls of a run have done nothing outside, and none was counted -/
structure Untouched (s s' : System) (i : RunId) : Prop where
  hostCalls : s'.hostCalls i = s.hostCalls i
  questions : s'.questions i = s.questions i
  progress : s'.progress i = s.progress i
  index : s'.indexOf? i = s.indexOf? i

section
variable {s s' : System} {m : Move} {i : RunId} {ms : List Move} {a : AbortReason} {r : Run}

theorem Untouched.refl (s : System) (i : RunId) : s.Untouched s i := ⟨rfl, rfl, rfl, rfl⟩

theorem Untouched.trans {t : System} (h : s.Untouched t i) (h' : t.Untouched s' i) :
    s.Untouched s' i where
  hostCalls := h'.hostCalls.trans h.hostCalls
  questions := h'.questions.trans h.questions
  progress := h'.progress.trans h.progress
  index := h'.index.trans h.index

theorem untouched_of_deeds {r' : Run} {ds : List Deed} (hr : s.runs[i]? = some r)
    (hr' : s'.runs[i]? = some r') (hd : s'.deeds i = ds.reverse ++ s.deeds i)
    (hi : r'.session.index = r.session.index)
    (hc : Deed.hostCalls (ds.reverse ++ s.deeds i) = Deed.hostCalls (s.deeds i))
    (hq : ds.filterMap Deed.question? = []) (hp : ds.filterMap Deed.progress? = []) :
    s.Untouched s' i where
  hostCalls := by rw [System.hostCalls, hd, hc, System.hostCalls]
  questions := by
    rw [System.questions, hd, List.filterMap_append, List.filterMap_reverse, hq]
    rfl
  progress := by
    rw [System.progress, hd, List.filterMap_append, List.filterMap_reverse, hp]
    rfl
  index := by rw [indexOf?, indexOf?, hr, hr', Option.map_some, Option.map_some, hi]

theorem quiet_step (ht : s.Tidy) (hr : s.runs[i]? = some r) (ha : r.session.abort = some a)
    (hd : r.place.atDoor = true) (hs : s.step? m = some s') :
    (∃ r', s'.runs[i]? = some r' ∧ r'.place.atDoor = true) ∧ s.Untouched s' i := by
  rcases worked_or hs hr with ⟨reply, r', ds, _, hr', hds, hw⟩ | ⟨hm, r', hr', hds, hc⟩
  · obtain ⟨hd', hi, hcalls, hq, hp⟩ := hw.quiet ha hd (ht.bracket i r hr)
    exact ⟨⟨r', hr', hd'⟩, untouched_of_deeds hr hr' hds hi hcalls hq hp⟩
  · have hds : s'.deeds i = ([] : List Deed).reverse ++ s.deeds i := hds
    obtain ⟨hplace, hi, _⟩ := hc.unmoved ht hr hm
    refine ⟨⟨r', hr', ?_⟩, untouched_of_deeds hr hr' hds hi rfl rfl rfl⟩
    rcases hplace with hplace | ⟨_, hplace⟩ <;> rw [hplace]
    · exact hd
    · rfl

theorem quiet_play (ht : s.Tidy) (hr : s.runs[i]? = some r) (ha : r.session.abort = some a)
    (hd : r.place.atDoor = true) (hs : s.play? ms = some s') : s.Untouched s' i := by
  have h := play?_induction (P := fun t => t.Tidy ∧ (∃ r b, t.runs[i]? = some r ∧
    r.session.abort = some b ∧ r.place.atDoor = true) ∧ s.Untouched t i) ?_
    ⟨ht, ⟨r, a, hr, ha, hd⟩, .refl s i⟩ hs
  · exact h.2.2
  · rintro t t' m ⟨ht, ⟨r, b, hr, hb, hd⟩, hu⟩ hstep
    have hslot : t.slot? i = some b := by rw [slot?_of_run hr, hb]
    obtain ⟨c, hc, _⟩ := slot_step hslot hstep
    obtain ⟨⟨r', hr', hd'⟩, hu'⟩ := quiet_step ht hr hb hd hstep
    rw [slot?_of_run hr'] at hc
    exact ⟨ht.step hstep, ⟨r', c, hr', hc, hd'⟩, hu.trans hu'⟩

theorem slot_play (ha : s.slot? i = some a) (hs : s.play? ms = some s') :
    ∃ b, s'.slot? i = some b ∧ AbortReason.Upgrade a b := by
  refine play?_induction (P := fun t => ∃ b, t.slot? i = some b ∧ AbortReason.Upgrade a b) ?_
    ⟨a, ha, .refl a⟩ hs
  rintro t t' m ⟨b, hb, hab⟩ hstep
  obtain ⟨c, hc, hbc⟩ := slot_step hb hstep
  exact ⟨c, hc, hab.trans hbc⟩

/-- a run whose slot is set settles on no outcome but that of its slot -/
theorem outcome_play (ht : s.Tidy) (ha : s.slot? i = some a)
    (ho : (s.placeOf? i).bind Place.outcome? = none) (hs : s.play? ms = some s') {o : Outcome}
    (ho' : (s'.placeOf? i).bind Place.outcome? = some o) :
    ∃ b, AbortReason.Upgrade a b ∧ o = .ofAbort b := by
  have h := play?_induction (P := fun t => t.Tidy ∧
    (∃ b, t.slot? i = some b ∧ AbortReason.Upgrade a b) ∧
    ∀ o, (t.placeOf? i).bind Place.outcome? = some o →
      ∃ b, AbortReason.Upgrade a b ∧ o = .ofAbort b) ?_
    ⟨ht, ⟨a, ha, .refl a⟩, fun o h => by rw [ho] at h; cases h⟩ hs
  · exact h.2.2 o ho'
  · rintro t t' m ⟨ht, ⟨b, hb, hab⟩, hP⟩ hstep
    obtain ⟨c, hc, hbc⟩ := slot_step hb hstep
    refine ⟨ht.step hstep, ⟨c, hc, hab.trans hbc⟩, fun o ho => ?_⟩
    obtain ⟨r, hr, hb⟩ := Option.bind_eq_some_iff.1 hb
    obtain ⟨r', ds, hr', _, hch⟩ := runChange hstep hr
    rw [placeOf?_of_run hr', Option.bind_some] at ho
    rw [placeOf?_of_run hr, Option.bind_some] at hP
    cases hch with
    | worked _ hw =>
      rcases hw.outcome?_eq hb ho with h | rfl
      · exact hP o h
      · exact ⟨b, hab, rfl⟩
    | spawned => cases ho
    | _ => exact hP o ho

/-! ## what the worker does next -/

theorem next_slot {f : Frame} {k : Resume} (hr : s.runs[i]? = some r)
    (ha : r.session.abort = some a) (hp : r.place = .call f (.slot k)) :
    s.Next i fun s' => s'.placeOf? i = some .script ∧
      s'.deeds i = .replied f.function (.error (.abort a)) :: s.deeds i := by
  refine next_of hr (by simp [Run.advance, Run.advanceCall, hp, ha]) ?_
  intro reply r' ds s' hw hr' hd
  cases hw with
  | call hp' h =>
    rw [hp] at hp'
    cases hp'
    cases h with
    | slotSet ha' =>
      rw [ha] at ha'
      cases ha'
      exact ⟨by rw [placeOf?, hr']; rfl, hd⟩
    | slotClear ha' => rw [ha] at ha'; cases ha'
    | atGate hg => rcases hg with hg | hg <;> cases hg
  | _ hp' => simp_all [Place.isStage]

theorem next_poll (hr : s.runs[i]? = some r) (ha : r.session.abort = some a)
    (hp : r.place = .polling .slot) :
    s.Next i fun s' => s'.placeOf? i = some .script ∧
      s'.deeds i = .polled (some a) :: s.deeds i := by
  refine next_of hr (by simp [Run.advance, hp]) ?_
  intro reply r' ds s' hw hr' hd
  cases hw with
  | pollSet _ ha' =>
    rw [ha] at ha'
    cases ha'
    exact ⟨by rw [placeOf?, hr']; rfl, hd⟩
  | _ hp' => simp_all [Place.isStage]

theorem next_finishing {e : Ending} (hr : s.runs[i]? = some r) (ha : r.session.abort = some a)
    (hp : r.place = .finishing e) :
    s.Next i fun s' => s'.placeOf? i = some (.settling (.ofAbort a)) := by
  refine next_of hr (by simp [Run.advance, hp]) ?_
  intro reply r' ds s' hw hr' _
  cases hw with
  | concludes =>
    rw [placeOf?, hr', ha]
    rfl
  | _ hp' => simp_all [Place.isStage]

theorem next_settling {o : Outcome} (hr : s.runs[i]? = some r) (hp : r.place = .settling o) :
    s.Next i fun s' => ∃ x, s'.placeOf? i = some (.leaving x) ∧ x.outcome = o := by
  refine next_of hr (by simp [Run.advance, hp]) ?_
  intro reply r' ds s' hw hr' _
  cases hw with
  | settles hp' =>
    rw [hp] at hp'
    cases hp'
    exact ⟨_, by rw [placeOf?, hr']; rfl, rfl⟩
  | _ hp' => simp_all [Place.isStage]

/-! ## the rest of the run -/

/-- what is in store for a run whose slot is set -/
structure Unwinds (s : System) (i : RunId) : Prop where
  /-- when no call is under way, no call does anything outside any more, or is counted -/
  quiet : ∀ p, s.placeOf? i = some p → p.inCall = false →
    ∀ ms s', s.play? ms = some s' → s.Untouched s' i
  /-- a call that can be read gives back what the slot holds when the worker looks into it -/
  call : ∀ g args c s₁ ms s₂, g.read? args = .ok c →
    s.step? (.work i (.script (.call g args))) = some s₁ → Aside i ms → s₁.play? ms = some s₂ →
    ∃ a, s₂.slot? i = some a ∧ s₂.Next i fun s₃ => s₃.placeOf? i = some .script ∧
      s₃.deeds i = .replied g (.error (.abort a)) :: .called g :: s.deeds i
  /-- and so does an interrupt check -/
  poll : ∀ s₁ ms s₂, s.step? (.work i (.script .poll)) = some s₁ → Aside i ms →
    s₁.play? ms = some s₂ →
    ∃ a, s₂.slot? i = some a ∧ s₂.Next i fun s₃ => s₃.placeOf? i = some .script ∧
      s₃.deeds i = .polled (some a) :: s.deeds i
  /-- the report is made with what the slot holds when the work on the script has ended -/
  finish : ∀ e, s.placeOf? i = some (.finishing e) →
    ∃ a, s.slot? i = some a ∧ s.Next i fun s₁ => ∀ ms s₂, Aside i ms → s₁.play? ms = some s₂ →
      s₂.Next i fun s₃ => ∃ x, s₃.placeOf? i = some (.leaving x) ∧ x.outcome = .ofAbort a
  /-- no other outcome is ever settled on -/
  report : (s.placeOf? i).bind Place.outcome? = none → ∀ ms s' o, s.play? ms = some s' →
    (s'.placeOf? i).bind Place.outcome? = some o →
    ∃ a b, s.slot? i = some a ∧ AbortReason.Upgrade a b ∧ o = .ofAbort b

theorem aside_slot (ht : s.Tidy) (hr : s.runs[i]? = some r) (ha : s.slot? i = some a)
    (hp : r.place ≠ .unborn) (hm : Aside i ms) (hs : s.play? ms = some s') :
    ∃ r' b, s'.runs[i]? = some r' ∧ r'.session.abort = some b ∧ s'.slot? i = some b ∧
      r'.place = r.place ∧ s'.deeds i = s.deeds i := by
  obtain ⟨r', hr', hp', _, hd⟩ := aside_play ht hr hp hm hs
  obtain ⟨b, hb, _⟩ := slot_play ha hs
  have hb' : r'.session.abort = some b := by rw [← slot?_of_run hr', hb]
  exact ⟨r', b, hr', hb', hb, hp', hd⟩

theorem unwinds_call (ht : s.Tidy) (hr : s.runs[i]? = some r) (ha : s.slot? i = some a)
    {g : HostFunction} {args : List HostValue} {c : HostCall} {s₁ s₂ : System}
    (hc : g.read? args = .ok c) (h₁ : s.step? (.work i (.script (.call g args))) = some s₁)
    (hm : Aside i ms) (h₂ : s₁.play? ms = some s₂) :
    ∃ a, s₂.slot? i = some a ∧ s₂.Next i fun s₃ => s₃.placeOf? i = some .script ∧
      s₃.deeds i = .replied g (.error (.abort a)) :: .called g :: s.deeds i := by
  obtain ⟨r₁, ds, hr₁, hd₁, hw⟩ := workStep h₁ hr
  obtain ⟨a₁, ha₁, _⟩ := slot_step ha h₁
  have hnext : r₁.place = .call ⟨g, c, false⟩ (.slot .opening) ∧ ds = [.called g] := by
    obtain ⟨_, ⟨c', hc', rfl, hds⟩ | ⟨e, he, _⟩⟩ := hw.of_call
    · rw [hc] at hc'
      cases hc'
      exact ⟨rfl, hds⟩
    · rw [hc] at he
      cases he
  obtain ⟨hp₁, rfl⟩ := hnext
  obtain ⟨r₂, b, hr₂, hb, hslot, hp₂, hd₂⟩ :=
    aside_slot (ht.step h₁) hr₁ ha₁ (by simp [hp₁]) hm h₂
  have hn := next_slot hr₂ hb (hp₂.trans hp₁)
  rw [hd₂, hd₁] at hn
  exact ⟨b, hslot, hn⟩

theorem unwinds_poll (ht : s.Tidy) (hr : s.runs[i]? = some r) (ha : s.slot? i = some a)
    {s₁ s₂ : System} (h₁ : s.step? (.work i (.script .poll)) = some s₁)
    (hm : Aside i ms) (h₂ : s₁.play? ms = some s₂) :
    ∃ a, s₂.slot? i = some a ∧ s₂.Next i fun s₃ => s₃.placeOf? i = some .script ∧
      s₃.deeds i = .polled (some a) :: s.deeds i := by
  obtain ⟨r₁, ds, hr₁, hd₁, hw⟩ := workStep h₁ hr
  obtain ⟨a₁, ha₁, _⟩ := slot_step ha h₁
  have hnext : r₁.place = .polling .slot ∧ ds = [] := by
    cases hw with
    | call _ h => cases h
    | polls => exact ⟨rfl, rfl⟩
  obtain ⟨hp₁, rfl⟩ := hnext
  obtain ⟨r₂, b, hr₂, hb, hslot, hp₂, hd₂⟩ :=
    aside_slot (ht.step h₁) hr₁ ha₁ (by simp [hp₁]) hm h₂
  have hn := next_poll hr₂ hb (hp₂.trans hp₁)
  rw [hd₂, hd₁] at hn
  exact ⟨b, hslot, hn⟩

theorem unwinds_finish (ht : s.Tidy) (hr : s.runs[i]? = some r) (ha : r.session.abort = some a)
    {e : Ending} (hp : r.place = .finishing e) :
    s.Next i fun s₁ => ∀ ms s₂, Aside i ms → s₁.play? ms = some s₂ →
      s₂.Next i fun s₃ => ∃ x, s₃.placeOf? i = some (.leaving x) ∧ x.outcome = .ofAbort a := by
  obtain ⟨hex, hn⟩ := next_finishing hr ha hp
  refine ⟨hex, fun reply s₁ h₁ ms s₂ hm h₂ => ?_⟩
  obtain ⟨r₁, hr₁, hp₁⟩ := Option.map_eq_some_iff.1 (hn reply s₁ h₁)
  obtain ⟨r₂, hr₂, hp₂, _⟩ := aside_play (ht.step h₁) hr₁ (by simp [hp₁]) hm h₂
  exact next_settling hr₂ (hp₂.trans hp₁)

theorem Unwinds.of_slot (hs : s.Reachable) (ha : s.slot? i = some a) : s.Unwinds i := by
  obtain ⟨r, hr, har⟩ := Option.bind_eq_some_iff.1 ha
  have hplace := placeOf?_of_run hr
  refine ⟨?_, ?_, ?_, ?_, ?_⟩
  · intro p hp hc ms s' hplay
    rw [hplace] at hp
    cases hp
    exact quiet_play hs.tidy hr har (Place.atDoor_of_not_inCall hc) hplay
  · intro g args c s₁ ms s₂ hc h₁ hm h₂
    exact unwinds_call hs.tidy hr ha hc h₁ hm h₂
  · intro s₁ ms s₂ h₁ hm h₂
    exact unwinds_poll hs.tidy hr ha h₁ hm h₂
  · intro e hp
    rw [hplace] at hp
    exact ⟨a, ha, unwinds_finish hs.tidy hr har (Option.some.inj hp)⟩
  · intro ho ms s' o hplay ho'
    obtain ⟨b, hab, hb⟩ := outcome_play hs.tidy ha ho hplay ho'
    exact ⟨a, b, ha, hab, hb⟩

/-- **From the moment its slot is set a run unwinds: the slot stays set and gives way to reasons of
higher priority only, calls and interrupt checks give back what it holds and do nothing else, and
the run ends with it.** -/
theorem unwinds_of_slot (hs : s.Reachable) (ha : s.slot? i = some a) (hp : s.play? ms = some s') :
    ∃ b, s'.slot? i = some b ∧ AbortReason.Upgrade a b ∧ s'.Unwinds i := by
  obtain ⟨b, hb, hab⟩ := slot_play ha hp
  exact ⟨b, hb, hab, .of_slot (hs.play hp) hb⟩

/-- Stop comes first, and the kill switch while a call is under way -/
theorem unwinds_of_slot_attended :
    let s := (attended { mode := .interactive }).after
      [.request (.control "s" .stop), .proceed 2 .go, .proceed 2 .go]
    let s' := s.after (.work 0 (.script (.call .typeText [.str "hi"])) ::
      .request (.activate "k") :: List.replicate 3 (.proceed 3 .go))
    s.slot? 0 = some .stopped ∧ s'.slot? 0 = some (.killSwitch "k") ∧
      ∃ b, s'.slot? 0 = some b ∧ AbortReason.Upgrade .stopped b ∧ s'.Unwinds 0 := by
  intro s s'
  have hs : s.Reachable := (reachable_attended _).after _
  have ha : s.slot? 0 = some .stopped := by decide +kernel
  have hp : s.play? (.work 0 (.script (.call .typeText [.str "hi"])) ::
      .request (.activate "k") :: List.replicate 3 (.proceed 3 .go)) = some s' :=
    play?_after (by decide +kernel)
  exact ⟨ha, by decide +kernel, unwinds_of_slot hs ha hp⟩

end

end System

end ScriptGuard
