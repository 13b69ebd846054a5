import ScriptGuard.Proofs.Permission

/-!
# Questions and denials

A run or a request asks the handler about a category that it has found outside the approvals. What
is not granted is denied: a run that is denied something asks nothing more and unwinds.

* `System.Found`         somebody has looked for an approval in vain and has done nothing since;
* `System.Denies`        the move denies a category to a run;
* `System.Turned`        a run is about to record a reason, or it unwinds for one that is not lower;
* `System.Refused`       what follows a denial;
* `gated_of_reachable`   what runs do is gated by the approvals of the process.
-/

namespace ScriptGuard

section
variable {v : View} {r r' : Run} {f : Frame} {reply : Reply} {ds : List Deed}

/-- a call looks for a handler once it has looked for the category in vain -/
theorem WorkerStep.of_seek (h : WorkerStep v r reply r' ds) {c : Category} {cs : List Category}
    (hp : r'.place = .call f (.seek c cs)) :
    v.approvals.has c = false ∧ r.place = .call f (.permit (c :: cs)) := by
  cases h with
  | call hr h =>
    cases h with
    | unknown _ ha =>
      cases hp
      exact ⟨ha, hr⟩
    | @atGate _ k _ _ _ _ h =>
      cases h with
      | passes => cases k <;> cases hp
      | _ => cases hp
    | @announced k => cases k <;> cases hp
    | _ => cases hp
  | staged _ hn =>
    subst hp
    cases hn
  | _ => cases hp

theorem WorkerStep.of_questions (h : WorkerStep v r reply r' ds)
    (hq : ds.filterMap Deed.question? ≠ []) :
    ∃ f c cs, r.place = .call f (.seek c cs) ∧
      ds.filterMap Deed.question? = [⟨c, r.session.script.name⟩] := by
  rcases h.kinds with ⟨f, p, hp, h⟩ | ⟨g, args, rfl⟩ | ⟨_, hb⟩
  · cases h with
    | asks => exact ⟨f, _, _, hp, rfl⟩
    | atGate _ h => cases h <;> exact absurd rfl hq
    | _ => exact absurd rfl hq
  · obtain ⟨_, ⟨c, _, _, rfl⟩ | ⟨e, _, _, rfl⟩⟩ := h.of_call
    · exact absurd rfl hq
    · exact absurd rfl hq
  · exact absurd (List.filterMap_eq_nil_iff.2 fun d hd => ((hb [] rfl).quiet d hd).2.2.1) hq

theorem WorkerStep.of_raise (h : WorkerStep v r reply r' ds) {a : AbortReason}
    (hp : r.place = .call f (.raise a)) :
    r' = { r with session := r.session.request a, place := .script } ∧
      ds = [.replied f.function (.error (.abort (AbortReason.merge r.session.abort a)))] := by
  rcases h.inCall_or with ⟨f', p, hp', h⟩ | hout
  · rw [hp] at hp'
    cases hp'
    cases h with
    | raises => exact ⟨rfl, rfl⟩
    | atGate hg => rcases hg with hg | hg <;> cases hg
  · rw [hp] at hout
    cases hout

end

namespace System

section
variable {s s' : System} {m : Move} {i : RunId} {c : Category} {n : Nat} {q : Question}
  {reply : Reply} {ms : List Move}

/-! ## who is asked -/

/-- someone has looked whether the category is approved, in vain, and has done nothing since; `own`
are the moves of the one who looks, and `looks` is where it stood -/
def Found (s : System) (c : Category) (own : Move → Prop) (looks : System → Prop) : Prop :=
  ∃ t m ms, t.Reachable ∧ looks t ∧ t.approvals.has c = false ∧ own m ∧ (∀ m' ∈ ms, ¬ own m') ∧
    t.play? (m :: ms) = some s

section
variable {own : Move → Prop} {looks : System → Prop}

theorem Found.now (hs : s.Reachable) (hl : looks s) (hc : s.approvals.has c = false) (hm : own m)
    (h : s.step? m = some s') : s'.Found c own looks :=
  ⟨s, m, [], hs, hl, hc, hm, List.forall_mem_nil _, play?_singleton h⟩

theorem Found.later (hf : s.Found c own looks) (hm : ¬ own m) (h : s.step? m = some s') :
    s'.Found c own looks := by
  obtain ⟨t, m₀, ms, ht, hl, hc, hm₀, hms, hplay⟩ := hf
  refine ⟨t, m₀, ms ++ [m], ht, hl, hc, hm₀, ?_, ?_⟩
  · intro m' hm'
    rcases List.mem_append.1 hm' with hm' | hm'
    · exact hms m' hm'
    · rwa [List.mem_singleton.1 hm']
  · rw [← List.cons_append, play?_append, hplay]
    exact play?_singleton h

end

/-- the call of a run has found the category outside the approvals -/
def FoundBy (s : System) (i : RunId) (c : Category) : Prop :=
  s.Found c (fun m => m.isWorkOf i = true) fun t =>
    ∃ f cs, t.placeOf? i = some (.call f (.permit (c :: cs)))

/-- the request has found the category of its question outside the approvals -/
def FoundFor (s : System) (n : Nat) (q : Question) : Prop :=
  s.Found q.category (fun m => ∃ reply, m = .proceed n reply) fun t =>
    t.task? n = some (firstTask (.authorize q))

theorem Reachable.foundBy_of_seek (hs : s.Reachable) {f : Frame} {cs : List Category}
    (hp : s.placeOf? i = some (.call f (.seek c cs))) : s.FoundBy i c := by
  obtain ⟨r, hr, hp⟩ := Option.map_eq_some_iff.1 hp
  refine hs.each_run (P := fun s i r => ∀ f cs, r.place = .call f (.seek c cs) → s.FoundBy i c)
    ?_ ?_ hr f cs hp
  · intros
    contradiction
  · intro s s' m i r r' _ hs hstep hr hr' _ _ ih f cs hp
    rcases worked_or hstep hr with ⟨reply, r₁, ds, rfl, hr₁, _, hw⟩ | ⟨hm, r₁, hr₁, _, hch⟩
    · rw [hr'] at hr₁
      cases hr₁
      obtain ⟨ha, hlook⟩ := hw.of_seek hp
      -- this is the step with which it has looked
      refine .now hs ⟨f, cs, ?_⟩ ha (by simp [Move.isWorkOf]) hstep
      rw [placeOf?_of_run hr, hlook]
    · rw [hr'] at hr₁
      cases hr₁
      have hplace : r.place = .call f (.seek c cs) := by
        rcases (hch.unmoved hs.tidy hr hm).1 with h | ⟨_, h⟩
        · rw [← h, hp]
        · rw [hp] at h
          cases h
      exact (ih f cs hplace).later (by simp [hm]) hstep

theorem firstTask_ne_seek (r : Request) (q : Question) : firstTask r ≠ .seek q := by
  cases r with
  | control id c => cases c <;> rintro ⟨⟩
  | _ => rintro ⟨⟩

theorem Reachable.foundFor_of_seek (hs : s.Reachable) (ht : s.task? n = some (.seek q)) :
    s.FoundFor n q := by
  have h := hs.invariant (P := fun s => s.Reachable ∧ (s.task? n = some (.seek q) →
    s.FoundFor n q)) (fun x a => ⟨⟨x, a, [], rfl⟩, by rintro ⟨⟩⟩) ?_
  · exact h.2 ht
  · rintro s s' m ⟨hs, ih⟩ hstep
    refine ⟨hs.step hstep, fun ht => ?_⟩
    rcases task?_step hstep ht with ⟨ht, hm⟩ | ⟨r, _, _, hr⟩ | ⟨t₀, reply, rfl, ht₀, hr⟩
    · exact (ih ht).later (fun ⟨reply, he⟩ => hm reply he) hstep
    · exact absurd hr.symm (firstTask_ne_seek r q)
    · cases hr with
      | @unknown q' ha =>
        obtain rfl : q' = q := by simpa using ht
        exact .now hs ht₀ ha ⟨_, rfl⟩ hstep
      | _ => simp at ht

/-- **A run asks the handler about a category only after it has looked for it in vain.** -/
theorem foundBy_of_questions (hs : s.Reachable) (h : s.step? m = some s')
    (hq : s'.questions i ≠ s.questions i) :
    ∃ q, s'.questions i = q :: s.questions i ∧ s.FoundBy i q.category := by
  cases hr : s.runs[i]? with
  | none =>
    obtain ⟨hd, _⟩ := newRun h hr
    exact absurd (congrArg (List.filterMap Deed.question?) hd) hq
  | some r =>
    rcases worked_or h hr with ⟨reply, r', ds, _, _, hd, hw⟩ | ⟨_, _, _, hd, _⟩
    · have hnew : s'.questions i = (ds.filterMap Deed.question?).reverse ++ s.questions i := by
        rw [questions, hd, List.filterMap_append, List.filterMap_reverse, questions]
      have hne : ds.filterMap Deed.question? ≠ [] := fun he => hq (by rw [hnew, he]; rfl)
      obtain ⟨f, c, cs, hp, hone⟩ := hw.of_questions hne
      have hseek : s.placeOf? i = some (.call f (.seek c cs)) := by rw [placeOf?_of_run hr, hp]
      exact ⟨⟨c, r.session.script.name⟩, by rw [hnew, hone]; rfl, hs.foundBy_of_seek hseek⟩
    · exact absurd (congrArg (List.filterMap Deed.question?) hd) hq

/-- **And so does a request.** -/
theorem foundFor_of_asked (hs : s.Reachable) (h : s.step? m = some s')
    (hnew : Entry.caller n (.asked q) ∉ s.log) (hq : Entry.caller n (.asked q) ∈ s'.log) :
    s.FoundFor n q := by
  obtain ⟨es, hlog, hes⟩ := log_step h
  rw [hlog] at hq
  obtain ⟨reply, rfl⟩ := hes n _ ((List.mem_append.1 hq).resolve_right hnew)
  rw [← hlog] at hq
  obtain ⟨t, ht, hr⟩ := requestStep h
  have hpast {d : CallerDeed} {l : List Entry} (hin : Entry.caller n (.asked q) ∈ .caller n d :: l)
      (hd : d ≠ .asked q) : Entry.caller n (.asked q) ∈ l := by
    rcases List.mem_cons.1 hin with he | hin
    · cases he
      exact absurd rfl hd
    · exact hin
  cases hr with
  | @asks q' hh =>
    by_cases he : q' = q
    · subst he
      exact hs.foundFor_of_seek ht
    · exact absurd (hpast hq (by simp [he])) hnew
  -- in the others nothing is written down about the handler
  | found | shown | cuts | engages | surveys | sweeps | unknown | vetted | provided | recalls
  | enrolls | launches =>
    exact absurd hq hnew
  | announced | freed | clearBroke | denied =>
    exact absurd (hpast (hpast hq (by simp)) (by simp)) hnew
  | _ => exact absurd (hpast hq (by simp)) hnew

/-! ## denials -/

/-- with the move the run is denied the category: the handler does not grant it, or nobody is there
to be asked -/
inductive Denies (s : System) (i : RunId) (c : Category) : Move → Prop
  | answered {f : Frame} {cs : List Category} {v : Verdict}
      (hp : s.placeOf? i = some (.call f (.asking c cs))) (hv : v ≠ .approved) :
      Denies s i c (.work i (.verdict v))
  | nobody {f : Frame} {cs : List Category}
      (hp : s.placeOf? i = some (.call f (.seek c cs))) (hh : s.handler = false) :
      Denies s i c (.work i .go)

/-- the run is about to record a reason, or it unwinds for one that is not lower -/
def Turned (s : System) (i : RunId) (a : AbortReason) : Prop :=
  ∃ r, s.runs[i]? = some r ∧ ((∃ f, r.place = .call f (.raise a)) ∨
    ∃ b, r.session.abort = some b ∧ AbortReason.Upgrade a b ∧ r.place.atDoor = true ∧
      ∀ o, r.place.outcome? = some o → ∃ b, AbortReason.Upgrade a b ∧ o = .ofAbort b)

/-- a denial that is recorded gives way to what terminates the run -/
theorem upgrade_merge_denied {slot : Option AbortReason} (hd : AbortReason.Dire slot) :
    AbortReason.Upgrade (.failure (.denied c)) (AbortReason.merge slot (.failure (.denied c))) ∧
      (AbortReason.merge slot (.failure (.denied c)) = .failure (.denied c) ∨
        slot = some (AbortReason.merge slot (.failure (.denied c)))) := by
  cases slot with
  | none => exact ⟨.refl _, Or.inl rfl⟩
  | some a =>
    have ha : AbortReason.priority (.failure (.denied c)) < a.priority := hd a rfl
    rw [AbortReason.merge_some, if_neg (Nat.lt_asymm ha)]
    exact ⟨Or.inr ha, Or.inr rfl⟩

theorem raise_of_denies (h : s.step? m = some s') (hd : s.Denies i c m) :
    ∃ r f, s'.runs[i]? = some r ∧ r.place = .call f (.raise (.failure (.denied c))) := by
  cases hd with
  | @answered f cs v hp hv =>
    obtain ⟨r, hr, hp⟩ := Option.map_eq_some_iff.1 hp
    obtain ⟨r', ds, hr', _, hw⟩ := workStep h hr
    cases hw with
    | call hp' h =>
      rw [hp] at hp'
      cases hp'
      cases h with
      | allowed ha =>
        cases v with
        | approved => exact absurd rfl hv
        | _ => cases ha
      | denied => exact ⟨_, f, hr', rfl⟩
  | @nobody f cs hp hh =>
    obtain ⟨r, hr, hp⟩ := Option.map_eq_some_iff.1 hp
    obtain ⟨r', ds, hr', _, hw⟩ := workStep h hr
    rcases hw.inCall_or with ⟨f', p, hp', h⟩ | hout
    · rw [hp] at hp'
      cases hp'
      cases h with
      | asks ha =>
        have hn : s.view.handler = false := hh
        rw [hn] at ha
        cases ha
      | nobody => exact ⟨_, f, hr', rfl⟩
      | atGate hg => rcases hg with hg | hg <;> cases hg
    · rw [hp] at hout
      cases hout

theorem turned_step (hs : s.Reachable) (ht : s.Turned i (.failure (.denied c)))
    (h : s.step? m = some s') :
    s'.Turned i (.failure (.denied c)) ∧ s'.questions i = s.questions i := by
  obtain ⟨r, hr, ⟨f, hp⟩ | ⟨b, hb, hab, hdoor, hout⟩⟩ := ht
  · -- the reason has still to be recorded
    rcases worked_or h hr with ⟨reply, r', ds, _, hr', hd, hw⟩ | ⟨hm, r', hr', hd, hch⟩
    · obtain ⟨rfl, rfl⟩ := hw.of_raise hp
      have hmerge := (upgrade_merge_denied (c := c) ((hs.traced hr).dire f _ hp rfl)).1
      refine ⟨⟨_, hr', Or.inr ⟨_, rfl, hmerge, rfl, by rintro o ⟨⟩⟩⟩, ?_⟩
      rw [questions, hd]
      rfl
    · obtain ⟨hplace, _⟩ := hch.aside hs.tidy hr hm (by simp [hp])
      refine ⟨⟨r', hr', Or.inl ⟨f, hplace.trans hp⟩⟩, ?_⟩
      rw [questions, hd, questions]
  · -- the slot is set, and no call comes past its door
    obtain ⟨⟨r', hr', hdoor'⟩, hu⟩ := quiet_step hs.tidy hr hb hdoor h
    have hslot : s.slot? i = some b := by rw [slot?_of_run hr, hb]
    obtain ⟨b', hb', hbb'⟩ := slot_step hslot h
    rw [slot?_of_run hr'] at hb'
    refine ⟨⟨r', hr', Or.inr ⟨b', hb', hab.trans hbb', hdoor', fun o ho => ?_⟩⟩, hu.questions⟩
    rcases worked_or h hr with ⟨reply, r₁, ds, _, hr₁, _, hw⟩ | ⟨hm, r₁, hr₁, _, hch⟩
    · rw [hr'] at hr₁
      cases hr₁
      rcases hw.outcome?_eq hb ho with ho | rfl
      · exact hout o ho
      · exact ⟨b, hab, rfl⟩
    · rw [hr'] at hr₁
      cases hr₁
      rcases (hch.unmoved hs.tidy hr hm).1 with hp | ⟨_, hp⟩
      · exact hout o (hp ▸ ho)
      · rw [hp] at ho
        cases ho

theorem turned_play (hs : s.Reachable) (ht : s.Turned i (.failure (.denied c)))
    (h : s.play? ms = some s') :
    s'.Turned i (.failure (.denied c)) ∧ s'.questions i = s.questions i := by
  refine (play?_induction (P := fun t => t.Reachable ∧ t.Turned i (.failure (.denied c)) ∧
    t.questions i = s.questions i) ?_ ⟨hs, ht, rfl⟩ h).2
  rintro t t' m ⟨hs, ht, hq⟩ hstep
  obtain ⟨ht', hq'⟩ := turned_step hs ht hstep
  exact ⟨hs.step hstep, ht', hq'.trans hq⟩

/-- what follows the denial of a category to a run -/
structure Refused (s : System) (i : RunId) (c : Category) : Prop where
  /-- nothing more is asked -/
  silent : ∀ ms s', s.play? ms = some s' → s'.questions i = s.questions i
  /-- the worker goes on to abort its call: it records the denial, unless the slot holds something
  of higher priority by then -/
  aborts : ∀ ms t, Aside i ms → s.play? ms = some t →
    ∃ g b, (b = .failure (.denied c) ∨
        t.slot? i = some b ∧ AbortReason.priority (.failure (.denied c)) < b.priority) ∧
      t.Next i fun u => u.slot? i = some b ∧
        u.deeds i = .replied g (.error (.abort b)) :: t.deeds i
  /-- the run ends for the denial or for something of higher priority -/
  ends : ∀ ms s' o, s.play? ms = some s' → s'.outcome? i = some o →
    ∃ b, AbortReason.Upgrade (.failure (.denied c)) b ∧ o = .ofAbort b

theorem refused_of_denies (hs : s.Reachable) (h : s.step? m = some s') (hd : s.Denies i c m) :
    s'.Refused i c := by
  obtain ⟨r, f, hr, hp⟩ := raise_of_denies h hd
  have hs' := hs.step h
  have hturned : s'.Turned i (.failure (.denied c)) := ⟨r, hr, Or.inl ⟨f, hp⟩⟩
  refine ⟨fun ms t h => (turned_play hs' hturned h).2, fun ms t hm h => ?_, fun ms t o h ho => ?_⟩
  · obtain ⟨r', hr', hp', _, _⟩ := aside_play hs'.tidy hr (by simp [hp]) hm h
    rw [hp] at hp'
    have hdire := ((hs'.play h).traced hr').dire f _ hp' rfl
    obtain ⟨hup, hb⟩ := upgrade_merge_denied (c := c) hdire
    refine ⟨f.function, AbortReason.merge r'.session.abort (.failure (.denied c)), ?_, ?_⟩
    · rw [slot?_of_run hr']
      rcases hup with he | hlt
      · exact Or.inl he
      · exact hb.imp id fun hb => ⟨hb, hlt⟩
    · refine next_of hr' (by simp [Run.advance, Run.advanceCall, hp']) ?_
      intro reply r₁ ds u hw hr₁ hd
      obtain ⟨rfl, rfl⟩ := hw.of_raise hp'
      exact ⟨by rw [slot?_of_run hr₁]; rfl, hd⟩
  · obtain ⟨r', hr', ⟨f', hp'⟩ | ⟨_, _, _, _, hout⟩⟩ := (turned_play hs' hturned h).1
    · rw [outcome?_of_run hr', hp'] at ho
      cases ho
    · rw [outcome?_of_run hr'] at ho
      exact hout o ho

/-! ## every service -/

/-- what runs do is gated by the approvals of the process -/
structure Gated (s : System) : Prop where
  /-- a host call begins to wait or to produce input only while all that it requires is approved -/
  performs : ∀ i m s', s.step? m = some s' → s'.hostCalls i ≠ s.hostCalls i →
    ∃ g gs r, s.calls i = g :: gs ∧ s.runs[i]? = some r ∧
      ∀ c, Requires s.settings r.session.options g c → s.approvals.has c = true
  /-- what is approved stays approved -/
  keeps : ∀ c ms s', s.play? ms = some s' → s.approvals.has c = true →
    s'.approvals.has c = true
  /-- a category is approved by those who ask for that and by the handler only -/
  gains : ∀ c m s', s.step? m = some s' → s.approvals.has c = false →
    s'.approvals.has c = true → s.Approves c m
  /-- a run asks the handler about a category that it has found outside the approvals -/
  asks : ∀ i m s', s.step? m = some s' → s'.questions i ≠ s.questions i →
    ∃ q, s'.questions i = q :: s.questions i ∧ s.FoundBy i q.category
  /-- and so does a request -/
  consults : ∀ n q m s', s.step? m = some s' → Entry.caller n (.asked q) ∉ s.log →
    Entry.caller n (.asked q) ∈ s'.log → s.FoundFor n q
  /-- a run that is denied a category asks nothing more and is aborted -/
  refuses : ∀ i c m s', s.step? m = some s' → s.Denies i c m → s'.Refused i c

/-- **Whatever handlers are installed and whatever they answer, no host call waits or produces input
unless all that it requires is approved; approvals are never lost and come from nowhere but a
handler or those who ask for them; and a run that is denied one is aborted without another
question.** -/
theorem gated_of_reachable (hs : s.Reachable) : s.Gated where
  performs := fun _ _ _ h hc => has_of_hostCalls hs h hc
  keeps := fun _ _ _ h hc => has_play h hc
  gains := fun _ _ _ h hn hc => approves_of_has hs h hn hc
  asks := fun _ _ _ h hq => foundBy_of_questions hs h hq
  consults := fun _ _ _ _ h hnew hq => foundFor_of_asked hs h hnew hq
  refuses := fun _ _ _ _ h hd => refused_of_denies hs h hd

/-- a fast run types text: the handler approves that, and breaks down when it is asked about the
speed -/
theorem gated_of_reachable_hasty :
    let s := (attended { speed := 8.0 }).after
      (Move.work 0 (.script (.call .typeText [.str "hi"])) :: List.replicate 6 (Move.work 0 .go) ++
        Move.work 0 (.verdict .approved) :: List.replicate 3 (Move.work 0 .go))
    s.questions 0 = [⟨.rapidInput, "s"⟩, ⟨.textInjection, "s"⟩] ∧
      s.approvals.has .textInjection = true ∧
      s.Gated ∧ (s.after [Move.work 0 (.verdict .brokeDown)]).Refused 0 .rapidInput := by
  intro s
  have hs : s.Reachable := (reachable_attended _).after _
  have hg : s.Gated := gated_of_reachable hs
  have hplace : s.placeOf? 0
      = some (.call ⟨.typeText, .input (.text "hi"), false⟩ (.asking .rapidInput [])) := by
    decide +kernel
  have hd : s.Denies 0 .rapidInput (.work 0 (.verdict .brokeDown)) := .answered hplace (by decide)
  have hstep : s.step? (.work 0 (.verdict .brokeDown)) = some (s.after [_]) :=
    step?_after (by decide +kernel)
  exact ⟨by decide +kernel, by decide +kernel, hg, hg.refuses _ _ _ _ hstep hd⟩

end

end System

end ScriptGuard
