import ScriptGuard.Proofs.RunChange

/-!
# Every run is started once

What holds of every reachable service (`System.Tidy`, `Reachable.tidy`):

* the requests under way that are about to start a run find it unborn, and idle before its first
  move; no two requests start one run;
* a run whose worker stands in a host call is one whose last call has no reply yet;
* the log says nothing about a run that is not there.

From it follows what the moves of others leave alone in a run that has been started
(`RunChange.aside`, `System.aside_play`), and the induction for what holds of every run and its
deeds (`Reachable.every_run`).
-/

namespace ScriptGuard

theorem WorkerStep.underWay {v : View} {r r' : Run} {reply : Reply} {ds old : List Deed}
    (h : WorkerStep v r reply r' ds) (ho : Deed.underWay old = r.place.inCall) :
    Deed.underWay (ds.reverse ++ old) = r'.place.inCall := by
  cases h with
  | call hp h =>
    rw [hp] at ho
    change Deed.underWay old = true at ho
    cases h with
    | atGate _ h => cases h <;> simp [Deed.underWay, Place.inCall, ho]
    | _ => simp [Deed.underWay, Place.inCall, ho]
  | staged hp hn =>
    have hout : r.place.inCall = false := Place.inCall_of_isStage hp
    exact (ho.trans hout).trans (Place.inCall_of_isStage hn).symm
  | unready hp => exact ho.trans (Place.inCall_of_isStage hp)
  | stageBroke hp => exact ho.trans (Place.inCall_of_isStage hp)
  | remembers hp =>
    rw [hp] at ho
    split <;> exact ho
  | _ hp => rw [hp] at ho; simp_all [Deed.underWay, Place.inCall]

/-- what a step between two host calls does -/
structure Between (r r' : Run) (ds old : List Deed) : Prop where
  outside : r'.place.inCall = false
  index : r'.session.index = r.session.index
  grants : r'.session.grants = r.session.grants
  state : r'.session.state = r.session.state ∨ r'.place.isOver = true
  past : r.place.isOver = true → r'.place.isOver = true
  hostCalls : Deed.hostCalls (ds.reverse ++ old) = Deed.hostCalls old
  quiet : ∀ d ∈ ds, d.call? = none ∧ d.reply? = none ∧ d.question? = none ∧ d.progress? = none

/-- a worker outside every host call, whose script does not begin one -/
theorem WorkerStep.between {v : View} {r r' : Run} {reply : Reply} {ds old : List Deed}
    (h : WorkerStep v r reply r' ds) (hp : r.place.inCall = false)
    (hn : ∀ g args, reply ≠ .script (.call g args)) (ho : Deed.underWay old = r.place.inCall) :
    Between r r' ds old := by
  rw [hp] at ho
  cases h with
  | call hp' => rw [hp'] at hp; cases hp
  | calls => exact absurd rfl (hn _ _)
  | garbled => exact absurd rfl (hn _ _)
  | staged hp hs =>
    refine ⟨Place.inCall_of_isStage hs, rfl, rfl, Or.inl rfl, fun ho => ?_, rfl, by simp⟩
    rw [Place.isOver_of_isStage hp] at ho
    cases ho
  | unready hp =>
    refine ⟨rfl, rfl, rfl, Or.inl rfl, fun ho => ?_, rfl, by simp⟩
    rw [Place.isOver_of_isStage hp] at ho
    cases ho
  | stageBroke hp =>
    refine ⟨rfl, rfl, rfl, Or.inl rfl, fun ho => ?_, rfl, by simp⟩
    rw [Place.isOver_of_isStage hp] at ho
    cases ho
  | lets hp =>
    refine ⟨rfl, rfl, rfl, Or.inl rfl, (fun h => by rw [hp] at h; cases h), ?_, ?_⟩
    · simp [Deed.hostCalls, ho]
    · simp [Deed.call?, Deed.reply?, Deed.question?, Deed.progress?]
  | rescues hp =>
    refine ⟨rfl, rfl, rfl, Or.inl rfl, (fun h => by rw [hp] at h; cases h), ?_, ?_⟩
    · simp [Deed.hostCalls, ho]
    · simp [Deed.call?, Deed.reply?, Deed.question?, Deed.progress?]
  | settles =>
    exact ⟨rfl, Session.settle_index _ _, Session.settle_grants _ _, Or.inr rfl, fun _ => rfl, rfl,
      by simp⟩
  | remembers =>
    refine ⟨rfl, rfl, rfl, Or.inr rfl, fun _ => rfl, by split <;> rfl, ?_⟩
    split <;> simp [Deed.call?, Deed.reply?, Deed.question?, Deed.progress?]
  | @tellsResult x =>
    have hn : Deed.progress? (.told (Run.resultNotice x)) = none := by
      unfold Run.resultNotice
      split <;> rfl
    refine ⟨rfl, rfl, rfl, Or.inr rfl, fun _ => rfl, rfl, ?_⟩
    simp [Deed.call?, Deed.reply?, Deed.question?, hn]
  | leaves => exact ⟨rfl, rfl, rfl, Or.inr rfl, fun _ => rfl, rfl, by
      simp [Deed.call?, Deed.reply?, Deed.question?, Deed.progress?]⟩
  | tellsState => exact ⟨rfl, rfl, rfl, Or.inr rfl, fun _ => rfl, rfl, by
      simp [Deed.call?, Deed.reply?, Deed.question?, Deed.progress?]⟩
  | tellsIdle => exact ⟨rfl, rfl, rfl, Or.inr rfl, fun _ => rfl, rfl, by
      simp [Deed.call?, Deed.reply?, Deed.question?, Deed.progress?]⟩
  | _ hp =>
    refine ⟨rfl, rfl, rfl, Or.inl rfl, (fun h => by rw [hp] at h; cases h), rfl, ?_⟩
    simp [Deed.call?, Deed.reply?, Deed.question?, Deed.progress?]

/-- a step is taken in a host call, begins one, or is taken between two of them -/
theorem WorkerStep.kinds {v : View} {r r' : Run} {reply : Reply} {ds : List Deed}
    (h : WorkerStep v r reply r' ds) :
    (∃ f p, r.place = .call f p ∧ CallStep v r f p reply r' ds) ∨
    (∃ g args, reply = .script (.call g args)) ∨
    (r.place.inCall = false ∧ ∀ old, Deed.underWay old = false → Between r r' ds old) := by
  rcases h.inCall_or with hc | hc
  · exact Or.inl hc
  · right
    by_cases hn : ∀ g args, reply ≠ .script (.call g args)
    · exact Or.inr ⟨hc, fun old ho => h.between hc hn (ho.trans hc.symm)⟩
    · simp only [Classical.not_forall, Classical.not_not] at hn
      exact Or.inl hn

/-- what holds of every reachable service -/
structure System.Tidy (s : System) : Prop where
  /-- a run about to be started is unborn -/
  starting : ∀ e ∈ s.tasks, ∀ i, e.2.starts? = some i → ∃ r, s.runs[i]? = some r ∧
    r.place = .unborn ∧ (e.2 = .launch i → r.session.state = .idle)
  /-- and it is started by one request -/
  once : ∀ e ∈ s.tasks, ∀ e' ∈ s.tasks, ∀ i, e.2.starts? = some i → e'.2.starts? = some i → e = e'
  /-- the log knows whether a host call is under way -/
  bracket : ∀ i r, s.runs[i]? = some r → Deed.underWay (s.deeds i) = r.place.inCall
  blank : ∀ i, s.runs[i]? = none → s.deeds i = []

section
variable {s s' : System} {m : Move} {i : RunId} {r r' : Run} {ds : List Deed}

theorem RunChange.unborn (h : RunChange s m i r r' ds) (hp : r.place = .unborn) :
    r'.place = .unborn ∨
      ∃ task reply, m = .proceed task reply ∧ (task, Task.spawn i) ∈ s.tasks := by
  cases h with
  | worked _ h => cases h <;> simp_all [Place.isStage]
  | spawned _ hm ht => exact Or.inr ⟨_, _, hm, ht⟩
  | _ => exact Or.inl hp

theorem RunChange.idle (h : RunChange s m i r r' ds) (hp : r.place = .unborn)
    (hs : r.session.state = .idle) :
    r'.session.state = .idle ∨
      ∃ task reply, m = .proceed task reply ∧ (task, Task.launch i) ∈ s.tasks := by
  cases h with
  | worked _ h => cases h <;> simp_all [Place.isStage]
  | commanded => left; rw [Session.control_idle hs, hs]
  | launched _ hm ht => exact Or.inr ⟨_, _, hm, ht⟩
  | _ => exact Or.inl hs

end

namespace System.Tidy

variable {s s' : System} {m : Move}

theorem fresh (settings : Settings) (approvals : Approvals) :
    (System.fresh settings approvals).Tidy where
  starting := by intro e he; cases he
  once := by intro e he; cases he
  bracket := by intro i r hr; simp [System.fresh] at hr
  blank := by intro i _; rfl

theorem starting_step (h : s.Tidy) (hs : s.step? m = some s') {e : Nat × Task}
    (he : e ∈ s'.tasks) {i : RunId} (hi : e.2.starts? = some i) :
    ∃ r, s'.runs[i]? = some r ∧ r.place = .unborn ∧
      (e.2 = .launch i → r.session.state = .idle) := by
  rcases taskChange hs he with ⟨hin, hm⟩ | hn | ⟨t, reply, hm, hin, hn, _⟩
  · -- the request is another one than that of the move
    obtain ⟨r, hr, hp, hl⟩ := h.starting e hin i hi
    obtain ⟨r', ds, hr', _, hc⟩ := runChange hs hr
    refine ⟨r', hr', ?_, fun hk => ?_⟩
    · rcases hc.unborn hp with hp' | ⟨task, reply, hm', ht⟩
      · exact hp'
      · have he' := h.once e hin _ ht i hi rfl
        exact absurd hm' (by rw [he'] at hm; exact hm reply)
    · rcases hc.idle hp (hl hk) with hs' | ⟨task, reply, hm', ht⟩
      · exact hs'
      · have he' := h.once e hin _ ht i hi rfl
        exact absurd hm' (by rw [he'] at hm; exact hm reply)
  · rw [hn] at hi
    cases hi
  · generalize hk : e.2 = k at hn hi
    cases hn with
    | other hn => rw [hn] at hi; cases hi
    | enrolled hruns =>
      cases hi
      exact ⟨_, by rw [hruns, List.getElem?_concat_length], rfl, fun _ => rfl⟩
    | launched =>
      cases hi
      obtain ⟨r, hr, hp, _⟩ := h.starting _ hin i rfl
      obtain ⟨r', ds, hr', _, hc⟩ := runChange hs hr
      refine ⟨r', hr', ?_, fun hk => by cases hk⟩
      rcases hc.unborn hp with hp' | ⟨task, _, _, ht⟩
      · exact hp'
      · cases h.once _ hin _ ht i rfl rfl
    | heralded =>
      cases hi
      obtain ⟨r, hr, hp, _⟩ := h.starting _ hin i rfl
      obtain ⟨r', ds, hr', _, hc⟩ := runChange hs hr
      refine ⟨r', hr', ?_, fun hk => by cases hk⟩
      rcases hc.unborn hp with hp' | ⟨task, _, _, ht⟩
      · exact hp'
      · cases h.once _ hin _ ht i rfl rfl

/-- a request that has just come to a stage of a start, and one that stood at such a stage before,
start different runs -/
theorem once_aside (h : s.Tidy) {e : Nat × Task} {t t' : Task} {task : Nat} {i : RunId}
    {runs : List Run} (he : e ∈ s.tasks) (hne : e.1 ≠ task) (hi : e.2.starts? = some i)
    (hin : (task, t) ∈ s.tasks) (hn : Succeeds s runs t t') (hi' : t'.starts? = some i) :
    False := by
  cases hn with
  | other hn => rw [hn] at hi'; cases hi'
  | enrolled =>
    cases hi'
    obtain ⟨r, hr, _⟩ := h.starting e he _ hi
    simp at hr
  | launched =>
    cases hi'
    exact hne (congrArg Prod.fst (h.once e he _ hin i hi rfl))
  | heralded =>
    cases hi'
    exact hne (congrArg Prod.fst (h.once e he _ hin i hi rfl))

theorem once_step (h : s.Tidy) (hs : s.step? m = some s') {e e' : Nat × Task}
    (he : e ∈ s'.tasks) (he' : e' ∈ s'.tasks) {i : RunId} (hi : e.2.starts? = some i)
    (hi' : e'.2.starts? = some i) : e = e' := by
  rcases taskChange hs he with ⟨hin, hm⟩ | hn | ⟨t, reply, hm, hin, hn, huniq⟩
  · rcases taskChange hs he' with ⟨hin', hm'⟩ | hn' | ⟨t', reply', hm', hin', hn', _⟩
    · exact h.once e hin e' hin' i hi hi'
    · rw [hn'] at hi'
      cases hi'
    · have hne : e.1 ≠ e'.1 := fun hk => hm reply' (by rw [hk]; exact hm')
      exact (h.once_aside hin hne hi hin' hn' hi').elim
  · rw [hn] at hi
    cases hi
  · rcases taskChange hs he' with ⟨hin', hm'⟩ | hn' | ⟨t', reply', hm', _⟩
    · have hne : e'.1 ≠ e.1 := fun hk => hm' reply (by rw [hk]; exact hm)
      exact (h.once_aside hin' hne hi' hin hn hi).elim
    · rw [hn'] at hi'
      cases hi'
    · have hk : e'.1 = e.1 := by
        rw [hm] at hm'
        injection hm' with hk
        exact hk.symm
      exact (huniq e' he' hk).symm

theorem unborn_of_launch (h : s.Tidy) {task : Nat} {i : RunId} {r : Run}
    (hr : s.runs[i]? = some r) (ht : (task, Task.launch i) ∈ s.tasks) :
    r.place = .unborn ∧ r.session.state = .idle := by
  obtain ⟨r₁, hr₁, hp, hi⟩ := h.starting _ ht i rfl
  rw [hr] at hr₁
  cases hr₁
  exact ⟨hp, hi rfl⟩

theorem unborn_of_spawn (h : s.Tidy) {task : Nat} {i : RunId} {r : Run}
    (hr : s.runs[i]? = some r) (ht : (task, Task.spawn i) ∈ s.tasks) : r.place = .unborn := by
  obtain ⟨r₁, hr₁, hp, _⟩ := h.starting _ ht i rfl
  rw [hr] at hr₁
  cases hr₁
  exact hp

theorem bracket_step (h : s.Tidy) (hs : s.step? m = some s') {i : RunId} {r' : Run}
    (hr' : s'.runs[i]? = some r') : Deed.underWay (s'.deeds i) = r'.place.inCall := by
  cases hr : s.runs[i]? with
  | none =>
    obtain ⟨hd, hn⟩ := newRun hs hr
    rw [hd, h.blank i hr]
    rcases hn with hn | ⟨_, _, _, hn⟩
    · rw [hn] at hr'
      cases hr'
    · rw [hn] at hr'
      cases hr'
      rfl
  | some r =>
    obtain ⟨r₁, ds, hr₁, hd, hc⟩ := runChange hs hr
    rw [hr₁] at hr'
    cases hr'
    have ho := h.bracket i r hr
    rw [hd]
    cases hc with
    | worked _ hw => exact hw.underWay ho
    | spawned _ _ ht =>
      rw [h.unborn_of_spawn hr ht] at ho
      exact ho
    | _ => exact ho

theorem step (h : s.Tidy) (hs : s.step? m = some s') : s'.Tidy where
  starting := fun _ he _ hi => h.starting_step hs he hi
  once := fun _ he _ he' _ hi hi' => h.once_step hs he he' hi hi'
  bracket := fun _ _ hr' => h.bracket_step hs hr'
  blank := fun i hr' => by
    cases hr : s.runs[i]? with
    | none => rw [(newRun hs hr).1, h.blank i hr]
    | some r =>
      obtain ⟨r₁, ds, hr₁, _⟩ := runChange hs hr
      rw [hr₁] at hr'
      cases hr'

end System.Tidy

/-- **A reachable service is tidy.** -/
theorem System.Reachable.tidy {s : System} (hs : s.Reachable) : s.Tidy :=
  hs.invariant System.Tidy.fresh System.Tidy.step

/-- **What holds of a run that has just been registered, and is kept whatever happens to the run,
holds of every run.**  It may be about the whole service. -/
theorem System.Reachable.each_run {P : System → RunId → Run → Prop}
    (born : ∀ {s s' : System} {m : Move} {i : RunId} {script : Script} {options : Options}
      {total : Option Nat}, s.Reachable → s.step? m = some s' → s.runs[i]? = none →
      s'.runs[i]? = some (s.enrolled script options total) →
      P s' i (s.enrolled script options total))
    (change : ∀ {s s' : System} {m : Move} {i : RunId} {r r' : Run} {ds : List Deed}, s.Reachable →
      s.step? m = some s' → s.runs[i]? = some r → s'.runs[i]? = some r' →
      s'.deeds i = ds.reverse ++ s.deeds i → RunChange s m i r r' ds → P s i r → P s' i r')
    {s : System} (hs : s.Reachable) {i : RunId} {r : Run} (hr : s.runs[i]? = some r) :
    P s i r := by
  refine (hs.invariant
    (P := fun s => s.Reachable ∧ ∀ (i : RunId) (r : Run), s.runs[i]? = some r → P s i r)
    (fun x a => ⟨⟨x, a, [], rfl⟩, fun _ _ h => nomatch h⟩) ?_).2 i r hr
  rintro s s' m ⟨hs, hP⟩ hstep
  refine ⟨hs.step hstep, fun i r' hr' => ?_⟩
  cases hr : s.runs[i]? with
  | none =>
    obtain ⟨_, hn | ⟨_, _, _, hn⟩⟩ := System.newRun hstep hr
    · rw [hn] at hr'
      cases hr'
    · rw [hn] at hr'
      cases hr'
      exact born hs hstep hr hn
  | some r =>
    obtain ⟨r₁, ds, hr₁, hd, hc⟩ := System.runChange hstep hr
    rw [hr₁] at hr'
    cases hr'
    exact change hs hstep hr hr₁ hd hc (hP i r hr)

/-- **What holds of a run and its deeds when it is registered, and is kept whatever happens to it,
holds of every run.** -/
theorem System.Reachable.every_run {P : Run → List Deed → Prop}
    (born : ∀ (s : System) (script : Script) (options : Options) (total : Option Nat),
      P (s.enrolled script options total) [])
    (change : ∀ {s : System} {m : Move} {i : RunId} {r r' : Run} {ds : List Deed}, s.Reachable →
      s.runs[i]? = some r → RunChange s m i r r' ds → P r (s.deeds i) →
      P r' (ds.reverse ++ s.deeds i))
    {s : System} (hs : s.Reachable) {i : RunId} {r : Run} (hr : s.runs[i]? = some r) :
    P r (s.deeds i) := by
  refine hs.each_run (P := fun s i r => P r (s.deeds i)) ?_ ?_ hr
  · intro s s' m i script options total hs hstep hr _
    rw [(System.newRun hstep hr).1, hs.tidy.blank i hr]
    exact born s script options total
  · intro s s' m i r r' ds hs _ hr _ hd hc hP
    rw [hd]
    exact change hs hr hc hP

/-! ## what others leave alone -/

section
variable {s s' : System} {m : Move} {i : RunId} {r r' : Run} {ds : List Deed}

theorem RunChange.given_eq (h : RunChange s m i r r' ds) :
    r'.session.script = r.session.script ∧ r'.session.options = r.session.options := by
  cases h with
  | worked _ hw =>
    cases hw with
    | call _ hc =>
      cases hc with
      | atGate _ h =>
        obtain ⟨_, _, hg⟩ := h.gateMove
        exact ⟨hg.script_eq, hg.options_eq⟩
      | repauses => exact ⟨Session.repause_script _, Session.repause_options _⟩
      | _ => exact ⟨rfl, rfl⟩
    | settles => exact ⟨Session.settle_script _ _, Session.settle_options _ _⟩
    | _ => exact ⟨rfl, rfl⟩
  | commanded => exact ⟨Session.control_script _ _, Session.control_options _ _⟩
  | launched => exact ⟨Session.settle_script _ _, Session.settle_options _ _⟩
  | _ => exact ⟨rfl, rfl⟩

/-- only its worker moves a run on, counts its operations and does its deeds; others start it -/
theorem RunChange.unmoved (ht : s.Tidy) (hr : s.runs[i]? = some r) (h : RunChange s m i r r' ds)
    (hm : m.isWorkOf i = false) :
    (r'.place = r.place ∨ r.place = .unborn ∧ r'.place = .creating) ∧
      r'.session.index = r.session.index ∧ ds = [] := by
  cases h with
  | worked hw =>
    rw [hw] at hm
    simp [Move.isWorkOf] at hm
  | commanded => exact ⟨Or.inl rfl, Session.control_index _ _, rfl⟩
  | launched => exact ⟨Or.inl rfl, Session.settle_index _ _, rfl⟩
  | spawned _ _ hin => exact ⟨Or.inr ⟨ht.unborn_of_spawn hr hin, rfl⟩, rfl, rfl⟩
  | _ => exact ⟨Or.inl rfl, rfl, rfl⟩

theorem RunChange.aside (ht : s.Tidy) (hr : s.runs[i]? = some r) (h : RunChange s m i r r' ds)
    (hm : m.isWorkOf i = false) (hp : r.place ≠ .unborn) :
    r'.place = r.place ∧ r'.session.index = r.session.index ∧ ds = [] := by
  obtain ⟨hplace | ⟨hu, _⟩, hrest⟩ := h.unmoved ht hr hm
  · exact ⟨hplace, hrest⟩
  · exact absurd hu hp

/-- a move is a step of the worker of the run, or it leaves the deeds of that worker alone -/
theorem System.worked_or (h : s.step? m = some s') (hr : s.runs[i]? = some r) :
    (∃ reply r' ds, m = .work i reply ∧ s'.runs[i]? = some r' ∧
      s'.deeds i = ds.reverse ++ s.deeds i ∧ WorkerStep s.view r reply r' ds) ∨
    (m.isWorkOf i = false ∧ ∃ r', s'.runs[i]? = some r' ∧ s'.deeds i = s.deeds i ∧
      RunChange s m i r r' []) := by
  cases hm : m.isWorkOf i with
  | true =>
    obtain ⟨reply, rfl⟩ := Move.exists_of_isWorkOf hm
    obtain ⟨r', ds, hr', hd, hw⟩ := System.workStep h hr
    exact Or.inl ⟨reply, r', ds, rfl, hr', hd, hw⟩
  | false =>
    obtain ⟨r', ds, hr', hd, hc⟩ := System.runChange h hr
    have hds : ds = [] := by
      cases hc with
      | worked hw =>
        rw [hw] at hm
        simp [Move.isWorkOf] at hm
      | _ => rfl
    subst hds
    exact Or.inr ⟨rfl, r', hr', hd, hc⟩

/-- a move is a step of the worker of the run, or it leaves the worker where it stands, unless that
has not begun yet -/
theorem System.place_cases (ht : s.Tidy) (h : s.step? m = some s') (i : RunId) :
    (∃ r reply r' ds, s.runs[i]? = some r ∧ m = .work i reply ∧ s'.runs[i]? = some r' ∧
      WorkerStep s.view r reply r' ds) ∨
    (m.isWorkOf i = false ∧ s'.placeOf? i = s.placeOf? i) ∨
    ∀ p, s'.placeOf? i = some p → p = .unborn ∨ p = .creating := by
  cases hr : s.runs[i]? with
  | none =>
    refine Or.inr (Or.inr fun p hp => ?_)
    obtain ⟨_, hn | ⟨_, _, _, hn⟩⟩ := System.newRun h hr
    · rw [System.placeOf?, hn] at hp
      cases hp
    · rw [System.placeOf?_of_run hn] at hp
      exact Or.inl (Option.some.inj hp).symm
  | some r =>
    rcases System.worked_or h hr with ⟨reply, r', ds, hm, hr', _, hw⟩ | ⟨hm, r', hr', _, hc⟩
    · exact Or.inl ⟨r, reply, r', ds, rfl, hm, hr', hw⟩
    · have hplace := System.placeOf?_of_run hr'
      rcases (hc.unmoved ht hr hm).1 with hp | ⟨_, hp⟩
      · exact Or.inr (Or.inl ⟨hm, by rw [hplace, hp, System.placeOf?_of_run hr]⟩)
      · refine Or.inr (Or.inr fun p hp' => Or.inr ?_)
        rw [hplace, hp] at hp'
        exact (Option.some.inj hp').symm

theorem System.aside_play {ms : List Move} (ht : s.Tidy) (hr : s.runs[i]? = some r)
    (hp : r.place ≠ .unborn) (hm : Aside i ms) (hs : s.play? ms = some s') :
    ∃ r', s'.runs[i]? = some r' ∧ r'.place = r.place ∧
      r'.session.index = r.session.index ∧ s'.deeds i = s.deeds i := by
  induction ms generalizing s r with
  | nil =>
    cases hs
    exact ⟨r, hr, rfl, rfl, rfl⟩
  | cons m ms ih =>
    obtain ⟨s₁, h₁, h₂⟩ := System.exists_of_play?_cons hs
    obtain ⟨r₁, ds, hr₁, hd₁, hc⟩ := System.runChange h₁ hr
    obtain ⟨hp₁, hi₁, rfl⟩ := hc.aside ht hr (hm m (by simp)) hp
    obtain ⟨r', hr', hp', hi', hd'⟩ := ih (ht.step h₁) hr₁ (by rw [hp₁]; exact hp)
      (fun m' hm' => hm m' (List.mem_cons_of_mem m hm')) h₂
    exact ⟨r', hr', hp'.trans hp₁, hi'.trans hi₁, hd'.trans hd₁⟩

theorem System.next_of {P : System → Prop} (hr : s.runs[i]? = some r)
    (ha : (r.advance s.view .go).isSome = true)
    (h : ∀ reply r' ds s', WorkerStep s.view r reply r' ds → s'.runs[i]? = some r' →
      s'.deeds i = ds.reverse ++ s.deeds i → P s') : s.Next i P := by
  obtain ⟨⟨r', ds⟩, ha⟩ := Option.isSome_iff_exists.1 ha
  obtain ⟨s', hs', _⟩ := System.step?_work hr ha
  refine ⟨⟨s', hs'⟩, fun reply s' hs' => ?_⟩
  obtain ⟨r', ds, hr', hd, hw⟩ := System.workStep hs' hr
  exact h reply r' ds s' hw hr' hd

end

end ScriptGuard
