import ScriptGuard.Proofs.Publication

/-!
# What is published first about a run

A start makes the first move of a session, publishes it, and only then starts the worker.  Another
request may come between the first two of these: a Pause that comes to the running session can be
published before the start has published that the session runs.  Nothing else can.

* `System.notices`     what has been published about a run, by its worker and by requests;
* `notices_step`       one step publishes what its worker tells, or what its request had to publish;
* `System.Overtaken`   a Pause has come between the first move and its publication;
* `System.Opening`     the invariant: how far the start of a run has come;
* `Reachable.opening`  it holds of every reachable service, and so does `System.Opens`: what is
                       published first.
-/

namespace ScriptGuard

/-- what a deed tells to those who watch -/
def Deed.notice? : Deed → Option Notice
  | .told n => some n
  | _ => none

/-- what an entry publishes about the run -/
def Entry.notice? (i : RunId) : Entry → Option Notice
  | .worker j d | .caller _ (.run j d) => if j = i then d.notice? else none
  | .caller _ _ => none

theorem Session.control_shown_running {x : Session} {c : Command} {b : RunState}
    (h : (x.control c).1 = .applied (some b)) (hx : x.state = .running) : c = .pause := by
  rcases x.control_cases c with ⟨_, hn⟩ | ⟨hc, ha, _⟩
  · exact absurd h (hn _)
  · rw [hc] at h
    cases c with
    | pause => rfl
    | resume => simp [Command.isAvailable, hx] at ha
    | step => simp [Command.isAvailable, hx] at ha
    | stop => cases h
    | terminate => cases h

theorem WorkerStep.started {v : View} {r r' : Run} {reply : Reply} {ds : List Deed}
    (h : WorkerStep v r reply r' ds) : r.place ≠ .unborn := by
  intro hb
  cases h with
  | staged hp => exact Place.ne_unborn_of_isStage hp hb
  | unready hp => exact Place.ne_unborn_of_isStage hp hb
  | stageBroke hp => exact Place.ne_unborn_of_isStage hp hb
  | _ hp => exact nomatch hp.symm.trans hb

namespace System

/-- what has been published about a run, latest first -/
def notices (s : System) (i : RunId) : List Notice := s.log.filterMap (Entry.notice? i)

section
variable {s s' : System} {m : Move} {ms : List Move} {i : RunId} {n : Nat} {t : Task}
  {r r' : Run} {reply : CallerReply}

/-! ## what one step publishes -/

theorem notices_of_log {es : List Entry} (h : s'.log = es ++ s.log) :
    s'.notices i = es.filterMap (Entry.notice? i) ++ s.notices i := by
  rw [notices, h, List.filterMap_append, notices]

theorem notices_of_worker {j : RunId} {ds : List Deed}
    (h : s'.log = (ds.map (Entry.worker j)).reverse ++ s.log) :
    s'.notices i = (if j = i then ds.reverse.filterMap Deed.notice? else []) ++ s.notices i := by
  rw [notices_of_log h, ← List.map_reverse, List.filterMap_map]
  by_cases hj : j = i
  · rw [if_pos hj]
    exact congrArg (· ++ _) (List.filterMap_congr fun _ _ => if_pos hj)
  · rw [if_neg hj]
    exact congrArg (· ++ _) (List.filterMap_eq_nil_iff.2 fun _ _ => if_neg hj)

theorem RequestStep.notices (h : RequestStep s n t reply s') :
    s'.notices i = s.notices i ∨
      ∃ b, t.unsaid? = some (i, b) ∧ s'.notices i = .state (s.idOf i) b :: s.notices i := by
  have htold (run : RunId) (b : RunState) :
      (s.note n (.run run (.told (.state (s.idOf run) b)))).notices i = s.notices i ∨
        run = i ∧ (s.note n (.run run (.told (.state (s.idOf run) b)))).notices i =
          .state (s.idOf i) b :: s.notices i := by
    by_cases hi : run = i
    · subst hi
      exact Or.inr ⟨rfl, List.filterMap_cons_some (if_pos rfl)⟩
    · exact Or.inl (List.filterMap_cons_none (if_neg hi))
  cases h with
  | @announced run b => exact (htold run b).imp_right fun ⟨hi, hn⟩ => ⟨b, by rw [hi]; rfl, hn⟩
  | @heralds run => exact (htold run _).imp_right fun ⟨hi, hn⟩ => ⟨_, by rw [hi]; rfl, hn⟩
  | _ =>
    left
    simp [System.notices, close, quit, goOn, note, onSession, List.filterMap_cons, Entry.notice?,
      Deed.notice?]

/-- **What one step publishes about a run**: what its worker tells, or the state that a request has
had to publish. -/
theorem notices_step (h : s.step? m = some s') :
    m.isWorkOf i = false ∧ s'.notices i = s.notices i ∨
      (∃ reply r r' ds, m = .work i reply ∧ s.runs[i]? = some r ∧ s'.runs[i]? = some r' ∧
        WorkerStep s.view r reply r' ds ∧
        s'.notices i = ds.reverse.filterMap Deed.notice? ++ s.notices i) ∨
      ∃ n reply t b, m = .proceed n reply ∧ s.task? n = some t ∧ t.unsaid? = some (i, b) ∧
        s'.notices i = .state (s.idOf i) b :: s.notices i := by
  cases m with
  | work j reply =>
    obtain ⟨r, r', ds, hr, hr', hw, hlog, _⟩ := worked h
    have hn := notices_of_worker (i := i) hlog
    by_cases hj : j = i
    · subst hj
      rw [if_pos rfl] at hn
      exact Or.inr (Or.inl ⟨reply, r, r', ds, rfl, hr, hr', hw, hn⟩)
    · rw [if_neg hj, List.nil_append] at hn
      exact Or.inl ⟨by simpa [Move.isWorkOf] using hj, hn⟩
  | proceed n reply =>
    obtain ⟨t, ht, hstep⟩ := requestStep h
    rcases RequestStep.notices (i := i) hstep with hn | ⟨b, hu, hn⟩
    · exact Or.inl ⟨rfl, hn⟩
    · exact Or.inr (Or.inr ⟨n, reply, t, b, rfl, ht, hu, hn⟩)
  | request q =>
    cases h
    exact Or.inl ⟨rfl, rfl⟩
  | elapse d =>
    cases h
    exact Or.inl ⟨rfl, rfl⟩

/-- before there is a run, and by the step that registers it, nothing is published about it -/
theorem Reachable.notices_step_of_none (hs : s.Reachable) (h : s.step? m = some s')
    (hr : s.runs[i]? = none) : s'.notices i = s.notices i := by
  rcases notices_step (i := i) h with ⟨_, hn⟩ | ⟨_, r, _, _, _, hr₁, _⟩ | ⟨_, _, _, _, _, ht, hu, _⟩
  · exact hn
  · rw [hr] at hr₁
    cases hr₁
  · obtain ⟨_, r, hr₁⟩ := hs.run_of_unsaid ht hu
    rw [hr] at hr₁
    cases hr₁

theorem Reachable.notices_of_none (hs : s.Reachable) (hr : s.runs[i]? = none) :
    s.notices i = [] := by
  refine (hs.invariant (P := fun s => s.Reachable ∧ (s.runs[i]? = none → s.notices i = []))
    (fun x a => ⟨⟨x, a, [], rfl⟩, fun _ => rfl⟩) ?_).2 hr
  rintro s s' m ⟨hs, ih⟩ h
  refine ⟨hs.step h, fun hr' => ?_⟩
  have hr : s.runs[i]? = none := by
    cases hr : s.runs[i]? with
    | none => rfl
    | some r =>
      obtain ⟨r₁, _, hr₁, _⟩ := runChange h hr
      rw [hr'] at hr₁
      cases hr₁
  rw [hs.notices_step_of_none h hr, ih hr]

/-! ## between the first move and its publication -/

/-- a Pause has come to the run when its start had made the first move and had not yet published
it -/
def Overtaken (s : System) (i : RunId) : Prop :=
  ∃ (t : System) (m : Move) (ms : List Move) (n : Nat), t.Reachable ∧
    t.task? n = some (.herald i) ∧ t.Accepts m i .pause ∧ t.play? (m :: ms) = some s

theorem Overtaken.later (h : s.Overtaken i) (hm : s.step? m = some s') : s'.Overtaken i := by
  obtain ⟨t, m₀, ms, n, ht, hn, ha, hp⟩ := h
  refine ⟨t, m₀, ms ++ [m], n, ht, hn, ha, ?_⟩
  rw [← List.cons_append, play?_append, hp]
  exact play?_singleton hm

/-- nothing has been published about the run, and nothing that came of a command is about to be -/
structure Unspoken (s : System) (i : RunId) : Prop where
  notices : s.notices i = []
  owed : ∀ n b, s.task? n ≠ some (.announce i b)

/-- a request about to publish a state has put a command to the run, or was about to before -/
theorem announce_step (h : s.step? m = some s') {b : RunState}
    (ht : s'.task? n = some (.announce i b)) :
    s.task? n = some (.announce i b) ∨ ∃ r c, s.runs[i]? = some r ∧
      (r.session.control c).1 = .applied (some b) ∧ s.Accepts m i c := by
  rcases task?_step h ht with ⟨ht, _⟩ | ⟨q, _, _, hq⟩ | ⟨t, reply, rfl, ht₀, hr⟩
  · exact Or.inl ht
  · cases q with
    | control id c => cases c <;> cases hq
    | _ => cases hq
  · cases hr with
    | @shown run c r _ hr hc =>
      rw [task?_goOn] at ht
      cases ht
      have hputs : s.puts? (.proceed n .go) = some (i, c) := by rw [puts?, ht₀]
      exact Or.inr ⟨r, c, hr, hc, hputs, r, _, hr, hc⟩
    | _ => simp at ht

/-- while the start has still to publish the first move, nothing is published about the run and its
session runs, unless a Pause comes to it -/
theorem Unspoken.step (hu : s.Unspoken i) (hr : s.runs[i]? = some r)
    (hb : r.place = .unborn) (hst : r.session.state.isActive = true → r.session.state = .running)
    (h : s.step? m = some s') (hr' : s'.runs[i]? = some r')
    (hm : ∀ e ∈ s.tasks, e.2.starts? = some i → ∀ reply, m ≠ .proceed e.1 reply) :
    s'.Unspoken i ∧ r'.session.state = r.session.state ∨
      r.session.state = .running ∧ s.Accepts m i .pause := by
  have hpause {c : Command} {b : RunState} (hc : (r.session.control c).1 = .applied (some b))
      (ha : s.Accepts m i c) : r.session.state = .running ∧ s.Accepts m i .pause := by
    have hrun := hst (Session.control_shown hc).2.2.1
    rw [← Session.control_shown_running hc hrun]
    exact ⟨hrun, ha⟩
  by_cases hp : r.session.state = .running ∧ s.Accepts m i .pause
  · exact Or.inr hp
  · refine Or.inl ⟨⟨?_, fun n b ht => ?_⟩, ?_⟩
    · -- nobody is there to publish anything: no worker, no command, and the start stands still
      rcases notices_step (i := i) h with ⟨_, hn⟩ | ⟨_, r₁, r₁', _, _, hr₁, _, hw, _⟩ |
        ⟨n, reply, t, b, rfl, ht, hsaid, _⟩
      · rw [hn, hu.notices]
      · rw [hr] at hr₁
        cases hr₁
        exact absurd hb hw.started
      · cases t with
        | announce j c =>
          cases hsaid
          exact absurd ht (hu.owed n _)
        | herald j =>
          cases hsaid
          exact absurd rfl (hm _ (mem_of_task? ht) rfl reply)
        | _ => cases hsaid
    · rcases announce_step h ht with ht | ⟨r₁, c, hr₁, hc, ha⟩
      · exact hu.owed n b ht
      · rw [hr] at hr₁
        cases hr₁
        exact hp (hpause hc ha)
    · obtain ⟨r₁, ds, hr₁, _, hc⟩ := runChange h hr
      rw [hr'] at hr₁
      cases hr₁
      cases hc with
      | still | swept | spawned => rfl
      | worked _ hw => exact absurd hb hw.started
      | @commanded c hput =>
        exact Session.control_unshown fun b hc => hp (hpause hc ⟨hput, r, _, hr, hc⟩)
      | launched _ hmove hin => exact absurd hmove (hm _ hin rfl _)

/-! ## the opening -/

/-- the request that starts the run has published that it runs -/
def Heralded (s : System) (i : RunId) : Prop :=
  ∃ n, Entry.caller n (.run i (.told (.state (s.idOf i) .running))) ∈ s.log ∧
    (s.task? n = some (.spawn i) ∨ Entry.caller n (.closed (.started i)) ∈ s.log)

/-- the first of what has been published about the run, if there is anything, is that it runs; or a
Pause has come between -/
def Opens (s : System) (i : RunId) : Prop :=
  (∀ a, (s.notices i).getLast? = some a → a = .state (s.idOf i) .running) ∨ s.Overtaken i

/-- how far the start of a run has come -/
inductive Opening (s : System) (i : RunId) (r : Run) : Prop
  | launching {n : Nat} (ht : s.task? n = some (.launch i)) (hu : s.Unspoken i)
  | heralding {n : Nat} (ht : s.task? n = some (.herald i))
      (hu : s.Unspoken i ∧ r.session.state = .running ∨ s.Overtaken i)
  | heralded (hh : s.Heralded i) (ho : s.Opens i)

theorem Unspoken.opens (h : s.Unspoken i) : s.Opens i := by
  left
  rw [h.notices]
  exact nofun

theorem Opening.opens (h : s.Opening i r) : s.Opens i := by
  cases h with
  | launching _ hu => exact hu.opens
  | heralding _ hu => exact hu.elim (fun hu => hu.1.opens) Or.inr
  | heralded _ ho => exact ho

theorem Heralded.step (hs : s.Reachable) (hh : s.Heralded i) (hr : s.runs[i]? = some r)
    (h : s.step? m = some s') : s'.Heralded i := by
  obtain ⟨n, hlog, hn⟩ := hh
  obtain ⟨es, hlog', _⟩ := log_step h
  have hkept {e : Entry} (he : e ∈ s.log) : e ∈ s'.log := by
    rw [hlog']
    exact List.mem_append_right _ he
  refine ⟨n, by rw [idOf_step h hr]; exact hkept hlog, ?_⟩
  rcases hn with ht | hn
  · by_cases hm : ∃ reply, m = .proceed n reply
    · obtain ⟨reply, rfl⟩ := hm
      obtain ⟨t, ht', hstep⟩ := requestStep h
      rw [ht] at ht'
      cases ht'
      cases hstep
      exact Or.inr List.mem_cons_self
    · rw [not_exists] at hm
      left
      rw [task?_aside h (hs.numbered.number _ (mem_of_task? ht)) hm, ht]
  · exact Or.inr (hkept hn)

theorem Opens.step (ho : s.Opens i) (hne : s.notices i ≠ []) (hr : s.runs[i]? = some r)
    (h : s.step? m = some s') : s'.Opens i := by
  rcases ho with hf | hov
  · left
    have hkept : (s'.notices i).getLast? = (s.notices i).getLast? := by
      obtain ⟨es, hlog, _⟩ := log_step h
      rw [notices_of_log hlog, List.getLast?_append]
      cases hl : (s.notices i).getLast? with
      | none => exact absurd (List.getLast?_eq_none_iff.1 hl) hne
      | some a => rfl
    rw [hkept, idOf_step h hr]
    exact hf
  · exact Or.inr (hov.later h)

theorem Heralded.notices_ne (h : s.Heralded i) : s.notices i ≠ [] := by
  obtain ⟨n, hlog, _⟩ := h
  refine List.ne_nil_of_mem (a := .state (s.idOf i) .running) ?_
  exact List.mem_filterMap.2 ⟨_, hlog, if_pos rfl⟩

theorem Tidy.ne_of_starts? (ht : s.Tidy) (hin : s.task? n = some t) (hi : t.starts? = some i)
    (hm : ∀ reply, m ≠ .proceed n reply) (e : Nat × Task) (he : e ∈ s.tasks)
    (hi' : e.2.starts? = some i) (reply : CallerReply) : m ≠ .proceed e.1 reply := by
  have heq : e = (n, t) := ht.once e he _ (mem_of_task? hin) i hi' hi
  rw [heq]
  exact hm reply

/-- the start makes the first move of an idle session, which heeds no command before -/
theorem Unspoken.opening_step (hs : s.Reachable) (hu : s.Unspoken i) (ht : s.task? n = some (.launch i))
    (hr : s.runs[i]? = some r) (h : s.step? m = some s') (hr' : s'.runs[i]? = some r') :
    s'.Opening i r' := by
  obtain ⟨r₁, hr₁, hb, hidle⟩ := hs.tidy.starting _ (mem_of_task? ht) i rfl
  rw [hr] at hr₁
  cases hr₁
  have hst : r.session.state = .idle := hidle rfl
  by_cases hm : ∃ reply, m = .proceed n reply
  · obtain ⟨reply, rfl⟩ := hm
    obtain ⟨t, ht', hstep⟩ := requestStep h
    rw [ht] at ht'
    cases ht'
    cases hstep
    refine .heralding (task?_goOn _ _ _) (Or.inl ⟨⟨hu.notices, fun k b hk => ?_⟩, ?_⟩)
    · rw [task?_of_goOn rfl] at hk
      split at hk
      · cases hk
      · exact hu.owed k b hk
    · change (s.runs.modify i _)[i]? = some r' at hr'
      rw [List.getElem?_modify_eq, hr] at hr'
      cases hr'
      exact Session.settle_state (by rw [hst]; rfl)
  · rw [not_exists] at hm
    rcases hu.step hr hb (by rw [hst]; exact nofun) h hr' (hs.tidy.ne_of_starts? ht rfl hm) with
      ⟨hu', _⟩ | ⟨hrun, _⟩
    · exact .launching (by rw [task?_aside h (hs.numbered.number _ (mem_of_task? ht)) hm, ht]) hu'
    · rw [hst] at hrun
      cases hrun

/-- the start publishes the first move and may start the worker, and a Pause that is accepted
before overtakes the publication -/
theorem Opening.step_of_herald (hs : s.Reachable) (ht : s.task? n = some (.herald i))
    (hu : s.Unspoken i ∧ r.session.state = .running ∨ s.Overtaken i) (hr : s.runs[i]? = some r)
    (h : s.step? m = some s') (hr' : s'.runs[i]? = some r') : s'.Opening i r' := by
  obtain ⟨r₁, hr₁, hb, _⟩ := hs.tidy.starting _ (mem_of_task? ht) i rfl
  rw [hr] at hr₁
  cases hr₁
  by_cases hm : ∃ reply, m = .proceed n reply
  · obtain ⟨reply, rfl⟩ := hm
    obtain ⟨t, ht', hstep⟩ := requestStep h
    rw [ht] at ht'
    cases ht'
    have hid := idOf_step h hr
    have hopens : s'.Opens i := by
      rcases hu with ⟨hu, _⟩ | hov
      · left
        rw [hid]
        rcases RequestStep.notices (i := i) hstep with hn | ⟨b, hb, hn⟩
        · rw [hn, hu.notices]
          exact nofun
        · cases hb
          rw [hn, hu.notices]
          exact fun a ha => (Option.some.inj ha).symm
      · exact Or.inr (hov.later h)
    cases hstep
    exact .heralded ⟨n, by rw [hid]; exact List.mem_cons_self, Or.inl (task?_goOn _ _ _)⟩ hopens
  · rw [not_exists] at hm
    refine .heralding
      (by rw [task?_aside h (hs.numbered.number _ (mem_of_task? ht)) hm, ht]) ?_
    rcases hu with ⟨hu, hrun⟩ | hov
    · rcases hu.step hr hb (fun _ => hrun) h hr' (hs.tidy.ne_of_starts? ht rfl hm) with
        ⟨hu', hst⟩ | ⟨_, ha⟩
      · exact Or.inl ⟨hu', hst.trans hrun⟩
      · exact Or.inr ⟨s, m, [], n, hs, ht, ha, play?_singleton h⟩
    · exact Or.inr (hov.later h)

theorem Opening.step (hs : s.Reachable) (ho : s.Opening i r) (hr : s.runs[i]? = some r)
    (h : s.step? m = some s') (hr' : s'.runs[i]? = some r') : s'.Opening i r' := by
  cases ho with
  | launching ht hu => exact hu.opening_step hs ht hr h hr'
  | heralding ht hu => exact .step_of_herald hs ht hu hr h hr'
  | heralded hh ho => exact .heralded (hh.step hs hr h) (ho.step hh.notices_ne hr h)

/-- a run that is new has been registered by a request that is about to launch it -/
theorem launch_of_none (h : s.step? m = some s') (hr : s.runs[i]? = none)
    (hr' : s'.runs[i]? = some r') : ∃ n reply, m = .proceed n reply ∧
      s'.task? n = some (.launch i) ∧ ∀ k, k ≠ n → s'.task? k = s.task? k := by
  have hlen : s.runs.length ≤ i := List.getElem?_eq_none_iff.1 hr
  have hlt : i < s'.runs.length := (List.getElem?_eq_some_iff.1 hr').1
  cases m with
  | work j reply =>
    obtain ⟨_, _, _, _, _, hruns, _⟩ := work?_eq_some h
    rw [hruns, List.length_set] at hlt
    exact absurd hlt (Nat.not_lt.2 hlen)
  | proceed n reply =>
    obtain ⟨t, _, hstep⟩ := requestStep h
    rcases hstep.registry_eq with ⟨_, hsame⟩ | ⟨script, options, total, rfl, hnone, _, hruns⟩
    · rw [hsame] at hlt
      exact absurd hlt (Nat.not_lt.2 hlen)
    · rw [hruns, List.length_append, List.length_singleton] at hlt
      obtain rfl : i = s.runs.length := Nat.le_antisymm (Nat.lt_succ_iff.1 hlt) hlen
      cases hstep with
      | taken ha =>
        rw [hnone] at ha
        cases ha
      | enrolls =>
        exact ⟨n, _, rfl, task?_goOn _ _ _, fun k hk => by rw [task?_of_goOn rfl, if_neg hk]; rfl⟩
  | request q =>
    cases h
    exact absurd hlt (Nat.not_lt.2 hlen)
  | elapse d =>
    cases h
    exact absurd hlt (Nat.not_lt.2 hlen)

theorem Reachable.opening (hs : s.Reachable) (hr : s.runs[i]? = some r) : s.Opening i r := by
  refine hs.each_run (P := Opening) ?_ ?_ hr
  · intro s s' m i _ _ _ hs h hr hr'
    obtain ⟨n, reply, rfl, ht, hother⟩ := launch_of_none h hr hr'
    refine .launching ht ⟨?_, fun k b hk => ?_⟩
    · rw [hs.notices_step_of_none h hr, hs.notices_of_none hr]
    · by_cases hkn : k = n
      · rw [hkn, ht] at hk
        cases hk
      · -- no request can be about to publish a command to a run that was not there
        rw [hother k hkn] at hk
        obtain ⟨_, r₁, hr₁⟩ := hs.run_of_announce hk
        rw [hr] at hr₁
        cases hr₁
  · exact fun hs h hr hr' _ _ ho => ho.step hs hr h hr'

/-- **Before the worker of a run starts, it has been published that the run runs.** -/
theorem Reachable.heralded (hs : s.Reachable) (hr : s.runs[i]? = some r)
    (hb : r.place ≠ .unborn) : s.Heralded i := by
  have hunborn {k : Nat} {t : Task} (ht : s.task? k = some t) (hi : t.starts? = some i) :
      r.place = .unborn := by
    obtain ⟨r₁, hr₁, hb₁, _⟩ := hs.tidy.starting _ (mem_of_task? ht) i hi
    rw [hr] at hr₁
    cases hr₁
    exact hb₁
  cases hs.opening hr with
  | launching ht => exact absurd (hunborn ht rfl) hb
  | heralding ht => exact absurd (hunborn ht rfl) hb
  | heralded hh => exact hh

end

end System

end ScriptGuard
