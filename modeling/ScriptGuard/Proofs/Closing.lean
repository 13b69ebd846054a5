import ScriptGuard.Proofs.Opening
import ScriptGuard.Proofs.Releases

/-!
# What is published last about a run

The worker of a run ends with three publications: the terminal state, the result, and that the
script is idle.  Nobody else publishes anything of the kind about the run, and while they are
published the run has left the registry, what it held has been let go of as far as the device went
along, and the count of a completed run has been stored.

* `Notice.closes`      a terminal state, idle, or a result;
* `Place.closing`      the closing notices that have been published at a place;
* `Reachable.closing`  they are the last that the worker has published, and the only ones there are;
* `System.Stored`      the count of a completed run has been stored as the total of its script;
* `System.Concluded`   what holds while the end of a run is published;
* `chronicled_of_reachable`  what is published about a run, from the first to the last.
-/

namespace ScriptGuard

/-- the notice says that the run is over, or what came of it -/
def Notice.closes : Notice → Bool
  | .state _ a => !a.isActive
  | .progress _ _ _ => false
  | .failed _ | .completed _ => true

theorem Deed.isReport_told (a : Notice) : Deed.isReport (.told a) = a.closes := by
  cases a <;> rfl

def Place.closing (p : Place) : List Notice := p.reported.filterMap Deed.notice?

/-- the report whose publication has begun or is about to -/
def Place.stored? : Place → Option RunResult
  | .tellState x | .tellResult x | .tellIdle x | .gone x => some x
  | _ => none

/-- the closing notice that is published at this place -/
def Place.telling? : Place → Option (RunResult × Notice)
  | .tellState x => some (x, .state x.script x.state)
  | .tellResult x => some (x, if x.state = .failed then .failed x else .completed x)
  | .tellIdle x => some (x, .state x.script .idle)
  | _ => none

theorem Place.ne_remembering {p : Place} {x : RunResult} (h : p.stored? = some x) (y : RunResult) :
    p ≠ .remembering y := by
  rintro rfl
  cases h

theorem Place.stored?_of_isStage {p : Place} (h : p.isStage = true) : p.stored? = none := by
  obtain rfl | ⟨_, rfl⟩ | rfl := Place.stage_cases h <;> rfl

theorem Place.result?_of_stored? {p : Place} {x : RunResult} (h : p.stored? = some x) :
    p.result? = some x := by
  cases p with
  | tellState _ | tellResult _ | tellIdle _ | gone _ => exact h
  | _ => cases h

theorem Place.deregistered_of_stored? {p : Place} {x : RunResult} (h : p.stored? = some x) :
    Deed.deregistered ∈ p.reported := by
  cases p with
  | tellState _ | tellResult _ | tellIdle _ | gone _ => simp [reported]
  | _ => cases h

theorem Place.stored?_of_telling? {p : Place} {x : RunResult} {a : Notice}
    (h : p.telling? = some (x, a)) : p.stored? = some x := by
  cases p <;> cases h <;> rfl

theorem Run.resultNotice_eq (x : RunResult) :
    Run.resultNotice x = if x.state = .failed then .failed x else .completed x := by
  unfold Run.resultNotice RunResult.state
  cases x.outcome <;> rfl

theorem Place.closing_of_reported {p : Place} (h : p.reported = []) : p.closing = [] := by
  rw [closing, h, List.filterMap_nil]

theorem Place.closing_gone (x : RunResult) : (Place.gone x).closing =
    [.state x.script .idle, if x.state = .failed then .failed x else .completed x,
      .state x.script x.state] := by
  rw [← Run.resultNotice_eq]
  rfl

theorem Place.closes_of_mem {p : Place} {a : Notice} (h : a ∈ p.closing) : a.closes = true := by
  have hstate (y : RunResult) : Notice.closes (.state y.script y.state) = true := by
    rw [← Deed.isReport_told, Deed.isReport_state]
  have hresult (y : RunResult) : (Run.resultNotice y).closes = true := by
    rw [← Deed.isReport_told, Deed.isReport_resultNotice]
  cases p <;> simp [closing, reported, Deed.notice?] at h
  case tellResult x =>
    rw [h]
    exact hstate x
  case tellIdle x =>
    rcases h with rfl | rfl
    · exact hresult x
    · exact hstate x
  case gone x =>
    rcases h with rfl | rfl | rfl
    · rfl
    · exact hresult x
    · exact hstate x

/-! ## one step of a worker -/

section
variable {v : View} {r r' : Run} {reply : Reply} {ds old : List Deed}

theorem Deed.closes_of_quiet (h : ds.filter isReport = []) {a : Notice}
    (ha : a ∈ ds.reverse.filterMap notice?) : a.closes = false := by
  obtain ⟨d, hd, hn⟩ := List.mem_filterMap.1 ha
  have hquiet : d.isReport = false := by
    simpa using List.filter_eq_nil_iff.1 h d (List.mem_reverse.1 hd)
  cases d with
  | told b =>
    cases hn
    rwa [isReport_told] at hquiet
  | _ => cases hn

/-- **A step of a worker publishes the closing notice of its place, or none.** -/
theorem WorkerStep.tells (h : WorkerStep v r reply r' ds) :
    (∀ a ∈ ds.reverse.filterMap Deed.notice?, a.closes = false) ∧ r.place.closing = [] ∧
        r'.place.closing = [] ∨
      ∃ x a, r.place.telling? = some (x, a) ∧ ds = [.told a] ∧ r'.place.stored? = some x ∧
        r'.place.closing = a :: r.place.closing := by
  have hquiet (hp : r.place.reported = []) (hp' : r'.place.reported = [])
      (hd : ds.filter Deed.isReport = []) :
      (∀ a ∈ ds.reverse.filterMap Deed.notice?, a.closes = false) ∧ r.place.closing = [] ∧
        r'.place.closing = [] :=
    ⟨fun _ => Deed.closes_of_quiet hd, Place.closing_of_reported hp, Place.closing_of_reported hp'⟩
  cases h with
  | call hp h => exact Or.inl (hquiet (by rw [hp]; rfl) h.reports.2 h.reports.1)
  | staged hp hn =>
    exact Or.inl (hquiet (Place.reported_of_isStage hp) (Place.reported_of_isStage hn) rfl)
  | unready hp => exact Or.inl (hquiet (Place.reported_of_isStage hp) rfl rfl)
  | stageBroke hp => exact Or.inl (hquiet (Place.reported_of_isStage hp) rfl rfl)
  | leaves hp => exact Or.inl ⟨nofun, by rw [hp]; rfl, rfl⟩
  | remembers hp =>
    refine Or.inl ⟨?_, by rw [hp]; rfl, rfl⟩
    split <;> exact nofun
  | tellsState hp => exact Or.inr ⟨_, _, by rw [hp]; rfl, rfl, rfl, by rw [hp]; rfl⟩
  | @tellsResult x hp =>
    exact Or.inr ⟨x, _, by rw [hp, Run.resultNotice_eq]; rfl, rfl, rfl, by rw [hp]; rfl⟩
  | tellsIdle hp => exact Or.inr ⟨_, _, by rw [hp]; rfl, rfl, rfl, by rw [hp]; rfl⟩
  | _ hp => exact Or.inl (hquiet (by rw [hp]; rfl) rfl rfl)

theorem WorkerStep.closing (h : WorkerStep v r reply r' ds) :
    ∃ new, ds.reverse.filterMap Deed.notice? ++ r.place.closing = r'.place.closing ++ new ∧
      ∀ a ∈ new, a.closes = false := by
  rcases h.tells with ⟨hquiet, hp, hp'⟩ | ⟨x, a, _, rfl, _, hp'⟩
  · exact ⟨_, by rw [hp, hp', List.append_nil, List.nil_append], hquiet⟩
  · exact ⟨[], by rw [hp', List.append_nil]; rfl, nofun⟩

/-- the closing notices of a place, after what the worker has published before -/
def Run.Closes (r : Run) (ds : List Deed) : Prop :=
  ∃ before, ds.filterMap Deed.notice? = r.place.closing ++ before ∧
    ∀ a ∈ before, a.closes = false

theorem WorkerStep.closes (h : WorkerStep v r reply r' ds) (hc : r.Closes old) :
    r'.Closes (ds.reverse ++ old) := by
  obtain ⟨before, hold, hb⟩ := hc
  obtain ⟨new, hnew, hn⟩ := h.closing
  refine ⟨new ++ before, ?_, fun a ha => ?_⟩
  · rw [List.filterMap_append, hold, ← List.append_assoc, hnew, List.append_assoc]
  · rcases List.mem_append.1 ha with ha | ha
    · exact hn a ha
    · exact hb a ha

/-- a worker writes down its count where it has the report of a success, and nowhere else -/
theorem WorkerStep.remembers_of_mem {k : Nat} (h : WorkerStep v r reply r' ds)
    (hd : Deed.remembered k ∈ ds) :
    ∃ x, r.place = .remembering x ∧ x.isSuccess = true ∧ ds = [.remembered x.operations] := by
  cases h with
  | @remembers x hp =>
    split at hd
    · rename_i hx
      exact ⟨x, hp, hx, if_pos hx⟩
    · cases hd
  | call _ h =>
    cases h with
    | atGate _ h => cases h <;> simp at hd
    | _ => simp at hd
  | _ => simp at hd

/-- the end of a run is published after its count has been written down -/
theorem WorkerStep.stores {x : RunResult} (h : WorkerStep v r reply r' ds)
    (hp : r'.place.stored? = some x) : r.place.stored? = some x ∨ r.place = .remembering x := by
  cases h with
  | remembers hr => exact Or.inr (by rw [hr, ← Option.some.inj hp])
  | tellsState hr => exact Or.inl (by rw [hr]; exact hp)
  | tellsResult hr => exact Or.inl (by rw [hr]; exact hp)
  | tellsIdle hr => exact Or.inl (by rw [hr]; exact hp)
  | call _ h =>
    cases h with
    | atGate _ h => cases h <;> cases hp
    | _ => cases hp
  | @staged next _ hn =>
    change next.stored? = some x at hp
    rw [Place.stored?_of_isStage hn] at hp
    cases hp
  | _ => cases hp

end

theorem RequestStep.totals_eq {s s' : System} {n : Nat} {t : Task} {reply : CallerReply}
    (h : RequestStep s n t reply s') : s'.totals = s.totals := by
  cases h <;> rfl

namespace System

section
variable {s s' : System} {m : Move} {i : RunId} {n : Nat} {r r' : Run} {x : RunResult}

theorem Reachable.closes (hs : s.Reachable) (hr : s.runs[i]? = some r) : r.Closes (s.deeds i) := by
  refine hs.every_run (P := Run.Closes) (fun _ _ _ _ => ⟨[], rfl, nofun⟩) ?_ hr
  intro s m i r r' ds hs hr hc hold
  cases hc with
  | worked _ hw => exact hw.closes hold
  | spawned _ _ hin =>
    obtain ⟨before, hold, hb⟩ := hold
    rw [hs.tidy.unborn_of_spawn hr hin] at hold
    exact ⟨before, hold, hb⟩
  | _ => exact hold

theorem Reachable.closes_of_unsaid (hs : s.Reachable) {t : Task} (ht : s.task? n = some t)
    {b : RunState} (hu : t.unsaid? = some (i, b)) :
    Notice.closes (.state (s.idOf i) b) = false := by
  show (!b.isActive) = false
  rw [(hs.run_of_unsaid ht hu).1]
  rfl

/-- **The closing notices about a run are those of its worker.** -/
theorem Reachable.closing (hs : s.Reachable) (hr : s.runs[i]? = some r) :
    (s.notices i).filter Notice.closes = r.place.closing := by
  refine hs.each_run (P := fun s i r => (s.notices i).filter Notice.closes = r.place.closing)
    ?_ ?_ hr
  · intro s s' m i _ _ _ hs h hr _
    rw [hs.notices_step_of_none h hr, hs.notices_of_none hr]
    rfl
  · intro s s' m i r r' _ hs h hr hr' _ hc hold
    have haside (hm : m.isWorkOf i = false) : r'.place.closing = r.place.closing := by
      rcases (hc.unmoved hs.tidy hr hm).1 with hp | ⟨hp, hp'⟩
      · rw [hp]
      · rw [hp, hp']
        rfl
    rcases notices_step (i := i) h with ⟨hm, hn⟩ | ⟨reply, r₂, r₂', ds, rfl, hr₂, hr₂', hw, hn⟩ |
      ⟨n, reply, t, b, rfl, ht, hu, hn⟩
    · rw [hn, hold, haside hm]
    · rw [hr] at hr₂
      rw [hr'] at hr₂'
      cases hr₂
      cases hr₂'
      -- what the worker adds to the closing notices is what its place gains
      obtain ⟨new, hnew, hquiet⟩ := hw.closing
      have hkeep (p : Place) : p.closing.filter Notice.closes = p.closing :=
        List.filter_eq_self.2 fun _ => Place.closes_of_mem
      have hnone : new.filter Notice.closes = [] :=
        List.filter_eq_nil_iff.2 fun a ha => by rw [hquiet a ha]; exact nofun
      have hall := congrArg (List.filter Notice.closes) hnew
      rw [List.filter_append, List.filter_append, hkeep, hkeep, hnone, List.append_nil] at hall
      rw [hn, List.filter_append, hold, hall]
    · rw [hn, List.filter_cons_of_neg (by rw [hs.closes_of_unsaid ht hu]; exact nofun), hold,
        haside rfl]

/-! ## the totals -/

theorem find?_put (table : List (String × Nat)) (id key : String) (k : Nat) :
    find? (put table id k) key = if id = key then some k else find? table key := by
  unfold put find? drop
  by_cases hid : id = key
  · rw [if_pos hid, List.find?_cons_of_pos (by simp [hid]), Option.map_some]
  · rw [if_neg hid, List.find?_cons_of_neg (by simpa using hid), List.find?_filter]
    congr 2
    funext e
    by_cases he : e.1 = key
    · simp [he, Ne.symm hid]
    · simp [he]

theorem foldl_record_totals (run : RunId) (id : String) (ds : List Deed) (s : System)
    (hd : ∀ k, Deed.remembered k ∉ ds) :
    (ds.foldl (fun s d => s.record run id d) s).totals = s.totals := by
  induction ds generalizing s with
  | nil => rfl
  | cons d ds ih =>
    rw [List.foldl_cons, ih _ fun k hk => hd k (List.mem_cons_of_mem _ hk)]
    cases d with
    | remembered k => exact absurd List.mem_cons_self (hd k)
    | _ => rfl

/-- only the worker of a completed run changes a total, by writing down its count -/
theorem totals_step (h : s.step? m = some s') :
    s'.totals = s.totals ∨ ∃ j reply r x, m = .work j reply ∧ s.runs[j]? = some r ∧
      r.place = .remembering x ∧ s'.totals = put s.totals r.session.script.id x.operations ∧
      s'.log = .worker j (.remembered x.operations) :: s.log := by
  cases m with
  | work j reply =>
    obtain ⟨r, r', ds, hr, ha, hs'⟩ := work?_eq_foldl h
    by_cases hd : ∃ k, Deed.remembered k ∈ ds
    · obtain ⟨k, hd⟩ := hd
      obtain ⟨x, hp, _, rfl⟩ := WorkerStep.remembers_of_mem (.of_advance ha) hd
      exact Or.inr ⟨j, reply, r, x, rfl, hr, hp, by rw [hs']; rfl, by rw [hs']; rfl⟩
    · left
      rw [hs', foldl_record_totals _ _ _ _ (not_exists.1 hd)]
  | proceed n reply =>
    obtain ⟨t, _, hstep⟩ := requestStep h
    exact Or.inl hstep.totals_eq
  | request q =>
    cases h
    exact Or.inl rfl
  | elapse d =>
    cases h
    exact Or.inl rfl

theorem remembered_of_work {reply : Reply} (h : s.step? (.work i reply) = some s')
    (hr : s.runs[i]? = some r) (hp : r.place = .remembering x) (hx : x.isSuccess = true) :
    s'.totals = put s.totals r.session.script.id x.operations ∧
      s'.log = .worker i (.remembered x.operations) :: s.log := by
  obtain ⟨r₁, r', ds, hr₁, ha, rfl⟩ := work?_eq_foldl h
  rw [hr] at hr₁
  cases hr₁
  have hds : ds = [.remembered x.operations] := by
    have hw : WorkerStep s.view r reply r' ds := .of_advance ha
    cases hw with
    | remembers hp' =>
      rw [hp] at hp'
      cases hp'
      rw [if_pos hx]
    | _ hp' => simp_all [Place.isStage]
  rw [hds]
  exact ⟨rfl, rfl⟩

/-- the count of the run has been stored as the total of its script; it is the total still, or
another run of the script has stored its own since -/
def Stored (s : System) (i : RunId) (x : RunResult) : Prop :=
  ∃ later early, s.log = later ++ .worker i (.remembered x.operations) :: early ∧
    (find? s.totals x.script = some x.operations ∨
      ∃ j r k, j ≠ i ∧ s.runs[j]? = some r ∧ r.session.script.id = x.script ∧
        Entry.worker j (.remembered k) ∈ later ∧ find? s.totals x.script = some k)

theorem Stored.step (hst : s.Stored i x) (hr : s.runs[i]? = some r)
    (hp : ∀ y, r.place ≠ .remembering y) (h : s.step? m = some s') : s'.Stored i x := by
  obtain ⟨later, early, hlog, htotal⟩ := hst
  obtain ⟨es, hlog', _⟩ := log_step h
  refine ⟨es ++ later, early, by rw [hlog', hlog, List.append_assoc], ?_⟩
  have hkept (hsame : find? s'.totals x.script = find? s.totals x.script) :
      find? s'.totals x.script = some x.operations ∨ ∃ j r k, j ≠ i ∧ s'.runs[j]? = some r ∧
        r.session.script.id = x.script ∧ Entry.worker j (.remembered k) ∈ es ++ later ∧
        find? s'.totals x.script = some k := by
    rw [hsame]
    refine htotal.imp_right ?_
    rintro ⟨j, rj, k, hne, hj, hid, hmem, hk⟩
    obtain ⟨rj', _, hj', _, hc⟩ := runChange h hj
    exact ⟨j, rj', k, hne, hj', by rw [hc.given_eq.1, hid], List.mem_append_right _ hmem, hk⟩
  rcases totals_step h with hsame | ⟨j, reply, rj, y, rfl, hj, hpj, hput, hlogj⟩
  · exact hkept (by rw [hsame])
  · have hne : j ≠ i := by
      rintro rfl
      rw [hr] at hj
      cases hj
      exact hp y hpj
    by_cases hid : rj.session.script.id = x.script
    · -- another run of the script stores its count
      right
      obtain ⟨rj', _, hj', _, hc⟩ := runChange h hj
      have hes : es = [.worker j (.remembered y.operations)] :=
        List.append_cancel_right (hlog'.symm.trans hlogj)
      refine ⟨j, rj', y.operations, hne, hj', by rw [hc.given_eq.1, hid], ?_, ?_⟩
      · rw [hes]
        exact List.mem_append_left _ List.mem_cons_self
      · rw [hput, find?_put, if_pos hid]
    · exact hkept (by rw [hput, find?_put, if_neg hid])

/-- the count of a completed run is stored before the first of its closing notices -/
theorem Reachable.stored (hs : s.Reachable) (hr : s.runs[i]? = some r)
    (hp : r.place.stored? = some x) (hx : x.isSuccess = true) : s.Stored i x := by
  refine hs.each_run (P := fun s i r => r.place.stored? = some x → s.Stored i x) ?_ ?_ hr hp
  · intros
    contradiction
  · intro s s' m i r r' _ hs h hr hr' _ _ ih hp'
    have hkept (hp : r.place.stored? = some x) : s'.Stored i x :=
      (ih hp).step hr (Place.ne_remembering hp) h
    rcases worked_or h hr with ⟨reply, r₁, ds, rfl, hr₁, _, hw⟩ | ⟨hm, r₁, hr₁, _, hc⟩
    · rw [hr'] at hr₁
      cases hr₁
      rcases hw.stores hp' with hp | hp
      · exact hkept hp
      · -- the count has just been written down
        obtain ⟨htotals, hlog⟩ := remembered_of_work h hr hp hx
        have hid : x.script = r.session.script.id :=
          ((hs.accounts hr).names x (by rw [hp]; rfl)).1
        refine ⟨[], s.log, hlog, Or.inl ?_⟩
        rw [htotals, find?_put, if_pos hid.symm]
    · rw [hr'] at hr₁
      cases hr₁
      rcases (hc.unmoved hs.tidy hr hm).1 with hp | ⟨_, hp⟩
      · exact hkept (by rw [← hp, hp'])
      · rw [hp] at hp'
        cases hp'

/-! ## while the end of a run is published -/

/-- the run has left the registry; each button and key that was down when the work on its script
ended has been released, whether the device performed it or refused, or everything was released at
once after a breakdown; and the count of a completed run has been stored -/
structure Concluded (s : System) (i : RunId) (x : RunResult) : Prop where
  unregistered : ∀ id, (id, i) ∉ s.registry
  letGo : ∃ t broke since out, Aftermath t s i broke ∧ s.deeds i = since ++ t.deeds i ∧
    Deed.FreedBy (t.deeds i) out ∧
    (broke = false ∧ Deed.LetGo out since ∨ Deed.Rescued out broke since)
  stored : x.isSuccess = true → s.Stored i x

theorem Reachable.unregistered (hs : s.Reachable) (hr : s.runs[i]? = some r)
    (hp : Deed.deregistered ∈ r.place.reported) (id : String) : (id, i) ∉ s.registry := by
  rw [hs.listed.entry]
  rintro ⟨_, _, _, hn⟩
  rw [← (hs.accounts hr).reports] at hp
  exact hn (List.mem_filter.1 hp).1

/-- what a run held has been let go of when it has its report -/
theorem Reachable.letGo (hs : s.Reachable) (hr : s.runs[i]? = some r)
    (hp : r.place.result? = some x) :
    ∃ t broke since out, Aftermath t s i broke ∧ s.deeds i = since ++ t.deeds i ∧
      Deed.FreedBy (t.deeds i) out ∧
      (broke = false ∧ Deed.LetGo out since ∨ Deed.Rescued out broke since) := by
  have hsome : r.place.result?.isSome = true := by rw [hp]; rfl
  have hw := Place.atWork_of_result? hsome
  obtain ⟨t, broke, ha⟩ := aftermath_of_not_atWork hs (placeOf?_of_run hr) hw
  obtain ⟨out, r', since, hfree, hr', hd, hl⟩ := ha.lets
  rw [hr] at hr'
  cases hr'
  exact ⟨t, broke, since, out, ha, hd, hfree, (Place.lets_of_result? hsome).1 hl⟩

theorem Reachable.concluded (hs : s.Reachable) (hr : s.runs[i]? = some r)
    (hp : r.place.stored? = some x) : s.Concluded i x where
  unregistered := hs.unregistered hr (Place.deregistered_of_stored? hp)
  letGo := hs.letGo hr (Place.result?_of_stored? hp)
  stored := hs.stored hr hp

/-- a closing notice is published by the worker of the run, from the place that tells it -/
theorem telling_of_closes (hs : s.Reachable) (h : s.step? m = some s')
    (hne : (s'.notices i).filter Notice.closes ≠ (s.notices i).filter Notice.closes) :
    ∃ reply p x a, m = .work i reply ∧ s.placeOf? i = some p ∧ p.telling? = some (x, a) ∧
      s'.notices i = a :: s.notices i ∧ s.Concluded i x ∧ s'.Concluded i x := by
  rcases notices_step (i := i) h with ⟨_, hn⟩ | ⟨reply, r, r', ds, rfl, hr, hr', hw, hn⟩ |
    ⟨_, _, t, b, _, ht, hu, hn⟩
  · exact absurd (by rw [hn]) hne
  · rcases hw.tells with ⟨hquiet, _⟩ | ⟨x, a, htell, rfl, hstored, _⟩
    · refine absurd ?_ hne
      have hnone : (ds.reverse.filterMap Deed.notice?).filter Notice.closes = [] :=
        List.filter_eq_nil_iff.2 fun a ha => by rw [hquiet a ha]; exact nofun
      rw [hn, List.filter_append, hnone, List.nil_append]
    · exact ⟨reply, r.place, x, a, rfl, placeOf?_of_run hr, htell, hn,
        hs.concluded hr (Place.stored?_of_telling? htell), (hs.step h).concluded hr' hstored⟩
  · refine absurd ?_ hne
    rw [hn, List.filter_cons_of_neg (by rw [hs.closes_of_unsaid ht hu]; exact nofun)]

/-- what is published about a run -/
structure Chronicled (s : System) (i : RunId) (r : Run) : Prop where
  /-- the first notice is that the run runs, unless a Pause has come between -/
  opens : s.Opens i
  /-- the start has published that before the worker starts -/
  heralded : r.place ≠ .unborn → s.Heralded i
  /-- a closing notice is published by the worker of the run; the run is concluded then -/
  tells : ∀ m s', s.step? m = some s' →
    (s'.notices i).filter Notice.closes ≠ (s.notices i).filter Notice.closes →
    ∃ reply p x a, m = .work i reply ∧ s.placeOf? i = some p ∧ p.telling? = some (x, a) ∧
      s'.notices i = a :: s.notices i ∧ s.Concluded i x ∧ s'.Concluded i x
  /-- once the run is over: the last three notices of its worker, and the only closing ones -/
  closed : ∀ x, r.place = .gone x →
    x.script = r.session.script.id ∧ x.state = r.session.state ∧ x.state.isTerminal = true ∧
    ∃ last before, last = [Notice.state x.script .idle,
        if x.state = .failed then .failed x else .completed x, .state x.script x.state] ∧
      (s.deeds i).filterMap Deed.notice? = last ++ before ∧
      (∀ a ∈ before, a.closes = false) ∧ (s.notices i).filter Notice.closes = last
  /-- a run without a report has no closing notice -/
  silent : r.place.result? = none → ∀ a ∈ s.notices i, a.closes = false
  /-- a worker that has been started and can do nothing more has come to its end, unless the release
  of everything broke down -/
  ends : ∀ n, Entry.caller n (.closed (.started i)) ∈ s.log →
    (∀ reply, s.step? (.work i reply) = none) →
    (∃ x, r.place = .gone x) ∨ r.place = .lost ∧ Deed.ended .releaseAll .brokeDown ∈ s.deeds i

/-- **What is published about a run**: first that it runs, before its worker starts, unless a Pause
comes between; last, by its worker alone, the terminal state, the result and that the script is
idle, while the run has left the registry, what it held has been let go of and the count of a
completed run has been stored. -/
theorem chronicled_of_reachable (hs : s.Reachable) (hr : s.runs[i]? = some r) :
    s.Chronicled i r where
  opens := (hs.opening hr).opens
  heralded := hs.heralded hr
  tells := fun m s' h hne => telling_of_closes hs h hne
  closed := fun x hp => by
    have hres : r.place.result? = some x := by rw [hp]; rfl
    obtain ⟨before, hall, hb⟩ := hs.closes hr
    have hlast := hs.closing hr
    rw [hp, Place.closing_gone] at hall hlast
    exact ⟨((hs.accounts hr).names x hres).1, ((hs.orderly.fits i r hr).eq_state hres).symm,
      x.outcome.isTerminal_state, _, before, rfl, hall, hb, hlast⟩
  silent := fun hp a ha => by
    have hnone := hs.closing hr
    rw [Place.closing_of_reported (Place.reported_of_result? hp)] at hnone
    simpa using List.filter_eq_nil_iff.1 hnone a ha
  ends := fun n hlog hn => by
    rcases hs.reported_of_halted hlog hn with ⟨x, hp, _⟩ | ⟨hp, hd⟩
    · rw [placeOf?_of_run hr] at hp
      exact Or.inl ⟨x, Option.some.inj hp⟩
    · rw [placeOf?_of_run hr] at hp
      exact Or.inr ⟨Option.some.inj hp, hd⟩

/-- a run presses a key, comes to its end, and is reported -/
theorem chronicled_of_reachable_attended :
    let s := (attended {}).after (carried .keyDown [.str "b"] ++
      [Move.work 0 (.script (.finish .completed)), .work 0 .go, .work 0 (.device .done)] ++
      List.replicate 8 (Move.work 0 .go))
    s.notices 0 = [.state "s" .idle, .completed ⟨"s", "s", .completed, 1, .zero⟩,
        .state "s" .completed, .progress "s" 1 none, .state "s" .running] ∧
      ∃ r, s.runs[0]? = some r ∧ s.Chronicled 0 r := by
  intro s
  have hs : s.Reachable := (reachable_attended _).after _
  have hrun : (s.runs[0]?).isSome = true := by decide +kernel
  obtain ⟨r, hr⟩ := Option.isSome_iff_exists.1 hrun
  exact ⟨by decide +kernel, r, hr, chronicled_of_reachable hs hr⟩

/-- **A Pause can be published before the start, a key can still be down when the end is published,
and another run can have stored its count meanwhile.**  The Pause comes between the first move of
the start and its publication; the device refuses the release of the key; the other run is started
and comes to its end while the first one still has its end to publish. -/
theorem not_running_first_nor_let_go_nor_stored :
    (¬ ∀ (s : System) (i : RunId) (a : Notice), s.Reachable →
      (s.notices i).getLast? = some a → a = .state (s.idOf i) .running) ∧
    (¬ ∀ (s : System) (i : RunId) (x : RunResult) (g : Grip), s.Reachable →
      s.placeOf? i = some (.tellState x) → Deed.pressed (s.deeds i) g = false) ∧
    ¬ ∀ (s : System) (i : RunId) (x : RunResult), s.Reachable →
      s.placeOf? i = some (.tellState x) → x.isSuccess = true →
      find? s.totals x.script = some x.operations := by
  refine ⟨fun h => ?_, fun h => ?_, fun h => ?_⟩
  · let s := (fresh {} {}).after ([Move.request (.start ⟨"s", "s", ""⟩ { mode := .interactive }),
      .proceed 0 .go, .proceed 0 (.provision (.ok ()))] ++ List.replicate 3 (Move.proceed 0 .go) ++
      Move.request (.control "s" .pause) :: List.replicate 3 (Move.proceed 1 .go))
    have hs : s.Reachable := Reachable.after ⟨_, _, [], rfl⟩ _
    have hfirst := h s 0 (.state "s" .paused) hs (by decide +kernel)
    cases hfirst
  · let s := (attended {}).after (carried .keyDown [.str "a"] ++
      [Move.work 0 (.script (.finish .completed)), .work 0 .go,
        .work 0 (.device (.failed ⟨"d", "stuck"⟩))] ++ List.replicate 5 (Move.work 0 .go))
    have hs : s.Reachable := (reachable_attended _).after _
    have hup := h s 0 ⟨"s", "s", .completed, 1, .zero⟩ (.key "a") hs (by decide +kernel)
    have hdown : Deed.pressed (s.deeds 0) (.key "a") = true := by decide +kernel
    rw [hdown] at hup
    cases hup
  · let s := (attended {}).after (Move.work 0 (.script (.finish .completed)) ::
      List.replicate 5 (Move.work 0 .go) ++
      [Move.request (.start ⟨"s", "s", ""⟩ {}), .proceed 2 .go, .proceed 2 (.provision (.ok ()))] ++
      List.replicate 5 (Move.proceed 2 .go) ++
      List.replicate 11 (Move.work 1 (.stage .ready)) ++
      Move.work 1 (.script (.call .move [.int 1, .int 2])) :: List.replicate 7 (Move.work 1 .go) ++
      Move.work 1 (.device .done) :: List.replicate 3 (Move.work 1 .go) ++
      Move.work 1 (.script (.finish .completed)) :: List.replicate 5 (Move.work 1 .go))
    have hs : s.Reachable := (reachable_attended _).after _
    have hzero := h s 0 ⟨"s", "s", .completed, 0, .zero⟩ hs (by decide +kernel) rfl
    have hone : find? s.totals "s" = some 1 := by decide +kernel
    rw [hone] at hzero
    cases hzero

end

end System

end ScriptGuard
