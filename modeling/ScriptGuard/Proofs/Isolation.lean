import ScriptGuard.Proofs.Closing
import ScriptGuard.Proofs.Insertion

/-!
# Scripts do not touch each other

Every move is addressed to one script, or to the process: a step of a worker to the script of its
run, a request and its steps to the script whose run they command or start.

* `System.addressee?`     the script to which a move is addressed;
* `System.Stems`          what is under way goes back to the requests made, and to their scripts;
* `System.LeavesAlone`    what a script has is as it was, and nothing has been said about it;
* `leavesAlone_of_play`   moves addressed to others leave a script alone.
-/

namespace ScriptGuard

def Request.addressee? : Request → Option String
  | .control id _ => some id
  | .start script _ => some script.id
  | _ => none

/-- the run with which a request for one script is busy -/
def Task.run? : Task → Option RunId
  | .apply run _ | .announce run _ | .free run | .freeing run | .launch run | .herald run
  | .spawn run => some run
  | _ => none

/-- the script of a request that has not come to a run -/
def Task.script? : Task → Option String
  | .look id _ | .cut id => some id
  | .vet script _ | .provide script _ | .recall script _ | .enroll script _ _ => some script.id
  | _ => none

/-- the runs with which a request is busy, or will be -/
def Task.runs : Task → List RunId
  | .sweep _ runs => runs
  | .clear _ run runs | .clearing _ run runs => run :: runs
  | t => t.run?.toList

def Notice.script : Notice → String
  | .state id _ | .progress id _ _ => id
  | .failed x | .completed x => x.script

def Move.request? : Move → Option Request
  | .request q => some q
  | _ => none

/-- what has been done about a run -/
def Entry.deed? : Entry → Option (RunId × Deed)
  | .worker i d | .caller _ (.run i d) => some (i, d)
  | _ => none

theorem Task.runs_of_run? {t : Task} {i : RunId} (h : t.run? = some i) : t.runs = [i] := by
  cases t with
  | sweep => cases h
  | clear => cases h
  | clearing => cases h
  | _ => exact congrArg Option.toList h

section
variable {v : View} {r r' : Run} {reply : Reply} {ds : List Deed}

theorem Run.script_resultNotice (x : RunResult) : (Run.resultNotice x).script = x.script := by
  rw [Run.resultNotice_eq]
  split <;> rfl

theorem WorkerStep.names_script (h : WorkerStep v r reply r' ds)
    (hn : ∀ x, r.place.result? = some x → x.script = r.session.script.id) {a : Notice}
    (ha : Deed.told a ∈ ds) : a.script = r.session.script.id := by
  have hone {b : Notice} (hb : b.script = r.session.script.id) (hin : Deed.told a ∈ [Deed.told b]) :
      a.script = r.session.script.id := by
    cases List.mem_singleton.1 hin
    exact hb
  cases h with
  | call _ h =>
    cases h with
    | atGate _ h => cases h <;> simp at ha
    | announced => exact hone rfl ha
    | announcedStop => exact hone rfl (by simpa using ha)
    | progress => exact hone rfl (by simpa using ha)
    | progressPaused => exact hone rfl ha
    | repaused => exact hone rfl (by simpa using ha)
    | _ => simp at ha
  | remembers => split at ha <;> simp at ha
  | tellsState hp => exact hone (hn _ (by rw [hp]; rfl)) ha
  | tellsResult hp => exact hone ((Run.script_resultNotice _).trans (hn _ (by rw [hp]; rfl))) ha
  | tellsIdle hp => exact hone (hn _ (by rw [hp]; rfl)) ha
  | _ => simp at ha

end

namespace System

/-! ## to whom a move is addressed -/

/-- the script for which a request under way is made -/
def owner? (s : System) (t : Task) : Option String := (t.run?.map s.idOf).or t.script?

def addressee? (s : System) : Move → Option String
  | .work i _ => some (s.idOf i)
  | .proceed n _ => (s.task? n).bind s.owner?
  | .request q => q.addressee?
  | .elapse _ => none

/-- the run is one of the script -/
def Hosts (s : System) (id : String) (i : RunId) : Prop :=
  ∃ r, s.runs[i]? = some r ∧ r.session.script.id = id

/-- the requests under way are some of those made, each for the script it was made for, and busy
with runs that there are -/
structure Stems (s : System) (qs : List Request) : Prop where
  count : s.nextTask = qs.length
  owned : ∀ n t, s.task? n = some t → s.owner? t = (qs[n]?).bind Request.addressee?
  homed : ∀ n t, s.task? n = some t → ∀ i ∈ t.runs, ∃ id, s.Hosts id i

section
variable {s s' : System} {m : Move} {i : RunId} {id a : String} {r : Run} {n : Nat} {t t' : Task}
  {reply : CallerReply} {qs : List Request} {ms : List Move}

theorem Hosts.idOf_eq (h : s.Hosts id i) : s.idOf i = id := by
  obtain ⟨r, hr, hid⟩ := h
  rw [idOf_of_run hr, hid]

theorem hosts_of_run (hr : s.runs[i]? = some r) : s.Hosts r.session.script.id i := ⟨r, hr, rfl⟩

theorem Hosts.step (h : s.Hosts id i) (hs : s.step? m = some s') : s'.Hosts id i := by
  obtain ⟨r, hr, hid⟩ := h
  obtain ⟨r', _, hr', _, hc⟩ := runChange hs hr
  exact ⟨r', hr', by rw [hc.given_eq.1, hid]⟩

theorem Hosts.play (h : s.Hosts id i) (hp : s.play? ms = some s') : s'.Hosts id i :=
  play?_induction (P := fun t => t.Hosts id i) (fun ht hs => ht.step hs) h hp

theorem owner?_of_run? (h : t.run? = some i) : s.owner? t = some (s.idOf i) := by
  rw [owner?, h]
  rfl

theorem owner?_step (hs : s.step? m = some s') (hh : ∀ i ∈ t.runs, ∃ id, s.Hosts id i) :
    s'.owner? t = s.owner? t := by
  unfold owner?
  cases hr : t.run? with
  | none => rfl
  | some i =>
    obtain ⟨id, hi⟩ := hh i (by rw [Task.runs_of_run? hr]; exact List.mem_singleton_self i)
    rw [Option.map_some, Option.map_some, hi.idOf_eq, (hi.step hs).idOf_eq]

theorem hosts_of_owner (ho : s.owner? t = some a) (hh : ∀ i ∈ t.runs, ∃ id, s.Hosts id i) :
    ∀ i ∈ t.runs, s.Hosts a i := by
  intro i hi
  obtain ⟨b, hb⟩ := hh i hi
  cases hr : t.run? with
  | some j =>
    rw [Task.runs_of_run? hr] at hi
    cases List.mem_singleton.1 hi
    rw [owner?_of_run? hr, hb.idOf_eq] at ho
    rw [← Option.some.inj ho]
    exact hb
  | none =>
    -- only the kill switch is busy with runs of several scripts
    cases t with
    | sweep _ _ | clear _ _ _ | clearing _ _ _ => cases ho
    | apply _ _ | announce _ _ | free _ | freeing _ | launch _ | herald _ | spawn _ => cases hr
    | _ => cases hi

theorem Reachable.hosts_of_active (hs : s.Reachable) (ha : s.active? id = some i) :
    s.Hosts id i := by
  obtain ⟨r, hr, hid, _⟩ := hs.listed.active?_iff.1 ha
  exact ⟨r, hr, hid⟩

theorem Reachable.hosts_of_registry (hs : s.Reachable) (hi : i ∈ s.registry.map (·.2)) :
    ∃ id, s.Hosts id i := by
  obtain ⟨⟨id, i⟩, hin, rfl⟩ := List.mem_map.1 hi
  obtain ⟨r, hr, hid, _⟩ := (hs.listed.entry id i).1 hin
  exact ⟨id, r, hr, hid⟩

/-- a request that goes on keeps to its script, and to runs that there are -/
theorem RequestStep.onward (hs : s.Reachable) (h : RequestStep s n t reply s')
    (hstep : s.step? (.proceed n reply) = some s') (hh : ∀ i ∈ t.runs, ∃ id, s.Hosts id i)
    (ht' : s'.task? n = some t') :
    s'.owner? t' = s.owner? t ∧ ∀ i ∈ t'.runs, ∃ id, s'.Hosts id i := by
  have hsame (hr : t'.run? = t.run?) (hk : t'.script? = t.script?)
      (hsub : ∀ i ∈ t'.runs, i ∈ t.runs) :
      s'.owner? t' = s.owner? t ∧ ∀ i ∈ t'.runs, ∃ id, s'.Hosts id i := by
    refine ⟨?_, fun i hi => ?_⟩
    · rw [← owner?_step hstep hh, owner?, owner?, hr, hk]
    · obtain ⟨id, hi⟩ := hh i (hsub i hi)
      exact ⟨id, hi.step hstep⟩
  have hcome {i : RunId} {id : String} (ho : s.owner? t = some id) (hr : t'.run? = some i)
      (hi : s'.Hosts id i) :
      s'.owner? t' = s.owner? t ∧ ∀ i ∈ t'.runs, ∃ id, s'.Hosts id i := by
    refine ⟨by rw [owner?_of_run? hr, hi.idOf_eq, ho], fun j hj => ?_⟩
    rw [Task.runs_of_run? hr] at hj
    cases List.mem_singleton.1 hj
    exact ⟨id, hi⟩
  cases h with
  | found ha =>
    rw [task?_goOn] at ht'
    cases ht'
    exact hcome rfl rfl ((hs.hosts_of_active ha).step hstep)
  | cuts ha =>
    rw [task?_goOn] at ht'
    cases ht'
    exact hcome rfl rfl ((hs.hosts_of_active ha).step hstep)
  | surveys =>
    rw [task?_goOn] at ht'
    cases ht'
    refine ⟨rfl, fun i hi => ?_⟩
    obtain ⟨id, hi⟩ := hs.hosts_of_registry hi
    exact ⟨id, hi.step hstep⟩
  | enrolls =>
    rw [task?_goOn] at ht'
    cases ht'
    exact hcome rfl rfl ⟨_, List.getElem?_concat_length, rfl⟩
  | cleared =>
    rw [task?_goOn] at ht'
    cases ht'
    exact hsame rfl rfl fun _ hi => List.mem_cons_of_mem _ hi
  | shown | frees | engages | sweeps | clears | unknown | asks | allowed | vetted | provided
  | recalls | launches | heralds =>
    -- these stay with their run and their script
    rw [task?_goOn] at ht'
    cases ht'
    exact hsame rfl rfl fun _ hi => hi
  | _ => simp at ht'

theorem owner?_firstTask (q : Request) : s.owner? (firstTask q) = q.addressee? := by
  cases q with
  | control id c => cases c <;> rfl
  | _ => rfl

theorem runs_firstTask (q : Request) : (firstTask q).runs = [] := by
  cases q with
  | control id c => cases c <;> rfl
  | _ => rfl

theorem Stems.step (h : s.Stems qs) (hs : s.Reachable) (hm : s.step? m = some s') :
    s'.Stems (qs ++ m.request?.toList) := by
  have hcount : s'.nextTask = s.nextTask + m.opens := nextTask_opens hm
  have hold {n : Nat} {t : Task} (ht : s.task? n = some t) :
      s'.owner? t = ((qs ++ m.request?.toList)[n]?).bind Request.addressee? ∧
        ∀ i ∈ t.runs, ∃ id, s'.Hosts id i := by
    have hlt : n < qs.length := by
      rw [← h.count]
      exact hs.numbered.number _ (mem_of_task? ht)
    refine ⟨?_, fun i hi => ?_⟩
    · rw [List.getElem?_append_left hlt, ← h.owned n t ht, owner?_step hm (h.homed n t ht)]
    · obtain ⟨id, hi⟩ := h.homed n t ht i hi
      exact ⟨id, hi.step hm⟩
  have hnow {n : Nat} {t : Task} (ht : s'.task? n = some t) :
      s'.owner? t = ((qs ++ m.request?.toList)[n]?).bind Request.addressee? ∧
        ∀ i ∈ t.runs, ∃ id, s'.Hosts id i := by
    rcases task?_step hm ht with ⟨ht, _⟩ | ⟨q, rfl, rfl, rfl⟩ | ⟨t₀, reply, rfl, ht₀, hr⟩
    · exact hold ht
    · refine ⟨?_, ?_⟩
      · rw [owner?_firstTask, h.count]
        simp [Move.request?]
      · rw [runs_firstTask]
        exact List.forall_mem_nil _
    · obtain ⟨ho, hruns⟩ := RequestStep.onward hs hr hm (h.homed n t₀ ht₀) ht
      refine ⟨?_, hruns⟩
      rw [ho, ← owner?_step hm (h.homed n t₀ ht₀)]
      exact (hold ht₀).1
  refine ⟨?_, fun n t ht => (hnow ht).1, fun n t ht => (hnow ht).2⟩
  rw [hcount, h.count, List.length_append]
  cases m <;> rfl

/-- the requests that are made with a list of moves -/
def requests (ms : List Move) : List Request := ms.filterMap Move.request?

theorem stems_fresh (settings : Settings) (approvals : Approvals) :
    (fresh settings approvals).Stems [] :=
  ⟨rfl, fun _ _ h => (nomatch h), fun _ _ h => (nomatch h)⟩

theorem Stems.play (h : s.Stems qs) (hs : s.Reachable) (hp : s.play? ms = some s') :
    s'.Stems (qs ++ requests ms) := by
  induction ms generalizing s qs with
  | nil =>
    cases hp
    rw [requests, List.filterMap_nil, List.append_nil]
    exact h
  | cons m ms ih =>
    obtain ⟨s₁, h₁, h₂⟩ := exists_of_play?_cons hp
    have hrest := ih (h.step hs h₁) (hs.step h₁) h₂
    rw [List.append_assoc] at hrest
    cases m <;> exact hrest

theorem Reachable.stems (hs : s.Reachable) : ∃ qs, s.Stems qs := by
  obtain ⟨settings, approvals, ms, h⟩ := hs
  exact ⟨_, (stems_fresh settings approvals).play ⟨_, _, [], rfl⟩ h⟩

end

/-! ## what a move leaves alone -/

/-- what the script has at the moment `s` it has at the moment `s'`; `es` is what has been done
since, and none of it was done about the script -/
structure LeavesAlone (s s' : System) (id : String) (es : List Entry) : Prop where
  registered : s'.active? id = s.active? id
  /-- its runs: the session, what the script holds and where the worker stands -/
  runs : ∀ (i : RunId) (r : Run), r.session.script.id = id →
    (s'.runs[i]? = some r ↔ s.runs[i]? = some r)
  total : find? s'.totals id = find? s.totals id
  /-- the requests addressed to it -/
  requests : ∀ n t, s'.task? n = some t ∧ s'.owner? t = some id ↔
    s.task? n = some t ∧ s.owner? t = some id
  log : s'.log = es ++ s.log
  /-- no call of its devices, and no notice -/
  others : ∀ e ∈ es, ∀ i d, e.deed? = some (i, d) →
    (∃ a, a ≠ id ∧ s'.Hosts a i) ∧ ∀ x, d = .told x → x.script ≠ id
  killSwitch : s'.killSwitch = s.killSwitch
  handler : s'.handler = s.handler
  clock : s'.clock = s.clock
  settings : s'.settings = s.settings
  /-- the one thing that all scripts share and a run adds to -/
  approvals : ∀ c, s'.approvals.has c = true ↔
    s.approvals.has c = true ∨ ∃ i, Entry.worker i (.granted c) ∈ es

section
variable {s s₁ s' : System} {m : Move} {i : RunId} {id a : String} {r : Run} {n : Nat} {t t' : Task}
  {reply : CallerReply} {qs qs' : List Request} {ms : List Move} {es es' : List Entry}

theorem LeavesAlone.refl (s : System) (id : String) : s.LeavesAlone s id [] where
  registered := rfl
  runs := fun _ _ _ => .rfl
  total := rfl
  requests := fun _ _ => .rfl
  log := rfl
  others := List.forall_mem_nil _
  killSwitch := rfl
  handler := rfl
  clock := rfl
  settings := rfl
  approvals := fun c => by simp

theorem LeavesAlone.trans (h : s.LeavesAlone s₁ id es) (h' : s₁.LeavesAlone s' id es')
    (hp : s₁.play? ms = some s') : s.LeavesAlone s' id (es' ++ es) where
  registered := h'.registered.trans h.registered
  runs := fun i r hr => (h'.runs i r hr).trans (h.runs i r hr)
  total := h'.total.trans h.total
  requests := fun n t => (h'.requests n t).trans (h.requests n t)
  log := by rw [h'.log, h.log, List.append_assoc]
  others := fun e he i d hd => by
    rcases List.mem_append.1 he with he | he
    · exact h'.others e he i d hd
    · obtain ⟨⟨a, ha, hi⟩, htold⟩ := h.others e he i d hd
      exact ⟨⟨a, ha, hi.play hp⟩, htold⟩
  killSwitch := h'.killSwitch.trans h.killSwitch
  handler := h'.handler.trans h.handler
  clock := h'.clock.trans h.clock
  settings := h'.settings.trans h.settings
  approvals := fun c => by
    rw [h'.approvals, h.approvals, or_assoc, ← exists_or]
    simp only [List.mem_append, or_comm]

theorem find?_drop (table : List (String × α)) (hne : a ≠ id) :
    find? (drop table a) id = find? table id := by
  unfold find? drop
  rw [List.find?_filter]
  congr 2
  funext e
  by_cases he : e.1 = id
  · simp [he, Ne.symm hne]
  · simp [he]

theorem runs_of_modify {f : Run → Run} (hi : s.Hosts a i) (hne : a ≠ id)
    (hf : ∀ r, s.runs[i]? = some r → (f r).session.script = r.session.script) {j : RunId}
    (hr : r.session.script.id = id) :
    (s.runs.modify i f)[j]? = some r ↔ s.runs[j]? = some r := by
  obtain ⟨r₀, hr₀, rfl⟩ := hi
  by_cases hj : i = j
  · subst hj
    rw [List.getElem?_modify_eq, hr₀]
    refine iff_of_false (fun he => ?_) fun he => ?_
    · rw [← hr, ← Option.some.inj he, hf r₀ hr₀] at hne
      exact hne rfl
    · rw [← hr, ← Option.some.inj he] at hne
      exact hne rfl
  · rw [List.getElem?_modify_ne _ _ hj]

/-- **A step of a request touches no run but those it is busy with.** -/
theorem RunsChange.others {runs : List Run} (h : RunsChange s t reply runs) (hs : s.Reachable)
    (ho : s.owner? t = some a) (hne : a ≠ id) (hh : ∀ i ∈ t.runs, ∃ id, s.Hosts id i) {j : RunId}
    (hr : r.session.script.id = id) : runs[j]? = some r ↔ s.runs[j]? = some r := by
  have hown := hosts_of_owner ho hh
  have hself (i : RunId) : i ∈ [i] := List.mem_singleton_self i
  have hcommand {i : RunId} {c : Command} {r₀ : Run} (hr₀ : s.runs[i]? = some r₀) :
      ∀ r, s.runs[i]? = some r → (r₀.session.control c).2.script = r.session.script := by
    intro r hr
    cases hr₀.symm.trans hr
    exact Session.control_script _ _
  cases h with
  | still => exact .rfl
  | applied hr₀ => exact runs_of_modify (hown _ (hself _)) hne (hcommand hr₀) hr
  | cut ha hr₀ =>
    cases ho
    exact runs_of_modify (hs.hosts_of_active ha) hne (hcommand hr₀) hr
  | swept => cases ho
  | enrolled =>
    cases ho
    rcases Nat.lt_trichotomy j s.runs.length with hlt | rfl | hlt
    · rw [List.getElem?_append_left hlt]
    · rw [List.getElem?_concat_length, List.getElem?_eq_none (Nat.le_refl _)]
      refine iff_of_false (fun he => ?_) nofun
      rw [← hr, ← Option.some.inj he] at hne
      exact hne rfl
    · rw [List.getElem?_eq_none (Nat.le_of_lt hlt), List.getElem?_eq_none]
      rw [List.length_append]
      exact hlt
  | launched =>
    exact runs_of_modify (hown _ (hself _)) hne (fun _ _ => Session.settle_script _ _) hr
  | @spawned run =>
    exact runs_of_modify (f := fun r => { r with place := .creating }) (hown _ (hself _)) hne
      (fun _ _ => rfl) hr

/-- a request for a script speaks of the run it is busy with, and under the name of its script -/
theorem RequestStep.says (h : RequestStep s n t reply s') :
    ∃ ds : List CallerDeed, s'.log = ds.map (Entry.caller n) ++ s.log ∧
      ∀ i d, CallerDeed.run i d ∈ ds → i ∈ t.runs ∧ ∀ x, d = .told x → x.script = s.idOf i := by
  -- one thing about a run, and perhaps the answer after it
  have hone (a : Option Answer) {j : RunId} (e : Deed) (hj : j ∈ t.runs)
      (he : ∀ x, e = .told x → x.script = s.idOf j)
      (hlog : s'.log =
        ((a.map CallerDeed.closed).toList ++ [CallerDeed.run j e]).map (Entry.caller n) ++ s.log) :
      ∃ ds : List CallerDeed, s'.log = ds.map (Entry.caller n) ++ s.log ∧
        ∀ i d, CallerDeed.run i d ∈ ds →
          i ∈ t.runs ∧ ∀ x, d = .told x → x.script = s.idOf i := by
    refine ⟨_, hlog, fun i d hd => ?_⟩
    obtain ⟨rfl, rfl⟩ : i = j ∧ d = e := by cases a <;> simpa using hd
    exact ⟨hj, he⟩
  have htold (j : RunId) (b : RunState) :
      ∀ x, Deed.told (.state (s.idOf j) b) = .told x → x.script = s.idOf j := by
    intro x hx
    cases hx
    rfl
  have hself (j : RunId) : j ∈ [j] := List.mem_singleton_self j
  cases h with
  | announced => exact hone (some _) _ (hself _) (htold _ _) rfl
  | heralds => exact hone none _ (hself _) (htold _ _) rfl
  | frees => exact hone none (.began .releaseAll) (hself _) nofun rfl
  | @freed _ x => exact hone (some _) (.ended .releaseAll x) (hself _) nofun rfl
  | freeBroke => exact hone none (.ended .releaseAll .brokeDown) (hself _) nofun rfl
  | clears => exact hone none (.began .releaseAll) List.mem_cons_self nofun rfl
  | @cleared _ _ _ x => exact hone none (.ended .releaseAll x) List.mem_cons_self nofun rfl
  | clearBroke =>
    exact hone (some _) (.ended .releaseAll .brokeDown) List.mem_cons_self nofun rfl
  -- the others are busy with no run, or do nothing about it
  | found | shown | cuts | engages | surveys | sweeps | unknown | vetted | provided | recalls
  | enrolls | launches =>
    exact ⟨[], rfl, fun _ _ hd => nomatch hd⟩
  | denied => exact ⟨[_, _], rfl, fun _ _ hd => by simp at hd⟩
  | _ => exact ⟨[_], rfl, fun _ _ hd => by simp at hd⟩

theorem RequestStep.shares (h : RequestStep s n t reply s') (ho : s.owner? t = some a) :
    s'.killSwitch = s.killSwitch ∧ s'.handler = s.handler ∧ s'.approvals = s.approvals ∧
      s'.clock = s.clock := by
  cases h with
  | engages => cases ho
  | disengages => cases ho
  | approves => cases ho
  | grants => cases ho
  | installs => cases ho
  | _ => exact ⟨rfl, rfl, rfl, rfl⟩

/-- the requests of a script are left alone where the one that has changed is made for another -/
theorem requests_aside (hs : s.step? m = some s') (hst : s.Stems qs)
    (h : ∀ k, s'.task? k = s.task? k ∨ (∀ t, s.task? k = some t → s.owner? t ≠ some id) ∧
      ∀ t, s'.task? k = some t → s'.owner? t ≠ some id) (n : Nat) (t : Task) :
    s'.task? n = some t ∧ s'.owner? t = some id ↔ s.task? n = some t ∧ s.owner? t = some id := by
  rcases h n with hn | ⟨hold, hnew⟩
  · rw [hn]
    refine and_congr_right fun ht => ?_
    rw [owner?_step hs (hst.homed n t ht)]
  · exact iff_of_false (fun h => hnew t h.1 h.2) fun h => hold t h.1 h.2

/-- **A step of a request leaves every script alone but its own.** -/
theorem leavesAlone_of_proceed (hs : s.Reachable) (h : s.step? (.proceed n reply) = some s')
    (ho : s.addressee? (.proceed n reply) = some a) (hne : a ≠ id) :
    ∃ es, s.LeavesAlone s' id es := by
  obtain ⟨qs, hst⟩ := hs.stems
  obtain ⟨t, ht, hr⟩ := requestStep h
  obtain ⟨ds, hlog, hsays⟩ := RequestStep.says hr
  have hown : s.owner? t = some a := by
    rw [addressee?, ht] at ho
    exact ho
  have hhomed := hst.homed n t ht
  obtain ⟨hkill, hhandler, happ, hclock⟩ := RequestStep.shares hr hown
  refine ⟨ds.map (Entry.caller n), ?registered, ?runs, ?total, ?requests, hlog, ?others, hkill,
    hhandler, hclock, step?_settings h, ?approvals⟩
  case registered =>
    rcases hr.registry_eq with ⟨hreg, _⟩ | ⟨script, _, _, rfl, _, hreg, _⟩
    · rw [active?, active?, hreg]
    · have hid : script.id ≠ id := by
        cases hown
        exact hne
      rw [active?, active?, find?, find?, hreg, List.find?_cons_of_neg (by simpa using hid)]
  case runs =>
    intro i r hid
    obtain ⟨t', ht', _, htask⟩ := proceed?_eq_some h
    cases ht.symm.trans ht'
    exact RunsChange.others (callerStep htask).runs hs hown hne hhomed hid
  case total => rw [hr.totals_eq]
  case requests =>
    refine requests_aside h hst fun k => ?_
    by_cases hk : k = n
    · subst hk
      refine Or.inr ⟨fun t₁ ht₁ => ?_, fun t₁ ht₁ => ?_⟩
      · cases ht.symm.trans ht₁
        rw [hown]
        exact fun he => hne (Option.some.inj he)
      · rw [(RequestStep.onward hs hr h hhomed ht₁).1, hown]
        exact fun he => hne (Option.some.inj he)
    · left
      obtain ⟨_, _, ⟨t', htasks, _⟩ | htasks⟩ := hr.course
      · rw [task?_of_goOn htasks, if_neg hk]
      · rw [task?_of_quit htasks, if_neg hk]
  case others =>
    intro e he i d hd
    obtain ⟨x, hx, rfl⟩ := List.mem_map.1 he
    obtain rfl : x = .run i d := by cases x <;> cases hd; rfl
    obtain ⟨hi, htold⟩ := hsays i d hx
    have hb := hosts_of_owner hown hhomed i hi
    refine ⟨⟨a, hne, hb.step h⟩, fun x hx => ?_⟩
    rw [htold x hx, hb.idOf_eq]
    exact hne
  case approvals =>
    intro c
    rw [happ]
    simp

/-- **A step of a worker leaves every script alone but its own.** -/
theorem leavesAlone_of_work {reply : Reply} (hs : s.Reachable)
    (h : s.step? (.work i reply) = some s') (hne : s.idOf i ≠ id) :
    ∃ es, s.LeavesAlone s' id es := by
  obtain ⟨qs, hst⟩ := hs.stems
  obtain ⟨r, r', ds, hr, ha, hs'⟩ := work?_eq_foldl h
  have hid : r.session.script.id ≠ id := by
    rw [← idOf_of_run hr]
    exact hne
  have hhost : s'.Hosts r.session.script.id i := (hosts_of_run hr).step h
  have hruns : s'.runs = s.runs.set i r' := by rw [hs', foldl_record_runs]
  have htasks : s'.tasks = s.tasks := by rw [hs', foldl_record_tasks]
  have hlog : s'.log = (ds.map (Entry.worker i)).reverse ++ s.log := by rw [hs', foldl_record_log]
  obtain ⟨hkill, hhandler, hclock⟩ := foldl_record_shared i r.session.script.id ds
    { s with runs := s.runs.set i r' }
  rw [← hs'] at hkill hhandler hclock
  refine ⟨(ds.map (Entry.worker i)).reverse, ?registered, ?runs, ?total, ?requests, hlog, ?others,
    hkill, hhandler, hclock, step?_settings h, ?approvals⟩
  case registered =>
    rw [active?, hs', foldl_record_registry]
    split
    · exact find?_drop s.registry hid
    · rfl
  case runs =>
    intro j r₁ hr₁
    by_cases hj : i = j
    · subst hj
      obtain ⟨r₂, hr₂, hid₂⟩ := hhost
      refine iff_of_false (fun he => hid ?_) fun he => hid ?_
      · cases he.symm.trans hr₂
        exact hid₂.symm.trans hr₁
      · cases he.symm.trans hr
        exact hr₁
    · rw [hruns, List.getElem?_set_ne hj]
  case total =>
    rcases totals_step h with ht | ⟨j, _, r₁, x, hm, hr₁, _, ht, _⟩
    · rw [ht]
    · cases hm
      cases hr.symm.trans hr₁
      rw [ht, find?_put, if_neg hid]
  case requests => exact requests_aside h hst fun k => Or.inl (by rw [task?, task?, htasks])
  case others =>
    intro e he j d hd
    obtain ⟨d', hin, rfl⟩ := List.mem_map.1 (List.mem_reverse.1 he)
    cases hd
    refine ⟨⟨_, hid, hhost⟩, fun x hx => ?_⟩
    subst hx
    have hnames := (hs.accounts hr).names
    rw [WorkerStep.names_script (.of_advance ha) (fun y hy => (hnames y hy).1) hin]
    exact hid
  case approvals =>
    intro c
    rw [hs', has_foldl_record]
    simp

/-- a request changes nothing before its first step -/
theorem leavesAlone_of_request {q : Request} (hs : s.Reachable) (ha : q.addressee? ≠ some id) :
    s.LeavesAlone (s.ask q) id [] := by
  obtain ⟨qs, hst⟩ := hs.stems
  have h : s.step? (.request q) = some (s.ask q) := rfl
  have hself := LeavesAlone.refl s id
  refine ⟨rfl, hself.runs, rfl, requests_aside h hst fun k => ?_, rfl, hself.others, rfl, rfl, rfl,
    rfl, hself.approvals⟩
  by_cases hk : k = s.nextTask
  · subst hk
    refine Or.inr ⟨fun t ht => ?_, fun t ht => ?_⟩
    · exact absurd (hs.numbered.number _ (mem_of_task? ht)) (Nat.lt_irrefl _)
    · have hnew : t = firstTask q := by simpa [task?, ask] using ht.symm
      rw [hnew, owner?_firstTask]
      exact ha
  · left
    simp [task?, ask, Ne.symm hk]

/-- **A move that is addressed to another script leaves a script alone.** -/
theorem leavesAlone_of_step (hs : s.Reachable) (h : s.step? m = some s')
    (ho : s.addressee? m = some a) (hne : a ≠ id) : ∃ es, s.LeavesAlone s' id es := by
  cases m with
  | work i reply =>
    cases ho
    exact leavesAlone_of_work hs h hne
  | proceed n reply => exact leavesAlone_of_proceed hs h ho hne
  | request q =>
    cases h
    refine ⟨[], leavesAlone_of_request hs fun hq => hne ?_⟩
    exact Option.some.inj (ho.symm.trans hq)
  | elapse d => cases ho

/-- the move is addressed to the script, or to the process -/
def Concerns (id : String) (s : System) (m : Move) : Prop :=
  s.addressee? m = none ∨ s.addressee? m = some id

instance (id : String) (s : System) (m : Move) : Decidable (Concerns id s m) :=
  inferInstanceAs (Decidable (s.addressee? m = none ∨ s.addressee? m = some id))

/-- **Moves that are addressed to other scripts leave a script alone.** -/
theorem leavesAlone_of_play (hs : s.Reachable) (h : s.play? ms = some s')
    (hc : s.Without (Concerns id) ms) : ∃ es, s.LeavesAlone s' id es := by
  induction ms generalizing s with
  | nil =>
    cases h
    exact ⟨[], .refl _ id⟩
  | cons m ms ih =>
    obtain ⟨s₁, h₁, h₂⟩ := exists_of_play?_cons h
    obtain ⟨hnone, hown⟩ := not_or.1 hc.1
    obtain ⟨a, ha⟩ := Option.ne_none_iff_exists'.1 hnone
    have hne : a ≠ id := by
      rintro rfl
      exact hown ha
    obtain ⟨es, hfirst⟩ := leavesAlone_of_step hs h₁ ha hne
    obtain ⟨es', hrest⟩ := ih (hs.step h₁) h₂ (hc.2 s₁ h₁)
    exact ⟨es' ++ es, hfirst.trans hrest h₂⟩

end

end System

end ScriptGuard
