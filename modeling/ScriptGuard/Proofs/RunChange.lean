import ScriptGuard.Proofs.RequestStep
import ScriptGuard.Proofs.WorkerStep

/-!
# What a move does to one run

Whatever happens in the service, one run is touched in few ways.

* `RunChange s m i r r' ds`   the move `m` of the system `s` turns the run `r` of number `i` into
                              `r'`, and its worker does `ds` (in the order of doing);
* `System.runChange`          every move does one of these to every run there is;
* `System.newRun`             a run that was not there is new, or still is not there;
* `System.taskChange`         how the requests that start a run go on.
-/

namespace ScriptGuard

def Task.starts? : Task → Option RunId
  | .launch run | .herald run | .spawn run => some run
  | _ => none

def Task.commands : Task → Bool
  | .apply _ _ | .cut _ => true
  | _ => false

/-- what a move does to the run of a number -/
inductive RunChange (s : System) (m : Move) (i : RunId) (r : Run) : Run → List Deed → Prop
  | still (hm : ∀ c, s.puts? m ≠ some (i, c)) : RunChange s m i r r []
  | worked {reply : Reply} {r' : Run} {ds : List Deed} (hm : m = .work i reply)
      (h : WorkerStep s.view r reply r' ds) : RunChange s m i r r' ds
  | commanded {c : Command} (hm : s.puts? m = some (i, c)) :
      RunChange s m i r { r with session := (r.session.control c).2 } []
  /-- an activation of the kill switch comes to the run -/
  | swept {reason : String} (hm : s.puts? m = none) :
      RunChange s m i r { r with session := r.session.request (.killSwitch reason) } []
  | launched {task : Nat} {reply : CallerReply} (hm : s.puts? m = none)
      (hp : m = .proceed task reply) (ht : (task, Task.launch i) ∈ s.tasks) :
      RunChange s m i r { r with session := r.session.settle .running } []
  | spawned {task : Nat} {reply : CallerReply} (hm : s.puts? m = none)
      (hp : m = .proceed task reply) (ht : (task, Task.spawn i) ∈ s.tasks) :
      RunChange s m i r { r with place := .creating } []

theorem modify_eq_set {α : Type} {xs : List α} {i : Nat} {x : α} (hx : xs[i]? = some x)
    (f : α → α) : xs.modify i f = xs.set i (f x) := by
  refine List.ext_getElem? fun k => ?_
  have hlt : i < xs.length := (List.getElem?_eq_some_iff.1 hx).1
  by_cases hk : i = k
  · subst hk
    rw [List.getElem?_modify_eq, hx, List.getElem?_set_self hlt]
    rfl
  · rw [List.getElem?_modify_ne _ _ hk, List.getElem?_set_ne hk]

namespace System

/-! ## records of deeds -/

section
variable (s : System) (run : RunId) (id : String) (d : Deed)

@[simp] theorem absorb_runs : (s.absorb id d).runs = s.runs := by cases d <;> rfl
@[simp] theorem absorb_tasks : (s.absorb id d).tasks = s.tasks := by cases d <;> rfl
@[simp] theorem absorb_log : (s.absorb id d).log = s.log := by cases d <;> rfl
@[simp] theorem absorb_nextTask : (s.absorb id d).nextTask = s.nextTask := by cases d <;> rfl
@[simp] theorem absorb_settings : (s.absorb id d).settings = s.settings := by cases d <;> rfl

@[simp] theorem record_runs : (s.record run id d).runs = s.runs := by simp [record]
@[simp] theorem record_tasks : (s.record run id d).tasks = s.tasks := by simp [record]
@[simp] theorem record_nextTask : (s.record run id d).nextTask = s.nextTask := by
  simp [record]
@[simp] theorem record_settings : (s.record run id d).settings = s.settings := by simp [record]
theorem record_log : (s.record run id d).log = .worker run d :: s.log := by simp [record]

end

section
variable (run : RunId) (id : String) (ds : List Deed)

theorem foldl_record_runs (s : System) :
    (ds.foldl (fun s d => s.record run id d) s).runs = s.runs := by
  induction ds generalizing s with
  | nil => rfl
  | cons d ds ih => rw [List.foldl_cons, ih, record_runs]

theorem foldl_record_tasks (s : System) :
    (ds.foldl (fun s d => s.record run id d) s).tasks = s.tasks := by
  induction ds generalizing s with
  | nil => rfl
  | cons d ds ih => rw [List.foldl_cons, ih, record_tasks]

theorem foldl_record_nextTask (s : System) :
    (ds.foldl (fun s d => s.record run id d) s).nextTask = s.nextTask := by
  induction ds generalizing s with
  | nil => rfl
  | cons d ds ih => rw [List.foldl_cons, ih, record_nextTask]

theorem foldl_record_settings (s : System) :
    (ds.foldl (fun s d => s.record run id d) s).settings = s.settings := by
  induction ds generalizing s with
  | nil => rfl
  | cons d ds ih => rw [List.foldl_cons, ih, record_settings]

theorem foldl_record_log (s : System) :
    (ds.foldl (fun s d => s.record run id d) s).log
      = (ds.map (Entry.worker run)).reverse ++ s.log := by
  induction ds generalizing s with
  | nil => rfl
  | cons d ds ih => rw [List.foldl_cons, ih, record_log]; simp

theorem foldl_record_shared (s : System) :
    let s' := ds.foldl (fun s d => s.record run id d) s
    s'.killSwitch = s.killSwitch ∧ s'.handler = s.handler ∧ s'.clock = s.clock := by
  induction ds generalizing s with
  | nil => exact ⟨rfl, rfl, rfl⟩
  | cons d ds ih =>
    obtain ⟨hkill, hhandler, hclock⟩ := ih (s.record run id d)
    refine ⟨hkill.trans ?_, hhandler.trans ?_, hclock.trans ?_⟩ <;> cases d <;> rfl

end

/-! ## steps of workers -/

theorem deedsOf_map (run i : RunId) (ds : List Deed) :
    (ds.map (Entry.worker run)).filterMap (Entry.deedOf i) = if run = i then ds else [] := by
  induction ds with
  | nil => simp
  | cons d ds ih =>
    rw [List.map_cons, List.filterMap_cons]
    by_cases h : run = i
    · simp [Entry.deedOf, h] at ih ⊢
      exact ih
    · simp [Entry.deedOf, h] at ih ⊢

theorem work?_eq_foldl {s s' : System} {run : RunId} {reply : Reply}
    (h : s.work? run reply = some s') :
    ∃ r r' ds, s.runs[run]? = some r ∧ r.advance s.view reply = some (r', ds) ∧
      s' = ds.foldl (fun s d => s.record run r.session.script.id d)
        { s with runs := s.runs.set run r' } := by
  unfold work? at h
  cases hr : s.runs[run]? with
  | none => simp [hr] at h
  | some r =>
    simp only [hr] at h
    cases ha : r.advance s.view reply with
    | none => simp [ha] at h
    | some st =>
      obtain ⟨r', ds⟩ := st
      simp only [ha] at h
      cases h
      exact ⟨r, r', ds, rfl, ha, rfl⟩

theorem work?_eq_some {s s' : System} {run : RunId} {reply : Reply}
    (h : s.work? run reply = some s') :
    ∃ r r' ds, s.runs[run]? = some r ∧ r.advance s.view reply = some (r', ds) ∧
      s'.runs = s.runs.set run r' ∧ s'.tasks = s.tasks ∧ s'.settings = s.settings ∧
      s'.log = (ds.map (Entry.worker run)).reverse ++ s.log := by
  obtain ⟨r, r', ds, hr, ha, rfl⟩ := work?_eq_foldl h
  exact ⟨r, r', ds, hr, ha, foldl_record_runs .., foldl_record_tasks ..,
    foldl_record_settings .., foldl_record_log ..⟩

theorem deeds_of_work {s s' : System} {run i : RunId} {ds : List Deed}
    (h : s'.log = (ds.map (Entry.worker run)).reverse ++ s.log) :
    s'.deeds i = (if run = i then ds.reverse else []) ++ s.deeds i := by
  unfold deeds
  rw [h, List.filterMap_append, ← List.map_reverse, deedsOf_map]

theorem step?_work {s : System} {run : RunId} {r r' : Run} {reply : Reply} {ds : List Deed}
    (hr : s.runs[run]? = some r) (ha : r.advance s.view reply = some (r', ds)) :
    ∃ s', s.step? (.work run reply) = some s' ∧ s'.runs[run]? = some r' ∧
      s'.deeds run = ds.reverse ++ s.deeds run := by
  have hlt : run < s.runs.length := (List.getElem?_eq_some_iff.1 hr).1
  refine ⟨ds.foldl (fun s d => s.record run r.session.script.id d)
    { s with runs := s.runs.set run r' }, ?_, ?_, ?_⟩
  · simp [step?, work?, hr, ha]
  · rw [foldl_record_runs]
    simp [hlt]
  · have h := deeds_of_work (i := run) (foldl_record_log run r.session.script.id ds
      { s with runs := s.runs.set run r' })
    rw [h, if_pos rfl]
    rfl

/-! ## steps of requests -/

/-- what a step of a request does to the list of runs -/
inductive RunsChange (s : System) : Task → CallerReply → List Run → Prop
  | still {t : Task} {reply : CallerReply} (ht : ∀ run c, t ≠ .apply run c)
      (hc : ∀ id, t = .cut id → s.active? id = none) : RunsChange s t reply s.runs
  | applied {run : RunId} {c : Command} {r : Run} (hr : s.runs[run]? = some r) :
      RunsChange s (.apply run c) .go
        (s.runs.modify run fun x => { x with session := (r.session.control c).2 })
  | cut {id : String} {run : RunId} {r : Run} (ha : s.active? id = some run)
      (hr : s.runs[run]? = some r) :
      RunsChange s (.cut id) .go
        (s.runs.modify run fun x => { x with session := (r.session.control .terminate).2 })
  | swept {reason : String} {run : RunId} {runs : List RunId} {reply : CallerReply} :
      RunsChange s (.sweep reason (run :: runs)) reply
        (s.runs.modify run fun r => { r with session := r.session.request (.killSwitch reason) })
  | enrolled {script : Script} {options : Options} {total : Option Nat} {reply : CallerReply} :
      RunsChange s (.enroll script options total) reply
        (s.runs ++ [s.enrolled script options total])
  | launched {run : RunId} {reply : CallerReply} :
      RunsChange s (.launch run) reply
        (s.runs.modify run fun r => { r with session := r.session.settle .running })
  | spawned {run : RunId} {reply : CallerReply} :
      RunsChange s (.spawn run) reply (s.runs.modify run fun r => { r with place := .creating })

/-- how the entry of a request goes on; only the stages of a start are told apart -/
inductive Succeeds (s : System) (runs : List Run) : Task → Task → Prop
  | other {t t' : Task} (h : t'.starts? = none := by rfl) : Succeeds s runs t t'
  | enrolled {t : Task} {script : Script} {options : Options} {total : Option Nat}
      (h : runs = s.runs ++ [s.enrolled script options total]) :
      Succeeds s runs t (.launch s.runs.length)
  | launched {run : RunId}
      (h : runs = s.runs.modify run fun r => { r with session := r.session.settle .running }) :
      Succeeds s runs (.launch run) (.herald run)
  | heralded {run : RunId} : Succeeds s runs (.herald run) (.spawn run)

/-- what a step of a request does to the requests under way -/
def TasksChange (s : System) (task : Nat) (t : Task) (s' : System) : Prop :=
  s'.tasks = s.tasks.filter (fun e => e.1 ≠ task) ∨
  ∃ t', Succeeds s s'.runs t t' ∧ s'.tasks = (task, t') :: s.tasks.filter fun e => e.1 ≠ task

/-- what a step of a request leaves behind, apart from the registry and the log of callers -/
structure CallerStep (s : System) (task : Nat) (t : Task) (reply : CallerReply) (s' : System) :
    Prop where
  runs : RunsChange s t reply s'.runs
  tasks : TasksChange s task t s'
  deeds : ∀ i, s'.deeds i = s.deeds i
  settings : s'.settings = s.settings

section
variable {s s₁ s' : System} {task : Nat} {t : Task} {reply : CallerReply}

theorem CallerStep.closes (a : Answer) (hr : RunsChange s t reply s₁.runs)
    (ht : s₁.tasks = s.tasks) (hd : ∀ i, s₁.deeds i = s.deeds i) (hs : s₁.settings = s.settings) :
    CallerStep s task t reply (s₁.close task a) :=
  ⟨hr, Or.inl (by rw [close_tasks, ht]), hd, hs⟩

theorem CallerStep.goesOn {t' : Task} (hr : RunsChange s t reply s₁.runs)
    (hn : Succeeds s s₁.runs t t') (ht : s₁.tasks = s.tasks) (hd : ∀ i, s₁.deeds i = s.deeds i)
    (hs : s₁.settings = s.settings) : CallerStep s task t reply (s₁.goOn task t') :=
  ⟨hr, Or.inr ⟨t', hn, by rw [goOn_tasks, ht]⟩, hd, hs⟩

theorem RunsChange.of_not_commands (ht : t.commands = false) : RunsChange s t reply s.runs := by
  refine .still ?_ ?_
  · rintro run c rfl
    cases ht
  · rintro id rfl
    cases ht

/-- a request that puts no command and leaves the runs alone is closed -/
theorem CallerStep.ends (a : Answer) (ht : t.commands = false) (hr : s₁.runs = s.runs)
    (hk : s₁.tasks = s.tasks) (hd : ∀ i, s₁.deeds i = s.deeds i)
    (hs : s₁.settings = s.settings) : CallerStep s task t reply (s₁.close task a) :=
  .closes a (by rw [hr]; exact .of_not_commands ht) hk hd hs

/-- a request that puts no command and leaves the runs alone ends without an answer -/
theorem CallerStep.quits (ht : t.commands = false) (hr : s₁.runs = s.runs)
    (hk : s₁.tasks = s.tasks) (hd : ∀ i, s₁.deeds i = s.deeds i)
    (hs : s₁.settings = s.settings) : CallerStep s task t reply (s₁.quit task) := by
  refine ⟨?_, Or.inl (by rw [quit_tasks, hk]), hd, hs⟩
  show RunsChange s t reply s₁.runs
  rw [hr]
  exact .of_not_commands ht

/-- a request that puts no command and leaves the runs alone goes on -/
theorem CallerStep.moves {t' : Task} (ht : t.commands = false) (hn : Succeeds s s₁.runs t t')
    (hr : s₁.runs = s.runs) (hk : s₁.tasks = s.tasks) (hd : ∀ i, s₁.deeds i = s.deeds i)
    (hs : s₁.settings = s.settings) : CallerStep s task t reply (s₁.goOn task t') :=
  .goesOn (by rw [hr]; exact .of_not_commands ht) hn hk hd hs

/-- **Every step of a request is of this form.** -/
theorem callerStep (h : s.taskStep? task t reply = some s') : CallerStep s task t reply s' := by
  cases RequestStep.of_taskStep h with
  | ignored hr => exact .closes _ (.applied hr) rfl (fun _ => rfl) rfl
  | refused hr => exact .closes _ (.applied hr) rfl (fun _ => rfl) rfl
  | applied hr => exact .closes _ (.applied hr) rfl (fun _ => rfl) rfl
  | shown hr => exact .goesOn (.applied hr) .other rfl (fun _ => rfl) rfl
  | cutMissing ha =>
    exact .closes _ (.still (by simp) fun _ h => by cases h; exact ha) rfl (fun _ => rfl) rfl
  | cutRefused ha hr => exact .closes _ (.cut ha hr) rfl (fun _ => rfl) rfl
  | cuts ha hr => exact .goesOn (.cut ha hr) .other rfl (fun _ => rfl) rfl
  | freeBroke => exact .quits rfl rfl rfl (fun _ => rfl) rfl
  | sweeps => exact .goesOn .swept .other rfl (fun _ => rfl) rfl
  | enrolls => exact .goesOn .enrolled (.enrolled rfl) rfl (fun _ => rfl) rfl
  | launches => exact .goesOn .launched (.launched rfl) rfl (fun _ => rfl) rfl
  | heralds => exact .moves rfl .heralded rfl rfl (fun _ => rfl) rfl
  | spawns => exact .closes _ .spawned rfl (fun _ => rfl) rfl
  -- the others put no command and leave the runs alone
  | found | frees | engages | surveys | clears | cleared | unknown | asks | allowed | vetted | provided
  | recalls =>
    exact .moves rfl .other rfl rfl (fun _ => rfl) rfl
  | _ => exact .ends _ rfl rfl rfl (fun _ => rfl) rfl

end

/-! ## every move -/

section
variable {s s' : System} {m : Move} {i : RunId} {task : Nat} {reply : CallerReply}

theorem runChange_of_runsChange {t : Task} {r : Run} (ht : s.task? task = some t)
    (hm : (task, t) ∈ s.tasks) (hr : s.runs[i]? = some r)
    (h : RunsChange s t reply s'.runs) :
    ∃ r', s'.runs[i]? = some r' ∧ RunChange s (.proceed task reply) i r r' [] := by
  generalize hs : s'.runs = runs at h
  cases h with
  | still hn hc =>
    refine ⟨r, hr, .still fun c => ?_⟩
    cases reply <;> simp only [puts?, ht, ne_eq] <;> try simp
    cases t with
    | apply run c' => exact absurd rfl (hn run c')
    | cut id => simp [hc id rfl]
    | _ => simp
  | @applied run c r₁ hr₁ =>
    by_cases hi : run = i
    · subst hi
      rw [hr] at hr₁
      cases hr₁
      exact ⟨{ r with session := (r.session.control c).2 }, by simp [hr],
        .commanded (by simp [puts?, ht])⟩
    · exact ⟨r, by simp [hi, hr], .still (by simp [puts?, ht, hi])⟩
  | @cut id run r₁ ha hr₁ =>
    by_cases hi : run = i
    · subst hi
      rw [hr] at hr₁
      cases hr₁
      exact ⟨{ r with session := (r.session.control .terminate).2 }, by simp [hr],
        .commanded (by simp [puts?, ht, ha])⟩
    · exact ⟨r, by simp [hi, hr], .still (by simp [puts?, ht, ha, hi])⟩
  | @swept reason run runs =>
    have hp : s.puts? (.proceed task reply) = none := by cases reply <;> simp [puts?, ht]
    by_cases hi : run = i
    · subst hi
      exact ⟨{ r with session := r.session.request (.killSwitch reason) }, by simp [hr], .swept hp⟩
    · exact ⟨r, by simp [hi, hr], .still (by simp [hp])⟩
  | enrolled =>
    have hp : s.puts? (.proceed task reply) = none := by cases reply <;> simp [puts?, ht]
    have hlt : i < s.runs.length := (List.getElem?_eq_some_iff.1 hr).1
    exact ⟨r, by rw [List.getElem?_append_left hlt, hr], .still (by simp [hp])⟩
  | @launched run =>
    have hp : s.puts? (.proceed task reply) = none := by cases reply <;> simp [puts?, ht]
    by_cases hi : run = i
    · subst hi
      exact ⟨_, by simp [hr], .launched hp rfl hm⟩
    · exact ⟨r, by simp [hi, hr], .still (by simp [hp])⟩
  | @spawned run =>
    have hp : s.puts? (.proceed task reply) = none := by cases reply <;> simp [puts?, ht]
    by_cases hi : run = i
    · subst hi
      exact ⟨_, by simp [hr], .spawned hp rfl hm⟩
    · exact ⟨r, by simp [hi, hr], .still (by simp [hp])⟩

theorem workStep {r : Run} {reply : Reply} (h : s.step? (.work i reply) = some s')
    (hr : s.runs[i]? = some r) :
    ∃ r' ds, s'.runs[i]? = some r' ∧ s'.deeds i = ds.reverse ++ s.deeds i ∧
      WorkerStep s.view r reply r' ds := by
  obtain ⟨r₁, r', ds, hr₁, ha, hruns, _, _, hlog⟩ := work?_eq_some h
  rw [hr] at hr₁
  cases hr₁
  have hlt : i < s.runs.length := (List.getElem?_eq_some_iff.1 hr).1
  refine ⟨r', ds, ?_, ?_, .of_advance ha⟩
  · rw [hruns]
    simp [hlt]
  · rw [deeds_of_work hlog, if_pos rfl]

/-- **What a move does to a run.** -/
theorem runChange {r : Run} (h : s.step? m = some s') (hr : s.runs[i]? = some r) :
    ∃ r' ds, s'.runs[i]? = some r' ∧ s'.deeds i = ds.reverse ++ s.deeds i ∧
      RunChange s m i r r' ds := by
  cases m with
  | work run reply =>
    by_cases hi : run = i
    · subst hi
      obtain ⟨r', ds, hr', hd, hw⟩ := workStep h hr
      exact ⟨r', ds, hr', hd, .worked rfl hw⟩
    · obtain ⟨r₁, r', ds, hr₁, _, hruns, _, _, hlog⟩ := work?_eq_some h
      refine ⟨r, [], by rw [hruns, List.getElem?_set_ne hi, hr], ?_, .still (by simp [puts?])⟩
      rw [deeds_of_work hlog, if_neg hi]
      rfl
  | proceed task reply =>
    obtain ⟨t, ht, hm, hs⟩ := proceed?_eq_some h
    obtain ⟨hc, _, hd, _⟩ := callerStep hs
    obtain ⟨r', hr', hch⟩ := runChange_of_runsChange ht hm hr hc
    exact ⟨r', [], hr', hd i, hch⟩
  | request q =>
    cases h
    exact ⟨r, [], hr, rfl, .still (by simp [puts?])⟩
  | elapse d =>
    cases h
    exact ⟨r, [], hr, rfl, .still (by simp [puts?])⟩

theorem step?_settings (h : s.step? m = some s') : s'.settings = s.settings := by
  cases m with
  | work run reply =>
    obtain ⟨_, _, _, _, _, _, _, hset, _⟩ := work?_eq_some h
    exact hset
  | proceed task reply =>
    obtain ⟨t, _, _, hs⟩ := proceed?_eq_some h
    obtain ⟨_, _, _, hset⟩ := callerStep hs
    exact hset
  | request q =>
    cases h
    rfl
  | elapse d =>
    cases h
    rfl

/-- a run that was not there is still not there, or it has just entered the registry -/
theorem newRun (h : s.step? m = some s') (hr : s.runs[i]? = none) :
    s'.deeds i = s.deeds i ∧ (s'.runs[i]? = none ∨ ∃ script options total,
      s'.runs[i]? = some (s.enrolled script options total)) := by
  have hlen : s.runs.length ≤ i := List.getElem?_eq_none_iff.1 hr
  cases m with
  | work run reply =>
    obtain ⟨r₁, r', ds, hr₁, _, hruns, _, _, hlog⟩ := work?_eq_some h
    have hi : run ≠ i := fun e => by rw [e, hr] at hr₁; cases hr₁
    refine ⟨?_, Or.inl ?_⟩
    · rw [deeds_of_work hlog, if_neg hi]
      rfl
    · rw [hruns, List.getElem?_set_ne hi, hr]
  | proceed task reply =>
    obtain ⟨t, _, _, hs⟩ := proceed?_eq_some h
    obtain ⟨hc, _, hd, _⟩ := callerStep hs
    refine ⟨hd i, ?_⟩
    generalize hs' : s'.runs = runs at hc
    cases hc with
    | enrolled =>
      by_cases hi : i = s.runs.length
      · right
        exact ⟨_, _, _, by rw [hi, List.getElem?_concat_length]⟩
      · left
        rw [List.getElem?_eq_none_iff, List.length_append]
        exact Nat.lt_of_le_of_ne hlen (Ne.symm hi)
    | _ => left; simp [hlen]
  | request q =>
    cases h
    exact ⟨rfl, Or.inl hr⟩
  | elapse d =>
    cases h
    exact ⟨rfl, Or.inl hr⟩

theorem taskChange {e : Nat × Task} (h : s.step? m = some s') (he : e ∈ s'.tasks) :
    (e ∈ s.tasks ∧ ∀ reply, m ≠ .proceed e.1 reply) ∨ e.2.starts? = none ∨
      ∃ t reply, m = .proceed e.1 reply ∧ (e.1, t) ∈ s.tasks ∧ Succeeds s s'.runs t e.2 ∧
        ∀ e' ∈ s'.tasks, e'.1 = e.1 → e' = e := by
  cases m with
  | work run reply =>
    obtain ⟨_, _, _, _, _, _, ht, _⟩ := work?_eq_some h
    rw [ht] at he
    exact Or.inl ⟨he, by simp⟩
  | proceed task reply =>
    obtain ⟨t, _, hm, hs⟩ := proceed?_eq_some h
    obtain ⟨_, ht, _⟩ := callerStep hs
    have old {e : Nat × Task} (hf : e ∈ s.tasks.filter fun e => e.1 ≠ task) :
        e ∈ s.tasks ∧ ∀ reply', Move.proceed task reply ≠ .proceed e.1 reply' := by
      obtain ⟨hin, hne⟩ := List.mem_filter.1 hf
      exact ⟨hin, fun _ hp => by cases hp; simp at hne⟩
    rcases ht with ht | ⟨t', hn, ht⟩
    · rw [ht] at he
      exact Or.inl (old he)
    · rw [ht] at he
      rcases List.mem_cons.1 he with rfl | he
      · refine Or.inr (Or.inr ⟨t, reply, rfl, hm, hn, fun e' he' hk => ?_⟩)
        rw [ht] at he'
        rcases List.mem_cons.1 he' with rfl | he'
        · rfl
        · exact absurd (congrArg (Move.proceed · reply) hk.symm) ((old he').2 reply)
      · exact Or.inl (old he)
  | request q =>
    cases h
    rcases List.mem_cons.1 he with rfl | he
    · right; left
      cases q with
      | control id c => cases c <;> rfl
      | _ => rfl
    · exact Or.inl ⟨he, by simp⟩
  | elapse d =>
    cases h
    exact Or.inl ⟨he, by simp⟩

end

end System

end ScriptGuard
