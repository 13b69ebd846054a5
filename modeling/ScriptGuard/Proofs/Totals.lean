import Mathlib.Data.List.Induction
import ScriptGuard.Proofs.Admission
import ScriptGuard.Proofs.Reckoning

/-!
# The total a run is measured against

A start looks the total of its script up before the run enters the registry; the count of a
completed run is written down after that run has left it.  If nobody starts a script before the
terminal state of its previous run has been published, nothing comes between the two.

* `System.lastCompleted`    the count of the latest completed one of the earlier runs of a script;
* `System.Patient`          each start that enters a run was issued when the previous run of its
                            script had published its terminal state;
* `Account`, `System.ledger`   what matters of the runs here, the latest run first;
* `System.Booked`           what a move does to the ledger and to the totals;
* `InTurn`                  the runs of each script come one after the other in the ledger;
* `totalled_of_play`        a run is measured against the count of the latest completed run.
-/

namespace ScriptGuard

def RunResult.count? (x : RunResult) : Option Nat :=
  if x.outcome = .completed then some x.operations else none

/-- the operations of a run of the script that ended completed -/
def Run.completed? (id : String) (r : Run) : Option Nat :=
  if r.session.script.id = id then r.place.result?.bind RunResult.count? else none

def Deed.ends : Deed → Bool
  | .told (.state _ a) => a.isTerminal
  | _ => false

namespace System

/-- the count of the latest completed one of the runs of a script before the run of a number -/
def lastCompleted (s : System) (id : String) (i : RunId) : Option Nat :=
  (s.runs.take i).reverse.findSome? (Run.completed? id)

def runsOf (s : System) (id : String) : List RunId :=
  (List.range s.runs.length).filter fun i => s.idOf i = id

def hasEnded (s : System) (i : RunId) : Bool := (s.deeds i).any Deed.ends

end System

/-- the number of the request to start that is issued with the stride -/
def Stride.issue? (x : Stride) : Option Nat :=
  match x.move with
  | .request (.start _ _) => some x.before.nextTask
  | _ => none

/-- the number of the request that enters a run with the stride, and the script of the run -/
def Stride.entry? (x : Stride) : Option (Nat × String) :=
  match x.move with
  | .proceed n .go =>
    match x.before.task? n with
    | some (.enroll script _ _) =>
      if x.before.active? script.id = none then some (n, script.id) else none
    | _ => none
  | _ => none

/-- each start that enters a run was issued when the previous run of its script had published its
terminal state -/
def System.Patient (s : System) (ms : List Move) : Prop :=
  ∀ x ∈ s.trace ms, ∀ n ∈ x.issue?, ∀ y ∈ s.trace ms, ∀ e ∈ y.entry?, e.1 = n →
    ∀ i ∈ (y.before.runsOf e.2).getLast?, x.before.hasEnded i = true

instance (s : System) (ms : List Move) : Decidable (s.Patient ms) :=
  inferInstanceAs (Decidable (∀ x ∈ s.trace ms, ∀ n ∈ x.issue?, ∀ y ∈ s.trace ms, ∀ e ∈ y.entry?,
    e.1 = n → ∀ i ∈ (y.before.runsOf e.2).getLast?, x.before.hasEnded i = true))

/-! ## the ledger -/

/-- a run in the ledger: its script, the total it is measured against, and the report that has been
followed by the storing of its count -/
structure Account where
  script : String
  expected : Option Nat
  stored : Option RunResult

def Account.count? (id : String) (a : Account) : Option Nat :=
  if a.script = id then a.stored.bind RunResult.count? else none

def Run.account (r : Run) : Account :=
  ⟨r.session.script.id, r.session.expectedTotal, r.place.stored?⟩

/-- the accounts of all runs, the latest run first -/
def System.ledger (s : System) : List Account := (s.runs.map Run.account).reverse

/-- the runs of each script come one after the other: when a run enters, those before it have been
stored, and it is measured against the latest completed one -/
inductive InTurn : List Account → Prop
  | nil : InTurn []
  | cons {a : Account} {older : List Account}
      (hs : ∀ b ∈ older, b.script = a.script → b.stored.isSome = true)
      (he : a.expected = older.findSome? (Account.count? a.script)) (ho : InTurn older) :
      InTurn (a :: older)

section
variable {newer older : List Account} {a b : Account} {x : RunResult} {id : String}

theorem Account.count?_of_ne (h : a.script ≠ id) : a.count? id = none := if_neg h

theorem Account.count?_of_stored (h : a.stored = none) : a.count? id = none := by
  unfold count?
  rw [h]
  split <;> rfl

theorem InTurn.of_append (h : InTurn (newer ++ a :: older)) : InTurn (a :: older) := by
  induction newer with
  | nil => exact h
  | cons b newer ih =>
    cases h with
    | cons _ _ ho => exact ih ho

/-- a run that has not been stored is the latest one of its script -/
theorem InTurn.ne_of_mem (h : InTurn (newer ++ a :: older)) (ha : a.stored = none)
    (hb : b ∈ newer) : b.script ≠ a.script := by
  induction newer with
  | nil => cases hb
  | cons c newer ih =>
    cases h with
    | cons hs _ ho =>
      rcases List.mem_cons.1 hb with rfl | hb
      · intro he
        have hstored := hs a (by simp) he.symm
        rw [ha] at hstored
        cases hstored
      · exact ih ho hb

theorem InTurn.store (h : InTurn (newer ++ a :: older)) (ha : a.stored = none) :
    InTurn (newer ++ { a with stored := some x } :: older) := by
  induction newer with
  | nil =>
    cases h with
    | cons hs he ho => exact .cons hs he ho
  | cons b newer ih =>
    have hne : a.script ≠ b.script := (h.ne_of_mem ha List.mem_cons_self).symm
    cases h with
    | cons hs he ho =>
      refine .cons (fun c hc hcb => ?_) ?_ (ih ho)
      · rcases List.mem_append.1 hc with hc | hc
        · exact hs c (List.mem_append_left _ hc) hcb
        · rcases List.mem_cons.1 hc with rfl | hc
          · exact absurd hcb hne
          · exact hs c (by simp [hc]) hcb
      · have hnone : Account.count? b.script { a with stored := some x } = none := if_neg hne
        change b.expected = (newer ++ a :: older).findSome? _ at he
        change b.expected = (newer ++ _ :: older).findSome? _
        rw [he, List.findSome?_append, List.findSome?_append, List.findSome?_cons,
          List.findSome?_cons, hnone, Account.count?_of_ne hne]

end

def Task.start? : Task → Option (Script × Options)
  | .vet a o | .provide a o | .recall a o | .enroll a o _ => some (a, o)
  | _ => none

theorem RequestStep.start?_eq {s s' : System} {n : Nat} {t t' : Task} {reply : CallerReply}
    {p : Script × Options} (h : RequestStep s n t reply s') (ht : s'.task? n = some t')
    (hp : t'.start? = some p) : t.start? = some p := by
  have hclose {s : System} {a : Answer} (h : (s.close n a).task? n = some t') : False := by
    rw [System.task?_close] at h
    cases h
  have hquit {s : System} (h : (s.quit n).task? n = some t') : False := by
    rw [System.task?_of_quit rfl, if_pos rfl] at h
    cases h
  have hgoOn {s : System} {u : Task} (h : (s.goOn n u).task? n = some t')
      (hu : u.start? = none) : False := by
    rw [System.task?_goOn] at h
    cases h
    rw [hu] at hp
    cases hp
  cases h with
  | vetted => rw [System.task?_goOn] at ht; cases ht; exact hp
  | provided => rw [System.task?_goOn] at ht; cases ht; exact hp
  | recalls => rw [System.task?_goOn] at ht; cases ht; exact hp
  | found | shown | cuts | frees | engages | surveys | sweeps | clears | cleared | unknown | asks
  | allowed | enrolls | launches | heralds =>
    exact (hgoOn ht rfl).elim
  | freeBroke => exact (hquit ht).elim
  | _ => exact (hclose ht).elim

theorem WorkerStep.of_remembering {v : View} {r r' : Run} {reply : Reply} {ds : List Deed}
    {x : RunResult} (h : WorkerStep v r reply r' ds) (hp : r.place = .remembering x) :
    r' = { r with place := .tellState x } ∧
      ds = if x.isSuccess then [.remembered x.operations] else [] := by
  cases h with
  | remembers hp' =>
    rw [hp] at hp'
    cases hp'
    exact ⟨rfl, rfl⟩
  | _ hp' =>
    rw [hp] at hp'
    cases hp'

theorem WorkerStep.progress_total {v : View} {r r' : Run} {reply : Reply} {ds : List Deed}
    {id : String} {n : Nat} {total : Option Nat} (h : WorkerStep v r reply r' ds)
    (hd : Deed.told (.progress id n total) ∈ ds) :
    id = r.session.script.id ∧ total = r.session.expectedTotal := by
  cases h with
  | call _ h =>
    cases h with
    | atGate _ h => cases h <;> simp at hd
    | progress =>
      obtain ⟨hid, _, htotal⟩ := by simpa using hd
      exact ⟨hid, htotal⟩
    | progressPaused =>
      obtain ⟨hid, _, htotal⟩ := by simpa using hd
      exact ⟨hid, htotal⟩
    | _ => simp at hd
  | remembers => split at hd <;> simp at hd
  | @tellsResult x =>
    rw [Run.resultNotice_eq] at hd
    split at hd <;> simp at hd
  | _ => simp at hd

theorem Deed.isReport_of_ends {d : Deed} (h : d.ends = true) : d.isReport = true := by
  cases d with
  | told a =>
    cases a with
    | state _ a =>
      show (!a.isActive) = true
      rw [RunState.isActive_of_isTerminal h]
      rfl
    | _ => cases h
  | _ => cases h

theorem Place.stored?_of_ends {p : Place} {d : Deed} (hd : d ∈ p.reported)
    (he : d.ends = true) : ∃ x, p.stored? = some x := by
  cases p with
  | tellResult x => exact ⟨x, rfl⟩
  | tellIdle x => exact ⟨x, rfl⟩
  | gone x => exact ⟨x, rfl⟩
  | remembering x =>
    rw [List.mem_singleton.1 hd] at he
    cases he
  | tellState x =>
    rw [List.mem_singleton.1 hd] at he
    cases he
  | _ => cases hd

namespace System

section
variable {s s' t u : System} {m : Move} {ms ms' : List Move} {i j k : RunId} {r : Run} {n : Nat}
  {task : Task} {id : String} {x : RunResult} {q : Request}

/-! ## runs and their scripts -/

theorem mem_runsOf : k ∈ s.runsOf id ↔ ∃ r, s.runs[k]? = some r ∧ r.session.script.id = id := by
  rw [runsOf, List.mem_filter, List.mem_range, decide_eq_true_eq, idOf]
  constructor
  · rintro ⟨hlt, hid⟩
    rw [List.getElem?_eq_getElem hlt] at hid
    exact ⟨_, List.getElem?_eq_getElem hlt, hid⟩
  · rintro ⟨r, hr, hid⟩
    exact ⟨(List.getElem?_eq_some_iff.1 hr).1, by rw [hr]; exact hid⟩

theorem le_of_getLast? (hj : j ∈ (s.runsOf id).getLast?) (hk : k ∈ s.runsOf id) : k ≤ j := by
  have hsorted : (s.runsOf id).Pairwise (· < ·) := List.pairwise_lt_range.filter _
  rw [← List.dropLast_append_getLast? j hj] at hsorted hk
  rcases List.mem_append.1 hk with hk | hk
  · exact Nat.le_of_lt ((List.pairwise_append.1 hsorted).2.2 k hk j List.mem_cons_self)
  · exact Nat.le_of_eq (List.mem_singleton.1 hk)

/-! ## what a move does to the ledger -/

theorem account_ext {r r' : Run} (hid : r'.session.script = r.session.script)
    (he : r'.session.expectedTotal = r.session.expectedTotal)
    (hst : r'.place.stored? = r.place.stored?) : r'.account = r.account := by
  rw [Run.account, Run.account, hid, he, hst]

/-- an account changes where the worker of the run writes its count down -/
theorem account_step (hs : s.Reachable) (h : s.step? m = some s') (hr : s.runs[i]? = some r) :
    ∃ r', s'.runs[i]? = some r' ∧ (r'.account = r.account ∨
      ∃ reply x, m = .work i reply ∧ r.place = .remembering x ∧
        r'.account = { r.account with stored := some x }) := by
  rcases worked_or h hr with ⟨reply, r', ds, rfl, hr', _, hw⟩ | ⟨hm, r', hr', _, hc⟩
  · have hc : RunChange s (.work i reply) i r r' ds := .worked rfl hw
    refine ⟨r', hr', ?_⟩
    cases hst : r'.place.stored? with
    | none =>
      refine Or.inl (account_ext hc.given_eq.1 hc.expectedTotal_eq ?_)
      cases hst' : r.place.stored? with
      | none => exact hst
      | some y =>
        rw [hw.keeps_stored hst'] at hst
        cases hst
    | some x =>
      rcases hw.stores hst with hst' | hp
      · exact Or.inl (account_ext hc.given_eq.1 hc.expectedTotal_eq (hst.trans hst'.symm))
      · refine Or.inr ⟨reply, x, rfl, hp, ?_⟩
        rw [Run.account, Run.account, hc.given_eq.1, hc.expectedTotal_eq, hst]
  · refine ⟨r', hr', Or.inl (account_ext hc.given_eq.1 hc.expectedTotal_eq ?_)⟩
    rcases (hc.unmoved hs.tidy hr hm).1 with hp | ⟨hp, hp'⟩
    · rw [hp]
    · rw [hp, hp']
      rfl

theorem account_play (hs : s.Reachable) (h : s.play? ms = some s') (hr : s.runs[i]? = some r) :
    ∃ r', s'.runs[i]? = some r' ∧ r'.session.script.id = r.session.script.id ∧
      ∀ x, r.place.stored? = some x → r'.place.stored? = some x := by
  refine (play?_induction (P := fun t => t.Reachable ∧ ∃ r', t.runs[i]? = some r' ∧
    r'.session.script.id = r.session.script.id ∧
    ∀ x, r.place.stored? = some x → r'.place.stored? = some x) ?_
    ⟨hs, r, hr, rfl, fun _ => id⟩ h).2
  rintro t t' m ⟨ht, r₁, hr₁, hid, hst⟩ hstep
  obtain ⟨r', hr', hsame | ⟨_, y, _, hp, hnew⟩⟩ := account_step ht hstep hr₁
  · exact ⟨ht.step hstep, r', hr', (congrArg Account.script hsame).trans hid,
      fun x hx => (congrArg Account.stored hsame).trans (hst x hx)⟩
  · refine ⟨ht.step hstep, r', hr', (congrArg Account.script hnew).trans hid, fun x hx => ?_⟩
    have hx₁ := hst x hx
    rw [hp] at hx₁
    cases hx₁

theorem ledger_eq {earlier later : List Run} (h : s.runs = earlier ++ r :: later) :
    s.ledger = (later.map Run.account).reverse ++ r.account ::
      (earlier.map Run.account).reverse := by
  rw [ledger, h]
  simp

theorem split_of_getElem? (hr : s.runs[i]? = some r) :
    s.runs = s.runs.take i ++ r :: s.runs.drop (i + 1) := by
  obtain ⟨hlt, rfl⟩ := List.getElem?_eq_some_iff.1 hr
  rw [← List.drop_eq_getElem_cons hlt, List.take_append_drop]

/-- what a move does to the ledger and to the totals -/
inductive Booked (s : System) (m : Move) (s' : System) : Prop
  | still (hl : s'.ledger = s.ledger) (ht : s'.totals = s.totals)
  /-- the report of a run is stored -/
  | stored {newer older : List Account} {a : Account} {x : RunResult}
      (hl : s.ledger = newer ++ a :: older) (ha : a.stored = none)
      (hl' : s'.ledger = newer ++ { a with stored := some x } :: older)
      (ht : s'.totals = if x.outcome = .completed then put s.totals a.script x.operations
        else s.totals)
  /-- a run enters -/
  | entered {n : Nat} {script : Script} {options : Options} {total : Option Nat}
      (hm : m = .proceed n .go) (hk : s.task? n = some (.enroll script options total))
      (hf : s.active? script.id = none) (hl' : s'.ledger = ⟨script.id, total, none⟩ :: s.ledger)
      (ht : s'.totals = s.totals)

theorem ledger_of_length (hs : s.Reachable) (h : s.step? m = some s')
    (hlen : s'.runs.length = s.runs.length)
    (hm : ∀ i reply r x, m = .work i reply → s.runs[i]? = some r → r.place ≠ .remembering x) :
    s'.ledger = s.ledger := by
  refine congrArg List.reverse (List.ext_getElem? fun i => ?_)
  rw [List.getElem?_map, List.getElem?_map]
  cases hr : s.runs[i]? with
  | none =>
    rw [List.getElem?_eq_none_iff] at hr
    rw [List.getElem?_eq_none_iff.2 (hlen ▸ hr)]
  | some r =>
    obtain ⟨r', hr', hsame | ⟨reply, x, hw, hp, _⟩⟩ := account_step hs h hr
    · rw [hr', Option.map_some, hsame, Option.map_some]
    · exact absurd hp (hm i reply r x hw hr)

theorem booked_of_step (hs : s.Reachable) (h : s.step? m = some s') : s.Booked m s' := by
  cases m with
  | work i reply =>
    obtain ⟨r, r', ds, hr, ha, hs'⟩ := work?_eq_foldl h
    have hruns : s'.runs = s.runs.set i r' := by rw [hs', foldl_record_runs]
    by_cases hp : ∃ x, r.place = .remembering x
    · obtain ⟨x, hp⟩ := hp
      obtain ⟨rfl, rfl⟩ := (WorkerStep.of_advance ha).of_remembering hp
      have hsplit : s'.runs = s.runs.take i ++ { r with place := .tellState x } ::
          s.runs.drop (i + 1) := by
        rw [hruns, List.set_eq_take_append_cons_drop,
          if_pos (List.getElem?_eq_some_iff.1 hr).1]
      refine .stored (ledger_eq (split_of_getElem? hr)) (by rw [Run.account, hp]; rfl)
        (ledger_eq hsplit) ?_
      rw [hs', RunResult.isSuccess]
      by_cases hx : x.outcome = .completed
      · rw [if_pos hx, if_pos (beq_iff_eq.2 hx)]
        rfl
      · rw [if_neg hx, if_neg (mt beq_iff_eq.1 hx)]
        rfl
    · refine .still (ledger_of_length hs h (by rw [hruns, List.length_set]) ?_) ?_
      · rintro i' reply' r₁ x ⟨⟩ hr₁ hp₁
        rw [hr] at hr₁
        cases hr₁
        exact hp ⟨x, hp₁⟩
      · rcases totals_step h with ht | ⟨j, reply', r₁, x, hm, hr₁, hp₁, _⟩
        · exact ht
        · cases hm
          rw [hr] at hr₁
          cases hr₁
          exact absurd ⟨x, hp₁⟩ hp
  | proceed n reply =>
    obtain ⟨task, htask, hstep⟩ := requestStep h
    rcases hstep.registry_eq with ⟨_, hlen⟩ | ⟨script, options, total, rfl, hf, _, hruns⟩
    · refine .still (ledger_of_length hs h hlen ?_) hstep.totals_eq
      rintro _ _ _ _ ⟨⟩
    · have hl : s'.ledger = ⟨script.id, total, none⟩ :: s.ledger := by
        rw [ledger, hruns, List.map_append, List.reverse_append]
        rfl
      cases hstep with
      | taken ha =>
        rw [hf] at ha
        cases ha
      | enrolls => exact .entered rfl htask hf hl rfl
  | request q =>
    cases h
    exact .still rfl rfl
  | elapse d =>
    cases h
    exact .still rfl rfl

/-- the total of each script is the count of its latest completed run -/
def Balanced (s : System) : Prop :=
  ∀ id, find? s.totals id = s.ledger.findSome? (Account.count? id)

theorem Booked.balanced (h : s.Booked m s') (ht : InTurn s.ledger) (hb : s.Balanced) :
    s'.Balanced := by
  intro id
  cases h with
  | still hl htot => rw [htot, hl, hb]
  | entered _ _ _ hl' htot =>
    rw [htot, hl', List.findSome?_cons, Account.count?_of_stored rfl, hb]
  | @stored newer older a x hl ha hl' htot =>
    have hbid := hb id
    rw [hl, List.findSome?_append, List.findSome?_cons, Account.count?_of_stored ha] at hbid
    rw [htot, hl', List.findSome?_append, List.findSome?_cons]
    by_cases hid : a.script = id
    · -- no later run of the script has a count, so this one is the latest
      have hnewer : newer.findSome? (Account.count? id) = none :=
        List.findSome?_eq_none_iff.2 fun b hmem => Account.count?_of_ne fun he =>
          (hl ▸ ht).ne_of_mem ha hmem (he.trans hid.symm)
      have hcount : Account.count? id { a with stored := some x } = x.count? := if_pos hid
      rw [hnewer, Option.none_or, hcount, RunResult.count?]
      rw [hnewer, Option.none_or] at hbid
      split
      · rw [find?_put, if_pos hid]
      · exact hbid
    · have hcount : Account.count? id { a with stored := some x } = none := if_neg hid
      rw [hcount]
      split
      · rw [find?_put, if_neg hid, hbid]
      · exact hbid

/-! ## starts -/

theorem trace_append (h : s.play? ms = some t) (ms' : List Move) :
    s.trace (ms ++ ms') = s.trace ms ++ t.trace ms' := by
  induction ms generalizing s with
  | nil =>
    cases h
    rfl
  | cons m ms ih =>
    obtain ⟨s₁, h₁, h₂⟩ := exists_of_play?_cons h
    rw [List.cons_append, trace_cons h₁, trace_cons h₁, ih h₂, List.cons_append]

theorem Patient.of_append (h : s.Patient (ms ++ ms')) (hs : s.play? ms = some t) : s.Patient ms := by
  intro x hx n hn y hy
  rw [Patient, trace_append hs] at h
  exact h x (List.mem_append_left _ hx) n hn y (List.mem_append_left _ hy)

theorem mem_trace (h : s.play? ms = some t) (hm : t.step? m = some u) (ms' : List Move) :
    ⟨t, m, u⟩ ∈ s.trace (ms ++ m :: ms') := by
  rw [trace_append h, trace_cons hm]
  exact List.mem_append_right _ List.mem_cons_self

theorem nextTask_cases (h : s.step? m = some s') :
    s'.nextTask = s.nextTask ∨ ∃ q, m = .request q := by
  cases m with
  | work i reply =>
    obtain ⟨_, _, _, _, _, rfl⟩ := work?_eq_foldl h
    exact Or.inl (foldl_record_nextTask ..)
  | proceed n reply =>
    obtain ⟨_, _, hr⟩ := requestStep h
    exact Or.inl hr.nextTask_eq
  | request q => exact Or.inr ⟨q, rfl⟩
  | elapse d =>
    cases h
    exact Or.inl rfl

theorem asked_of_play (h : s.play? ms = some t) (hs : s.nextTask ≤ n) (ht : n < t.nextTask) :
    ∃ ms₁ q ms₂ issued, ms = ms₁ ++ .request q :: ms₂ ∧ s.play? ms₁ = some issued ∧
      issued.nextTask = n ∧ (issued.ask q).play? ms₂ = some t := by
  induction ms generalizing s with
  | nil =>
    cases h
    exact absurd ht (Nat.not_lt.2 hs)
  | cons m ms ih =>
    obtain ⟨s₁, h₁, h₂⟩ := exists_of_play?_cons h
    have hlater (hs₁ : s₁.nextTask ≤ n) : ∃ ms₁ q ms₂ issued,
        m :: ms = ms₁ ++ .request q :: ms₂ ∧ s.play? ms₁ = some issued ∧
        issued.nextTask = n ∧ (issued.ask q).play? ms₂ = some t := by
      obtain ⟨ms₁, q, ms₂, issued, rfl, hplay, hrest⟩ := ih h₂ hs₁
      exact ⟨m :: ms₁, q, ms₂, issued, rfl, by rw [play?_cons, h₁]; exact hplay, hrest⟩
    rcases nextTask_cases h₁ with hn | ⟨q, rfl⟩
    · exact hlater (hn ▸ hs)
    · cases h₁
      rcases Nat.eq_or_lt_of_le hs with hn | hn
      · exact ⟨[], q, ms, s, rfl, rfl, hn, h₂⟩
      · exact hlater hn

/-- a request that is about to come to the registry was one to start a script -/
theorem eq_start_of_play {p : Script × Options} (h : (s.ask q).play? ms = some t)
    (ht : t.task? s.nextTask = some task) (hp : task.start? = some p) : q = .start p.1 p.2 := by
  refine (play?_induction (P := fun t => s.nextTask < t.nextTask ∧
    ∀ task p, t.task? s.nextTask = some task → task.start? = some p → q = .start p.1 p.2)
    ?_ ⟨Nat.lt_succ_self _, ?_⟩ h).2 task p ht hp
  · rintro t t' m ⟨hn, ih⟩ hstep
    refine ⟨Nat.lt_of_lt_of_le hn (nextTask_step hstep), fun task p ht hp => ?_⟩
    by_cases hm : ∃ reply, m = .proceed s.nextTask reply
    · obtain ⟨reply, rfl⟩ := hm
      obtain ⟨old, hold, hr⟩ := requestStep hstep
      exact ih old p hold (hr.start?_eq ht hp)
    · rw [task?_aside hstep hn fun reply he => hm ⟨reply, he⟩] at ht
      exact ih task p ht hp
  · intro task p ht hp
    rw [task?_ask] at ht
    cases ht
    cases q with
    | start script options =>
      cases hp
      rfl
    | control id c => cases c <;> cases hp
    | _ => cases hp

/-- a start that comes to the registry has looked the total up since it was issued -/
theorem recalled_of_play (hs : s.Reachable) {script : Script} {options : Options}
    {total : Option Nat} (h : (s.ask (.start script options)).play? ms = some t)
    (ht : t.task? s.nextTask = some (.enroll script options total)) :
    ∃ ms₁ ms₂ u, (s.ask (.start script options)).play? ms₁ = some u ∧ u.play? ms₂ = some t ∧
      total = find? u.totals script.id := by
  have hway := starting_of_play hs h
  have hmem : ∀ x ∈ (s.ask (.start script options)).course s.nextTask ms,
      x ∈ (s.ask (.start script options)).trace ms := fun x hx => List.mem_of_mem_filter hx
  rw [ht] at hway
  generalize (s.ask (.start script options)).course s.nextTask ms = own at hway hmem
  generalize t.answer? s.nextTask = a at hway
  cases hway with
  | @cleared x y z _ hc =>
    obtain ⟨ms₁, ms₂, rfl, hplay, _⟩ := exists_of_mem_trace (hmem z (by simp))
    refine ⟨ms₁, z.move :: ms₂, z.before, hplay, ?_, hc.recalled.total_eq⟩
    rw [play?_append, hplay] at h
    exact h

/-! ## published ends -/

theorem exists_of_hasEnded (hs : s.Reachable) (he : s.hasEnded i = true) :
    ∃ r x, s.runs[i]? = some r ∧ r.place.stored? = some x := by
  obtain ⟨d, hd, hends⟩ := List.any_eq_true.1 he
  cases hr : s.runs[i]? with
  | none =>
    rw [hs.tidy.blank i hr] at hd
    cases hd
  | some r =>
    have hmem : d ∈ (s.deeds i).filter Deed.isReport :=
      List.mem_filter.2 ⟨hd, Deed.isReport_of_ends hends⟩
    rw [(hs.accounts hr).reports] at hmem
    obtain ⟨x, hx⟩ := Place.stored?_of_ends hmem hends
    exact ⟨r, x, rfl, hx⟩

/-- when the last run of a script had ended before a moment, no other run of it has come since, and
all of them had been stored -/
theorem stored_of_hasEnded (hs : s.Reachable) (hi : InTurn s.ledger) (h : s.play? ms = some t)
    (hj : j ∈ (t.runsOf id).getLast?) (he : s.hasEnded j = true) (hk : k ∈ t.runsOf id) :
    ∃ r x, s.runs[k]? = some r ∧ r.place.stored? = some x := by
  have hid {i : RunId} {r : Run} (hr : s.runs[i]? = some r) (hmem : i ∈ t.runsOf id) :
      r.session.script.id = id := by
    obtain ⟨r₁, hr₁, hid₁, _⟩ := account_play hs h hr
    obtain ⟨r₂, hr₂, hid₂⟩ := mem_runsOf.1 hmem
    rw [hr₁] at hr₂
    cases hr₂
    exact hid₁.symm.trans hid₂
  obtain ⟨rj, y, hrj, hy⟩ := exists_of_hasEnded hs he
  rcases Nat.lt_or_eq_of_le (le_of_getLast? hj hk) with hlt | rfl
  · have hlen : k < s.runs.length := Nat.lt_trans hlt (List.getElem?_eq_some_iff.1 hrj).1
    have hr : s.runs[k]? = some s.runs[k] := List.getElem?_eq_getElem hlen
    have hturn := (ledger_eq (split_of_getElem? hrj) ▸ hi).of_append
    have hmem : s.runs[k].account ∈ ((s.runs.take j).map Run.account).reverse := by
      rw [List.mem_reverse]
      exact List.mem_map_of_mem (List.mem_take_iff_getElem.2 ⟨k, Nat.lt_min.2 ⟨hlt, hlen⟩, rfl⟩)
    cases hturn with
    | cons hs _ _ =>
      have hscript : s.runs[k].account.script = rj.account.script :=
        (hid hr hk).trans (hid hrj (List.mem_of_getLast? hj)).symm
      obtain ⟨x, hx⟩ := Option.isSome_iff_exists.1 (hs _ hmem hscript)
      exact ⟨_, x, hr, hx⟩
  · exact ⟨rj, y, hrj, hy⟩

theorem stored_play {P : RunId → Prop} (hs : s.Reachable) (h : s.play? ms = some t)
    (hall : ∀ k, P k → ∃ r x, s.runs[k]? = some r ∧ r.place.stored? = some x) :
    ∀ k, P k → ∃ r x, t.runs[k]? = some r ∧ r.place.stored? = some x := by
  intro k hk
  obtain ⟨r, x, hr, hx⟩ := hall k hk
  obtain ⟨r', hr', _, hst⟩ := account_play hs h hr
  exact ⟨r', x, hr', hst x hx⟩

/-- a total stays while all runs of its script have been stored -/
theorem find?_totals_play (hs : s.Reachable) (h : s.play? ms = some t)
    (hall : ∀ k ∈ t.runsOf id, ∃ r x, s.runs[k]? = some r ∧ r.place.stored? = some x) :
    find? t.totals id = find? s.totals id := by
  induction ms generalizing s with
  | nil =>
    cases h
    rfl
  | cons m ms ih =>
    obtain ⟨s₁, h₁, h₂⟩ := exists_of_play?_cons h
    rw [ih (hs.step h₁) h₂ (stored_play hs (play?_singleton h₁) hall)]
    rcases totals_step h₁ with hsame | ⟨j, reply, r, x, _, hr, hp, hput, _⟩
    · rw [hsame]
    · rw [hput, find?_put, if_neg]
      intro hid
      -- a run that is about to store its count would be a run of the script that has not been stored
      obtain ⟨r', hr', hid', _⟩ := account_play hs h hr
      obtain ⟨r₁, y, hr₁, hy⟩ := hall j (mem_runsOf.2 ⟨r', hr', hid'.trans hid⟩)
      rw [hr] at hr₁
      cases hr₁
      rw [hp] at hy
      cases hy

/-! ## every run in its turn -/

/-- a start that was issued when the runs of its script had been stored enters a run in its turn -/
theorem inTurn_of_issued {script : Script} {options : Options} {total : Option Nat}
    (hs : s.Reachable) (h : (s.ask (.start script options)).play? ms = some t)
    (ht : t.task? s.nextTask = some (.enroll script options total)) (hi : InTurn t.ledger)
    (hb : t.Balanced)
    (hall : ∀ k, k ∈ t.runsOf script.id → ∃ r x, s.runs[k]? = some r ∧ r.place.stored? = some x) :
    InTurn (⟨script.id, total, none⟩ :: t.ledger) := by
  have hask : s.play? (.request (.start script options) :: ms) = some t := h
  refine .cons ?_ ?_ hi
  · intro b hmem hid
    obtain ⟨r, hr, rfl⟩ := List.mem_map.1 (List.mem_reverse.1 hmem)
    obtain ⟨k, hlt, rfl⟩ := List.getElem_of_mem hr
    have hk : t.runs[k]? = some t.runs[k] := List.getElem?_eq_getElem hlt
    obtain ⟨r', x, hr', hx⟩ := stored_play hs hask hall k (mem_runsOf.2 ⟨_, hk, hid⟩)
    rw [hk] at hr'
    cases hr'
    exact Option.isSome_iff_exists.2 ⟨x, hx⟩
  · obtain ⟨ms₁, ms₂, u, hu, hut, htotal⟩ := recalled_of_play hs h ht
    have hsu : s.play? (.request (.start script options) :: ms₁) = some u := hu
    have hsame := find?_totals_play (hs.play hsu) hut (stored_play hs hsu hall)
    exact htotal.trans (hsame.symm.trans (hb script.id))

theorem inTurn_of_play {settings : Settings} {approvals : Approvals}
    (h : (fresh settings approvals).play? ms = some t) (hp : (fresh settings approvals).Patient ms) :
    InTurn t.ledger ∧ t.Balanced ∧
      ∀ x ∈ (fresh settings approvals).trace ms, InTurn x.before.ledger := by
  induction ms using List.reverseRecOn generalizing t with
  | nil =>
    cases h
    exact ⟨.nil, fun _ => rfl, List.forall_mem_nil _⟩
  | append_singleton ms m ih =>
    rw [play?_append] at h
    obtain ⟨u, hu, h⟩ := Option.bind_eq_some_iff.1 h
    obtain ⟨t', ht', h'⟩ := exists_of_play?_cons h
    cases h'
    obtain ⟨hturn, hbal, hpast⟩ := ih hu (hp.of_append hu)
    have hreach : u.Reachable := ⟨_, _, ms, hu⟩
    have hbook := booked_of_step hreach ht'
    refine ⟨?_, hbook.balanced hturn hbal, ?_⟩
    · cases hbook with
      | still hl => rwa [hl]
      | stored hl ha hl' =>
        rw [hl']
        exact (hl ▸ hturn).store ha
      | @entered n script options total hm hk hf hl' =>
        obtain ⟨ms₁, q, ms₂, issued, hms, hplay, rfl, hrest⟩ :=
          asked_of_play hu (Nat.zero_le _) (hreach.numbered.number _ (mem_of_task? hk))
        obtain rfl : q = .start script options := eq_start_of_play hrest hk rfl
        have hissued : issued.Reachable := ⟨_, _, ms₁, hplay⟩
        have hx := hms ▸ mem_trace hplay (m := .request (.start script options)) rfl ms₂
        rw [hl']
        refine inTurn_of_issued hissued hrest hk hturn hbal fun k hmem => ?_
        obtain ⟨j, hj⟩ := Option.isSome_iff_exists.1
          (List.getLast?_isSome.2 (List.ne_nil_of_mem hmem))
        have hentry : Stride.entry? ⟨u, m, t⟩ = some (issued.nextTask, script.id) := by
          simp [Stride.entry?, hm, hk, hf]
        have hended : issued.hasEnded j = true :=
          hp _ (trace_append hu [m] ▸ List.mem_append_left _ hx) _ rfl _ (mem_trace hu ht' []) _
            hentry rfl j hj
        have hask : issued.play? (.request (.start script options) :: ms₂) = some u := hrest
        exact stored_of_hasEnded hissued (hpast _ hx) hask hj hended hmem
    · intro x hx
      rw [trace_append hu, trace_cons ht', trace_nil] at hx
      rcases List.mem_append.1 hx with hx | hx
      · exact hpast x hx
      · rw [List.mem_singleton.1 hx]
        exact hturn

/-! ## what a run is measured against -/

theorem Reachable.progress_total (hs : s.Reachable) (hr : s.runs[i]? = some r) {total : Option Nat}
    (hd : Deed.told (.progress id n total) ∈ s.deeds i) :
    id = r.session.script.id ∧ total = r.session.expectedTotal := by
  refine hs.every_run (P := fun r ds => ∀ id n total, Deed.told (.progress id n total) ∈ ds →
    id = r.session.script.id ∧ total = r.session.expectedTotal)
    (fun _ _ _ _ _ _ _ h => nomatch h) ?_ hr id n total hd
  intro s m i r r' ds _ _ hc ih id n total hd
  rw [hc.given_eq.1, hc.expectedTotal_eq]
  rcases List.mem_append.1 hd with hd | hd
  · cases hc with
    | worked _ hw => exact hw.progress_total (List.mem_reverse.1 hd)
    | _ => cases hd
  · exact ih id n total hd

/-- what the run of a number is measured against -/
structure Totalled (s : System) (i : RunId) (r : Run) : Prop where
  expected : r.session.expectedTotal = s.lastCompleted r.session.script.id i
  shown : ∀ id n total, Deed.told (.progress id n total) ∈ s.deeds i →
    id = r.session.script.id ∧ total = s.lastCompleted r.session.script.id i
  /-- it is never changed -/
  kept : ∀ ms s', s.play? ms = some s' → ∃ r', s'.runs[i]? = some r' ∧
    r'.session.expectedTotal = r.session.expectedTotal
  /-- the total of a script is changed by the worker of a run of the script that ended completed,
  and by nobody else -/
  changes : ∀ m s' id, s.step? m = some s' → find? s'.totals id ≠ find? s.totals id →
    ∃ j reply rj x, m = .work j reply ∧ s.runs[j]? = some rj ∧ rj.session.script.id = id ∧
      rj.place = .remembering x ∧ x.outcome = .completed ∧
      find? s'.totals id = some x.operations

theorem changed_total (h : s.step? m = some s') (hne : find? s'.totals id ≠ find? s.totals id) :
    ∃ j reply rj x, m = .work j reply ∧ s.runs[j]? = some rj ∧ rj.session.script.id = id ∧
      rj.place = .remembering x ∧ x.outcome = .completed ∧
      find? s'.totals id = some x.operations := by
  rcases totals_step h with hsame | ⟨j, reply, r, x, rfl, hr, hp, hput, _⟩
  · exact absurd (by rw [hsame]) hne
  · by_cases hid : r.session.script.id = id
    · refine ⟨j, reply, r, x, rfl, hr, hid, hp, ?_, by rw [hput, find?_put, if_pos hid]⟩
      by_contra hx
      obtain ⟨r₁, r', ds, hr₁, ha, rfl⟩ := work?_eq_foldl h
      rw [hr] at hr₁
      cases hr₁
      obtain ⟨_, rfl⟩ := (WorkerStep.of_advance ha).of_remembering hp
      have hnone : x.isSuccess = false := by simpa [RunResult.isSuccess] using hx
      rw [hnone] at hne
      exact hne rfl
    · exact absurd (by rw [hput, find?_put, if_neg hid]) hne

theorem lastCompleted_eq (hi : InTurn s.ledger) (hr : s.runs[i]? = some r) :
    r.session.expectedTotal = s.lastCompleted r.session.script.id i := by
  have hturn := (ledger_eq (split_of_getElem? hr) ▸ hi).of_append
  cases hturn with
  | cons hs he _ =>
    refine he.trans ?_
    rw [lastCompleted, ← List.map_reverse, List.findSome?_map, ← List.head?_filterMap,
      ← List.head?_filterMap]
    refine congrArg List.head? (List.filterMap_congr fun b hb => ?_)
    -- the earlier runs of the script have been stored, so that they are over
    by_cases hid : b.session.script.id = r.session.script.id
    · have hmem : b.account ∈ ((s.runs.take i).map Run.account).reverse :=
        List.mem_reverse.2 (List.mem_map_of_mem (List.mem_reverse.1 hb))
      obtain ⟨x, hx⟩ := Option.isSome_iff_exists.1 (hs _ hmem hid)
      have hreport : b.place.result? = some x := Place.result?_of_stored? hx
      rw [Run.completed?, if_pos hid, hreport, ← hx]
      exact if_pos hid
    · rw [Run.completed?, if_neg hid]
      exact if_neg hid

/-- **If each start is issued when the previous run of its script has published its terminal state,
a run is measured against the count of the latest run of the script that ended completed.** -/
theorem totalled_of_play {settings : Settings} {approvals : Approvals}
    (h : (fresh settings approvals).play? ms = some s) (hp : (fresh settings approvals).Patient ms)
    (hr : s.runs[i]? = some r) : s.Totalled i r := by
  have hs : s.Reachable := ⟨_, _, ms, h⟩
  have hexpected := lastCompleted_eq (inTurn_of_play h hp).1 hr
  refine ⟨hexpected, fun id n total hd => ?_, fun ms' s' h' => expectedTotal_play h' hr,
    fun m s' id h' hne => changed_total h' hne⟩
  obtain ⟨hid, htotal⟩ := hs.progress_total hr hd
  exact ⟨hid, htotal.trans hexpected⟩

def begun (n : Nat) (i : RunId) (script : Script) : List Move :=
  [Move.request (.start script {}), .proceed n .go, .proceed n (.provision (.ok ()))] ++
    List.replicate 5 (Move.proceed n .go) ++ List.replicate 11 (Move.work i (.stage .ready))

def operated (i : RunId) : List Move :=
  Move.work i (.script (.call .move [.int 1, .int 2])) :: List.replicate 7 (Move.work i .go) ++
    Move.work i (.device .done) :: List.replicate 3 (Move.work i .go)

def ended (i : RunId) (e : ScriptEnd) : List Move :=
  Move.work i (.script (.finish e)) :: List.replicate 6 (Move.work i .go)

/-- a script is started again while its end is published; then it fails, another script comes to its
end, and it is started once more -/
def restarted : List Move :=
  begun 0 0 ⟨"a", "a", ""⟩ ++ operated 0 ++ operated 0 ++ ended 0 .completed ++
    begun 1 1 ⟨"a", "a", ""⟩ ++ List.replicate 2 (Move.work 0 .go) ++ operated 1 ++
    ended 1 (.failed "no") ++ begun 2 2 ⟨"b", "b", ""⟩ ++ ended 2 .completed ++
    begun 3 3 ⟨"a", "a", ""⟩ ++ operated 3

theorem totalled_of_play_restarted :
    let s := fresh { limits := ⟨none, none⟩ } {}
    let s' := s.after restarted
    s.Patient restarted ∧
      [0, 1, 2, 3].map (fun i => (s'.runs[i]?).bind (·.session.expectedTotal)) =
        [none, some 2, none, some 2] ∧
      Deed.told (.progress "a" 1 (some 2)) ∈ s'.deeds 3 ∧
      ∃ r, s'.runs[3]? = some r ∧ s'.Totalled 3 r := by
  intro s s'
  have h : s.play? restarted = some s' := play?_after (by decide +kernel)
  have hp : s.Patient restarted := by decide +kernel
  have hrun : (s'.runs[3]?).isSome = true := by decide +kernel
  obtain ⟨r, hr⟩ := Option.isSome_iff_exists.1 hrun
  exact ⟨hp, by decide +kernel, by decide +kernel, r, hr, totalled_of_play h hp hr⟩

end

end System

end ScriptGuard
