import ScriptGuard.Proofs.LateAbort
import ScriptGuard.Proofs.Registry

/-!
# The sweep of the kill switch

An activation of the kill switch takes down the active runs and comes to them one after the other:
it records its reason in the slot of a run, then it has the device of the run release everything.

* `System.Numbered`    the requests under way have numbers of their own and have not been answered;
* `System.freed s n`   the runs whose devices the request has told to release everything;
* `System.Struck s i`  the slot of the run holds a reason that nothing replaces;
* `System.Sweeps`      the invariant: how far the sweep has come, unless a release broke down;
* `swept_of_survey`    once the activation is answered, every run that it took down is struck, and
                       its device has been told once.
-/

namespace ScriptGuard

/-- the run whose device the request of a number tells to release everything -/
def Entry.freedBy (n : Nat) : Entry → Option RunId
  | .caller k (.run i (.began .releaseAll)) => if k = n then some i else none
  | _ => none

def Entry.breaks (n : Nat) : Entry → Bool
  | .caller k (.run _ (.ended .releaseAll .brokeDown)) => k == n
  | _ => false

namespace System

def freed (s : System) (n : Nat) : List RunId := s.log.filterMap (Entry.freedBy n)

/-- a release has broken down, and with it what the request was still to do -/
def broke (s : System) (n : Nat) : Bool := s.log.any (Entry.breaks n)

section
variable {s s' : System} {m : Move} {n k : Nat} {t : Task} {reply : CallerReply}

/-! ## requests and their numbers -/

theorem log_step (h : s.step? m = some s') :
    ∃ es, s'.log = es ++ s.log ∧
      ∀ n d, Entry.caller n d ∈ es → ∃ reply, m = .proceed n reply := by
  cases m with
  | work i reply =>
    obtain ⟨_, _, ds, _, _, _, _, _, hlog⟩ := work?_eq_some h
    exact ⟨_, hlog, fun n d hd => by simp at hd⟩
  | proceed n reply =>
    obtain ⟨t, _, hr⟩ := requestStep h
    obtain ⟨ds, hlog, _⟩ := hr.course
    refine ⟨_, hlog, fun k d hd => ⟨reply, ?_⟩⟩
    obtain ⟨_, _, he⟩ := List.mem_map.1 hd
    cases he
    rfl
  | request q =>
    cases h
    exact ⟨[], rfl, fun _ _ hd => nomatch hd⟩
  | elapse d =>
    cases h
    exact ⟨[], rfl, fun _ _ hd => nomatch hd⟩

theorem mem_log_aside {d : CallerDeed} (h : s.step? m = some s')
    (hm : ∀ reply, m ≠ .proceed n reply) :
    Entry.caller n d ∈ s'.log ↔ Entry.caller n d ∈ s.log := by
  obtain ⟨es, hlog, hes⟩ := log_step h
  rw [hlog, List.mem_append, or_iff_right]
  intro hd
  obtain ⟨reply, he⟩ := hes n d hd
  exact hm reply he

/-- the requests under way have numbers of their own and have not been answered; one that is about
to turn the kill switch on, or to take down the active runs, has done nothing so far -/
structure Numbered (s : System) : Prop where
  number : ∀ e ∈ s.tasks, e.1 < s.nextTask
  ahead : ∀ n d, s.nextTask ≤ n → Entry.caller n d ∉ s.log
  unanswered : ∀ e ∈ s.tasks, ∀ a, Entry.caller e.1 (.closed a) ∉ s.log
  opening : ∀ e ∈ s.tasks, e.2.opens = true → ∀ d, Entry.caller e.1 d ∉ s.log

theorem nextTask_step (h : s.step? m = some s') : s.nextTask ≤ s'.nextTask := by
  cases m with
  | work i reply =>
    obtain ⟨_, _, ds, _, _, rfl⟩ := work?_eq_foldl h
    refine Nat.le_of_eq ?_
    rw [foldl_record_nextTask]
  | proceed n reply =>
    obtain ⟨t, _, hr⟩ := requestStep h
    exact Nat.le_of_eq hr.nextTask_eq.symm
  | request q =>
    cases h
    exact Nat.le_succ _
  | elapse d =>
    cases h
    exact Nat.le_refl _

theorem task?_aside (h : s.step? m = some s') (hn : n < s.nextTask)
    (hm : ∀ reply, m ≠ .proceed n reply) : s'.task? n = s.task? n := by
  cases m with
  | work i reply =>
    obtain ⟨_, _, _, _, _, _, ht, _⟩ := work?_eq_some h
    rw [task?, task?, ht]
  | proceed k reply =>
    have hk : n ≠ k := fun e => hm reply (by rw [e])
    obtain ⟨t, _, hr⟩ := requestStep h
    obtain ⟨_, _, ⟨t', ht, _⟩ | ht⟩ := hr.course
    · rw [task?_of_goOn ht, if_neg hk]
    · rw [task?_of_quit ht, if_neg hk]
  | request q =>
    cases h
    show Option.map _ (List.find? _ ((s.nextTask, firstTask q) :: s.tasks)) = _
    rw [List.find?_cons_of_neg (by simpa using Nat.ne_of_gt hn), task?]
  | elapse d =>
    cases h
    rfl

/-- a move that is no step of a request leaves the requests as they are -/
theorem Numbered.aside (h : s.Numbered) (ht : s'.tasks = s.tasks) (hn : s.nextTask ≤ s'.nextTask)
    (hlog : ∀ n d, Entry.caller n d ∈ s'.log ↔ Entry.caller n d ∈ s.log) : s'.Numbered where
  number := fun e he => by
    rw [ht] at he
    exact Nat.lt_of_lt_of_le (h.number e he) hn
  ahead := fun n d hd => by
    rw [hlog]
    exact h.ahead n d (Nat.le_trans hn hd)
  unanswered := fun e he a => by
    rw [ht] at he
    rw [hlog]
    exact h.unanswered e he a
  opening := fun e he ho d => by
    rw [ht] at he
    rw [hlog]
    exact h.opening e he ho d

theorem Numbered.ask (h : s.Numbered) (q : Request) : (s.ask q).Numbered where
  number := fun e he => by
    rcases List.mem_cons.1 he with rfl | he
    · exact Nat.lt_succ_self _
    · exact Nat.lt_succ_of_lt (h.number e he)
  ahead := fun n d hn => h.ahead n d (Nat.le_of_succ_le hn)
  unanswered := fun e he a => by
    rcases List.mem_cons.1 he with rfl | he
    · exact h.ahead _ _ (Nat.le_refl _)
    · exact h.unanswered e he a
  opening := fun e he ho d => by
    rcases List.mem_cons.1 he with rfl | he
    · exact h.ahead _ _ (Nat.le_refl _)
    · exact h.opening e he ho d

theorem Numbered.proceed (h : s.Numbered) (hs : s.step? (.proceed k reply) = some s') :
    s'.Numbered := by
  obtain ⟨t, ht, hr⟩ := requestStep hs
  have hk := mem_of_task? ht
  obtain ⟨ds, hlog, htasks⟩ := hr.course
  have aside {n : Nat} {d : CallerDeed} (hn : n ≠ k) (hd : Entry.caller n d ∉ s.log) :
      Entry.caller n d ∉ s'.log := by
    rwa [mem_log_aside hs fun reply' he => hn (by cases he; rfl)]
  -- what is under way now was under way before, or it is the request itself
  have hold {e : Nat × Task} (he : e ∈ s'.tasks) : e ∈ s.tasks ∧ e.1 ≠ k ∨
      e.1 = k ∧ (∀ a, CallerDeed.closed a ∉ ds) ∧
        (e.2.opens = true → ds = [] ∧ t.opens = true) := by
    rcases htasks with ⟨t', htasks, hrest⟩ | htasks <;> rw [htasks] at he
    · rcases List.mem_cons.1 he with rfl | he
      · exact Or.inr ⟨rfl, hrest⟩
      · exact Or.inl (by simpa using he)
    · exact Or.inl (by simpa using he)
  refine ⟨fun e he => ?_, fun n d hn => ?_, fun e he a => ?_, fun e he ho d => ?_⟩
  · rw [hr.nextTask_eq]
    rcases hold he with ⟨he, _⟩ | ⟨he, _⟩
    · exact h.number e he
    · rw [he]
      exact h.number _ hk
  · rw [hr.nextTask_eq] at hn
    exact aside (Nat.ne_of_gt (Nat.lt_of_lt_of_le (h.number _ hk) hn)) (h.ahead n d hn)
  · rcases hold he with ⟨he, hne⟩ | ⟨he, hd, _⟩
    · exact aside hne (h.unanswered e he a)
    · rw [he, hlog]
      simpa [hd a] using h.unanswered _ hk a
  · rcases hold he with ⟨he, hne⟩ | ⟨he, _, hopen⟩
    · exact aside hne (h.opening e he ho d)
    · obtain ⟨rfl, hto⟩ := hopen ho
      rw [he, hlog]
      exact h.opening _ hk hto d

theorem Numbered.step (h : s.Numbered) (hs : s.step? m = some s') : s'.Numbered := by
  cases m with
  | work i reply =>
    obtain ⟨_, _, _, _, _, _, ht, _⟩ := work?_eq_some hs
    exact h.aside ht (nextTask_step hs) fun _ _ => mem_log_aside hs (by simp)
  | proceed k reply => exact h.proceed hs
  | request q =>
    cases hs
    exact h.ask q
  | elapse d =>
    cases hs
    exact h.aside rfl (Nat.le_refl _) fun _ _ => .rfl

theorem Reachable.numbered (hs : s.Reachable) : s.Numbered := by
  refine hs.invariant (P := Numbered) (fun _ _ => ?_) fun h hs => h.step hs
  exact ⟨fun _ he => (nomatch he), fun _ _ _ => List.not_mem_nil, fun _ he => (nomatch he),
    fun _ he => (nomatch he)⟩

/-! ## runs that are struck -/

/-- the slot of the run holds a reason that nothing replaces -/
def Struck (s : System) (i : RunId) : Prop := ∃ a, s.slot? i = some a ∧ a.priority = 3

theorem Struck.step {i : RunId} (h : s.Struck i) (hs : s.step? m = some s') : s'.Struck i := by
  obtain ⟨a, ha, hp⟩ := h
  obtain ⟨b, hb, hab⟩ := slot_step ha hs
  exact ⟨b, hb, by rw [hab.eq_of_top hp, hp]⟩

theorem struck_of_request {i : RunId} {reason : String} {r : Run} (hr : s.runs[i]? = some r) :
    (s.onSession i fun x => x.request (.killSwitch reason)).Struck i := by
  refine ⟨AbortReason.merge r.session.abort (.killSwitch reason), ?_, ?_⟩
  · simp [slot?, onSession, hr]
  · exact Nat.le_antisymm (AbortReason.priority_le_three _)
      (AbortReason.le_priority_merge r.session.abort (.killSwitch reason))

theorem filterMap_freedBy {es : List Entry} (h : ∀ d, Entry.caller n d ∉ es) :
    es.filterMap (Entry.freedBy n) = [] := by
  rw [List.filterMap_eq_nil_iff]
  intro e he
  unfold Entry.freedBy
  split
  · rename_i k i
    rw [if_neg]
    rintro rfl
    exact h _ he
  · rfl

theorem freed_aside (h : s.step? m = some s') (hm : ∀ reply, m ≠ .proceed n reply) :
    s'.freed n = s.freed n := by
  obtain ⟨es, hlog, hes⟩ := log_step h
  have hnone (d : CallerDeed) : Entry.caller n d ∉ es := fun hd =>
    have ⟨reply, he⟩ := hes n d hd
    hm reply he
  rw [freed, hlog, List.filterMap_append, filterMap_freedBy hnone, List.nil_append, freed]

theorem runs_step {i : RunId} (hi : (s.runs[i]?).isSome = true) (h : s.step? m = some s') :
    (s'.runs[i]?).isSome = true := by
  obtain ⟨r, hr⟩ := Option.isSome_iff_exists.1 hi
  obtain ⟨r', _, hr', _⟩ := runChange h hr
  rw [hr']
  rfl

/-! ## the sweep -/

theorem broke_step (hb : s.broke n = true) (h : s.step? m = some s') : s'.broke n = true := by
  obtain ⟨es, hlog, _⟩ := log_step h
  rw [broke, hlog, List.any_append, Bool.or_eq_true]
  exact Or.inr hb

/-- how far a sweep over all these runs has come: to the runs asked to unwind, and to those whose
devices have been told to release everything -/
inductive SweepStage (all : List RunId) : Option Task → List RunId → List RunId → Prop
  | next {reason : String} {past rest : List RunId} (h : past ++ rest = all) :
      SweepStage all (some (.sweep reason rest)) past past
  | asked {reason : String} {past rest : List RunId} {i : RunId} (h : past ++ i :: rest = all) :
      SweepStage all (some (.clear reason i rest)) (past ++ [i]) past
  | told {reason : String} {past rest : List RunId} {i : RunId} (h : past ++ i :: rest = all) :
      SweepStage all (some (.clearing reason i rest)) (past ++ [i]) (past ++ [i])
  | over : SweepStage all none all all

/-- the sweep of the request has come to one of these stages -/
def SweptTo (s : System) (n : Nat) (all : List RunId) : Prop :=
  ∃ asked told, SweepStage all (s.task? n) asked told ∧ (∀ i ∈ asked, s.Struck i) ∧
    s.freed n = told.reverse

/-- the request sweeps over all these runs, or it has done so, or a release has broken down -/
structure Sweeps (s : System) (n : Nat) (all : List RunId) : Prop where
  number : n < s.nextTask
  runs : ∀ i ∈ all, (s.runs[i]?).isSome = true
  stage : s.broke n = true ∨ s.SweptTo n all

theorem SweptTo.aside {all : List RunId} (h : s.SweptTo n all) (hn : n < s.nextTask)
    (hs : s.step? m = some s') (hm : ∀ reply, m ≠ .proceed n reply) : s'.SweptTo n all := by
  obtain ⟨asked, told, hstage, hstruck, hfreed⟩ := h
  refine ⟨asked, told, ?_, fun i hi => (hstruck i hi).step hs, ?_⟩
  · rw [task?_aside hs hn hm]
    exact hstage
  · rw [freed_aside hs hm, hfreed]

theorem SweptTo.proceed {all : List RunId} (h : s.SweptTo n all)
    (hruns : ∀ i ∈ all, (s.runs[i]?).isSome = true) (hs : s.step? (.proceed n reply) = some s') :
    s'.broke n = true ∨ s'.SweptTo n all := by
  obtain ⟨asked, told, hstage, hstruck, hfreed⟩ := h
  obtain ⟨t, ht, hr⟩ := requestStep hs
  have hstay : ∀ i ∈ asked, s'.Struck i := fun i hi => (hstruck i hi).step hs
  rw [ht] at hstage
  cases hstage with
  | @next _ past rest hall =>
    cases hr with
    | swept =>
      rw [List.append_nil] at hall
      subst hall
      refine Or.inr ⟨_, _, ?_, hstay, hfreed⟩
      rw [task?_of_quit rfl, if_pos rfl]
      exact .over
    | @sweeps _ i rest =>
      obtain ⟨r, hrun⟩ := Option.isSome_iff_exists.1 (hruns i (by simp [← hall]))
      refine Or.inr ⟨asked ++ [i], asked, ?_, fun j hj => ?_, hfreed⟩
      · rw [task?_of_goOn rfl, if_pos rfl]
        exact .asked hall
      · rcases List.mem_append.1 hj with hj | hj
        · exact hstay j hj
        · obtain rfl := List.mem_singleton.1 hj
          exact struck_of_request hrun
  | @asked _ past rest i hall =>
    cases hr with
    | clears =>
      refine Or.inr ⟨told ++ [i], told ++ [i], ?_, hstay, ?_⟩
      · rw [task?_of_goOn rfl, if_pos rfl]
        exact .told hall
      · rw [List.reverse_append, ← hfreed]
        simp [freed, Entry.freedBy, goOn, note]
  | @told _ past rest i hall =>
    cases hr with
    | cleared =>
      -- an error of the device is no reason to stop
      refine Or.inr ⟨_, _, ?_, hstay, hfreed⟩
      rw [task?_of_goOn rfl, if_pos rfl]
      exact .next (by rw [← hall, List.append_assoc]; rfl)
    | clearBroke => exact Or.inl (by simp [broke, Entry.breaks, close, quit, note])

theorem Sweeps.step {all : List RunId} (h : s.Sweeps n all) (hs : s.step? m = some s') :
    s'.Sweeps n all where
  number := Nat.lt_of_lt_of_le h.number (nextTask_step hs)
  runs := fun i hi => runs_step (h.runs i hi) hs
  stage := by
    rcases h.stage with hb | hstage
    · exact Or.inl (broke_step hb hs)
    · by_cases hm : ∃ reply, m = .proceed n reply
      · obtain ⟨reply, rfl⟩ := hm
        exact hstage.proceed h.runs hs
      · exact Or.inr (hstage.aside h.number hs fun reply he => hm ⟨reply, he⟩)

end

end System

end ScriptGuard
