import ScriptGuard.Proofs.Permission

/-!
# Requests that might as well not have been made

A history in which some requests are marked, and the same history without them.  The other requests
are renumbered, since a request is known by its number.

* `renumber D n`        the number of a request once those marked by `D` are not counted;
* `System.erase D s`    the system without what the marked requests left behind;
* `eraseMoves D`        the moves without those of the marked requests;
* `System.Inserts`      the marked requests ask for inspection of autonomous runs;
* `erase_play`          taking such requests out of a history changes nothing else.
-/

namespace ScriptGuard

/-! ## numbers, entries and moves without the marked requests -/

section
variable (D : Nat → Bool)

/-- the number of a request once the marked ones are not counted -/
def renumber : Nat → Nat
  | 0 => 0
  | n + 1 => if D n then renumber n else renumber n + 1

/-- an entry of the log, unless a marked request has made it -/
def Entry.erase? : Entry → Option Entry
  | .worker i d => some (.worker i d)
  | .caller n d => if D n then none else some (.caller (renumber D n) d)

/-- a request under way, unless it is marked -/
def eraseTask? (e : Nat × Task) : Option (Nat × Task) :=
  if D e.1 then none else some (renumber D e.1, e.2)

/-- a move, unless it is one of a marked request; `k` is the number a new request gets -/
def Move.erase? (k : Nat) : Move → Option Move
  | .request q => if D k then none else some (.request q)
  | .proceed n reply => if D n then none else some (.proceed (renumber D n) reply)
  | m => some m

/-- how many requests begin with the move -/
def Move.opens : Move → Nat
  | .request _ => 1
  | _ => 0

/-- the moves without those of the marked requests -/
def eraseMoves : Nat → List Move → List Move
  | _, [] => []
  | k, m :: ms => (m.erase? D k).toList ++ eraseMoves (k + m.opens) ms

/-- the system without what the marked requests left behind -/
def System.erase (s : System) : System :=
  { s with
    tasks := s.tasks.filterMap (eraseTask? D)
    nextTask := renumber D s.nextTask
    log := s.log.filterMap (Entry.erase? D) }

end

section
variable {D : Nat → Bool} {n k : Nat}

theorem renumber_succ_of_marked (hn : D n = true) : renumber D (n + 1) = renumber D n := by
  rw [renumber, if_pos hn]

theorem renumber_succ_of_not_marked (hn : D n = false) :
    renumber D (n + 1) = renumber D n + 1 := by
  rw [renumber, if_neg (by simp [hn])]

theorem renumber_mono (h : n ≤ k) : renumber D n ≤ renumber D k := by
  induction h with
  | refl => exact Nat.le_refl _
  | @step k _ ih =>
    have hle : renumber D k ≤ renumber D (k + 1) := by
      rw [renumber]
      split
      · exact Nat.le_refl _
      · exact Nat.le_succ _
    exact Nat.le_trans ih hle

theorem renumber_lt (hn : D n = false) (h : n < k) : renumber D n < renumber D k := by
  have hle : renumber D (n + 1) ≤ renumber D k := renumber_mono h
  rw [renumber_succ_of_not_marked hn] at hle
  exact hle

theorem renumber_inj (hn : D n = false) (hk : D k = false) :
    renumber D n = renumber D k ↔ n = k := by
  refine ⟨fun h => ?_, congrArg _⟩
  rcases Nat.lt_trichotomy n k with hlt | heq | hlt
  · exact absurd h (Nat.ne_of_lt (renumber_lt hn hlt))
  · exact heq
  · exact absurd h.symm (Nat.ne_of_lt (renumber_lt hk hlt))

end

namespace System

/-! ## how the parts of a step commute with taking requests out -/

section
variable {D : Nat → Bool} {n : Nat} (s : System) (i : RunId) (t : Task)

theorem erase_note (hn : D n = false) (d : CallerDeed) :
    (s.note n d).erase D = (s.erase D).note (renumber D n) d := by
  have he : Entry.erase? D (.caller n d) = some (.caller (renumber D n) d) := by
    simp [Entry.erase?, hn]
  unfold note erase
  rw [List.filterMap_cons_some he]

theorem eraseTask?_filter (hn : D n = false) (tasks : List (Nat × Task)) :
    (tasks.filter fun e => e.1 ≠ n).filterMap (eraseTask? D)
      = (tasks.filterMap (eraseTask? D)).filter fun e => e.1 ≠ renumber D n := by
  rw [List.filter_filterMap, List.filterMap_filter]
  congr 1
  funext e
  unfold eraseTask?
  cases he : D e.1 with
  | true => simp
  | false =>
    have hinj := renumber_inj he hn
    by_cases h : e.1 = n <;> simp_all [Option.filter]

theorem eraseTask?_filter_of_marked (hn : D n = true) (tasks : List (Nat × Task)) :
    (tasks.filter fun e => e.1 ≠ n).filterMap (eraseTask? D)
      = tasks.filterMap (eraseTask? D) := by
  rw [List.filterMap_filter]
  congr 1
  funext e
  by_cases h : e.1 = n
  · simp [eraseTask?, h, hn]
  · simp [h]

theorem erase_quit (hn : D n = false) :
    (s.quit n).erase D = (s.erase D).quit (renumber D n) := by
  unfold quit erase
  rw [eraseTask?_filter hn]

theorem erase_close (hn : D n = false) (a : Answer) :
    (s.close n a).erase D = (s.erase D).close (renumber D n) a := by
  rw [close, erase_note _ hn, erase_quit _ hn]
  rfl

theorem erase_goOn (hn : D n = false) :
    (s.goOn n t).erase D = (s.erase D).goOn (renumber D n) t := by
  have he : eraseTask? D (n, t) = some (renumber D n, t) := by simp [eraseTask?, hn]
  unfold goOn erase
  rw [List.filterMap_cons_some he, eraseTask?_filter hn]

theorem erase_command (c : Command) :
    (s.command i c).map (fun x => (x.1, x.2.erase D)) = (s.erase D).command i c := by
  unfold command
  rw [Option.map_map]
  rfl

theorem erase_record (id : String) (d : Deed) :
    (s.record i id d).erase D = (s.erase D).record i id d := by
  cases d <;> rfl

theorem erase_foldl_record (id : String) (ds : List Deed) :
    (ds.foldl (fun s d => s.record i id d) s).erase D
      = ds.foldl (fun s d => s.record i id d) (s.erase D) := by
  induction ds generalizing s with
  | nil => rfl
  | cons d ds ih => rw [List.foldl_cons, ih, erase_record, List.foldl_cons]

theorem erase_applyTask (hn : D n = false) (c : Command) :
    (s.applyTask n i c).map (erase D) = (s.erase D).applyTask (renumber D n) i c := by
  unfold applyTask
  rw [← erase_command, Option.map_map, Option.map_map]
  congr 1
  funext ⟨reply, s'⟩
  cases reply with
  | applied shown =>
    cases shown with
    | none => exact erase_close _ hn _
    | some state => exact erase_goOn _ _ hn
  | _ => exact erase_close _ hn _

theorem erase_cutTask (hn : D n = false) (id : String) :
    (s.cutTask n id).map (erase D) = (s.erase D).cutTask (renumber D n) id := by
  unfold cutTask
  have ha : (s.erase D).active? id = s.active? id := rfl
  rw [ha]
  cases s.active? id with
  | none => exact congrArg some (erase_close _ hn _)
  | some run =>
    simp only [← erase_command, Option.map_map]
    congr 1
    funext ⟨reply, s'⟩
    cases reply with
    | refused state => exact erase_close _ hn _
    | _ => exact erase_goOn _ _ hn

theorem erase_vetTask (hn : D n = false) (script : Script) (options : Options) :
    (s.vetTask n script options).erase D
      = (s.erase D).vetTask (renumber D n) script options := by
  unfold vetTask
  have hk : (s.erase D).killSwitch = s.killSwitch := rfl
  rw [hk]
  cases options.check? with
  | error e => exact erase_close _ hn _
  | ok o =>
    dsimp only
    split
    · exact erase_close _ hn _
    · exact erase_goOn _ _ hn

theorem erase_enrollTask (hn : D n = false) (script : Script) (options : Options)
    (total : Option Nat) :
    (s.enrollTask n script options total).erase D
      = (s.erase D).enrollTask (renumber D n) script options total := by
  unfold enrollTask
  have ha : (s.erase D).active? script.id = s.active? script.id := rfl
  rw [ha]
  cases s.active? script.id with
  | some run => exact erase_close _ hn _
  | none => exact erase_goOn _ _ hn

theorem erase_look (hn : D n = false) (id : String) (c : Command) :
    (s.taskStep? n (.look id c) .go).map (erase D)
      = (s.erase D).taskStep? (renumber D n) (.look id c) .go := by
  have ha : (s.erase D).active? id = s.active? id := rfl
  simp only [taskStep?, ha]
  cases s.active? id with
  | none => exact congrArg some (erase_close _ hn _)
  | some run => exact congrArg some (erase_goOn _ _ hn)

theorem erase_engage (hn : D n = false) (reason : String) :
    (s.taskStep? n (.engage reason) .go).map (erase D)
      = (s.erase D).taskStep? (renumber D n) (.engage reason) .go := by
  have hk : (s.erase D).killSwitch = s.killSwitch := rfl
  simp only [taskStep?, hk]
  rcases s.killSwitch.engage reason with ⟨_ | _, k⟩
  · exact congrArg some (erase_close _ hn _)
  · exact congrArg some (erase_goOn _ _ hn)

theorem erase_consult (hn : D n = false) (q : Question) :
    (s.taskStep? n (.consult q) .go).map (erase D)
      = (s.erase D).taskStep? (renumber D n) (.consult q) .go := by
  have ha : (s.erase D).approvals = s.approvals := rfl
  simp only [taskStep?, ha]
  split
  · exact congrArg some (erase_close _ hn _)
  · exact congrArg some (erase_goOn _ _ hn)

theorem erase_seek (hn : D n = false) (q : Question) :
    (s.taskStep? n (.seek q) .go).map (erase D)
      = (s.erase D).taskStep? (renumber D n) (.seek q) .go := by
  have hh : (s.erase D).handler = s.handler := rfl
  simp only [taskStep?, hh]
  split
  · exact congrArg some ((erase_goOn _ _ hn).trans (by rw [erase_note _ hn]))
  · exact congrArg some (erase_close _ hn _)

/-- a step of a request that waits for nothing -/
theorem erase_go (hn : D n = false) :
    (s.taskStep? n t .go).map (erase D) = (s.erase D).taskStep? (renumber D n) t .go := by
  have goes (s : System) (t : Task) := congrArg some (erase_goOn s t hn)
  have closes (s : System) (a : Answer) := congrArg some (erase_close s hn a)
  have notes (s : System) (d : CallerDeed) := erase_note s hn d
  cases t with
  | look id c => exact erase_look s hn id c
  | apply run c => exact erase_applyTask s run hn c
  | cut id => exact erase_cutTask s hn id
  | engage reason => exact erase_engage s hn reason
  | consult q => exact erase_consult s hn q
  | seek q => exact erase_seek s hn q
  | vet script options => exact congrArg some (erase_vetTask s hn script options)
  | enroll script options total =>
    exact congrArg some (erase_enrollTask s hn script options total)
  | announce run state =>
    refine (closes _ _).trans ?_
    rw [notes]
    rfl
  | free | clear | herald =>
    refine (goes _ _).trans ?_
    rw [notes]
    rfl
  | sweep reason runs =>
    cases runs with
    | nil => exact closes _ _
    | cons run runs => exact goes _ _
  | disengage | approve | grant | install | spawn => exact closes _ _
  | freeing | clearing | asking | provide => rfl
  | _ => exact goes _ _

theorem erase_device (hn : D n = false) (x : DeviceReply) :
    (s.taskStep? n t (.device x)).map (erase D)
      = (s.erase D).taskStep? (renumber D n) t (.device x) := by
  cases t with
  | freeing run =>
    cases x with
    | brokeDown => exact congrArg some ((erase_quit _ hn).trans (by rw [erase_note _ hn]))
    | _ => exact congrArg some ((erase_close _ hn _).trans (by rw [erase_note _ hn]))
  | clearing reason run runs =>
    cases x with
    | brokeDown => exact congrArg some ((erase_close _ hn _).trans (by rw [erase_note _ hn]))
    | _ => exact congrArg some ((erase_goOn _ _ hn).trans (by rw [erase_note _ hn]))
  | sweep reason runs => cases runs <;> rfl
  | _ => rfl

theorem erase_verdict (hn : D n = false) (v : Verdict) :
    (s.taskStep? n t (.verdict v)).map (erase D)
      = (s.erase D).taskStep? (renumber D n) t (.verdict v) := by
  cases t with
  | asking q =>
    simp only [taskStep?]
    split
    · exact congrArg some ((erase_goOn _ _ hn).trans (by rw [erase_note _ hn]))
    · exact congrArg some ((erase_close _ hn _).trans (by rw [erase_note _ hn]))
  | sweep reason runs => cases runs <;> rfl
  | _ => rfl

theorem erase_provision (hn : D n = false) (p : Provision) :
    (s.taskStep? n t (.provision p)).map (erase D)
      = (s.erase D).taskStep? (renumber D n) t (.provision p) := by
  cases t with
  | provide script options =>
    cases p with
    | error e => exact congrArg some (erase_close _ hn _)
    | ok u => exact congrArg some (erase_goOn _ _ hn)
  | sweep reason runs => cases runs <;> rfl
  | _ => rfl

/-- a request that is not marked does the same without those that are -/
theorem erase_taskStep (hn : D n = false) (reply : CallerReply) :
    (s.taskStep? n t reply).map (erase D) = (s.erase D).taskStep? (renumber D n) t reply := by
  cases reply with
  | go => exact erase_go s t hn
  | device x => exact erase_device s t hn x
  | verdict v => exact erase_verdict s t hn v
  | provision p => exact erase_provision s t hn p

theorem erase_task? (hn : D n = false) : (s.erase D).task? (renumber D n) = s.task? n := by
  unfold task?
  show ((s.tasks.filterMap (eraseTask? D)).find? _).map _ = _
  induction s.tasks with
  | nil => rfl
  | cons e tasks ih =>
    cases he : D e.1 with
    | true =>
      have hne : e.1 ≠ n := fun h => by rw [h, hn] at he; cases he
      have hnone : eraseTask? D e = none := by simp [eraseTask?, he]
      rw [List.filterMap_cons_none hnone, List.find?_cons_of_neg (by simpa using hne), ih]
    | false =>
      have hsome : eraseTask? D e = some (renumber D e.1, e.2) := by simp [eraseTask?, he]
      rw [List.filterMap_cons_some hsome]
      by_cases h : e.1 = n
      · rw [List.find?_cons_of_pos (by simp [h]), List.find?_cons_of_pos (by simp [h])]
        rfl
      · have hne : renumber D e.1 ≠ renumber D n := fun hr => h ((renumber_inj he hn).1 hr)
        rw [List.find?_cons_of_neg (by simpa using hne),
          List.find?_cons_of_neg (by simpa using h), ih]

theorem step?_of_task?_none {reply : CallerReply} (h : s.task? n = none) :
    s.step? (.proceed n reply) = none := by
  show s.proceed? n reply = none
  rw [proceed?, Option.map_eq_none_iff.1 h]

theorem erase_work (reply : Reply) :
    (s.work? i reply).map (erase D) = (s.erase D).work? i reply := by
  have hr : (s.erase D).runs = s.runs := rfl
  have hv : (s.erase D).view = s.view := rfl
  unfold work?
  rw [hr, hv]
  cases s.runs[i]? with
  | none => rfl
  | some r =>
    dsimp only
    cases r.advance s.view reply with
    | none => rfl
    | some x => exact congrArg some (erase_foldl_record _ _ _ _)

theorem erase_ask (hn : D s.nextTask = false) (q : Request) :
    (s.ask q).erase D = (s.erase D).ask q := by
  have he : eraseTask? D (s.nextTask, firstTask q) = some (renumber D s.nextTask, firstTask q) := by
    simp [eraseTask?, hn]
  unfold ask erase
  rw [List.filterMap_cons_some he, renumber_succ_of_not_marked hn]

/-- **A move that is not one of a marked request does the same without those.** -/
theorem erase_step {m m' : Move} (hm : m.erase? D s.nextTask = some m') :
    (s.step? m).map (erase D) = (s.erase D).step? m' := by
  cases m with
  | work i reply =>
    cases hm
    exact erase_work s i reply
  | elapse d =>
    cases hm
    rfl
  | request q =>
    cases hn : D s.nextTask with
    | true => simp [Move.erase?, hn] at hm
    | false =>
      simp only [Move.erase?, hn] at hm
      cases hm
      exact congrArg some (erase_ask s hn q)
  | proceed n reply =>
    cases hn : D n with
    | true => simp [Move.erase?, hn] at hm
    | false =>
      simp only [Move.erase?, hn] at hm
      cases hm
      have ht := erase_task? (D := D) s hn
      cases hs : s.task? n with
      | none =>
        rw [hs] at ht
        rw [step?_of_task?_none s hs, step?_of_task?_none _ ht]
        rfl
      | some t =>
        rw [hs] at ht
        rw [step?_of_task? hs, step?_of_task? ht, erase_taskStep s t hn reply]

end

/-! ## requests to inspect an autonomous run -/

/-- the run is autonomous -/
def Autonomous (s : System) (i : RunId) : Prop :=
  ∃ r, s.runs[i]? = some r ∧ r.session.mode = .autonomous

/-- with the move somebody asks to inspect a run; or such a request goes on, and where it looks for
the run it finds an autonomous one -/
def inspects (s : System) : Move → Bool
  | .request (.control _ c) => c.needsInteractive
  | .proceed n .go =>
    match s.task? n with
    | some (.look id _) => (s.session? id).any fun x => x.mode == .autonomous
    | some (.apply _ _) => true
    | _ => false
  | _ => false

/-- the marked requests ask for inspection of autonomous runs -/
def Inserts (D : Nat → Bool) (s : System) (ms : List Move) : Prop :=
  s.Without (fun t m => (m.erase? D t.nextTask).isNone = true ∧ t.inspects m = false) ms

instance decidableWithout {K : System → Move → Prop} [∀ s m, Decidable (K s m)] :
    (s : System) → (ms : List Move) → Decidable (s.Without K ms)
  | _, [] => isTrue trivial
  | s, m :: ms =>
    match h : s.step? m with
    | none => decidable_of_iff (¬ K s m) ⟨fun hk => ⟨hk, fun s' h' => by simp [h] at h'⟩, And.left⟩
    | some s₁ =>
      have := decidableWithout (K := K) s₁ ms
      decidable_of_iff (¬ K s m ∧ s₁.Without K ms)
        ⟨fun hk => ⟨hk.1, fun s' h' => by cases h.symm.trans h'; exact hk.2⟩,
          fun hk => ⟨hk.1, hk.2 s₁ h⟩⟩

/-- where a request to inspect an autonomous run stands until it is answered -/
def Inspecting (s : System) : Task → Prop
  | .look _ c => c.needsInteractive = true
  | .apply i c => c.needsInteractive = true ∧ s.Autonomous i
  | _ => False

/-- what becomes of the marked requests: they are answered with no, and do nothing else -/
structure Ignored (D : Nat → Bool) (s : System) : Prop where
  stands : ∀ n t, D n = true → s.task? n = some t → s.Inspecting t
  said : ∀ n d, D n = true → Entry.caller n d ∈ s.log → d = .closed (.said false)
  answered : ∀ n, D n = true → n < s.nextTask →
    (s.task? n).isSome = true ∨ Entry.caller n (.closed (.said false)) ∈ s.log

section
variable {D : Nat → Bool} {s s' : System} {m : Move} {n : Nat} {t : Task} {i : RunId}
  {reply : CallerReply}

theorem Autonomous.step (h : s.Autonomous i) (hs : s.step? m = some s') : s'.Autonomous i := by
  obtain ⟨r, hr, hm⟩ := h
  obtain ⟨r', _, hr', _, hc⟩ := runChange hs hr
  refine ⟨r', hr', ?_⟩
  rw [Session.mode, hc.given_eq.2]
  exact hm

theorem control_of_autonomous {x : Session} {c : Command} (hx : x.mode = .autonomous)
    (hc : c.needsInteractive = true) : x.control c = (.ignored, x) := by
  simp [Session.control, hx, hc, ControlMode.isInteractive]

theorem onSession_self {r : Run} (hr : s.runs[i]? = some r) :
    (s.onSession i fun _ => r.session) = s := by
  have hruns : (s.runs.modify i fun r' => { r' with session := r.session }) = s.runs := by
    refine List.ext_getElem? fun k => ?_
    rw [List.getElem?_modify]
    by_cases hk : i = k
    · subst hk
      simp [hr]
    · simp [hk]
  unfold onSession
  rw [hruns]

/-- **A request to inspect an autonomous run goes on to its run, and is then answered with no.** -/
theorem step?_of_inspecting (ht : s.task? n = some t) (hi : s.Inspecting t)
    (hm : s.inspects (.proceed n reply) = true) :
    (∃ j c, reply = .go ∧ s.step? (.proceed n reply) = some (s.goOn n (.apply j c)) ∧
      s.Inspecting (.apply j c)) ∨
      reply = .go ∧ s.step? (.proceed n reply) = some (s.close n (.said false)) := by
  cases reply with
  | go =>
    cases t with
    | look id c =>
      left
      simp only [inspects, ht, session?] at hm
      cases ha : s.active? id with
      | none => simp [ha] at hm
      | some j =>
        cases hr : s.runs[j]? with
        | none => simp [ha, hr] at hm
        | some r =>
          have hauto : r.session.mode = .autonomous := by simpa [ha, hr] using hm
          refine ⟨j, c, rfl, ?_, hi, r, hr, hauto⟩
          rw [step?_of_task? ht, taskStep?, ha]
    | apply j c =>
      right
      obtain ⟨hc, r, hr, hauto⟩ := hi
      have hctl := control_of_autonomous hauto hc
      refine ⟨rfl, ?_⟩
      rw [step?_of_task? ht, taskStep?, applyTask, command, hr]
      simp only [Option.map_some, hctl, onSession_self hr]
    | _ => exact hi.elim
  | _ => cases hm

theorem Inspecting.step (h : s.Inspecting t) (hs : s.step? m = some s') : s'.Inspecting t := by
  cases t with
  | look id c => exact h
  | apply j c => exact ⟨h.1, h.2.step hs⟩
  | _ => exact h.elim

theorem nextTask_opens (hs : s.step? m = some s') : s'.nextTask = s.nextTask + m.opens := by
  cases m with
  | work j reply =>
    obtain ⟨_, _, ds, _, _, rfl⟩ := work?_eq_foldl hs
    exact foldl_record_nextTask ..
  | proceed k reply =>
    obtain ⟨t, _, hr⟩ := requestStep hs
    exact hr.nextTask_eq
  | request q => cases hs; rfl
  | elapse d => cases hs; rfl

/-- a step of a marked request leads on to its run or to its answer -/
theorem Ignored.proceed (h : s.Ignored D) (hn : D n = true)
    (hm : s.inspects (.proceed n reply) = true) (hs : s.step? (.proceed n reply) = some s') :
    (∃ j c, s' = s.goOn n (.apply j c) ∧ s.Inspecting (.apply j c)) ∨
      s' = s.close n (.said false) := by
  obtain ⟨t, ht, _⟩ := requestStep hs
  rcases step?_of_inspecting ht (h.stands n t hn ht) hm with ⟨j, c, _, hs', hi⟩ | ⟨_, hs'⟩
  · rw [hs] at hs'
    exact Or.inl ⟨j, c, Option.some.inj hs', hi⟩
  · rw [hs] at hs'
    exact Or.inr (Option.some.inj hs')

theorem Ignored.step (h : s.Ignored D)
    (hm : (m.erase? D s.nextTask).isNone = true → s.inspects m = true)
    (hs : s.step? m = some s') : s'.Ignored D := by
  -- a step of a marked request is one of the two kinds
  have own {n : Nat} {reply : CallerReply} (hn : D n = true) (he : m = .proceed n reply) :
      (∃ j c, s' = s.goOn n (.apply j c) ∧ s.Inspecting (.apply j c)) ∨
        s' = s.close n (.said false) := by
    subst he
    exact h.proceed hn (hm (by simp [Move.erase?, hn])) hs
  refine ⟨fun n t hn ht => ?_, fun n d hn hd => ?_, fun n hn hlt => ?_⟩
  · rcases task?_step hs ht with ⟨ht, _⟩ | ⟨q, hq, hnew, rfl⟩ | ⟨_, reply, he, _, _⟩
    · exact (h.stands n t hn ht).step hs
    · have hins := hm (by simp [hq, Move.erase?, ← hnew, hn])
      rw [hq] at hins
      cases q with
      | control id c =>
        cases c with
        | pause | resume | step | stop => exact hins
        | terminate => cases hins
      | _ => cases hins
    · rcases own hn he with ⟨j, c, rfl, hi⟩ | rfl
      · rw [task?_goOn] at ht
        cases ht
        exact hi.step hs
      · rw [task?_close] at ht
        cases ht
  · by_cases he : ∃ reply, m = .proceed n reply
    · obtain ⟨reply, he⟩ := he
      rcases own hn he with ⟨j, c, rfl, _⟩ | rfl
      · exact h.said n d hn hd
      · rcases List.mem_cons.1 hd with hd | hd
        · cases hd
          rfl
        · exact h.said n d hn hd
    · exact h.said n d hn ((mem_log_aside hs fun reply e => he ⟨reply, e⟩).1 hd)
  · by_cases he : ∃ reply, m = .proceed n reply
    · obtain ⟨reply, he⟩ := he
      rcases own hn he with ⟨j, c, rfl, _⟩ | rfl
      · exact Or.inl (by rw [task?_goOn]; rfl)
      · exact Or.inr List.mem_cons_self
    · by_cases hold : n < s.nextTask
      · have haside : ∀ reply, m ≠ .proceed n reply := fun reply e => he ⟨reply, e⟩
        rw [task?_aside hs hold haside, mem_log_aside hs haside]
        exact h.answered n hn hold
      · rw [nextTask_opens hs] at hlt
        cases m with
        | request q =>
          have heq : n = s.nextTask :=
            Nat.le_antisymm (Nat.le_of_lt_succ hlt) (Nat.le_of_not_lt hold)
          cases hs
          left
          simp [task?, ask, heq]
        | _ => exact absurd hlt hold

theorem erase_goOn_of_marked (hn : D n = true) (t : Task) : (s.goOn n t).erase D = s.erase D := by
  have he : eraseTask? D (n, t) = none := by simp [eraseTask?, hn]
  unfold goOn erase
  rw [List.filterMap_cons_none he, eraseTask?_filter_of_marked hn]

theorem erase_close_of_marked (hn : D n = true) (a : Answer) :
    (s.close n a).erase D = s.erase D := by
  have he : Entry.erase? D (.caller n (.closed a)) = none := by simp [Entry.erase?, hn]
  unfold close quit note erase
  rw [List.filterMap_cons_none he, eraseTask?_filter_of_marked hn]

theorem erase_ask_of_marked (hn : D s.nextTask = true) (q : Request) :
    (s.ask q).erase D = s.erase D := by
  have he : eraseTask? D (s.nextTask, firstTask q) = none := by simp [eraseTask?, hn]
  unfold ask erase
  rw [List.filterMap_cons_none he, renumber_succ_of_marked hn]

/-- **A move of a marked request is possible, and leaves nothing behind but what belongs to the
request.** -/
theorem erase_step_of_marked (h : s.Ignored D) (hm : m.erase? D s.nextTask = none)
    (hi : s.inspects m = true) : ∃ s', s.step? m = some s' ∧ s'.erase D = s.erase D := by
  cases m with
  | work j reply => cases hm
  | elapse d => cases hm
  | request q =>
    cases hn : D s.nextTask with
    | true => exact ⟨_, rfl, erase_ask_of_marked hn q⟩
    | false => simp [Move.erase?, hn] at hm
  | proceed n reply =>
    cases hn : D n with
    | false => simp [Move.erase?, hn] at hm
    | true =>
      cases ht : s.task? n with
      | none =>
        cases reply with
        | go => simp [inspects, ht] at hi
        | _ => cases hi
      | some t =>
        rcases step?_of_inspecting ht (h.stands n t hn ht) hi with ⟨j, c, _, hs, _⟩ | ⟨_, hs⟩
        · exact ⟨_, hs, erase_goOn_of_marked hn _⟩
        · exact ⟨_, hs, erase_close_of_marked hn _⟩

/-- **Taking requests to inspect autonomous runs out of a history changes nothing else.** -/
theorem erase_play {ms : List Move} (h : s.Ignored D) (hi : s.Inserts D ms) :
    (s.play? ms).map (erase D) = (s.erase D).play? (eraseMoves D s.nextTask ms) ∧
      ∀ s', s.play? ms = some s' → s'.Ignored D := by
  induction ms generalizing s with
  | nil => exact ⟨rfl, fun s' hs' => by cases hs'; exact h⟩
  | cons m ms ih =>
    obtain ⟨hm, hrest⟩ := hi
    have hins : (m.erase? D s.nextTask).isNone = true → s.inspects m = true := fun hn => by
      cases hb : s.inspects m with
      | true => rfl
      | false => exact absurd ⟨hn, hb⟩ hm
    cases hs : s.step? m with
    | none =>
      cases he : m.erase? D s.nextTask with
      | none =>
        obtain ⟨s₁, h₁, _⟩ := erase_step_of_marked h he (hins (by rw [he]; rfl))
        rw [hs] at h₁
        cases h₁
      | some m' =>
        have hstep := erase_step s he
        rw [hs] at hstep
        refine ⟨?_, fun s' hs' => by rw [play?_cons, hs] at hs'; cases hs'⟩
        simp only [play?_cons, hs, eraseMoves, he, ← hstep, Option.toList_some, List.cons_append,
          Option.bind_none, Option.map_none]
    | some s₁ =>
      obtain ⟨hplay, hign⟩ := ih (h.step hins hs) (hrest s₁ hs)
      rw [nextTask_opens hs] at hplay
      refine ⟨?_, fun s' hs' => hign s' (by rwa [play?_cons, hs] at hs')⟩
      rw [play?_cons, hs, Option.bind_some, hplay, eraseMoves]
      cases he : m.erase? D s.nextTask with
      | none =>
        obtain ⟨s₂, h₂, heq⟩ := erase_step_of_marked h he (hins (by rw [he]; rfl))
        rw [hs] at h₂
        cases h₂
        rw [heq]
        rfl
      | some m' =>
        have hstep := erase_step s he
        rw [hs] at hstep
        rw [Option.toList_some, List.cons_append, play?_cons, ← hstep]
        rfl

end

end System

end ScriptGuard
