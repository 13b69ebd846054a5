import Mathlib.Data.List.Induction
import ScriptGuard.Proofs.Isolation

/-!
# A script by itself

What concerns one script in a service, without the runs and the requests of the others; those that
remain are renumbered.  This part of a service is a service again.  It moves with the moves that are
addressed to the script and with the time, and apart from them a few things happen to it that come
from outside.

* `Focus`               a script, and which of the runs and of the requests are not its own;
* `System.only`         what concerns the script;
* `Occurrence`          a move of its own, or something from outside;
* `System.Sees`         which occurrences a move of the whole service is to the script;
* `isolated_of_play`    the result: what others do comes to the script as categories that become
                        approved, and in no other way.
-/

namespace ScriptGuard

/-! ## those of a list that have a property, and their places -/

section
variable {α : Type} {D : Nat → Bool} {p : α → Bool} {xs ys : List α} {i : Nat} {x y : α}

/-- `D` marks the places of those that do not have the property -/
def Marks (D : Nat → Bool) (p : α → Bool) (xs : List α) : Prop :=
  ∀ i x, xs[i]? = some x → D i = !p x

theorem Marks.left (h : Marks D p (xs ++ ys)) : Marks D p xs := by
  intro i x hx
  have hlt : i < xs.length := (List.getElem?_eq_some_iff.1 hx).1
  exact h i x (by rw [List.getElem?_append_left hlt, hx])

theorem Marks.length_filter (h : Marks D p xs) : (xs.filter p).length = renumber D xs.length := by
  induction xs using List.reverseRecOn with
  | nil => rfl
  | append_singleton xs x ih =>
    have hx : D xs.length = !p x := h _ _ List.getElem?_concat_length
    rw [List.filter_append, List.length_append, ih h.left, List.length_append,
      List.length_singleton, renumber, hx]
    cases hp : p x <;> simp [hp]

theorem eq_append_of_getElem? (hx : xs[i]? = some x) :
    ∃ before after, xs = before ++ x :: after ∧ before.length = i := by
  obtain ⟨hlt, rfl⟩ := List.getElem?_eq_some_iff.1 hx
  refine ⟨xs.take i, xs.drop (i + 1), ?_, ?_⟩
  · rw [List.getElem_cons_drop, List.take_append_drop]
  · rw [List.length_take, Nat.min_eq_left (Nat.le_of_lt hlt)]

theorem Marks.getElem?_filter (h : Marks D p xs) (hx : xs[i]? = some x) (hp : p x = true) :
    (xs.filter p)[renumber D i]? = some x := by
  obtain ⟨before, after, rfl, rfl⟩ := eq_append_of_getElem? hx
  rw [← h.left.length_filter, List.filter_append, List.filter_cons_of_pos hp,
    List.getElem?_append_right (Nat.le_refl _), Nat.sub_self, List.getElem?_cons_zero]

theorem Marks.filter_set (h : Marks D p xs) (hx : xs[i]? = some x) (hp : p x = true)
    (hy : p y = true) : (xs.set i y).filter p = (xs.filter p).set (renumber D i) y := by
  obtain ⟨before, after, rfl, rfl⟩ := eq_append_of_getElem? hx
  rw [← h.left.length_filter, List.filter_append, List.filter_cons_of_pos hp,
    List.set_append_right _ _ (Nat.le_refl _), List.set_append_right _ _ (Nat.le_refl _),
    Nat.sub_self, Nat.sub_self, List.set_cons_zero, List.set_cons_zero, List.filter_append,
    List.filter_cons_of_pos hy]

theorem filter_set_of_not (hx : xs[i]? = some x) (hp : p x = false) (hy : p y = false) :
    (xs.set i y).filter p = xs.filter p := by
  obtain ⟨before, after, rfl, rfl⟩ := eq_append_of_getElem? hx
  rw [List.set_append_right _ _ (Nat.le_refl _), Nat.sub_self, List.set_cons_zero,
    List.filter_append, List.filter_append, List.filter_cons_of_neg (by simp [hy]),
    List.filter_cons_of_neg (by simp [hp])]

/-- two lists have the same in the same places, as far as the property goes -/
theorem filter_eq_of_getElem?
    (h : ∀ (i : Nat) (x : α), p x = true → (xs[i]? = some x ↔ ys[i]? = some x)) :
    xs.filter p = ys.filter p := by
  induction xs generalizing ys with
  | nil =>
    rw [List.filter_nil, eq_comm, List.filter_eq_nil_iff]
    intro y hy hp
    obtain ⟨i, hi⟩ := List.mem_iff_getElem?.1 hy
    exact nomatch (h i y hp).2 hi
  | cons x xs ih =>
    cases ys with
    | nil =>
      rw [List.filter_nil, List.filter_eq_nil_iff]
      intro z hz hp
      obtain ⟨i, hi⟩ := List.mem_iff_getElem?.1 hz
      exact nomatch (h i z hp).1 hi
    | cons y ys =>
      have htail : xs.filter p = ys.filter p := ih fun i z hz => h (i + 1) z hz
      cases hx : p x with
      | true =>
        obtain rfl : y = x := Option.some.inj ((h 0 x hx).1 rfl)
        rw [List.filter_cons_of_pos hx, List.filter_cons_of_pos hx, htail]
      | false =>
        have hy : p y = false := by
          by_contra hy
          obtain rfl : x = y := Option.some.inj ((h 0 y (by simpa using hy)).2 rfl)
          exact hy hx
        rw [List.filter_cons_of_neg (by simp [hx]), List.filter_cons_of_neg (by simp [hy]), htail]

end

/-! ## what concerns a script -/

/-- a script, with marks at the runs and at the requests that are not its own -/
structure Focus where
  script : String
  otherRun : RunId → Bool
  otherTask : Nat → Bool

def Focus.run (x : Focus) (i : RunId) : RunId := renumber x.otherRun i

def Focus.task (x : Focus) (n : Nat) : Nat := renumber x.otherTask n

def Focus.move (x : Focus) : Move → Move
  | .work i reply => .work (x.run i) reply
  | .proceed n reply => .proceed (x.task n) reply
  | m => m

def Task.onRun (f : RunId → RunId) : Task → Task
  | .apply run c => .apply (f run) c
  | .announce run state => .announce (f run) state
  | .free run => .free (f run)
  | .freeing run => .freeing (f run)
  | .launch run => .launch (f run)
  | .herald run => .herald (f run)
  | .spawn run => .spawn (f run)
  | t => t

def Answer.onRun (f : RunId → RunId) : Answer → Answer
  | .started run => .started (f run)
  | a => a

def onlyTask? (x : Focus) (e : Nat × Task) : Option (Nat × Task) :=
  if x.otherTask e.1 then none else some (x.task e.1, e.2.onRun x.run)

/-- an entry of the log, if it is about a run of the script or answers a request for it -/
def Entry.only? (x : Focus) : Entry → Option Entry
  | .worker i d => if x.otherRun i then none else some (.worker (x.run i) d)
  | .caller n (.run i d) =>
    if x.otherRun i then none else some (.caller (x.task n) (.run (x.run i) d))
  | .caller n (.closed a) =>
    if x.otherTask n then none else some (.caller (x.task n) (.closed (a.onRun x.run)))
  | _ => none

namespace System

def isOf (id : String) (r : Run) : Bool := r.session.script.id = id

/-- what concerns the script, and what all share -/
def only (x : Focus) (s : System) : System :=
  { s with
    registry := ((s.active? x.script).map fun i => (x.script, x.run i)).toList
    totals := ((find? s.totals x.script).map fun k => (x.script, k)).toList
    runs := s.runs.filter (isOf x.script)
    tasks := s.tasks.filterMap (onlyTask? x)
    nextTask := x.task s.nextTask
    log := s.log.filterMap (Entry.only? x) }

structure Fits (x : Focus) (s : System) : Prop where
  runs : Marks x.otherRun (isOf x.script) s.runs
  tasks : ∀ n t, s.task? n = some t → (x.otherTask n = false ↔ s.owner? t = some x.script)

section
variable {x : Focus} {s s' : System} {i : RunId} {n : Nat} {t : Task} {r : Run} {id : String}

theorem isOf_iff : isOf id r = true ↔ r.session.script.id = id := decide_eq_true_iff

theorem Fits.ours (h : s.Fits x) (hi : s.Hosts x.script i) : x.otherRun i = false := by
  obtain ⟨r, hr, hid⟩ := hi
  rw [h.runs i r hr, isOf_iff.2 hid]
  rfl

theorem Fits.others (h : s.Fits x) (hi : s.Hosts id i) (hne : id ≠ x.script) :
    x.otherRun i = true := by
  obtain ⟨r, hr, rfl⟩ := hi
  have hno : isOf x.script r = false := by simpa [isOf] using hne
  rw [h.runs i r hr, hno]
  rfl

theorem find?_toList (id : String) (o : Option α) :
    find? (o.map fun k => (id, k)).toList id = o := by
  cases o with
  | none => rfl
  | some k => simp [find?]

theorem find?_drop_self (table : List (String × α)) : find? (drop table id) id = none := by
  simp [find?, drop]

@[simp] theorem active?_only : (s.only x).active? x.script = (s.active? x.script).map x.run := by
  have h := find?_toList x.script ((s.active? x.script).map x.run)
  rwa [Option.map_map] at h

@[simp] theorem total_only : find? (s.only x).totals x.script = find? s.totals x.script :=
  find?_toList _ _

theorem only_run (h : s.Fits x) (hr : s.runs[i]? = some r) (hid : r.session.script.id = x.script) :
    (s.only x).runs[x.run i]? = some r :=
  h.runs.getElem?_filter hr (isOf_iff.2 hid)

theorem only_idOf (h : s.Fits x) (hi : s.Hosts x.script i) :
    (s.only x).idOf (x.run i) = s.idOf i := by
  obtain ⟨r, hr, hid⟩ := hi
  rw [idOf_of_run hr, idOf_of_run (only_run h hr hid)]

/-! ## how the parts of a step commute with looking at one script -/

theorem only_note_run (hi : x.otherRun i = false) (d : Deed) :
    (s.note n (.run i d)).only x = (s.only x).note (x.task n) (.run (x.run i) d) := by
  have he : Entry.only? x (.caller n (.run i d)) = some (.caller (x.task n) (.run (x.run i) d)) :=
    if_neg (by simp [hi])
  unfold note only
  rw [List.filterMap_cons_some he]
  rfl

theorem only_note_run_of_other (hi : x.otherRun i = true) (d : Deed) :
    (s.note n (.run i d)).only x = s.only x := by
  have he : Entry.only? x (.caller n (.run i d)) = none := if_pos hi
  unfold note only
  rw [List.filterMap_cons_none he]
  rfl

theorem onlyTask?_filter (hn : x.otherTask n = false) (tasks : List (Nat × Task)) :
    (tasks.filter fun e => e.1 ≠ n).filterMap (onlyTask? x)
      = (tasks.filterMap (onlyTask? x)).filter fun e => e.1 ≠ x.task n := by
  rw [List.filter_filterMap, List.filterMap_filter]
  congr 1
  funext e
  unfold onlyTask?
  cases he : x.otherTask e.1 with
  | true => simp
  | false =>
    have hinj : x.task e.1 = x.task n ↔ e.1 = n := renumber_inj he hn
    by_cases h : e.1 = n <;> simp_all [Option.filter]

theorem onlyTask?_filter_of_other (hn : x.otherTask n = true) (tasks : List (Nat × Task)) :
    (tasks.filter fun e => e.1 ≠ n).filterMap (onlyTask? x) = tasks.filterMap (onlyTask? x) := by
  rw [List.filterMap_filter]
  congr 1
  funext e
  by_cases h : e.1 = n
  · simp [onlyTask?, h, hn]
  · simp [h]

theorem only_quit (hn : x.otherTask n = false) :
    (s.quit n).only x = (s.only x).quit (x.task n) := by
  unfold quit only
  rw [onlyTask?_filter hn]
  rfl

theorem only_close (hn : x.otherTask n = false) (a : Answer) :
    (s.close n a).only x = (s.only x).close (x.task n) (a.onRun x.run) := by
  have he : Entry.only? x (.caller n (.closed a))
      = some (.caller (x.task n) (.closed (a.onRun x.run))) := if_neg (by simp [hn])
  unfold close quit note only
  rw [List.filterMap_cons_some he, onlyTask?_filter hn]
  rfl

theorem only_goOn (hn : x.otherTask n = false) (t : Task) :
    (s.goOn n t).only x = (s.only x).goOn (x.task n) (t.onRun x.run) := by
  have he : onlyTask? x (n, t) = some (x.task n, t.onRun x.run) := if_neg (by simp [hn])
  unfold goOn only
  rw [List.filterMap_cons_some he, onlyTask?_filter hn]
  rfl

theorem only_close_of_other (hn : x.otherTask n = true) (a : Answer) :
    (s.close n a).only x = s.only x := by
  have he : Entry.only? x (.caller n (.closed a)) = none := if_pos hn
  unfold close quit note only
  rw [List.filterMap_cons_none he, onlyTask?_filter_of_other hn]
  rfl

theorem only_goOn_of_other (hn : x.otherTask n = true) (t : Task) :
    (s.goOn n t).only x = s.only x := by
  have he : onlyTask? x (n, t) = none := if_pos hn
  unfold goOn only
  rw [List.filterMap_cons_none he, onlyTask?_filter_of_other hn]
  rfl

theorem only_set {r' : Run} (h : s.Fits x) (hr : s.runs[i]? = some r)
    (hid : r.session.script.id = x.script) (hid' : r'.session.script.id = x.script) :
    ({ s with runs := s.runs.set i r' } : System).only x
      = { s.only x with runs := (s.only x).runs.set (x.run i) r' } := by
  have hset := h.runs.filter_set hr (isOf_iff.2 hid) (isOf_iff.2 hid')
  unfold only
  rw [hset]
  rfl

theorem only_modify {f : Run → Run} (h : s.Fits x) (hr : s.runs[i]? = some r)
    (hid : r.session.script.id = x.script) (hf : (f r).session.script = r.session.script) :
    ({ s with runs := s.runs.modify i f } : System).only x
      = { s.only x with runs := (s.only x).runs.modify (x.run i) f } := by
  rw [modify_eq_set hr, modify_eq_set (only_run h hr hid)]
  exact only_set h hr hid (by rw [hf, hid])

theorem only_modify_of_other {f : Run → Run} (hr : s.runs[i]? = some r)
    (hid : r.session.script.id ≠ x.script) (hf : (f r).session.script = r.session.script) :
    ({ s with runs := s.runs.modify i f } : System).only x = s.only x := by
  have hno : isOf x.script r = false := by simpa [isOf] using hid
  have hno' : isOf x.script (f r) = false := by simpa [isOf, hf] using hid
  unfold only
  rw [modify_eq_set hr, filter_set_of_not hr hno hno']
  rfl

/-! ## the moves of the script -/

theorem only_absorb (s : System) (d : Deed) :
    (s.absorb x.script d).only x = (s.only x).absorb x.script d := by
  cases d with
  | deregistered =>
    have hnone : ({ s with registry := drop s.registry x.script } : System).active? x.script
        = none := find?_drop_self _
    have hdrop : drop (s.only x).registry x.script = [] := by
      show drop ((s.active? x.script).map fun i => (x.script, x.run i)).toList x.script = []
      cases s.active? x.script <;> simp [drop]
    unfold absorb
    dsimp only
    rw [hdrop]
    unfold only
    rw [hnone]
    rfl
  | remembered k =>
    have hsome : find? (put s.totals x.script k) x.script = some k := by
      rw [find?_put, if_pos rfl]
    have hput : put (s.only x).totals x.script k = [(x.script, k)] := by
      show put ((find? s.totals x.script).map fun k => (x.script, k)).toList x.script k = _
      cases find? s.totals x.script <;> simp [put, drop]
    unfold absorb
    dsimp only
    rw [hput]
    unfold only
    dsimp only
    rw [hsome]
    rfl
  | _ => rfl

theorem only_record (hi : x.otherRun i = false) (d : Deed) :
    (s.record i x.script d).only x = (s.only x).record (x.run i) x.script d := by
  have he : Entry.only? x (.worker i d) = some (.worker (x.run i) d) := if_neg (by simp [hi])
  have hlog (s : System) : ({ s with log := .worker i d :: s.log } : System).only x
      = { s.only x with log := .worker (x.run i) d :: (s.only x).log } := by
    unfold only
    rw [List.filterMap_cons_some he]
    rfl
  unfold record
  dsimp only
  rw [hlog, only_absorb]

theorem only_foldl_record (hi : x.otherRun i = false) (ds : List Deed) :
    (ds.foldl (fun s d => s.record i x.script d) s).only x
      = ds.foldl (fun s d => s.record (x.run i) x.script d) (s.only x) := by
  induction ds generalizing s with
  | nil => rfl
  | cons d ds ih => rw [List.foldl_cons, ih, only_record hi, List.foldl_cons]

theorem only_work {reply : Reply} (h : s.Fits x) (hs : s.step? (.work i reply) = some s')
    (hi : s.idOf i = x.script) :
    (s.only x).step? (.work (x.run i) reply) = some (s'.only x) := by
  obtain ⟨r, r', ds, hr, ha, rfl⟩ := work?_eq_foldl hs
  have hid : r.session.script.id = x.script := by rw [← idOf_of_run hr, hi]
  have hid' : r'.session.script.id = x.script := by
    have hc : RunChange s (.work i reply) i r r' ds := .worked rfl (.of_advance ha)
    rw [hc.given_eq.1, hid]
  have hview : (s.only x).view = s.view := rfl
  show (s.only x).work? (x.run i) reply = _
  rw [work?, only_run h hr hid]
  dsimp only
  rw [hview, ha]
  dsimp only
  rw [hid, only_foldl_record (h.ours ⟨r, hr, hid⟩), only_set h hr hid hid']

theorem only_ask (hn : x.otherTask s.nextTask = false) (q : Request) :
    (s.ask q).only x = (s.only x).ask q := by
  have htask : (firstTask q).onRun x.run = firstTask q := by
    cases q with
    | control id c => cases c <;> rfl
    | _ => rfl
  have he : onlyTask? x (s.nextTask, firstTask q) = some (x.task s.nextTask, firstTask q) := by
    rw [onlyTask?, hn, htask]
    rfl
  have hnext : x.task (s.nextTask + 1) = x.task s.nextTask + 1 := renumber_succ_of_not_marked hn
  unfold ask only
  rw [List.filterMap_cons_some he, hnext]
  rfl

theorem only_ask_of_other (hn : x.otherTask s.nextTask = true) (q : Request) :
    (s.ask q).only x = s.only x := by
  have he : onlyTask? x (s.nextTask, firstTask q) = none := if_pos hn
  have hnext : x.task (s.nextTask + 1) = x.task s.nextTask := renumber_succ_of_marked hn
  unfold ask only
  rw [List.filterMap_cons_none he, hnext]
  rfl

theorem only_onSession {f : Session → Session} (h : s.Fits x) (hr : s.runs[i]? = some r)
    (hid : r.session.script.id = x.script) (hf : (f r.session).script = r.session.script) :
    (s.onSession i f).only x = (s.only x).onSession (x.run i) f :=
  only_modify (f := fun r => { r with session := f r.session }) h hr hid hf

theorem only_enroll (h : s.Fits x) (ha : s.active? x.script = none)
    (hid : r.session.script.id = x.script) :
    ({ s with
        runs := s.runs ++ [r]
        registry := (x.script, s.runs.length) :: s.registry } : System).only x
      = { s.only x with
          runs := (s.only x).runs ++ [r]
          registry := (x.script, (s.only x).runs.length) :: (s.only x).registry } := by
  have hlen : (s.only x).runs.length = x.run s.runs.length := h.runs.length_filter
  have hreg : (s.only x).registry = [] := by
    show ((s.active? x.script).map fun i => (x.script, x.run i)).toList = []
    rw [ha]
    rfl
  have hsome : find? ((x.script, s.runs.length) :: s.registry) x.script = some s.runs.length := by
    simp [find?]
  rw [hlen, hreg]
  unfold only active?
  rw [hsome, List.filter_append, List.filter_cons_of_pos (isOf_iff.2 hid)]
  rfl

theorem only_command (h : s.Fits x) (hi : s.Hosts x.script i) (c : Command) :
    (s.command i c).map (fun y => (y.1, y.2.only x)) = (s.only x).command (x.run i) c := by
  obtain ⟨r, hr, hid⟩ := hi
  have honly := only_onSession (f := fun _ => (r.session.control c).2) h hr hid
    (Session.control_script _ _)
  simp only [command, hr, only_run h hr hid, Option.map_some]
  rw [honly]

/-! ### the stages of a request -/

theorem only_applyTask (h : s.Fits x) (hn : x.otherTask n = false) (hi : s.Hosts x.script i)
    (c : Command) :
    (s.applyTask n i c).map (only x) = (s.only x).applyTask (x.task n) (x.run i) c := by
  unfold applyTask
  rw [← only_command h hi, Option.map_map, Option.map_map]
  congr 1
  funext ⟨reply, s'⟩
  cases reply with
  | applied shown =>
    cases shown with
    | none => exact only_close hn _
    | some state => exact only_goOn hn _
  | _ => exact only_close hn _

theorem only_cutTask (hs : s.Reachable) (h : s.Fits x) (hn : x.otherTask n = false) :
    (s.cutTask n x.script).map (only x) = (s.only x).cutTask (x.task n) x.script := by
  unfold cutTask
  rw [active?_only]
  cases ha : s.active? x.script with
  | none => exact congrArg some (only_close hn _)
  | some run =>
    simp only [Option.map_some, ← only_command h (hs.hosts_of_active ha), Option.map_map]
    congr 1
    funext ⟨reply, s'⟩
    cases reply with
    | refused state => exact only_close hn _
    | _ => exact only_goOn hn _

theorem only_vetTask (hn : x.otherTask n = false) (script : Script) (options : Options) :
    (s.vetTask n script options).only x = (s.only x).vetTask (x.task n) script options := by
  unfold vetTask
  have hk : (s.only x).killSwitch = s.killSwitch := rfl
  rw [hk]
  cases options.check? with
  | error e => exact only_close hn _
  | ok o =>
    dsimp only
    split
    · exact only_close hn _
    · exact only_goOn hn _

theorem only_enrollTask (h : s.Fits x) (hn : x.otherTask n = false) {script : Script}
    (hid : script.id = x.script) (options : Options) (total : Option Nat) :
    (s.enrollTask n script options total).only x
      = (s.only x).enrollTask (x.task n) script options total := by
  unfold enrollTask
  rw [hid, active?_only]
  cases ha : s.active? x.script with
  | some run => exact only_close hn _
  | none =>
    have henroll := only_enroll (r := s.enrolled script options total) h ha hid
    have hlen : (s.only x).runs.length = x.run s.runs.length := h.runs.length_filter
    rw [hlen] at henroll
    refine (only_goOn hn _).trans ?_
    dsimp only [Option.map_none]
    rw [hlen]
    exact congrArg (fun t => goOn t _ _) henroll

theorem only_look (hn : x.otherTask n = false) (c : Command) :
    (s.taskStep? n (.look x.script c) .go).map (only x)
      = (s.only x).taskStep? (x.task n) (.look x.script c) .go := by
  simp only [taskStep?, active?_only]
  cases s.active? x.script with
  | none => exact congrArg some (only_close hn _)
  | some run => exact congrArg some (only_goOn hn _)

theorem only_freeing (hn : x.otherTask n = false) (hi : x.otherRun i = false) (y : DeviceReply) :
    (s.taskStep? n (.freeing i) (.device y)).map (only x)
      = (s.only x).taskStep? (x.task n) (.freeing (x.run i)) (.device y) := by
  cases y with
  | brokeDown => exact congrArg some ((only_quit hn).trans (by rw [only_note_run hi]))
  | _ => exact congrArg some ((only_close hn _).trans (by rw [only_note_run hi]; rfl))

theorem only_provide (hn : x.otherTask n = false) (script : Script) (options : Options)
    (p : Provision) :
    (s.taskStep? n (.provide script options) (.provision p)).map (only x)
      = (s.only x).taskStep? (x.task n) (.provide script options) (.provision p) := by
  cases p with
  | error e => exact congrArg some (only_close hn _)
  | ok u => exact congrArg some (only_goOn hn _)

theorem only_recall (hn : x.otherTask n = false) {script : Script} {options : Options}
    (ht : script.id = x.script) :
    (s.taskStep? n (.recall script options) .go).map (only x)
      = (s.only x).taskStep? (x.task n) (.recall script options) .go := by
  simp only [taskStep?, ht, total_only]
  exact congrArg some (only_goOn hn _)

/-- a step of a request that is busy with a run of the script -/
theorem only_taskStep_of_run (h : s.Fits x) (hn : x.otherTask n = false) (hi : s.Hosts x.script i)
    (ht : t.run? = some i) (reply : CallerReply) :
    (s.taskStep? n t reply).map (only x)
      = (s.only x).taskStep? (x.task n) (t.onRun x.run) reply := by
  have hours := h.ours hi
  obtain ⟨r, hr, hid⟩ := id hi
  cases t with
  | apply run c =>
    cases ht
    cases reply with
    | go => exact only_applyTask h hn hi c
    | _ => rfl
  | announce run state =>
    cases ht
    cases reply with
    | go =>
      simp only [Task.onRun, taskStep?, only_idOf h hi]
      exact congrArg some ((only_close hn _).trans (by rw [only_note_run hours]; rfl))
    | _ => rfl
  | free run =>
    cases ht
    cases reply with
    | go => exact congrArg some ((only_goOn hn _).trans (by rw [only_note_run hours]; rfl))
    | _ => rfl
  | freeing run =>
    cases ht
    cases reply with
    | device y => exact only_freeing hn hours y
    | _ => rfl
  | launch run =>
    cases ht
    cases reply with
    | go =>
      refine congrArg some ((only_goOn hn _).trans ?_)
      rw [only_onSession (f := fun y => y.settle .running) h hr hid (Session.settle_script _ _)]
      rfl
    | _ => rfl
  | herald run =>
    cases ht
    cases reply with
    | go =>
      simp only [Task.onRun, taskStep?, only_idOf h hi]
      exact congrArg some ((only_goOn hn _).trans (by rw [only_note_run hours]; rfl))
    | _ => rfl
  | spawn run =>
    cases ht
    cases reply with
    | go =>
      have hplace := only_modify (f := fun r => { r with place := .creating }) h hr hid rfl
      exact congrArg some ((only_close hn _).trans (by rw [hplace]; rfl))
    | _ => rfl
  | _ => cases ht

/-- a step of a request that has found no run yet -/
theorem only_taskStep_of_script (hs : s.Reachable) (h : s.Fits x) (hn : x.otherTask n = false)
    (ht : t.script? = some x.script) (reply : CallerReply) :
    (s.taskStep? n t reply).map (only x)
      = (s.only x).taskStep? (x.task n) (t.onRun x.run) reply := by
  cases t with
  | look id c =>
    cases ht
    cases reply with
    | go => exact only_look hn c
    | _ => rfl
  | cut id =>
    cases ht
    cases reply with
    | go => exact only_cutTask hs h hn
    | _ => rfl
  | vet script options =>
    cases reply with
    | go => exact congrArg some (only_vetTask hn script options)
    | _ => rfl
  | provide script options =>
    cases reply with
    | provision p => exact only_provide hn script options p
    | _ => rfl
  | enroll script options total =>
    cases reply with
    | go => exact congrArg some (only_enrollTask h hn (Option.some.inj ht) options total)
    | _ => rfl
  | apply | announce | free | freeing | engage | survey | sweep | clear | clearing | disengage
  | approve | consult | seek | asking | grant | install | launch | herald | spawn =>
    cases ht
  | _ =>
    cases reply with
    | go => exact only_recall hn (Option.some.inj ht)
    | _ => rfl

/-- **A step of a request for the script is a step of the same request without the others.** -/
theorem only_taskStep (hs : s.Reachable) (h : s.Fits x) (hn : x.otherTask n = false)
    (ho : s.owner? t = some x.script) (hh : ∀ i ∈ t.runs, ∃ id, s.Hosts id i)
    (reply : CallerReply) :
    (s.taskStep? n t reply).map (only x)
      = (s.only x).taskStep? (x.task n) (t.onRun x.run) reply := by
  cases hr : t.run? with
  | none =>
    rw [owner?, hr, Option.map_none, Option.none_or] at ho
    exact only_taskStep_of_script hs h hn ho reply
  | some i =>
    have hi : i ∈ t.runs := by rw [Task.runs_of_run? hr]; exact List.mem_singleton_self i
    exact only_taskStep_of_run h hn (hosts_of_owner ho hh i hi) hr reply

end

/-! ## what comes from outside -/

end System

/-- what happens to the part of a service that concerns one script -/
inductive Occurrence where
  | move (m : Move)
  /-- a category becomes approved -/
  | approved (c : Category)
  /-- the kill switch is turned on or off -/
  | turned (k : KillSwitch)
  /-- a handler is installed or taken away -/
  | installed (h : Bool)
  /-- an activation of the kill switch comes to a run -/
  | struck (run : RunId) (reason : String)
  /-- what such an activation does about a run, or its device does -/
  | noted (task : Nat) (run : RunId) (d : Deed)

/-- what a step of a request that is made to the process can be to a script -/
def Task.brings : Task → Occurrence → Bool
  | .approve c, .approved d => c = d
  | .grant q, .approved c => q.category = c
  | .engage _, .turned k => k.active
  | .disengage, .turned k => !k.active
  | .sweep reason _, .struck _ why => reason = why
  | .clear .., .noted _ _ (.began .releaseAll) => true
  | .clearing .., .noted _ _ (.ended .releaseAll _) => true
  | .install h, .installed i => h = i
  | _, _ => false

namespace System

def meet? (s : System) : Occurrence → Option System
  | .move m => s.step? m
  | .approved c => some { s with approvals := s.approvals.approve c }
  | .turned k => some { s with killSwitch := k }
  | .installed h => some { s with handler := h }
  | .struck run reason => some (s.onSession run fun y => y.request (.killSwitch reason))
  | .noted task run d => some (s.note task (.run run d))

def meets? (s : System) : List Occurrence → Option System
  | [] => some s
  | e :: es => (s.meet? e).bind fun s' => s'.meets? es

/-- what a move of the whole service is to the script -/
inductive Sees (x : Focus) (s : System) : Move → List Occurrence → Prop
  | own {m : Move} (hm : s.addressee? m = some x.script) : Sees x s m [.move (x.move m)]
  | time {d : Duration} : Sees x s (.elapse d) [.move (.elapse d)]
  /-- a step of the worker of another script -/
  | worker {i : RunId} {reply : Reply} (cs : List Category) (hi : s.idOf i ≠ x.script) :
      Sees x s (.work i reply) (cs.map .approved)
  /-- a request for another script, or a step of one -/
  | aside {m : Move} {a : String} (hm : s.addressee? m = some a) (ha : a ≠ x.script) : Sees x s m []
  /-- a request that is made to the process -/
  | made {q : Request} (hq : q.addressee? = none) : Sees x s (.request q) []
  /-- a step of such a request -/
  | process {n : Nat} {reply : CallerReply} {t : Task} {es : List Occurrence}
      (ht : s.task? n = some t) (ho : s.owner? t = none) (he : ∀ e ∈ es, t.brings e = true) :
      Sees x s (.proceed n reply) es

/-- what a list of moves of the whole service is to the script -/
inductive Views (x : Focus) : System → List Move → List Occurrence → Prop
  | nil {s : System} : Views x s [] []
  | cons {s s₁ : System} {m : Move} {ms : List Move} {es es' : List Occurrence}
      (hm : s.step? m = some s₁) (he : s.Sees x m es) (hms : s₁.Views x ms es') :
      Views x s (m :: ms) (es ++ es')

section
variable {x : Focus} {s s' : System} {m : Move} {i : RunId} {n : Nat} {t : Task} {r : Run}
  {id a : String} {ms : List Move} {es es' : List Occurrence} {log : List Entry}

theorem meets?_append (s : System) (es es' : List Occurrence) :
    s.meets? (es ++ es') = (s.meets? es).bind fun s' => s'.meets? es' := by
  induction es generalizing s with
  | nil => rfl
  | cons e es ih =>
    rw [List.cons_append, meets?, meets?]
    cases s.meet? e with
    | none => rfl
    | some s' => exact ih s'

theorem meets?_singleton {e : Occurrence} (h : s.meet? e = some s') :
    s.meets? [e] = some s' := by
  rw [meets?, h]
  rfl

theorem meets?_approved (s : System) (cs : List Category) :
    s.meets? (cs.map .approved)
      = some { s with approvals := cs.foldl Approvals.approve s.approvals } := by
  induction cs generalizing s with
  | nil => rfl
  | cons c cs ih =>
    rw [List.map_cons, meets?, meet?, Option.bind_some, ih]
    rfl

/-! ## the moves of others -/

theorem only?_of_others (hx : s'.Fits x) (h : s.LeavesAlone s' x.script log)
    (hc : ∀ n d, Entry.caller n d ∈ log → x.otherTask n = true) :
    log.filterMap (Entry.only? x) = [] := by
  rw [List.filterMap_eq_nil_iff]
  intro e he
  have hother {i : RunId} {d : Deed} (hd : e.deed? = some (i, d)) : x.otherRun i = true := by
    obtain ⟨⟨a, ha, hi⟩, _⟩ := h.others e he i d hd
    exact hx.others hi ha
  cases e with
  | worker i d => exact if_pos (hother rfl)
  | caller n d =>
    cases d with
    | run i d => exact if_pos (hother rfl)
    | closed b => exact if_pos (hc n _ he)
    | _ => rfl

/-- of a service that leaves the script alone the same is seen, but for the approvals -/
theorem LeavesAlone.only_eq (h : s.LeavesAlone s' x.script log) (hx : s'.Fits x)
    (hc : ∀ n d, Entry.caller n d ∈ log → x.otherTask n = true)
    (htasks : s'.tasks.filterMap (onlyTask? x) = s.tasks.filterMap (onlyTask? x))
    (hnext : s'.nextTask = s.nextTask) :
    s'.only x = { s.only x with approvals := s'.approvals } := by
  have hruns : s'.runs.filter (isOf x.script) = s.runs.filter (isOf x.script) :=
    filter_eq_of_getElem? fun i r hr => h.runs i r (isOf_iff.1 hr)
  have hlog : s'.log.filterMap (Entry.only? x) = s.log.filterMap (Entry.only? x) := by
    rw [h.log, List.filterMap_append, only?_of_others hx h hc, List.nil_append]
  unfold only
  rw [h.registered, h.total, hruns, htasks, hnext, hlog, h.killSwitch, h.handler, h.clock,
    h.settings]

/-- a step of the worker of another script comes to the script as categories that are approved -/
theorem only_work_of_other {reply : Reply} (hs : s.Reachable)
    (h : s.step? (.work i reply) = some s') (hx : s'.Fits x) (hi : s.idOf i ≠ x.script) :
    ∃ cs : List Category, (s.only x).meets? (cs.map .approved) = some (s'.only x) := by
  obtain ⟨es, halone⟩ := leavesAlone_of_work hs h hi
  obtain ⟨r, r', ds, _, _, hs'⟩ := work?_eq_foldl h
  have htasks : s'.tasks = s.tasks := by rw [hs', foldl_record_tasks]
  have hnext : s'.nextTask = s.nextTask := by rw [hs', foldl_record_nextTask]
  have happ : s'.approvals = (ds.filterMap Deed.approved?).foldl Approvals.approve s.approvals := by
    rw [hs', foldl_record_approvals]
  have hcallers : ∀ n d, Entry.caller n d ∈ es → x.otherTask n = true := by
    intro n d hd
    obtain ⟨es', hlog, hes⟩ := log_step h
    obtain rfl : es' = es := List.append_cancel_right (hlog.symm.trans halone.log)
    obtain ⟨_, hm⟩ := hes n d hd
    cases hm
  refine ⟨ds.filterMap Deed.approved?, ?_⟩
  rw [meets?_approved, halone.only_eq hx hcallers (by rw [htasks]) hnext, happ]
  rfl

theorem only_proceed_of_other {reply : CallerReply} (hs : s.Reachable)
    (h : s.step? (.proceed n reply) = some s') (hx : s.Fits x) (hx' : s'.Fits x)
    (ho : s.addressee? (.proceed n reply) = some a) (ha : a ≠ x.script) :
    s'.only x = s.only x := by
  obtain ⟨es, halone⟩ := leavesAlone_of_proceed hs h ho ha
  obtain ⟨t, ht, hr⟩ := requestStep h
  have hown : s.owner? t = some a := by
    rw [addressee?, ht] at ho
    exact ho
  have hn : x.otherTask n = true := by
    rw [← Bool.not_eq_false, hx.tasks n t ht, hown]
    exact fun he => ha (Option.some.inj he)
  have hcallers : ∀ k d, Entry.caller k d ∈ es → x.otherTask k = true := by
    intro k d hd
    obtain ⟨es', hlog, hes⟩ := log_step h
    obtain rfl : es' = es := List.append_cancel_right (hlog.symm.trans halone.log)
    obtain ⟨_, hm⟩ := hes k d hd
    cases hm
    exact hn
  have htasks : s'.tasks.filterMap (onlyTask? x) = s.tasks.filterMap (onlyTask? x) := by
    obtain ⟨_, _, ⟨t', htasks, _⟩ | htasks⟩ := hr.course
    · have he : onlyTask? x (n, t') = none := if_pos hn
      rw [htasks, List.filterMap_cons_none he, onlyTask?_filter_of_other hn]
    · rw [htasks, onlyTask?_filter_of_other hn]
  obtain ⟨_, _, happ, _⟩ := RequestStep.shares hr hown
  rw [halone.only_eq hx' hcallers htasks hr.nextTask_eq, happ]
  rfl

/-! ## the moves of the process -/

/-- the step of a request to the process comes to the script from outside -/
def Brings (s : System) (x : Focus) (t : Task) (s' : System) : Prop :=
  ∃ es : List Occurrence, (∀ e ∈ es, t.brings e = true) ∧ (s.only x).meets? es = some (s'.only x)

theorem Brings.of_eq (h : s'.only x = s.only x) : s.Brings x t s' :=
  ⟨[], List.forall_mem_nil _, by rw [h]; rfl⟩

theorem Brings.of_meet {e : Occurrence} (he : t.brings e = true)
    (hs : (s.only x).meet? e = some (s'.only x)) : s.Brings x t s' :=
  ⟨[e], List.forall_mem_singleton.2 he, meets?_singleton hs⟩

/-- what is done about a run is seen if it is one of the script -/
theorem Brings.of_note {i : RunId} {d : Deed} (ht : ∀ k j, t.brings (.noted k j d) = true)
    (he : s'.only x = (s.note n (.run i d)).only x) : s.Brings x t s' := by
  cases hi : x.otherRun i with
  | true => exact .of_eq (he.trans (only_note_run_of_other hi d))
  | false =>
    refine .of_meet (ht (x.task n) (x.run i)) ?_
    rw [he, only_note_run hi]
    rfl

theorem Brings.of_sweep (h : s.Fits x) {reason : String} {i : RunId} {is : List RunId}
    (hh : ∃ id, s.Hosts id i)
    (he : s'.only x = (s.onSession i fun y => y.request (.killSwitch reason)).only x) :
    s.Brings x (.sweep reason (i :: is)) s' := by
  obtain ⟨id, r, hr, hid⟩ := hh
  by_cases hown : r.session.script.id = x.script
  · refine .of_meet (e := .struck (x.run i) reason) (decide_eq_true rfl) ?_
    rw [he, only_onSession (f := fun y => y.request (.killSwitch reason)) h hr hown rfl]
    rfl
  · refine .of_eq (he.trans ?_)
    exact only_modify_of_other
      (f := fun r => { r with session := r.session.request (.killSwitch reason) }) hr hown rfl

/-- a step of a request that is made to the process comes to the script from outside -/
theorem only_process {reply : CallerReply} (h : s.Fits x) (hn : x.otherTask n = true)
    (ho : s.owner? t = none) (hh : ∀ i ∈ t.runs, ∃ id, s.Hosts id i)
    (hr : RequestStep s n t reply s') : s.Brings x t s' := by
  have goes (s : System) (t : Task) := only_goOn_of_other (s := s) hn t
  have closes (s : System) (a : Answer) := only_close_of_other (s := s) hn a
  cases hr with
  -- the kill switch
  | @engages reason =>
    refine .of_meet (e := .turned { s.killSwitch with active := true, record := some reason }) rfl ?_
    rw [goes]
    rfl
  | engagedBefore => exact .of_eq (closes _ _)
  | surveys => exact .of_eq (goes _ _)
  | swept => exact .of_eq (closes _ _)
  | sweeps => exact .of_sweep h (hh _ List.mem_cons_self) (goes _ _)
  | clears => exact .of_note (fun _ _ => rfl) (goes _ _)
  | cleared => exact .of_note (fun _ _ => rfl) (goes _ _)
  | clearBroke => exact .of_note (fun _ _ => rfl) (closes _ _)
  | disengages =>
    refine .of_meet (e := .turned { s.killSwitch with active := false }) rfl ?_
    rw [closes]
    rfl
  -- the approvals
  | @approves c =>
    refine .of_meet (e := .approved c) (decide_eq_true rfl) ?_
    rw [closes]
    rfl
  | known => exact .of_eq (closes _ _)
  | unknown => exact .of_eq (goes _ _)
  | asks => exact .of_eq (goes _ _)
  | nobody => exact .of_eq (closes _ _)
  | allowed => exact .of_eq (goes _ _)
  | denied => exact .of_eq (closes _ _)
  | @grants q =>
    refine .of_meet (e := .approved q.category) (decide_eq_true rfl) ?_
    rw [closes]
    rfl
  | @installs b =>
    refine .of_meet (e := .installed b) (decide_eq_true rfl) ?_
    rw [closes]
    rfl
  | _ => cases ho

/-! ## every move -/

theorem only_task? (s : System) (hn : x.otherTask n = false) :
    (s.only x).task? (x.task n) = (s.task? n).map (Task.onRun x.run) := by
  show ((s.tasks.filterMap (onlyTask? x)).find? _).map _ = ((s.tasks.find? _).map _).map _
  induction s.tasks with
  | nil => rfl
  | cons e tasks ih =>
    cases he : x.otherTask e.1 with
    | true =>
      have hne : e.1 ≠ n := fun h => by rw [h, hn] at he; cases he
      have hnone : onlyTask? x e = none := if_pos he
      rw [List.filterMap_cons_none hnone, List.find?_cons_of_neg (by simpa using hne), ih]
    | false =>
      have hsome : onlyTask? x e = some (x.task e.1, e.2.onRun x.run) := if_neg (by simp [he])
      rw [List.filterMap_cons_some hsome]
      by_cases h : e.1 = n
      · rw [List.find?_cons_of_pos (by simp [h]), List.find?_cons_of_pos (by simp [h])]
        rfl
      · have hne : x.task e.1 ≠ x.task n := fun hr => h ((renumber_inj he hn).1 hr)
        rw [List.find?_cons_of_neg (by simpa using hne),
          List.find?_cons_of_neg (by simpa using h), ih]

theorem Fits.of_ask {q : Request} (h : (s.ask q).Fits x) :
    x.otherTask s.nextTask = false ↔ q.addressee? = some x.script := by
  have ht : (s.ask q).task? s.nextTask = some (firstTask q) := by simp [task?, ask]
  rw [h.tasks _ _ ht, owner?_firstTask]

theorem sees_request {q : Request} (hx' : (s.ask q).Fits x) :
    ∃ es, s.Sees x (.request q) es ∧ (s.only x).meets? es = some ((s.ask q).only x) := by
  have hn := hx'.of_ask
  have hother (hq : q.addressee? ≠ some x.script) : x.otherTask s.nextTask = true := by
    rw [← Bool.not_eq_false, hn]
    exact hq
  cases hq : q.addressee? with
  | none => exact ⟨[], .made hq, by rw [only_ask_of_other (hother (by simp [hq]))]; rfl⟩
  | some a =>
    by_cases ha : a = x.script
    · subst ha
      refine ⟨_, .own hq, meets?_singleton ?_⟩
      rw [only_ask (hn.2 hq)]
      rfl
    · exact ⟨[], .aside hq ha, by rw [only_ask_of_other (hother (by simp [hq, ha]))]; rfl⟩

theorem sees_proceed {qs : List Request} {reply : CallerReply} (hs : s.Reachable) (hst : s.Stems qs)
    (h : s.step? (.proceed n reply) = some s') (hx : s.Fits x) (hx' : s'.Fits x) :
    ∃ es, s.Sees x (.proceed n reply) es ∧ (s.only x).meets? es = some (s'.only x) := by
  obtain ⟨t, ht, hr⟩ := requestStep h
  have haddress : s.addressee? (.proceed n reply) = s.owner? t := by rw [addressee?, ht]; rfl
  have hn := hx.tasks n t ht
  cases ho : s.owner? t with
  | none =>
    have hother : x.otherTask n = true := by
      rw [← Bool.not_eq_false, hn, ho]
      rintro ⟨⟩
    obtain ⟨es, hout, hes⟩ := only_process hx hother ho (hst.homed n t ht) hr
    exact ⟨es, .process ht ho hout, hes⟩
  | some a =>
    have hm := haddress.trans ho
    by_cases ha : a = x.script
    · subst ha
      refine ⟨_, .own hm, meets?_singleton ?_⟩
      have hours : x.otherTask n = false := hn.2 ho
      have htask : (s.only x).task? (x.task n) = some (t.onRun x.run) := by
        rw [only_task? s hours, ht]
        rfl
      show (s.only x).step? (.proceed (x.task n) reply) = _
      rw [step?_of_task? htask, ← only_taskStep hs hx hours ho (hst.homed n t ht) reply,
        ← step?_of_task? ht, h]
      rfl
    · refine ⟨[], .aside hm ha, ?_⟩
      rw [only_proceed_of_other hs h hx hx' hm ha]
      rfl

/-- **A move of the whole service is to the script a move of its own, or comes from outside.** -/
theorem only_step {qs : List Request} (hs : s.Reachable) (hst : s.Stems qs)
    (h : s.step? m = some s') (hx : s.Fits x) (hx' : s'.Fits x) :
    ∃ es, s.Sees x m es ∧ (s.only x).meets? es = some (s'.only x) := by
  cases m with
  | elapse d =>
    cases h
    exact ⟨_, .time, rfl⟩
  | work i reply =>
    by_cases hi : s.idOf i = x.script
    · exact ⟨_, .own (congrArg some hi), meets?_singleton (only_work hx h hi)⟩
    · obtain ⟨cs, hcs⟩ := only_work_of_other hs h hx' hi
      exact ⟨_, .worker cs hi, hcs⟩
  | request q =>
    cases h
    exact sees_request hx'
  | proceed n reply => exact sees_proceed hs hst h hx hx'

theorem only_play {qs : List Request} (hs : s.Reachable) (hst : s.Stems qs)
    (h : s.play? ms = some s') (hx : s.Throughout (Fits x) ms) :
    ∃ es, s.Views x ms es ∧ (s.only x).meets? es = some (s'.only x) := by
  induction ms generalizing s qs with
  | nil =>
    cases h
    exact ⟨[], .nil, rfl⟩
  | cons m ms ih =>
    obtain ⟨s₁, h₁, h₂⟩ := exists_of_play?_cons h
    have hrest := hx.2 s₁ h₁
    obtain ⟨es, hsees, hes⟩ := only_step hs hst h₁ hx.1 hrest.head
    obtain ⟨es', hviews, hes'⟩ := ih (hs.step h₁) (hst.step hs h₁) h₂ hrest
    refine ⟨es ++ es', .cons h₁ hsees hviews, ?_⟩
    rw [meets?_append, hes]
    exact hes'

/-! ## a history -/

/-- the script, in a service that has come from a fresh one by these moves -/
def focus (id : String) (ms : List Move) (s : System) : Focus where
  script := id
  otherRun i := s.idOf i ≠ id
  otherTask n := ((requests ms)[n]?).bind Request.addressee? ≠ some id

theorem fits_focus {ms' : List Move} (hs : s.Reachable) (hst : s.Stems (requests ms))
    (h : s.play? ms' = some s') : s.Fits (focus id (ms ++ ms') s') where
  runs := fun i r hr => by
    have hid : s'.idOf i = r.session.script.id := ((hosts_of_run hr).play h).idOf_eq
    simp [focus, isOf, hid]
  tasks := fun n t ht => by
    have hlt : n < (requests ms).length := by
      rw [← hst.count]
      exact hs.numbered.number _ (mem_of_task? ht)
    have hold : (requests (ms ++ ms'))[n]? = (requests ms)[n]? := by
      rw [requests, List.filterMap_append]
      exact List.getElem?_append_left hlt
    simp [focus, hold, hst.owned n t ht]

theorem throughout_fits {ms' : List Move} (hs : s.Reachable) (hst : s.Stems (requests ms))
    (h : s.play? ms' = some s') : s.Throughout (Fits (focus id (ms ++ ms') s')) ms' := by
  induction ms' generalizing s ms with
  | nil => exact fits_focus hs hst h
  | cons m ms' ih =>
    refine ⟨fits_focus hs hst h, fun s₁ h₁ => ?_⟩
    rw [play?_cons, h₁] at h
    have hst₁ : s₁.Stems (requests (ms ++ [m])) := by
      have hnext := hst.step hs h₁
      rw [requests, List.filterMap_append]
      cases m <;> exact hnext
    have hrest := ih (hs.step h₁) hst₁ h
    rwa [List.append_assoc] at hrest

/-- how a script stands among the others in a service that has come from a fresh one by `ms` -/
structure Isolated (settings : Settings) (approvals : Approvals) (ms : List Move) (s : System)
    (id : String) : Prop where
  /-- moves that are addressed to other scripts leave it alone -/
  frame : ∀ ms' s', s.play? ms' = some s' → s.Without (Concerns id) ms' →
    ∃ es, s.LeavesAlone s' id es
  /-- what concerns it has come about by its own moves and by what comes from outside; the moves of
  others are nothing to it, or categories that become approved -/
  seclusion : ∃ es, (fresh settings approvals).Views (focus id ms s) ms es ∧
    (fresh settings approvals).meets? es = some (s.only (focus id ms s))

/-- **Scripts are isolated from each other.** -/
theorem isolated_of_play {settings : Settings} {approvals : Approvals}
    (h : (fresh settings approvals).play? ms = some s) (id : String) :
    Isolated settings approvals ms s id where
  frame := fun _ _ h' hc => leavesAlone_of_play ⟨_, _, _, h⟩ h' hc
  seclusion := by
    have hs : (fresh settings approvals).Reachable := ⟨_, _, [], rfl⟩
    have hst := stems_fresh settings approvals
    have hfits : (fresh settings approvals).Throughout (Fits (focus id ([] ++ ms) s)) ms :=
      throughout_fits hs hst h
    exact only_play hs hst h hfits

/-- two scripts, and a request to terminate one of them -/
theorem isolated_of_play_pair :
    let starting (n : Nat) (id : String) : List Move := [.request (.start ⟨id, id, ""⟩ {}),
      .proceed n .go, .proceed n (.provision (.ok ()))] ++ List.replicate 5 (.proceed n .go)
    let ms := starting 0 "a" ++ starting 1 "b" ++ List.replicate 11 (.work 0 (.stage .ready))
    let s := (fresh {} {}).after ms
    let ms' : List Move := [.request (.control "a" .terminate), .proceed 2 .go, .proceed 2 .go,
      .proceed 2 (.device .done), .work 0 (.script (.call .move [.int 1, .int 2])), .work 0 .go]
    let s' := s.after ms'
    s.active? "a" = some 0 ∧ s.active? "b" = some 1 ∧ s'.slot? 0 = some .terminated ∧
      s'.replies 0 = [(.move, .error (.abort .terminated))] ∧ Isolated {} {} ms s "b" ∧
      ∃ es, s.LeavesAlone s' "b" es := by
  intro starting ms s ms' s'
  have hplay : (fresh {} {}).play? ms = some s := play?_after (by decide +kernel)
  have hplay' : s.play? ms' = some s' := play?_after (by decide +kernel)
  have hothers : s.Without (Concerns "b") ms' := by decide +kernel
  have h : Isolated {} {} ms s "b" := isolated_of_play hplay "b"
  exact ⟨by decide +kernel, by decide +kernel, by decide +kernel, by decide +kernel, h,
    h.frame ms' s' hplay' hothers⟩

end

end System

end ScriptGuard
