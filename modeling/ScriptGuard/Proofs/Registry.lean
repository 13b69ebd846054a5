import Mathlib.Data.List.Nodup
import ScriptGuard.Proofs.Lifecycle
import ScriptGuard.Proofs.RequestStep

/-!
# The registry

A script has one active run at most, whoever starts it and however the starts and the ends of runs
come between each other.

* `System.Stands s id i`   the run `i` has been registered for the script and has not left;
* `System.Listed`          the invariant: the registry holds the runs that stand, each script once,
                           and the deeds by which a run is reported are those that its place tells;
* `System.stage_play`      once a run has its report, each step of its worker goes on with it, and
                           nobody else does;
* `System.restart`         a script that has no active run can be started;
* `regulated_of_reachable` what follows for every reachable service.
-/

namespace ScriptGuard

/-- a deed by which a run is reported -/
def Deed.isReport : Deed → Bool
  | .deregistered => true
  | .told (.state _ a) => !a.isActive
  | .told (.failed _) => true
  | .told (.completed _) => true
  | _ => false

/-- the reports that have been made at this place, latest first -/
def Place.reported : Place → List Deed
  | .remembering _ => [.deregistered]
  | .tellState _ => [.deregistered]
  | .tellResult x => [.told (.state x.script x.state), .deregistered]
  | .tellIdle x =>
    [.told (Run.resultNotice x), .told (.state x.script x.state), .deregistered]
  | .gone x =>
    [.told (.state x.script .idle), .told (Run.resultNotice x),
      .told (.state x.script x.state), .deregistered]
  | _ => []

def Place.remaining : Place → Nat
  | .leaving _ => 5
  | .remembering _ => 4
  | .tellState _ => 3
  | .tellResult _ => 2
  | .tellIdle _ => 1
  | _ => 0

theorem Place.reported_of_isStage {p : Place} (h : p.isStage = true) : p.reported = [] := by
  obtain rfl | ⟨_, rfl⟩ | rfl := Place.stage_cases h <;> rfl

theorem Place.reported_of_result? {p : Place} (h : p.result? = none) : p.reported = [] := by
  cases p with
  | leaving _ | remembering _ | tellState _ | tellResult _ | tellIdle _ | gone _ => cases h
  | _ => rfl

theorem Deed.isReport_resultNotice (x : RunResult) :
    Deed.isReport (.told (Run.resultNotice x)) = true := by
  unfold Run.resultNotice
  split <;> rfl

theorem Deed.isReport_state (x : RunResult) :
    Deed.isReport (.told (.state x.script x.state)) = true := by
  have ht : x.state.isActive = false := RunState.isActive_of_isTerminal x.outcome.isTerminal_state
  show (!x.state.isActive) = true
  rw [ht]
  rfl

/-! ## one step of a worker -/

section
variable {v : View} {r r' : Run} {reply : Reply} {ds : List Deed}

theorem CallStep.reports {f : Frame} {p : CallPoint} (h : CallStep v r f p reply r' ds) :
    ds.filter Deed.isReport = [] ∧ r'.place.reported = [] := by
  cases h with
  | atGate _ h => cases h <;> exact ⟨rfl, rfl⟩
  | _ => exact ⟨rfl, rfl⟩

theorem WorkerStep.reports (h : WorkerStep v r reply r' ds) :
    ds.reverse.filter Deed.isReport ++ r.place.reported = r'.place.reported := by
  cases h with
  | call hp h =>
    obtain ⟨hd, hq⟩ := h.reports
    rw [List.filter_reverse, hd, hq, hp]
    rfl
  | staged hp hn => rw [Place.reported_of_isStage hp, Place.reported_of_isStage hn]; rfl
  | unready hp => rw [Place.reported_of_isStage hp]; rfl
  | stageBroke hp => rw [Place.reported_of_isStage hp]; rfl
  | remembers hp => rw [hp]; split <;> rfl
  | tellsState hp => rw [hp]; simp [Deed.isReport_state, Place.reported]
  | tellsResult hp => rw [hp]; simp [Deed.isReport_resultNotice, Place.reported]
  | _ hp => rw [hp]; rfl

/-- a run leaves the registry when it has its report, and at no other place -/
theorem WorkerStep.leaves_of_mem (h : WorkerStep v r reply r' ds) (hd : Deed.deregistered ∈ ds) :
    ∃ x, r.place = .leaving x ∧ r'.place = .remembering x := by
  have hr : Deed.deregistered ∈ r'.place.reported := by
    rw [← h.reports]
    exact List.mem_append_left _ (List.mem_filter.2 ⟨List.mem_reverse.2 hd, rfl⟩)
  cases h with
  | leaves hp => exact ⟨_, hp, rfl⟩
  | call _ h => rw [h.reports.2] at hr; cases hr
  | staged _ hn => rw [Place.reported_of_isStage hn] at hr; cases hr
  | remembers => split at hd <;> simp at hd
  | tellsState => simp at hd
  | tellsResult => simp at hd
  | tellsIdle => simp at hd
  | _ => cases hr

theorem WorkerStep.born (h : WorkerStep v r reply r' ds) : r'.place ≠ .unborn := by
  cases h with
  | call _ h =>
    cases h with
    | atGate _ h => cases h <;> simp
    | _ => simp
  | staged _ hn => exact Place.ne_unborn_of_isStage hn
  | _ => simp

/-- the worker that has its report keeps it and has one step less to take -/
theorem WorkerStep.remaining (h : WorkerStep v r reply r' ds) {x : RunResult}
    (hx : r.place.result? = some x) :
    r'.place.result? = some x ∧ r'.place.remaining + 1 = r.place.remaining := by
  cases h with
  | call hp => rw [hp] at hx; cases hx
  | staged hp => rw [Place.result?_of_isStage hp] at hx; cases hx
  | unready hp => rw [Place.result?_of_isStage hp] at hx; cases hx
  | stageBroke hp => rw [Place.result?_of_isStage hp] at hx; cases hx
  | leaves hp => rw [hp] at hx ⊢; exact ⟨hx, rfl⟩
  | remembers hp => rw [hp] at hx ⊢; exact ⟨hx, rfl⟩
  | tellsState hp => rw [hp] at hx ⊢; exact ⟨hx, rfl⟩
  | tellsResult hp => rw [hp] at hx ⊢; exact ⟨hx, rfl⟩
  | tellsIdle hp => rw [hp] at hx ⊢; exact ⟨hx, rfl⟩
  | _ hp => rw [hp] at hx; cases hx

/-- the report is made of the session and then kept, with the session -/
theorem WorkerStep.names (h : WorkerStep v r reply r' ds) {x : RunResult}
    (hx : r'.place.result? = some x) :
    (x.script = r'.session.script.id ∧ x.operations = r'.session.index) ∨
      r.place.result? = some x ∧ r'.session = r.session := by
  cases h with
  | call _ h => rw [h.stays.2] at hx; cases hx
  | staged _ hn => rw [Place.result?_of_isStage hn] at hx; cases hx
  | settles hp =>
    left
    obtain rfl := Option.some.inj hx
    exact ⟨rfl, rfl⟩
  | leaves hp => right; rw [hp]; exact ⟨hx, rfl⟩
  | remembers hp => right; rw [hp]; exact ⟨hx, rfl⟩
  | tellsState hp => right; rw [hp]; exact ⟨hx, rfl⟩
  | tellsResult hp => right; rw [hp]; exact ⟨hx, rfl⟩
  | tellsIdle hp => right; rw [hp]; exact ⟨hx, rfl⟩
  | _ => cases hx

theorem WorkerStep.of_lost (h : WorkerStep v r reply r' ds) (hp : r'.place = .lost) :
    ds = [.ended .releaseAll .brokeDown] := by
  cases h with
  | call _ h =>
    cases h with
    | atGate _ h => cases h <;> cases hp
    | _ => cases hp
  | @staged next _ hn =>
    have hl : next = .lost := hp
    rw [hl] at hn
    cases hn
  | rescueBroke => rfl
  | _ => cases hp

/-- a run and its deeds: it has been reported as far as its worker has come, the report names its
script and its count, and it is lost only to a release of everything that broke down -/
structure Run.Accounts (r : Run) (ds : List Deed) : Prop where
  reports : ds.filter Deed.isReport = r.place.reported
  names : ∀ x, r.place.result? = some x →
    x.script = r.session.script.id ∧ x.operations = r.session.index
  lost : r.place = .lost → Deed.ended .releaseAll .brokeDown ∈ ds

theorem WorkerStep.accounts {old : List Deed} (h : WorkerStep v r reply r' ds)
    (ha : r.Accounts old) : r'.Accounts (ds.reverse ++ old) where
  reports := by rw [List.filter_append, ha.reports, h.reports]
  names := fun x hx => by
    rcases h.names hx with hn | ⟨hx, hs⟩
    · exact hn
    · rw [hs]
      exact ha.names x hx
  lost := fun hp => by
    rw [h.of_lost hp]
    exact List.mem_cons_self

theorem Run.Accounts.on_session {old : List Deed} (ha : r.Accounts old) {x : Session}
    (hs : x.script = r.session.script) (hi : x.index = r.session.index) :
    ({ r with session := x } : Run).Accounts old where
  reports := ha.reports
  names := fun y hy => by
    rw [hs, hi]
    exact ha.names y hy
  lost := ha.lost

end

/-! ## one move -/

section
variable {s s' : System} {m : Move} {i : RunId} {r r' : Run} {ds : List Deed} {n : Nat} {t : Task}
  {reply : CallerReply}

theorem RunChange.born (h : RunChange s m i r r' ds) (hp : r.place ≠ .unborn) :
    r'.place ≠ .unborn := by
  cases h with
  | worked _ hw => exact hw.born
  | spawned => simp
  | _ => exact hp

theorem RequestStep.of_started (h : RequestStep s n t reply s') {k : Nat}
    (hlog : Entry.caller k (.closed (.started i)) ∈ s'.log) :
    Entry.caller k (.closed (.started i)) ∈ s.log ∨ t = .spawn i ∧
      s'.runs = s.runs.modify i fun r => { r with place := .creating } := by
  cases h with
  | spawns =>
    rcases List.mem_cons.1 hlog with he | he
    · cases he
      exact Or.inr ⟨rfl, rfl⟩
    · exact Or.inl he
  | _ =>
    left
    simpa [System.close, System.note, System.goOn, System.quit, System.onSession] using hlog

end

namespace System

/-! ## what happens to the registry -/

/-- the run has been registered for the script and has not left the registry -/
def Stands (s : System) (id : String) (i : RunId) : Prop :=
  ∃ r, s.runs[i]? = some r ∧ r.session.script.id = id ∧ Deed.deregistered ∉ s.deeds i

section
variable {s s' : System} {m : Move} {i : RunId} {id : String} {r r' : Run} {ds : List Deed}
  {n : Nat} {t : Task} {reply : CallerReply}

theorem drop_drop (table : List (String × RunId)) (id : String) :
    drop (drop table id) id = drop table id := by
  unfold drop
  rw [List.filter_filter]
  simp

theorem mem_drop {table : List (String × RunId)} {e : String × RunId} :
    e ∈ drop table id ↔ e ∈ table ∧ e.1 ≠ id := by
  unfold drop
  rw [List.mem_filter]
  simp

theorem foldl_record_registry (run : RunId) (id : String) (ds : List Deed) (s : System) :
    (ds.foldl (fun s d => s.record run id d) s).registry =
      if Deed.deregistered ∈ ds then drop s.registry id else s.registry := by
  induction ds generalizing s with
  | nil => simp
  | cons d ds ih =>
    rw [List.foldl_cons, ih]
    cases d with
    | deregistered =>
      have hreg : (s.record run id .deregistered).registry = drop s.registry id := rfl
      rw [hreg, drop_drop]
      simp
    | _ => simp [record, absorb]

theorem registry_of_work {reply : Reply} (h : s.step? (.work i reply) = some s')
    (hr : s.runs[i]? = some r) :
    ∃ r' ds, s'.runs[i]? = some r' ∧ WorkerStep s.view r reply r' ds ∧
      s'.deeds i = ds.reverse ++ s.deeds i ∧
      s'.registry = if Deed.deregistered ∈ ds then drop s.registry r.session.script.id
        else s.registry := by
  obtain ⟨r₀, r', ds, hr₀, ha, hs'⟩ := work?_eq_foldl h
  rw [hr] at hr₀
  cases hr₀
  obtain ⟨s₁, h₁, hr', hd⟩ := step?_work hr ha
  rw [h] at h₁
  cases h₁
  refine ⟨r', ds, hr', .of_advance ha, hd, ?_⟩
  rw [hs', foldl_record_registry]

theorem stands_iff (hr : s.runs[i]? = some r) (hr' : s'.runs[i]? = some r')
    (hd : s'.deeds i = ds.reverse ++ s.deeds i) (hc : RunChange s m i r r' ds) :
    s'.Stands id i ↔ s.Stands id i ∧ Deed.deregistered ∉ ds := by
  have hid : r'.session.script = r.session.script := hc.given_eq.1
  constructor
  · rintro ⟨r₁, hr₁, hs, hn⟩
    rw [hr'] at hr₁
    cases hr₁
    rw [hd, List.mem_append, List.mem_reverse, not_or] at hn
    exact ⟨⟨r, hr, by rw [← hid, hs], hn.2⟩, hn.1⟩
  · rintro ⟨⟨r₁, hr₁, hs, hn⟩, hn'⟩
    rw [hr] at hr₁
    cases hr₁
    refine ⟨r', hr', by rw [hid, hs], ?_⟩
    rw [hd, List.mem_append, List.mem_reverse, not_or]
    exact ⟨hn', hn⟩

theorem not_stands_of_none (hr : s.runs[i]? = none) : ¬ s.Stands id i := by
  rintro ⟨r, hr', _⟩
  rw [hr] at hr'
  cases hr'

theorem stands_aside (h : s.step? m = some s') (hr : s.runs[i]? = some r)
    (hm : m.isWorkOf i = false) : s'.Stands id i ↔ s.Stands id i := by
  rcases worked_or h hr with ⟨reply, _, _, rfl, _⟩ | ⟨_, r', hr', hd, hc⟩
  · simp [Move.isWorkOf] at hm
  · have hd : s'.deeds i = ([] : List Deed).reverse ++ s.deeds i := hd
    rw [stands_iff hr hr' hd hc]
    simp

theorem stands_still (h : s.step? m = some s') (hlen : s'.runs.length = s.runs.length)
    (hm : m.isWorkOf i = false) : s'.Stands id i ↔ s.Stands id i := by
  cases hr : s.runs[i]? with
  | some r => exact stands_aside h hr hm
  | none =>
    have hle : s.runs.length ≤ i := List.getElem?_eq_none_iff.1 hr
    have hr' : s'.runs[i]? = none := List.getElem?_eq_none_iff.2 (by rw [hlen]; exact hle)
    exact iff_of_false (not_stands_of_none hr') (not_stands_of_none hr)

theorem stands_enrolled (ht : s.Tidy) (h : s.step? m = some s') (hm : m.isWorkOf i = false)
    {script : Script} {options : Options} {total : Option Nat}
    (hruns : s'.runs = s.runs ++ [s.enrolled script options total]) :
    s'.Stands id i ↔ s.Stands id i ∨ id = script.id ∧ i = s.runs.length := by
  cases hr : s.runs[i]? with
  | some r =>
    have hlt : i < s.runs.length := (List.getElem?_eq_some_iff.1 hr).1
    have hne : ¬ (id = script.id ∧ i = s.runs.length) := fun hi => Nat.ne_of_lt hlt hi.2
    rw [stands_aside h hr hm, or_iff_left hne]
  | none =>
    rw [or_iff_right (not_stands_of_none hr)]
    obtain ⟨hd, _⟩ := newRun h hr
    have hle : s.runs.length ≤ i := List.getElem?_eq_none_iff.1 hr
    constructor
    · rintro ⟨r', hr', hid, _⟩
      have hlt : i < s'.runs.length := (List.getElem?_eq_some_iff.1 hr').1
      rw [hruns, List.length_append, List.length_singleton] at hlt
      have hi : i = s.runs.length := Nat.le_antisymm (Nat.lt_succ_iff.1 hlt) hle
      rw [hi, hruns, List.getElem?_concat_length] at hr'
      cases hr'
      exact ⟨hid.symm, hi⟩
    · rintro ⟨rfl, rfl⟩
      refine ⟨_, by rw [hruns, List.getElem?_concat_length], rfl, ?_⟩
      rw [hd, ht.blank _ hr]
      exact List.not_mem_nil

/-- what a move does to the registry -/
inductive RegistryChange (s : System) (m : Move) (s' : System) : Prop
  | still (hreg : s'.registry = s.registry) (hs : ∀ id i, s'.Stands id i ↔ s.Stands id i)
  | leaves {j : RunId} {reply : Reply} {r : Run} {x : RunResult} (hm : m = .work j reply)
      (hr : s.runs[j]? = some r) (hp : r.place = .leaving x)
      (hreg : s'.registry = drop s.registry r.session.script.id)
      (hs : ∀ id i, s'.Stands id i ↔ s.Stands id i ∧ i ≠ j)
  | enrolls {script : Script} (ha : s.active? script.id = none)
      (hreg : s'.registry = (script.id, s.runs.length) :: s.registry)
      (hs : ∀ id i, s'.Stands id i ↔ s.Stands id i ∨ id = script.id ∧ i = s.runs.length)

theorem registryChange_of_work {j : RunId} {reply : Reply}
    (h : s.step? (.work j reply) = some s') : RegistryChange s (.work j reply) s' := by
  obtain ⟨r, _, _, hr, _, hruns, _⟩ := work?_eq_some h
  have hlen : s'.runs.length = s.runs.length := by rw [hruns, List.length_set]
  obtain ⟨r', ds, hr', hw, hd, hreg⟩ := registry_of_work h hr
  have hself (id : String) : s'.Stands id j ↔ s.Stands id j ∧ Deed.deregistered ∉ ds :=
    stands_iff hr hr' hd (.worked rfl hw)
  have haside {i : RunId} (id : String) (hi : i ≠ j) : s'.Stands id i ↔ s.Stands id i :=
    stands_still h hlen (by simpa [Move.isWorkOf] using hi.symm)
  by_cases hdr : Deed.deregistered ∈ ds
  · rw [if_pos hdr] at hreg
    obtain ⟨x, hx, _⟩ := hw.leaves_of_mem hdr
    refine .leaves rfl hr hx hreg fun id i => ?_
    by_cases hi : i = j
    · subst hi
      rw [hself]
      simp [hdr]
    · rw [haside id hi]
      simp [hi]
  · rw [if_neg hdr] at hreg
    refine .still hreg fun id i => ?_
    by_cases hi : i = j
    · subst hi
      rw [hself]
      simp [hdr]
    · exact haside id hi

theorem registryChange (ht : s.Tidy) (h : s.step? m = some s') : RegistryChange s m s' := by
  cases m with
  | work j reply => exact registryChange_of_work h
  | proceed n reply =>
    obtain ⟨t, _, hstep⟩ := requestStep h
    rcases hstep.registry_eq with ⟨hreg, hlen⟩ | ⟨script, options, total, _, ha, hreg, hruns⟩
    · exact .still hreg fun _ _ => stands_still h hlen rfl
    · exact .enrolls ha hreg fun _ _ => stands_enrolled ht h rfl hruns
  | request q =>
    cases h
    exact .still rfl fun _ _ => .rfl
  | elapse d =>
    cases h
    exact .still rfl fun _ _ => .rfl

/-! ## the invariant -/

/-- the registry holds the runs that stand, each script once -/
structure Listed (s : System) : Prop where
  nodup : (s.registry.map (·.1)).Nodup
  entry : ∀ id i, (id, i) ∈ s.registry ↔ s.Stands id i

theorem Listed.fresh (settings : Settings) (approvals : Approvals) :
    (System.fresh settings approvals).Listed where
  nodup := List.nodup_nil
  entry := by
    intro id i
    exact iff_of_false List.not_mem_nil (not_stands_of_none rfl)

theorem Listed.eq_of_mem (h : s.Listed) {i j : RunId} (hi : (id, i) ∈ s.registry)
    (hj : (id, j) ∈ s.registry) : i = j :=
  congrArg Prod.snd (List.inj_on_of_nodup_map h.nodup hi hj rfl)

theorem active?_eq_none : s.active? id = none ↔ ∀ i, (id, i) ∉ s.registry := by
  unfold active? find?
  rw [Option.map_eq_none_iff, List.find?_eq_none]
  constructor
  · intro h i hi
    exact h _ hi (by simp)
  · rintro h ⟨id', i⟩ he hid
    obtain rfl : id' = id := by simpa using hid
    exact h i he

theorem Listed.active?_iff (h : s.Listed) : s.active? id = some i ↔ s.Stands id i := by
  rw [← h.entry]
  constructor
  · intro ha
    obtain ⟨⟨id', i'⟩, hf, rfl⟩ := Option.map_eq_some_iff.1 ha
    obtain rfl : id' = id := by simpa using List.find?_some hf
    exact List.mem_of_find?_eq_some hf
  · intro hi
    cases ha : s.active? id with
    | none => exact absurd hi (active?_eq_none.1 ha i)
    | some j =>
      obtain ⟨⟨id', j'⟩, hf, rfl⟩ := Option.map_eq_some_iff.1 ha
      obtain rfl : id' = id := by simpa using List.find?_some hf
      rw [h.eq_of_mem hi (List.mem_of_find?_eq_some hf)]

theorem Reachable.accounts (hs : s.Reachable) (hr : s.runs[i]? = some r) :
    r.Accounts (s.deeds i) := by
  refine hs.every_run (P := Run.Accounts) ?_ ?_ hr
  · intro s script options total
    exact ⟨rfl, fun _ hx => (nomatch hx), fun hp => (nomatch hp)⟩
  · intro s m i r r' ds hs hr hc ha
    cases hc with
    | still => exact ha
    | worked _ hw => exact hw.accounts ha
    | commanded => exact ha.on_session (Session.control_script _ _) (Session.control_index _ _)
    | swept => exact ha.on_session rfl rfl
    | launched => exact ha.on_session (Session.settle_script _ _) (Session.settle_index _ _)
    | spawned _ _ hin =>
      have hrep := ha.reports
      rw [hs.tidy.unborn_of_spawn hr hin] at hrep
      exact ⟨hrep, fun _ hx => (nomatch hx), fun hp => (nomatch hp)⟩

theorem Reachable.stands_of_unreported (hs : s.Reachable) (hr : s.runs[i]? = some r)
    (hp : r.place.reported = []) : s.Stands r.session.script.id i := by
  refine ⟨r, hr, rfl, fun hd => ?_⟩
  have hin : Deed.deregistered ∈ (s.deeds i).filter Deed.isReport :=
    List.mem_filter.2 ⟨hd, rfl⟩
  rw [(hs.accounts hr).reports, hp] at hin
  cases hin

theorem Reachable.stands_of_leaving (hs : s.Reachable) (hr : s.runs[i]? = some r) {x : RunResult}
    (hp : r.place = .leaving x) : s.Stands r.session.script.id i :=
  hs.stands_of_unreported hr (by rw [hp]; rfl)

theorem Listed.step (hs : s.Reachable) (h : s.Listed) (hstep : s.step? m = some s') :
    s'.Listed := by
  cases registryChange hs.tidy hstep with
  | still hreg hst =>
    refine ⟨?_, fun id i => ?_⟩
    · rw [hreg]
      exact h.nodup
    · rw [hreg, hst, h.entry]
  | @leaves j reply r x hm hr hp hreg hst =>
    have hj : (r.session.script.id, j) ∈ s.registry :=
      (h.entry _ _).2 (hs.stands_of_leaving hr hp)
    refine ⟨?_, fun id i => ?_⟩
    · rw [hreg]
      exact h.nodup.sublist (List.filter_sublist.map _)
    · rw [hreg, mem_drop, hst, h.entry]
      refine and_congr_right fun hi => not_congr ⟨?_, ?_⟩
      · -- no other run of the script stands
        rintro rfl
        exact h.eq_of_mem ((h.entry _ _).2 hi) hj
      · rintro rfl
        obtain ⟨r₁, hr₁, hid, _⟩ := hi
        rw [hr] at hr₁
        cases hr₁
        exact hid.symm
  | @enrolls script ha hreg hst =>
    refine ⟨?_, fun id i => ?_⟩
    · rw [hreg]
      refine List.nodup_cons.2 ⟨fun hin => ?_, h.nodup⟩
      obtain ⟨⟨id, i⟩, hin, rfl⟩ := List.mem_map.1 hin
      exact active?_eq_none.1 ha i hin
    · rw [hreg, List.mem_cons, hst, h.entry, or_comm, Prod.mk.injEq]

theorem Reachable.listed (hs : s.Reachable) : s.Listed := by
  refine (hs.invariant (P := fun s => s.Reachable ∧ s.Listed) ?_ ?_).2
  · exact fun settings approvals => ⟨⟨_, _, [], rfl⟩, .fresh settings approvals⟩
  · exact fun h hs => ⟨h.1.step hs, h.2.step h.1 hs⟩

/-! ## the end of a run -/

theorem started_step (ht : s.Tidy) (h : s.step? m = some s')
    (hlog : Entry.caller n (.closed (.started i)) ∈ s'.log) :
    Entry.caller n (.closed (.started i)) ∈ s.log ∨
      ∃ r, s'.runs[i]? = some r ∧ r.place ≠ .unborn := by
  cases m with
  | work j reply =>
    obtain ⟨_, _, ds, _, _, _, _, _, hlog'⟩ := work?_eq_some h
    left
    rw [hlog'] at hlog
    simpa using hlog
  | proceed k reply =>
    obtain ⟨t, _, hm, hstep⟩ := proceed?_eq_some h
    rcases (RequestStep.of_taskStep hstep).of_started hlog with hlog | ⟨rfl, hruns⟩
    · exact Or.inl hlog
    · obtain ⟨r, hr, _⟩ := ht.starting _ hm i rfl
      right
      refine ⟨{ r with place := .creating }, ?_, by simp⟩
      rw [hruns, List.getElem?_modify_eq, hr]
      rfl
  | request q =>
    cases h
    exact Or.inl hlog
  | elapse d =>
    cases h
    exact Or.inl hlog

theorem Reachable.born_of_started (hs : s.Reachable)
    (h : Entry.caller n (.closed (.started i)) ∈ s.log) :
    ∃ r, s.runs[i]? = some r ∧ r.place ≠ .unborn := by
  have hall := hs.invariant (P := fun s => s.Reachable ∧ ∀ (n : Nat) (i : RunId),
    Entry.caller n (.closed (.started i)) ∈ s.log →
      ∃ r, s.runs[i]? = some r ∧ r.place ≠ .unborn) ?_ ?_
  · exact hall.2 n i h
  · intro settings approvals
    exact ⟨⟨_, _, [], rfl⟩, fun n i h => nomatch h⟩
  · rintro s s' m ⟨hs, hP⟩ hstep
    refine ⟨hs.step hstep, fun n i hlog => ?_⟩
    rcases started_step hs.tidy hstep hlog with hlog | hborn
    · obtain ⟨r, hr, hp⟩ := hP n i hlog
      obtain ⟨r', ds, hr', _, hc⟩ := runChange hstep hr
      exact ⟨r', hr', hc.born hp⟩
    · exact hborn

/-- a worker that can do nothing more has reported its run, or the release of everything broke
down -/
theorem Reachable.reported_of_halted (hs : s.Reachable)
    (h : Entry.caller n (.closed (.started i)) ∈ s.log)
    (hn : ∀ reply, s.step? (.work i reply) = none) :
    (∃ x, s.placeOf? i = some (.gone x) ∧
      (s.deeds i).filter Deed.isReport = (Place.gone x).reported) ∨
    s.placeOf? i = some .lost ∧ Deed.ended .releaseAll .brokeDown ∈ s.deeds i := by
  obtain ⟨r, hr, hb⟩ := hs.born_of_started h
  have hplace := placeOf?_of_run hr
  have hadv (reply : Reply) : r.advance s.view reply = none := by
    cases ha : r.advance s.view reply with
    | none => rfl
    | some st =>
      obtain ⟨s', hs', _⟩ := step?_work hr ha
      rw [hn reply] at hs'
      cases hs'
  have hacc := hs.accounts hr
  rw [hplace]
  -- three places have no step, and at the first of them the run has not been started
  rcases Run.over_of_advance hadv with hp | ⟨x, hp⟩ | hp
  · exact absurd hp hb
  · left
    exact ⟨x, by rw [hp], by rw [hacc.reports, hp]⟩
  · right
    exact ⟨by rw [hp], hacc.lost hp⟩

/-- from its report on the worker alone moves its run on, one step at a time -/
theorem remaining_play (hs : s.Reachable) (hr : s.runs[i]? = some r) {x : RunResult}
    (hx : r.place.result? = some x) {ms : List Move} (hp : s.play? ms = some s') :
    ∃ r', s'.runs[i]? = some r' ∧ r'.place.result? = some x ∧
      r'.place.remaining + ms.countP (Move.isWorkOf i) = r.place.remaining := by
  -- on the moves: a step of the worker counts down, any other leaves the place as it is
  induction ms generalizing s r with
  | nil =>
    cases hp
    exact ⟨r, hr, hx, rfl⟩
  | cons m ms ih =>
    obtain ⟨s₁, h₁, h₂⟩ := exists_of_play?_cons hp
    have hb : r.place ≠ .unborn := fun hb => by rw [hb] at hx; cases hx
    rcases worked_or h₁ hr with ⟨reply, r₁, ds, rfl, hr₁, _, hw⟩ | ⟨hm, r₁, hr₁, _, hc⟩
    · obtain ⟨hx₁, hrem₁⟩ := hw.remaining hx
      obtain ⟨r', hr', hx', hrem⟩ := ih (hs.step h₁) hr₁ hx₁ h₂
      refine ⟨r', hr', hx', ?_⟩
      rw [List.countP_cons_of_pos (by simp [Move.isWorkOf])]
      omega
    · obtain ⟨hp₁, _⟩ := hc.aside hs.tidy hr hm hb
      obtain ⟨r', hr', hx', hrem⟩ := ih (hs.step h₁) hr₁ (by rw [hp₁]; exact hx) h₂
      refine ⟨r', hr', hx', ?_⟩
      rw [List.countP_cons_of_neg (by simp [hm]), hrem, hp₁]

/-! ## the next start -/

/-- the moves of a start to which nothing is opposed, up to the registry -/
def enrolling (n : Nat) (script : Script) (options : Options) : List Move :=
  [.request (.start script options), .proceed n .go, .proceed n (.provision (.ok ())),
    .proceed n .go, .proceed n .go]

theorem play?_step {s₁ : System} {ms : List Move} (h : s.step? m = some s₁)
    (h' : s₁.play? ms = some s') : s.play? (m :: ms) = some s' := by
  rw [play?_cons, h, Option.bind_some, h']

theorem step?_proceed {rest : List (Nat × Task)} (h : s.tasks = (n, t) :: rest)
    (h' : s.taskStep? n t reply = some s') : s.step? (.proceed n reply) = some s' := by
  show s.proceed? n reply = some s'
  rw [proceed?, h, List.find?_cons_of_pos (by simp)]
  exact h'

theorem vetTask_eq {script : Script} {options : Options} (ho : options.isValid = true)
    (hk : s.killSwitch.active = false) :
    s.vetTask n script options = s.goOn n (.provide script options) := by
  have hv : options.check? = .ok options := if_pos ho
  rw [vetTask, hv]
  simp [hk]

theorem enrollTask_eq {script : Script} {options : Options} {total : Option Nat}
    (ha : s.active? script.id = none) :
    s.enrollTask n script options total = { s with
      runs := s.runs ++ [s.enrolled script options total]
      registry := (script.id, s.runs.length) :: s.registry }.goOn n (.launch s.runs.length) := by
  rw [enrollTask, ha]
  rfl

theorem play?_enrolling {script : Script} {options : Options} (ha : s.active? script.id = none)
    (hk : s.killSwitch.active = false) (ho : options.isValid = true) :
    ∃ s' rest, s.play? (enrolling s.nextTask script options) = some s' ∧
      s'.tasks = (s.nextTask, .launch s.runs.length) :: rest ∧
      s'.registry = (script.id, s.runs.length) :: s.registry := by
  -- the services between the moves, written out: the conditions of each step are then read off
  let s₁ := s.ask (.start script options)
  let s₂ := s₁.goOn s.nextTask (.provide script options)
  let s₃ := s₂.goOn s.nextTask (.recall script options)
  let s₄ := s₃.goOn s.nextTask (.enroll script options (System.find? s.totals script.id))
  have ha₄ : s₄.active? script.id = none := ha
  have h₂ : s₁.step? (.proceed s.nextTask .go) = some s₂ :=
    step?_proceed rfl (congrArg some (vetTask_eq ho hk))
  have h₃ : s₂.step? (.proceed s.nextTask (.provision (.ok ()))) = some s₃ := step?_proceed rfl rfl
  have h₄ : s₃.step? (.proceed s.nextTask .go) = some s₄ := step?_proceed rfl rfl
  have h₅ : s₄.step? (.proceed s.nextTask .go) = some (s₄.enrollTask s.nextTask script options
      (System.find? s.totals script.id)) := step?_proceed rfl rfl
  rw [enrollTask_eq ha₄] at h₅
  exact ⟨_, _, play?_step rfl (play?_step h₂ (play?_step h₃ (play?_step h₄ (play?_step h₅
    (play?_nil _))))), rfl, rfl⟩

theorem play?_launched {rest : List (Nat × Task)} (h : s.tasks = (n, .launch i) :: rest) :
    ∃ s', s.play? (List.replicate 3 (.proceed n .go)) = some s' ∧ s'.registry = s.registry ∧
      Entry.caller n (.closed (.started i)) ∈ s'.log := by
  let s₁ := (s.onSession i fun x => x.settle .running).goOn n (.herald i)
  let s₂ := (s₁.note n (.run i (.told (.state (s₁.idOf i) .running)))).goOn n (.spawn i)
  have h₁ : s.step? (.proceed n .go) = some s₁ := step?_proceed h rfl
  have h₂ : s₁.step? (.proceed n .go) = some s₂ := step?_proceed rfl rfl
  exact ⟨_, play?_step h₁ (play?_step h₂ (play?_step (step?_proceed rfl rfl) (play?_nil _))), rfl,
    List.mem_cons_self⟩

theorem started_of_none {script : Script} {options : Options} (ha : s.active? script.id = none)
    (hk : s.killSwitch.active = false) (ho : options.isValid = true) :
    ∃ ms s', s.play? ms = some s' ∧ s'.active? script.id = some s.runs.length ∧
      Entry.caller s.nextTask (.closed (.started s.runs.length)) ∈ s'.log := by
  obtain ⟨s₁, rest, h₁, ht, hreg⟩ := play?_enrolling ha hk ho
  obtain ⟨s₂, h₂, hreg₂, hlog⟩ := play?_launched ht
  refine ⟨enrolling s.nextTask script options ++ List.replicate 3 (.proceed s.nextTask .go), s₂,
    ?_, ?_, hlog⟩
  · rw [play?_append, h₁, Option.bind_some, h₂]
  · rw [active?, hreg₂, hreg]
    simp [System.find?]

/-! ## one run of a script at a time -/

/-- how the runs of a script come one after the other -/
structure Regulated (s : System) : Prop where
  single : ∀ id i j, s.Stands id i → s.Stands id j → i = j
  entry : ∀ id i, s.active? id = some i ↔ s.Stands id i
  /-- an entry is removed by the worker of its run alone, when it has its report -/
  removed : ∀ m s' id i, s.step? m = some s' → (id, i) ∈ s.registry → (id, i) ∉ s'.registry →
    ∃ reply x, m = .work i reply ∧ s.placeOf? i = some (.leaving x) ∧ x.script = id
  /-- that worker finds its run in the registry and leaves the script without one -/
  left : ∀ i x, s.placeOf? i = some (.leaving x) → s.active? x.script = some i ∧
    s.Next i fun s' => s'.active? x.script = none
  /-- a start comes to the registry: it is turned away if a run of its script stands there -/
  enrolls : ∀ n script options total, s.task? n = some (.enroll script options total) →
    ∃ s', s.step? (.proceed n .go) = some s' ∧
      (∀ i, s.Stands script.id i → s' = s.close n (.refused (.alreadyRunning script.name))) ∧
      ((∀ i, ¬ s.Stands script.id i) → s'.Stands script.id s.runs.length ∧
        s'.task? n = some (.launch s.runs.length))
  /-- a run that was started, and whose worker has ended, has been reported once -/
  ended : ∀ n i, Entry.caller n (.closed (.started i)) ∈ s.log →
    (∀ reply, s.step? (.work i reply) = none) →
    (∃ x, s.placeOf? i = some (.gone x) ∧ (s.deeds i).filter Deed.isReport =
      [.told (.state x.script .idle), .told (Run.resultNotice x), .told (.state x.script x.state),
        .deregistered]) ∨
    s.placeOf? i = some .lost ∧ Deed.ended .releaseAll .brokeDown ∈ s.deeds i
  /-- nothing keeps a worker from its report, and nobody else makes it -/
  reports : ∀ i p x, s.placeOf? i = some p → p.result? = some x →
    (p ≠ .gone x → ∃ s', s.step? (.work i .go) = some s') ∧
    ∀ ms s', s.play? ms = some s' → ∃ p', s'.placeOf? i = some p' ∧ p'.result? = some x ∧
      p'.remaining + ms.countP (Move.isWorkOf i) = p.remaining
  /-- a script that has no active run can be started -/
  again : ∀ (script : Script) (options : Options), s.active? script.id = none →
    s.killSwitch.active = false → options.isValid = true → ∃ ms s', s.play? ms = some s' ∧
      s'.active? script.id = some s.runs.length ∧
      Entry.caller s.nextTask (.closed (.started s.runs.length)) ∈ s'.log

theorem removed_step (hs : s.Reachable) (h : s.step? m = some s') (hin : (id, i) ∈ s.registry)
    (hout : (id, i) ∉ s'.registry) :
    ∃ reply x, m = .work i reply ∧ s.placeOf? i = some (.leaving x) ∧ x.script = id := by
  have hl := hs.listed
  cases registryChange hs.tidy h with
  | still hreg => rw [hreg] at hout; exact absurd hin hout
  | enrolls _ hreg => rw [hreg] at hout; exact absurd (List.mem_cons_of_mem _ hin) hout
  | @leaves j reply r x hm hr hp hreg =>
    rw [hreg, mem_drop] at hout
    -- the removal goes by the script; that it takes this run's entry is the invariant
    have hid : id = r.session.script.id := Classical.byContradiction fun hne => hout ⟨hin, hne⟩
    have hj : (id, j) ∈ s.registry := by
      rw [hid, hl.entry]
      exact hs.stands_of_leaving hr hp
    obtain rfl := hl.eq_of_mem hin hj
    refine ⟨reply, x, hm, by rw [placeOf?_of_run hr, hp], ?_⟩
    rw [hid]
    exact ((hs.accounts hr).names x (by rw [hp]; rfl)).1

theorem left_next (hs : s.Reachable) {x : RunResult} (hp : s.placeOf? i = some (.leaving x)) :
    s.active? x.script = some i ∧ s.Next i fun s' => s'.active? x.script = none := by
  obtain ⟨r, hr, hp⟩ := Option.map_eq_some_iff.1 hp
  have hid : x.script = r.session.script.id := ((hs.accounts hr).names x (by rw [hp]; rfl)).1
  refine ⟨by rw [hs.listed.active?_iff, hid]; exact hs.stands_of_leaving hr hp, ?_, ?_⟩
  · have ha : r.advance s.view .go =
        some ({ r with place := .remembering x }, [.deregistered]) := by
      simp [Run.advance, hp, Run.go]
    obtain ⟨s', hs', _⟩ := step?_work hr ha
    exact ⟨s', hs'⟩
  · intro reply s' hs'
    obtain ⟨r', ds, _, hw, _, hreg⟩ := registry_of_work hs' hr
    have hd : ds = [.deregistered] := by
      cases hw with
      | leaves => rfl
      | _ hp' => simp_all [Place.isStage]
    rw [hd, if_pos (List.mem_singleton.2 rfl), ← hid] at hreg
    rw [active?_eq_none, hreg]
    intro j hj
    exact (mem_drop.1 hj).2 rfl

theorem enroll_step (hs : s.Reachable) {script : Script} {options : Options} {total : Option Nat}
    (ht : s.task? n = some (.enroll script options total)) :
    ∃ s', s.step? (.proceed n .go) = some s' ∧
      (∀ i, s.Stands script.id i → s' = s.close n (.refused (.alreadyRunning script.name))) ∧
      ((∀ i, ¬ s.Stands script.id i) → s'.Stands script.id s.runs.length ∧
        s'.task? n = some (.launch s.runs.length)) := by
  have hstep : s.step? (.proceed n .go) = some (s.enrollTask n script options total) :=
    step?_of_task? ht
  refine ⟨_, hstep, ?_, ?_⟩
  · intro i hi
    rw [enrollTask, hs.listed.active?_iff.2 hi]
  · intro hno
    have ha : s.active? script.id = none := by
      cases ha : s.active? script.id with
      | none => rfl
      | some i => exact absurd (hs.listed.active?_iff.1 ha) (hno i)
    rw [enrollTask_eq ha] at hstep ⊢
    refine ⟨(stands_enrolled hs.tidy hstep rfl rfl).2 (Or.inr ⟨rfl, rfl⟩), ?_⟩
    rw [task?_of_goOn rfl, if_pos rfl]

theorem report_onward (hs : s.Reachable) {p : Place} {x : RunResult}
    (hp : s.placeOf? i = some p) (hx : p.result? = some x) :
    (p ≠ .gone x → ∃ s', s.step? (.work i .go) = some s') ∧
    ∀ ms s', s.play? ms = some s' → ∃ p', s'.placeOf? i = some p' ∧ p'.result? = some x ∧
      p'.remaining + ms.countP (Move.isWorkOf i) = p.remaining := by
  obtain ⟨r, hr, rfl⟩ := Option.map_eq_some_iff.1 hp
  refine ⟨fun hg => ?_, fun ms s' hplay => ?_⟩
  · have ha : (r.advance s.view .go).isSome = true := by
      cases hq : r.place with
      | gone y =>
        rw [hq] at hx hg
        cases hx
        exact absurd rfl hg
      | leaving | remembering | tellState | tellResult | tellIdle => simp [Run.advance, hq]
      | _ => rw [hq] at hx; cases hx
    obtain ⟨⟨r', ds⟩, ha⟩ := Option.isSome_iff_exists.1 ha
    obtain ⟨s', hs', _⟩ := step?_work hr ha
    exact ⟨s', hs'⟩
  · obtain ⟨r', hr', hx', hrem⟩ := remaining_play hs hr hx hplay
    exact ⟨r'.place, placeOf?_of_run hr', hx', hrem⟩

/-- **A script has one run at a time: the registry has the run that was registered and has not left,
the worker of the run removes this entry and no other, a start that comes meanwhile is turned away,
and a run whose worker has ended has been reported once, so that its script can be started
again.** -/
theorem regulated_of_reachable (hs : s.Reachable) : s.Regulated where
  single := fun id i j hi hj =>
    hs.listed.eq_of_mem ((hs.listed.entry id i).2 hi) ((hs.listed.entry id j).2 hj)
  entry := fun _ _ => hs.listed.active?_iff
  removed := fun _ _ _ _ h hin hout => removed_step hs h hin hout
  left := fun _ _ hp => left_next hs hp
  enrolls := fun _ _ _ _ ht => enroll_step hs ht
  ended := fun _ _ h hn => hs.reported_of_halted h hn
  reports := fun _ _ _ hp hx => report_onward hs hp hx
  again := fun _ _ ha hk ho => started_of_none ha hk ho

/-- two starts of one script come to the registry together; when the run of the first is over, a
third one is let in -/
theorem regulated_of_reachable_raced :
    let go (n : Nat) : List Move :=
      [.proceed n .go, .proceed n (.provision (.ok ())), .proceed n .go]
    let s := (fresh {} {}).after ([.request (.start ⟨"s", "s", ""⟩ {}),
      .request (.start ⟨"s", "t", ""⟩ {})] ++ go 0 ++ go 1 ++ [.proceed 0 .go])
    let s' := s.after (List.replicate 3 (.proceed 0 .go) ++
      [.proceed 1 .go, .work 0 (.stage .brokeDown), .work 0 .go, .work 0 (.device .done)] ++
      List.replicate 7 (.work 0 .go))
    let s'' := s'.after (.request (.start ⟨"s", "t", ""⟩ {}) :: go 2 ++ [.proceed 2 .go])
    s.Regulated ∧ s.active? "s" = some 0 ∧ s.tasks.map (·.1) = [0, 1] ∧
      s'.Regulated ∧ s'.active? "s" = none ∧ s'.runs.length = 1 ∧
      ((s'.deeds 0).filter Deed.isReport).length = 4 ∧
      s''.Regulated ∧ s''.active? "s" = some 1 := by
  intro go s s' s''
  have hs : s.Reachable := Reachable.after ⟨_, _, [], rfl⟩ _
  have hs' : s'.Reachable := hs.after _
  have hs'' : s''.Reachable := hs'.after _
  exact ⟨regulated_of_reachable hs, by decide +kernel, by decide +kernel,
    regulated_of_reachable hs', by decide +kernel, by decide +kernel, by decide +kernel,
    regulated_of_reachable hs'', by decide +kernel⟩

end

end System

end ScriptGuard
