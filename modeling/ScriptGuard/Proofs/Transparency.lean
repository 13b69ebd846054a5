import Mathlib.Logic.Relation
import ScriptGuard.Proofs.Outline

/-!
# Inspection is transparent

A run may be paused, resumed and stepped at any moment without a difference to what it does.

* `System.allows`        what may happen beside the steps of the worker: requests to pause, resume
                         or step it, but none to end it;
* `Surroundings.play?`   an execution of a run in its surroundings;
* `outline_beat`         whatever happens, the outline of the run stays or becomes the next one;
* `agree_of_gone`        hence two executions that begin alike and end have done the same.
-/

namespace ScriptGuard

/-! ## executions in surroundings -/

/-- a request to look into a run, not to end it -/
def Command.inspects : Command → Bool
  | .pause | .resume | .step => true
  | .stop | .terminate => false

/-- a stage of a request to pause, resume or step a run, or to start one -/
def Task.inspects : Task → Bool
  | .look _ c | .apply _ c => c.inspects
  | .announce _ _ | .vet _ _ | .provide _ _ | .recall _ _ | .enroll _ _ _ | .launch _ | .herald _
  | .spawn _ => true
  | _ => false

/-- the worker is about to add to the approvals of all runs -/
def Place.grants : Place → Bool
  | .call _ (.grant _ _) => true
  | _ => false

namespace System

/-- what may happen beside the steps of the worker of a run: requests to pause, resume or step it,
starts of runs, time that passes, and steps of other workers that do not touch the approvals -/
def allows (s : System) (i : RunId) : Move → Bool
  | .work j _ => j ≠ i && !((s.placeOf? j).map Place.grants).getD false
  | .proceed task _ => ((s.task? task).map Task.inspects).getD false
  | .request _ | .elapse _ => true

end System

/-- what happens next to a run in its surroundings -/
inductive Beat where
  /-- its worker takes a step -/
  | work
  | other (m : Move)

namespace Surroundings

/-- the system after a beat, if it is possible and allowed -/
def beat? (e : Surroundings) (i : RunId) (s : System) : Beat → Option System
  | .work => (s.placeOf? i).bind fun p => s.step? (.work i (e.reply (s.deeds i) p))
  | .other m => if s.allows i m then s.step? m else none

def play? (e : Surroundings) (i : RunId) (s : System) : List Beat → Option System
  | [] => some s
  | b :: bs => (e.beat? i s b).bind fun s' => e.play? i s' bs

end Surroundings

/-! ## the outline of a run in the service -/

def System.outline? (s : System) (i : RunId) : Option Outline :=
  (s.runs[i]?).map fun r => r.outline s.view (s.deeds i)

theorem Session.control_blind (x : Session) {c : Command} (hc : c.inspects = true) :
    (x.control c).2.blind = x.blind := by
  rcases control_cases x c with ⟨h, _⟩ | ⟨h, _⟩
  · rw [h]
  · rw [h]
    cases c with
    | pause | resume | step => rfl
    | stop | terminate => cases hc

namespace System

section
variable {s s' : System} {i : RunId} {m : Move} {t : Task} {e : Surroundings} {r : Run}

theorem view_record (s : System) (j : RunId) (id : String) (d : Deed) :
    (s.record j id d).view = s.view.absorb d := by
  cases d <;> rfl

theorem view_foldl_record (s : System) (j : RunId) (id : String) (ds : List Deed) :
    (ds.foldl (fun s d => s.record j id d) s).view = ds.foldl View.absorb s.view := by
  induction ds generalizing s with
  | nil => rfl
  | cons d ds ih => rw [List.foldl_cons, List.foldl_cons, ih, view_record]

theorem view_of_work {reply : Reply} {r' : Run} {ds : List Deed} (hr : s.runs[i]? = some r)
    (ha : r.advance s.view reply = some (r', ds)) (h : s.step? (.work i reply) = some s') :
    s'.view = ds.foldl View.absorb s.view := by
  change s.work? i reply = some s' at h
  unfold work? at h
  simp only [hr, ha] at h
  cases h
  exact view_foldl_record ..

theorem outline_work (hr : s.runs[i]? = some r) (ht : s.settings.limits.duration = none)
    (h : s.step? (.work i (e.reply (s.deeds i) r.place)) = some s') :
    s'.outline? i = s.outline? i ∨
      ∃ o o', s.outline? i = some o ∧ s'.outline? i = some o' ∧ e.next? o = some o' := by
  obtain ⟨r₁, r', ds, hr₁, ha, hruns, _, _, hlog⟩ := work?_eq_some h
  rw [hr] at hr₁
  cases hr₁
  have hlt : i < s.runs.length := (List.getElem?_eq_some_iff.1 hr).1
  have ho : s.outline? i = some (r.outline s.view (s.deeds i)) := by
    rw [outline?, hr, Option.map_some]
  have ho' : s'.outline? i
      = some (r'.outline (ds.foldl View.absorb s.view) (ds.reverse ++ s.deeds i)) := by
    have hr' : s'.runs[i]? = some r' := by rw [hruns]; simp [hlt]
    rw [outline?, hr', Option.map_some, view_of_work hr ha h, deeds_of_work hlog, if_pos rfl]
  have hfollows : r.CatchesUp s.view.settings r' ds ∨
      r.Shadows s.view (e.reply (s.deeds i) r.place) r' ds := by
    cases hp : r.place.isStage with
    | true => exact Or.inr (.of_stage hp ha)
    | false => exact (WorkerStep.of_advance ha).follows hp ht
  rcases hfollows with hc | hs
  · left
    rw [ho, ho', hc.outline_eq]
  · right
    exact ⟨_, _, ho, ho', hs.next?⟩

theorem outline_congr {r' : Run} (hr : s.runs[i]? = some r) (hr' : s'.runs[i]? = some r')
    (hv : s'.view.blind = s.view.blind) (hd : s'.deeds i = s.deeds i)
    (hb : r'.blind s.settings = r.blind s.settings) (ho : r'.place.owed = r.place.owed) :
    s'.outline? i = s.outline? i := by
  have hset : s'.settings = s.settings := congrArg View.settings hv
  have hb' : r'.blind s'.view.settings = r.blind s.view.settings := by
    show r'.blind s'.settings = r.blind s.settings
    rw [hset, hb]
  unfold outline?
  rw [hr, hr', Option.map_some, Option.map_some]
  unfold Run.outline
  rw [hb', hv, ho, hd]

/-- a step of a request to pause, resume or step a run, or to start one, leaves alone what workers
see -/
theorem view_of_inspects {task : Nat} {reply : CallerReply} (ht : t.inspects = true)
    (h : s.taskStep? task t reply = some s') : s'.view = s.view := by
  cases t with
  | look id c =>
    cases reply with
    | go =>
      simp only [taskStep?] at h
      split at h <;> cases h <;> rfl
    | _ => cases h
  | apply run c =>
    cases reply with
    | go =>
      simp only [taskStep?, applyTask] at h
      obtain ⟨⟨a, s₁⟩, h₁, rfl⟩ := Option.map_eq_some_iff.1 h
      obtain ⟨_, _, _, rfl⟩ := command_eq_some h₁
      cases a with
      | applied shown => cases shown <;> rfl
      | _ => rfl
    | _ => cases h
  | vet script options =>
    cases reply with
    | go =>
      cases h
      unfold vetTask
      split
      · rfl
      · split <;> rfl
    | _ => cases h
  | provide script options =>
    cases reply with
    | provision p => cases p <;> cases h <;> rfl
    | _ => cases h
  | enroll script options total =>
    cases reply with
    | go =>
      cases h
      unfold enrollTask
      split <;> rfl
    | _ => cases h
  | cut | free | freeing | engage | survey | sweep | clear | clearing | disengage | approve | consult
  | seek | asking | grant | install =>
    cases ht
  | _ =>
    -- the others that inspect go on at once
    cases reply with
    | go =>
      cases h
      rfl
    | _ => cases h

theorem blind_of_inspects (hs : s.Tidy) {task : Nat} {reply : CallerReply} {runs : List Run}
    (ht : t.inspects = true) (hm : (task, t) ∈ s.tasks) (hr : s.runs[i]? = some r)
    (h : RunsChange s t reply runs) : ∃ r', runs[i]? = some r' ∧
      r'.blind s.settings = r.blind s.settings ∧ r'.place.owed = r.place.owed := by
  cases h with
  | still => exact ⟨r, hr, rfl, rfl⟩
  | @applied run c r₁ hr₁ =>
    by_cases hi : run = i
    · subst hi
      rw [hr] at hr₁
      cases hr₁
      exact ⟨{ r with session := (r.session.control c).2 }, by simp [hr],
        Run.blind_onSession (Session.control_blind r.session ht), rfl⟩
    · exact ⟨r, by simp [hi, hr], rfl, rfl⟩
  | cut => cases ht
  | swept => cases ht
  | enrolled =>
    have hlt : i < s.runs.length := (List.getElem?_eq_some_iff.1 hr).1
    exact ⟨r, by rw [List.getElem?_append_left hlt, hr], rfl, rfl⟩
  | @launched run =>
    by_cases hi : run = i
    · subst hi
      exact ⟨{ r with session := r.session.settle .running }, by simp [hr],
        Run.blind_onSession (Session.settle_blind r.session _), rfl⟩
    · exact ⟨r, by simp [hi, hr], rfl, rfl⟩
  | @spawned run =>
    by_cases hi : run = i
    · subst hi
      -- an unborn worker has the outline of one that waits for its interpreter
      have hp := hs.unborn_of_spawn hr hm
      refine ⟨{ r with place := .creating }, by simp [hr], Run.blind_congr rfl rfl rfl ?_, ?_⟩
      · rw [Run.blindPlace, Run.blindPlace, hp]
      · rw [hp]
        rfl
    · exact ⟨r, by simp [hi, hr], rfl, rfl⟩

end

end System

section
variable {v : View} {r r' : Run} {reply : Reply} {ds : List Deed}

theorem WorkerStep.absorb_of_not_grants (h : WorkerStep v r reply r' ds)
    (hg : r.place.grants = false) (w : View) : ds.foldl View.absorb w = w := by
  cases h with
  | call hp h =>
    cases h with
    | atGate _ h => cases h <;> rfl
    | grants => rw [hp] at hg; cases hg
    | _ => rfl
  | remembers => split <;> rfl
  | _ => rfl

end

namespace System

section
variable {s s' : System} {i : RunId} {m : Move} {e : Surroundings} {r : Run}

/-- what is allowed beside the steps of the worker makes no difference -/
theorem outline_other (hs : s.Tidy) (ha : s.allows i m = true) (hr : s.runs[i]? = some r)
    (h : s.step? m = some s') : s'.outline? i = s.outline? i := by
  cases m with
  | work j reply =>
    obtain ⟨hne, hg⟩ : j ≠ i ∧ ((s.placeOf? j).map Place.grants).getD false = false := by
      simpa [allows] using ha
    obtain ⟨r₁, r', ds, hr₁, hadv, hruns, _, _, hlog⟩ := work?_eq_some h
    have hg : r₁.place.grants = false := by simpa [placeOf?, hr₁] using hg
    have hv : s'.view = s.view := by
      rw [view_of_work hr₁ hadv h, (WorkerStep.of_advance hadv).absorb_of_not_grants hg]
    have hr' : s'.runs[i]? = some r := by rw [hruns, List.getElem?_set_ne hne, hr]
    have hd : s'.deeds i = s.deeds i := by
      rw [deeds_of_work hlog, if_neg hne]
      rfl
    exact outline_congr hr hr' (by rw [hv]) hd rfl rfl
  | proceed task reply =>
    obtain ⟨t, ht, hm, hstep⟩ := proceed?_eq_some h
    have hin : t.inspects = true := by simpa [allows, ht] using ha
    obtain ⟨hc, _, hd, _⟩ := callerStep hstep
    obtain ⟨r', hr', hb, ho⟩ := blind_of_inspects hs hin hm hr hc
    exact outline_congr hr hr' (by rw [view_of_inspects hin hstep]) (hd i) hb ho
  | request q =>
    cases h
    rfl
  | elapse d =>
    cases h
    rfl

end

end System

/-! ## executions -/

namespace Surroundings

section
variable {e : Surroundings} {s s' s₁ s₂ : System} {i : RunId} {b : Beat} {bs : List Beat}

theorem step?_of_beat (h : e.beat? i s b = some s') : ∃ m, s.step? m = some s' := by
  cases b with
  | work =>
    obtain ⟨p, _, h⟩ := Option.bind_eq_some_iff.1 h
    exact ⟨_, h⟩
  | other m =>
    simp only [beat?] at h
    split at h
    · exact ⟨m, h⟩
    · cases h

def Follows (e : Surroundings) (o o' : Outline) : Prop := o' ∈ e.next? o

/-- **Whatever happens, the outline stays or becomes the next one.** -/
theorem outline_beat (hs : s.Tidy) (ht : s.settings.limits.duration = none) {o : Outline}
    (ho : s.outline? i = some o) (h : e.beat? i s b = some s') :
    ∃ o', s'.outline? i = some o' ∧ Relation.ReflTransGen e.Follows o o' := by
  obtain ⟨r, hr, _⟩ := Option.map_eq_some_iff.1 ho
  have hsame (he : s'.outline? i = s.outline? i) :
      ∃ o', s'.outline? i = some o' ∧ Relation.ReflTransGen e.Follows o o' :=
    ⟨o, he.trans ho, .refl⟩
  cases b with
  | work =>
    obtain ⟨p, hp, h⟩ := Option.bind_eq_some_iff.1 h
    have hplace : r.place = p := by simpa [System.placeOf?, hr] using hp
    rw [← hplace] at h
    rcases System.outline_work hr ht h with he | ⟨o₁, o', ho₁, ho', hn⟩
    · exact hsame he
    · rw [ho] at ho₁
      cases ho₁
      exact ⟨o', ho', .single hn⟩
  | other m =>
    simp only [beat?] at h
    split at h
    · rename_i ha
      exact hsame (System.outline_other hs ha hr h)
    · cases h

theorem outline_play (hs : s.Reachable) (ht : s.settings.limits.duration = none) {o : Outline}
    (ho : s.outline? i = some o) (h : e.play? i s bs = some s') :
    ∃ o', s'.outline? i = some o' ∧ Relation.ReflTransGen e.Follows o o' := by
  induction bs generalizing s o with
  | nil =>
    cases h
    exact ⟨o, ho, .refl⟩
  | cons b bs ih =>
    obtain ⟨s₁, h₁, h₂⟩ := Option.bind_eq_some_iff.1 h
    obtain ⟨m, hm⟩ := step?_of_beat h₁
    obtain ⟨o₁, ho₁, hf⟩ := outline_beat hs.tidy ht ho h₁
    have ht₁ : s₁.settings.limits.duration = none := by rw [System.step?_settings hm, ht]
    obtain ⟨o', ho', hf'⟩ := ih (hs.step hm) ht₁ ho₁ h₂
    exact ⟨o', ho', hf.trans hf'⟩

theorem next?_of_gone {o : Outline} {x : RunResult} (h : o.run.place = .gone x) :
    e.next? o = none := by
  unfold next?
  have ha : o.run.advance o.view (e.reply o.deeds o.run.place) = none := by
    unfold Run.advance
    rw [h]
  rw [ha]
  rfl

/-- two executions that begin alike have the same outline once they are over -/
theorem outline_eq_of_gone (hs : s.Reachable) (hi : (s.runs[i]?).isSome = true)
    (ht : s.settings.limits.duration = none) {bs₁ bs₂ : List Beat}
    (h₁ : e.play? i s bs₁ = some s₁) (h₂ : e.play? i s bs₂ = some s₂) {x₁ x₂ : RunResult}
    (hx₁ : s₁.placeOf? i = some (.gone x₁)) (hx₂ : s₂.placeOf? i = some (.gone x₂)) :
    s₁.outline? i = s₂.outline? i := by
  obtain ⟨r, hr⟩ := Option.isSome_iff_exists.1 hi
  have ho : s.outline? i = some (r.outline s.view (s.deeds i)) := by
    rw [System.outline?, hr, Option.map_some]
  obtain ⟨o₁, ho₁, hf₁⟩ := outline_play hs ht ho h₁
  obtain ⟨o₂, ho₂, hf₂⟩ := outline_play hs ht ho h₂
  have hlast {s' : System} {o : Outline} {x : RunResult} (ho : s'.outline? i = some o)
      (hx : s'.placeOf? i = some (.gone x)) : e.next? o = none := by
    obtain ⟨r', hr', rfl⟩ := Option.map_eq_some_iff.1 ho
    have hp : r'.place = .gone x := by simpa [System.placeOf?, hr'] using hx
    refine next?_of_gone (x := x.blind) ?_
    show r'.blindPlace _ = _
    rw [Run.blindPlace, hp]
  have hdet : Relator.RightUnique e.Follows := fun _ _ _ => Option.mem_unique
  rw [ho₁, ho₂]
  -- of two outlines that come after the first one, one comes after the other
  rcases Relation.ReflTransGen.total_of_right_unique hdet hf₁ hf₂ with hf | hf
  · rcases hf.cases_head with he | ⟨_, hn, _⟩
    · rw [he]
    · rw [Follows, hlast ho₁ hx₁] at hn
      cases hn
  · rcases hf.cases_head with he | ⟨_, hn, _⟩
    · rw [he]
    · rw [Follows, hlast ho₂ hx₂] at hn
      cases hn

/-- what two executions of a run that end have in common -/
structure Agree (i : RunId) (s₁ s₂ : System) (x₁ x₂ : RunResult) : Prop where
  /-- all that was done, in its order, but for news of the state of the run -/
  deeds : (s₁.deeds i).filter Deed.isSeen = (s₂.deeds i).filter Deed.isSeen
  /-- the waits and effects that were begun -/
  begun : (s₁.deeds i).filterMap Deed.begun? = (s₂.deeds i).filterMap Deed.begun?
  questions : s₁.questions i = s₂.questions i
  /-- the results of the calls and of the interrupt checks -/
  feedback : (s₁.deeds i).filterMap Deed.feedback? = (s₂.deeds i).filterMap Deed.feedback?
  progress : s₁.progress i = s₂.progress i
  operations : x₁.operations = x₂.operations
  outcome : x₁.outcome = x₂.outcome

/-- **Inspection is transparent.**  Two executions of a run without a bound on its time, with
requests to pause, resume and step at any moments of one of them or of both, do the same if they
end. -/
theorem agree_of_gone (hs : s.Reachable) (hi : (s.runs[i]?).isSome = true)
    (ht : s.settings.limits.duration = none) {bs₁ bs₂ : List Beat}
    (h₁ : e.play? i s bs₁ = some s₁) (h₂ : e.play? i s bs₂ = some s₂) {x₁ x₂ : RunResult}
    (hx₁ : s₁.placeOf? i = some (.gone x₁)) (hx₂ : s₂.placeOf? i = some (.gone x₂)) :
    Agree i s₁ s₂ x₁ x₂ := by
  have ho := outline_eq_of_gone hs hi ht h₁ h₂ hx₁ hx₂
  obtain ⟨r₁, hr₁, hp₁⟩ := Option.map_eq_some_iff.1 hx₁
  obtain ⟨r₂, hr₂, hp₂⟩ := Option.map_eq_some_iff.1 hx₂
  simp only [System.outline?, hr₁, hr₂, Option.map_some, Option.some.injEq] at ho
  have hd : (s₁.deeds i).filter Deed.isSeen = (s₂.deeds i).filter Deed.isSeen := by
    have hd := congrArg Outline.deeds ho
    simpa only [Run.outline, hp₁, hp₂, Place.owed, List.nil_append] using hd
  have hx : x₁.blind = x₂.blind := by
    have hp : r₁.blindPlace s₁.view.settings = r₂.blindPlace s₂.view.settings :=
      congrArg (fun o => o.run.place) ho
    rw [Run.blindPlace, Run.blindPlace, hp₁, hp₂] at hp
    exact Place.gone.inj hp
  refine ⟨hd, ?_, ?_, ?_, ?_, ?_, ?_⟩
  · rw [← Deed.filterMap_begun, hd, Deed.filterMap_begun]
  · rw [System.questions, ← Deed.filterMap_question, hd, Deed.filterMap_question, System.questions]
  · rw [← Deed.filterMap_feedback, hd, Deed.filterMap_feedback]
  · rw [System.progress, ← Deed.filterMap_progress, hd, Deed.filterMap_progress, System.progress]
  · show x₁.blind.operations = x₂.blind.operations
    rw [hx]
  · show x₁.blind.outcome = x₂.blind.outcome
    rw [hx]

/-- a script that waits, checks for an interrupt and types, with a device and a handler that do
what they are asked -/
def obliging : Surroundings where
  stage := fun _ => .ready
  script := fun results =>
    match results.length with
    | 0 => .call .msleep [.int 40]
    | 1 => .poll
    | 2 => .call .typeText [.str "hi"]
    | _ => .finish .completed
  device := fun _ => .done
  verdict := fun _ => .approved

/-- a service with a handler that has just entered an interactive run -/
def admitted : System :=
  (System.fresh { limits := ⟨none, none⟩ } {}).after
    ([.request (.install true), .proceed 0 .go,
      .request (.start ⟨"s", "s", ""⟩ { mode := .interactive }), .proceed 1 .go,
      .proceed 1 (.provision (.ok ()))] ++ List.replicate 2 (.proceed 1 .go))

/-- a request to the run, up to its answer -/
def put (task : Nat) (c : Command) : List Beat :=
  .other (.request (.control "s" c)) :: List.replicate 3 (.other (.proceed task .go))

def plain : List Beat :=
  List.replicate 3 (.other (.proceed 1 .go)) ++ List.replicate 61 .work

/-- it is paused in a slice of its wait, stepped on, resumed, and paused while the handler is
asked -/
def inspected : List Beat :=
  List.replicate 3 (.other (.proceed 1 .go)) ++ List.replicate 18 .work ++ put 2 .pause ++
    List.replicate 5 .work ++ .other (.elapse ⟨7⟩) :: put 3 .step ++ List.replicate 23 .work ++
    put 4 .resume ++ List.replicate 3 .work ++ put 5 .pause ++ List.replicate 18 .work

theorem agree_of_gone_inspected :
    let x : RunResult := ⟨"s", "s", .completed, 2, .zero⟩
    (admitted.runs[0]?).isSome = true ∧ admitted.settings.limits.duration = none ∧
      ∃ s₁ s₂, obliging.play? 0 admitted plain = some s₁ ∧
        obliging.play? 0 admitted inspected = some s₂ ∧ s₁.placeOf? 0 = some (.gone x) ∧
        s₂.placeOf? 0 = some (.gone x) ∧ (s₁.deeds 0).filterMap Deed.begun?
          = [.input (.text "hi"), .wait (.ofMillis 20), .wait (.ofMillis 20)] ∧
        Agree 0 s₁ s₂ x x := by
  intro x
  have hs : admitted.Reachable := System.Reachable.after ⟨_, _, [], rfl⟩ _
  have hi : (admitted.runs[0]?).isSome = true := by decide +kernel
  have ht : admitted.settings.limits.duration = none := by decide +kernel
  have h₁ : (obliging.play? 0 admitted plain).map
      (fun s => (s.placeOf? 0, (s.deeds 0).filterMap Deed.begun?)) = some (some (.gone x),
        [.input (.text "hi"), .wait (.ofMillis 20), .wait (.ofMillis 20)]) := by decide +kernel
  have h₂ : (obliging.play? 0 admitted inspected).map (·.placeOf? 0) = some (some (.gone x)) := by
    decide +kernel
  obtain ⟨s₁, hs₁, hp₁⟩ := Option.map_eq_some_iff.1 h₁
  obtain ⟨s₂, hs₂, hx₂⟩ := Option.map_eq_some_iff.1 h₂
  obtain ⟨hx₁, hd₁⟩ := Prod.mk.inj hp₁
  exact ⟨hi, ht, s₁, s₂, hs₁, hs₂, hx₁, hx₂, hd₁,
    agree_of_gone hs hi ht hs₁ hs₂ hx₁ hx₂⟩

end

end Surroundings

end ScriptGuard
