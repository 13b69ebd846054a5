import ScriptGuard.Proofs.RunChange
import ScriptGuard.Rehearsal.Actors

/-!
# A rehearsed run gets ready

In a rehearsal the next step is chosen and its reply supplied.  Here a start is followed from the
request to the script, for a plan without hooks.

* `Rehearsal.step?_eq`         a step of a rehearsal is a step of its system, a tick later;
* `Rehearsal.Waiting script r` the run has been started and its worker has not taken a step;
* `Rehearsal.waiting_of_start` a start whose options pass is answered with such a run;
* `Rehearsal.Waiting.control`  commands leave the worker where it is;
* `Rehearsal.Goes n r r'`      the workers take `n` steps, and come from `r` to `r'`;
* `Rehearsal.Waiting.goes`     if the source can be compiled, eleven steps bring the worker to the
                               script, with the functions registered and the script loaded.
-/

namespace ScriptGuard

/-- the request puts a command to a session -/
def Task.controls : Task → Bool
  | .look _ _ | .apply _ _ | .announce _ _ | .cut _ | .free _ | .freeing _ => true
  | _ => false

section
variable {s s' : System} {n : Nat} {t t' : Task} {reply : CallerReply}

theorem RequestStep.controls_next (h : RequestStep s n t reply s') (ht : t.controls = true)
    (ht' : s'.task? n = some t') : t'.controls = true := by
  cases h with
  | found | shown | cuts | frees =>
    rw [System.task?_of_goOn rfl, if_pos rfl] at ht'
    cases ht'
    rfl
  | missing | ignored | refused | applied | announced | cutMissing | cutRefused | freed
  | freeBroke =>
    rw [System.task?_of_quit rfl, if_pos rfl] at ht'
    cases ht'
  | _ => exact absurd ht Bool.false_ne_true

/-- a command changes the session of the one run and nothing else of it -/
theorem runs_of_controls {x : Run} (h : s.taskStep? n t reply = some s') (ht : t.controls = true)
    (hx : s.runs = [x]) : ∃ session : Session, s'.runs = [{ x with session := session }] ∧
      session.script = x.session.script := by
  have hput (run : RunId) (c : Command) {r : Run} (hr : s.runs[run]? = some r) :
      ∃ session : Session, (s.runs.modify run fun x => { x with session := (r.session.control c).2 })
        = [{ x with session := session }] ∧ session.script = x.session.script := by
    rw [hx] at hr ⊢
    cases run with
    | zero =>
      cases hr
      exact ⟨(x.session.control c).2, rfl, Session.control_script ..⟩
    | succ run => cases hr
  have hruns := (System.callerStep h).runs
  generalize s'.runs = runs at hruns ⊢
  cases hruns with
  | still => exact ⟨x.session, hx, rfl⟩
  | applied hr => exact hput _ _ hr
  | cut _ hr => exact hput _ _ hr
  | _ => exact absurd ht Bool.false_ne_true

end

namespace Rehearsal

/-! ## steps -/

section
variable {σ : Type} {r r' : Rehearsal σ} {thread : Thread} {m : Move} {entries : List Entry}

/-- the system in which the next step is taken: a tick later, with nothing written down -/
def onStage (r : Rehearsal σ) : System :=
  { r.system with clock := r.system.clock + tick.ns, log := [] }

/-- the rehearsal once the step has led its system to `s` -/
def arrive (r : Rehearsal σ) (thread : Thread) (s : System) : Rehearsal σ :=
  { r with
    system := { s with log := [] }
    record := s.log.reverse.foldl (jotEntry thread { s with log := [] }) r.record }

theorem step?_eq (r : Rehearsal σ) (thread : Thread) (m : Move) :
    r.step? thread m = (r.onStage.step? m).map fun s => (r.arrive thread s, s.log.reverse) := rfl

end

/-! ## what comes from outside to a request -/

section
variable {σ : Type} {r : Rehearsal σ} {act : Actor σ}

theorem fire_of_hooks (h : r.plan.hooks = []) (thread : Thread) (occasion : Occasion)
    (script : Option String) (number : Nat) : fire act r thread occasion script number = r := by
  unfold fire actionsAt
  rw [h]
  rfl

/-- a request is made with one step, and pursued from there -/
theorem raise_eq (act : Actor σ) (r : Rehearsal σ) (thread : Thread) (q : Request) :
    raise act r thread q = pursue act thread r.system.nextTask (64 + 8 * r.system.runs.length)
      (r.arrive thread (r.onStage.ask q)) := rfl

/-- without hooks nothing that a request waits for touches the system or the scripts -/
theorem supply_of_hooks (h : r.plan.hooks = []) (thread : Thread) (t : Task) :
    (supply act r thread t).1.system = r.system ∧ (supply act r thread t).1.plan = r.plan ∧
      (supply act r thread t).1.cast = r.cast := by
  cases t with
  | freeing run | clearing reason run runs | asking q | provide script options =>
    simp [supply, release, ask, provide, fire_of_hooks, setCounts, trace, h]
  | _ => exact ⟨rfl, rfl, rfl⟩

end

/-! ## a run that waits for its worker -/

/-- the only run has been started, and its worker has not taken a step -/
structure Waiting (script : Script) (r : Rehearsal Actors) : Prop where
  hooks : r.plan.hooks = []
  cast : r.cast = {}
  run : ∃ x, r.system.runs = [x] ∧ x.place = .creating ∧ x.session.script = script

section
variable {r r' : Rehearsal Actors} {script : Script} {act : Actor Actors} {thread : Thread}
  {task fuel : Nat}

theorem Waiting.of_eq (h : Waiting script r) (hsystem : r'.system.runs = r.system.runs)
    (hplan : r'.plan = r.plan) (hcast : r'.cast = r.cast) : Waiting script r' :=
  ⟨by rw [hplan, h.hooks], by rw [hcast, h.cast], by rw [hsystem]; exact h.run⟩

/-- a command is carried out without the worker -/
theorem Waiting.pursue (h : Waiting script r)
    (ht : ∀ t, lookup? r.system.tasks task = some t → t.controls = true) :
    Waiting script (pursue act thread task fuel r).1 := by
  -- what is left to do for the command is again a command
  induction fuel generalizing r with
  | zero => exact h
  | succ fuel ih =>
    unfold Rehearsal.pursue
    cases hlook : lookup? r.system.tasks task with
    | none => exact h
    | some t =>
      obtain ⟨hsystem, hplan, hcast⟩ : (supply act r thread t).1.system = _ ∧ _ ∧ _ :=
        supply_of_hooks h.hooks thread t
      dsimp only
      generalize supply act r thread t = supplied at hsystem hplan hcast
      obtain ⟨r₁, reply⟩ := supplied
      dsimp only at hsystem hplan hcast ⊢
      have h₁ : Waiting script r₁ := h.of_eq (by rw [hsystem]) hplan hcast
      have htask : r₁.onStage.task? task = some t := by
        rw [← hlook, ← hsystem]
        rfl
      rw [step?_eq]
      cases hstep : r₁.onStage.step? (.proceed task reply) with
      | none => exact h₁
      | some s =>
        rw [System.step?_of_task? htask] at hstep
        have h₂ : Waiting script (r₁.arrive thread s) := by
          obtain ⟨x, hx, hplace, hscript⟩ := h₁.run
          obtain ⟨session, hruns, hsession⟩ := runs_of_controls hstep (ht t hlook) hx
          exact ⟨h₁.hooks, h₁.cast, _, hruns, hplace, hsession.trans hscript⟩
        dsimp only [Option.map_some]
        cases answerIn task s.log.reverse with
        | some a => exact h₂
        | none => exact ih h₂ fun t' ht' => (RequestStep.of_taskStep hstep).controls_next (ht t hlook) ht'

theorem Waiting.control (h : Waiting script r) (id : String) (c : Command) :
    Waiting script (r.request (.control id c)).1 := by
  have hfirst : (System.firstTask (.control id c)).controls = true := by cases c <;> rfl
  rw [Rehearsal.request, raise_eq]
  refine Waiting.pursue (h.of_eq rfl rfl rfl) fun t ht => ?_
  obtain rfl : System.firstTask (.control id c) = t := by
    simpa [lookup?, arrive, onStage, System.ask] using ht
  exact hfirst

/-! ## starts -/

/-- nothing has been started so far, and nothing stands in the way of a start -/
structure Vacant (r : Rehearsal Actors) : Prop where
  hooks : r.plan.hooks = []
  refused : r.plan.faults.refused = []
  cast : r.cast = {}
  killSwitch : r.system.killSwitch.active = false
  registry : r.system.registry = []
  runs : r.system.runs = []
  tasks : r.system.tasks = []

/-- the first start is under way at this stage, with these runs so far -/
structure Starting (task : Nat) (t : Task) (runs : List Run) (r : Rehearsal Actors) : Prop where
  hooks : r.plan.hooks = []
  refused : r.plan.faults.refused = []
  cast : r.cast = {}
  stage : lookup? r.system.tasks task = some t
  runs : r.system.runs = runs

theorem Starting.provides {runs : List Run} {options : Options}
    (h : Starting task (.provide script options) runs r) :
    supply act r thread (.provide script options) = (r, .provision (.ok ())) := by
  have hok : r.plan.provision options.inputMode = .ok () := by
    rw [Plan.provision, h.refused]
    rfl
  rw [supply, provide, fire_of_hooks h.hooks, hok]
  rfl

theorem Starting.enrolls {options : Options} {total : Option Nat}
    (h : Starting task (.enroll script options total) [] r) (hg : r.system.registry = []) :
    r.onStage.taskStep? task (.enroll script options total) .go =
      some (({ r.onStage with
        runs := [r.onStage.enrolled script options total]
        registry := [(script.id, 0)] } : System).goOn task (.launch 0)) := by
  have hg : r.onStage.registry = [] := hg
  have hruns : r.onStage.runs = [] := h.runs
  have ha : r.onStage.active? script.id = none := by
    rw [System.active?, hg]
    rfl
  simp only [System.taskStep?, System.enrollTask, ha, hg, hruns]
  rfl

variable (act thread fuel)

/-- what comes from outside is there, and the step is taken -/
theorem pursue_of_step {t : Task} {reply : CallerReply} {s : System}
    (ht : lookup? r.system.tasks task = some t) (hsupply : supply act r thread t = (r, reply))
    (hstep : r.onStage.taskStep? task t reply = some s) :
    pursue act thread task (fuel + 1) r =
      (answerIn task s.log.reverse).elim (pursue act thread task fuel (r.arrive thread s))
        fun a => (r.arrive thread s, a) := by
  have htask : r.onStage.task? task = some t := ht
  have hmove : r.step? thread (.proceed task reply) = some (r.arrive thread s, s.log.reverse) := by
    rw [step?_eq, System.step?_of_task? htask, hstep]
    rfl
  rw [Rehearsal.pursue, ht]
  simp only [hsupply, hmove]
  cases answerIn task s.log.reverse <;> rfl

/-- a stage of a start leads to the next one -/
theorem Starting.goes {t : Task} {reply : CallerReply} {runs runs' : List Run} (t' : Task)
    (s : System) (h : Starting task t runs r) (hsupply : supply act r thread t = (r, reply))
    (hstep : r.onStage.taskStep? task t reply = some (s.goOn task t'))
    (hlog : answerIn task s.log.reverse = none) (hruns : s.runs = runs') :
    ∃ r', pursue act thread task (fuel + 1) r = pursue act thread task fuel r' ∧
      Starting task t' runs' r' ∧ r'.system.registry = s.registry := by
  have hanswer : answerIn task (s.goOn task t').log.reverse = none := hlog
  refine ⟨r.arrive thread (s.goOn task t'), ?_, ⟨h.hooks, h.refused, h.cast, ?_, hruns⟩, rfl⟩
  · rw [pursue_of_step act thread fuel h.stage hsupply hstep, hanswer, Option.elim_none]
  · simp [arrive, System.goOn, lookup?]

/-- a start whose options pass comes to the registry -/
theorem Starting.enlists {options options' : Options} (h : Starting task (.vet script options) [] r)
    (ho : options.check? = .ok options') (hk : r.system.killSwitch.active = false)
    (hg : r.system.registry = []) :
    ∃ x r', pursue act thread task (fuel + 4) r = pursue act thread task fuel r' ∧
      Starting task (.launch 0) [x] r' ∧ x.session.script = script := by
  have hvet : r.onStage.taskStep? task (.vet script options) .go =
      some (r.onStage.goOn task (.provide script options)) := by
    have hk : r.onStage.killSwitch.active = false := hk
    simp only [System.taskStep?, System.vetTask, ho, hk, Bool.false_eq_true, if_false]
  obtain ⟨r₁, hr₁, h₁, hg₁⟩ := h.goes act thread (fuel + 3) (.provide script options) r.onStage rfl
    hvet rfl h.runs
  obtain ⟨r₂, hr₂, h₂, hg₂⟩ := h₁.goes act thread (fuel + 2) (.recall script options) r₁.onStage
    h₁.provides rfl rfl h₁.runs
  obtain ⟨r₃, hr₃, h₃, hg₃⟩ := h₂.goes act thread (fuel + 1) (.enroll script options _) r₂.onStage
    rfl rfl rfl h₂.runs
  obtain ⟨r₄, hr₄, h₄, _⟩ := h₃.goes act thread fuel (.launch 0) _ rfl
    (h₃.enrolls (hg₃.trans (hg₂.trans (hg₁.trans hg)))) rfl rfl
  exact ⟨_, r₄, hr₁.trans (hr₂.trans (hr₃.trans hr₄)), h₄, rfl⟩

/-- a start that is in the registry is answered with the number of the run -/
theorem Starting.launches {x : Run} (h : Starting task (.launch 0) [x] r) :
    ∃ r', pursue act thread task (fuel + 3) r = (r', .started 0) ∧
      Waiting x.session.script r' := by
  have hlaunched : (r.onStage.onSession 0 fun x => x.settle .running).runs =
      [{ x with session := x.session.settle .running }] := by
    show r.system.runs.modify 0 _ = _
    rw [h.runs]
    rfl
  obtain ⟨r₁, hr₁, h₁, _⟩ := h.goes act thread (fuel + 2) (.herald 0) _ rfl rfl rfl hlaunched
  obtain ⟨r₂, hr₂, h₂, _⟩ := h₁.goes act thread (fuel + 1) (.spawn 0)
    (r₁.onStage.note task (.run 0 (.told (.state (r₁.onStage.idOf 0) .running)))) rfl rfl rfl h₁.runs
  have hr₃ := pursue_of_step act thread fuel h₂.stage rfl rfl
  have hanswer (s : System) (hs : s.log = []) :
      answerIn task (s.close task (.started 0)).log.reverse = some (.started 0) := by
    simp [System.close, System.note, System.quit, hs, answerIn]
  rw [hanswer _ rfl, Option.elim_some] at hr₃
  have hruns : r₂.onStage.runs.modify 0 (fun r => { r with place := .creating }) =
      [{ x with session := x.session.settle .running, place := .creating }] := by
    rw [show r₂.onStage.runs = _ from h₂.runs]
    rfl
  exact ⟨_, hr₁.trans (hr₂.trans hr₃), h₂.hooks, h₂.cast, _, hruns, rfl, Session.settle_script ..⟩

end

/-- a start whose options pass is answered with the number of the run -/
theorem waiting_of_start {r : Rehearsal Actors} (h : Vacant r) {options options' : Options}
    (ho : options.check? = .ok options') (script : Script) :
    ∃ r', r.request (.start script options) = (r', .started 0) ∧ Waiting script r' := by
  rw [Rehearsal.request, raise_eq, h.runs]
  have h₀ : Starting r.system.nextTask (.vet script options) []
      (r.arrive .caller (r.onStage.ask (.start script options))) := by
    refine ⟨h.hooks, h.refused, h.cast, ?_, h.runs⟩
    simp [lookup?, arrive, onStage, System.ask, System.firstTask]
  obtain ⟨x, r₁, hr₁, h₁, rfl⟩ := h₀.enlists r.actor .caller 60 ho h.killSwitch h.registry
  obtain ⟨r₂, hr₂, h₂⟩ := h₁.launches r.actor .caller 57
  exact ⟨r₂, hr₁.trans hr₂, h₂⟩

/-! ## the worker gets ready -/

/-- the workers take `n` steps, and come from `r` to `r'` -/
def Goes (n : Nat) (r r' : Rehearsal Actors) : Prop :=
  ∀ fuel, r.settle Actors.cast none (fuel + n) = r'.settle Actors.cast none fuel

section
variable {r r' r'' : Rehearsal Actors} {m n : Nat} {x : Run}

theorem Goes.trans (h : Goes m r r') (h' : Goes n r' r'') : Goes (n + m) r r'' := by
  intro fuel
  rw [← Nat.add_assoc, h, h']

theorem goes_of_play (hruns : r.system.runs = [x]) (h : play? Actors.cast r 0 = some r') :
    Goes 1 r r' := by
  intro fuel
  have hfirst : playFirst? Actors.cast r (List.range r.system.runs.length) = some r' := by
    rw [hruns]
    unfold playFirst?
    simp only [List.length_singleton, List.range_succ, List.range_zero, List.nil_append, h]
  rw [settle, hfirst]
  rfl

/-- a stage that succeeds brings the worker to the next one -/
theorem goes_of_stage (p q : Place) {cast : Actors} (hp : p.isStage = true)
    (hruns : r.system.runs = [{ x with place := p }])
    (hstage : Actors.stage r.cast 0 x.session.script p = (.ready, cast))
    (hnext : ∀ v, ({ x with place := p } : Run).advance v (.stage .ready) =
      some ({ x with place := q }, [])) :
    ∃ r', Goes 1 r r' ∧ r'.cast = cast ∧ r'.system.runs = [{ x with place := q }] := by
  have hrun : r.system.runs[0]? = some { x with place := p } := by rw [hruns]; rfl
  have hplay : play? Actors.cast r 0 = work? Actors.cast { r with cast := cast }
      (.worker x.session.script.id) 0 (.stage .ready) := by
    have hcast : Actors.cast.stage r.cast 0 x.session.script p = (.ready, cast) := hstage
    unfold play?
    cases p with
    | creating | registering fs | loading => simp only [hrun, hcast]
    | _ => cases hp
  have hstep : r.onStage.step? (.work 0 (.stage .ready)) =
      some { r.onStage with runs := [{ x with place := q }] } := by
    have hrun : r.onStage.runs[0]? = some { x with place := p } := hrun
    have hset : r.onStage.runs.set 0 { x with place := q } = [{ x with place := q }] := by
      rw [show r.onStage.runs = [{ x with place := p }] from hruns]
      rfl
    simp [System.step?, System.work?, hrun, hnext, hset]
  have hwork : work? Actors.cast { r with cast := cast } (.worker x.session.script.id) 0
      (.stage .ready) = some { r with
        cast := cast
        system := { r.onStage with runs := [{ x with place := q }] } } := by
    have hstep' : ({ r with cast := cast } : Rehearsal Actors).onStage.step?
      (.work 0 (.stage .ready)) = _ := hstep
    unfold work?
    rw [step?_eq, hstep']
    rfl
  exact ⟨_, goes_of_play hruns (hplay.trans hwork), rfl, rfl⟩

theorem interpreter_put (a : Actors) (i : Interpreter) : (a.put 0 i).interpreter 0 = i := by
  simp [Actors.interpreter, Actors.put, withEntry, lookup?]

/-- one function after the other is registered -/
theorem goes_of_registering {f : HostFunction} {fs : List HostFunction}
    (hruns : r.system.runs = [{ x with place := .registering (f :: fs) }]) :
    ∃ r', Goes (fs.length + 1) r r' ∧
      r'.cast.interpreter 0 =
        (f :: fs).foldl (fun i f => i.register f.name) (r.cast.interpreter 0) ∧
      r'.system.runs = [{ x with place := .loading }] := by
  induction fs generalizing f r with
  | nil =>
    obtain ⟨r', hgoes, hcast, hruns'⟩ :=
      goes_of_stage (.registering [f]) .loading rfl hruns rfl fun _ => rfl
    exact ⟨r', hgoes, by rw [hcast, interpreter_put]; rfl, hruns'⟩
  | cons g fs ih =>
    obtain ⟨r₁, hgoes₁, hcast₁, hruns₁⟩ :=
      goes_of_stage (.registering (f :: g :: fs)) (.registering (g :: fs)) rfl hruns rfl fun _ => rfl
    obtain ⟨r₂, hgoes₂, hcast₂, hruns₂⟩ := ih hruns₁
    refine ⟨r₂, hgoes₁.trans hgoes₂, ?_, hruns₂⟩
    rw [hcast₂, hcast₁, interpreter_put]
    rfl

end

end Rehearsal

/-! ## loading -/

def Interpreter.equipped : Interpreter :=
  HostFunction.all.foldl (fun i f => i.register f.name) {}

theorem Interpreter.load?_congr {i i' : Interpreter} {source name : String}
    (h : i.load? source name = .ok i') (j : Interpreter) : ∃ j', j.load? source name = .ok j' := by
  unfold load? at h ⊢
  split at h
  · cases h
  rename_i hname
  rw [if_neg hname]
  cases hbody : Code.parse? source with
  | error e =>
    rw [hbody] at h
    cases h
  | ok body => exact ⟨_, rfl⟩

namespace Rehearsal

/-- the worker of the only run has come to the script, which has been loaded into an interpreter with
all host functions -/
structure Ready (script : Script) (r : Rehearsal Actors) : Prop where
  run : ∃ x, r.system.runs = [x] ∧ x.place = .script ∧ x.session.script = script
  loaded : Interpreter.equipped.load? script.source script.name = .ok (r.cast.interpreter 0)

/-- **If the source can be compiled, the worker comes to the script.** -/
theorem Waiting.goes {r : Rehearsal Actors} {script : Script} {i j : Interpreter}
    (h : Waiting script r) (hload : j.load? script.source script.name = .ok i) :
    ∃ r', Goes 11 r r' ∧ Ready script r' := by
  obtain ⟨x, hruns, hplace, rfl⟩ := h.run
  have hruns : r.system.runs = [{ x with place := .creating }] := by rw [hruns, ← hplace]
  obtain ⟨i, hi⟩ := Interpreter.load?_congr hload .equipped
  obtain ⟨r₁, hgoes₁, hcast₁, hruns₁⟩ :=
    goes_of_stage .creating (.registering HostFunction.all) rfl hruns rfl fun _ => rfl
  obtain ⟨r₂, hgoes₂, hcast₂, hruns₂⟩ := goes_of_registering hruns₁
  have hequipped : r₂.cast.interpreter 0 = .equipped := by
    rw [hcast₂, hcast₁, interpreter_put]
    rfl
  have hstage : r₂.cast.stage 0 x.session.script .loading = (.ready, r₂.cast.put 0 i) := by
    rw [Actors.stage, hequipped, hi]
  obtain ⟨r₃, hgoes₃, hcast₃, hruns₃⟩ :=
    goes_of_stage .loading .script rfl hruns₂ hstage fun _ => rfl
  refine ⟨r₃, hgoes₁.trans (hgoes₂.trans hgoes₃), ⟨_, hruns₃, rfl, rfl⟩, ?_⟩
  rw [hcast₃, interpreter_put, hi]

end Rehearsal

end ScriptGuard
