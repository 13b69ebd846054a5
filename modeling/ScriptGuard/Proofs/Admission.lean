import ScriptGuard.Proofs.Trace

/-!
# What a request to start does

A request to start is checked four times: the options and the kill switch in one step, then the
device, and the registry when the run is entered.  Anything may happen between two of its steps.

* `System.FirstFault`    the check that fails first, with the strides that have come to it;
* `System.Starting`      how far the request has come, with one constructor for each stage;
* `starting_of_play`     every request to start goes this way;
* `System.Admission`, `admission_of_play`   it is refused for its first fault and leaves everything
                         as it was, or it enters one run and makes its first move before the worker
                         starts.
-/

namespace ScriptGuard

namespace Session

section
variable {x x' : Session}

theorem repause_expectedTotal (x : Session) : x.repause.expectedTotal = x.expectedTotal := by
  unfold repause
  split <;> rfl

theorem settle_expectedTotal (x : Session) (next : RunState) :
    (x.settle next).expectedTotal = x.expectedTotal := by
  unfold settle
  split <;> rfl

theorem control_expectedTotal (x : Session) (c : Command) :
    (x.control c).2.expectedTotal = x.expectedTotal := by
  rcases control_cases x c with ⟨h, _⟩ | ⟨h, _, _⟩ <;> rw [h]
  cases c <;> rfl

theorem GateMove.expectedTotal_eq {killed : Option String} {holds paused : Bool} {now : Nat}
    {verdict : GateVerdict} (h : x.GateMove killed holds now verdict paused x') :
    x'.expectedTotal = x.expectedTotal := by
  cases h with
  | aborts => cases killed <;> rfl
  | _ => rfl

end

end Session

section
variable {s : System} {m : Move} {i : RunId} {r r' : Run} {ds : List Deed}

theorem RunChange.expectedTotal_eq (h : RunChange s m i r r' ds) :
    r'.session.expectedTotal = r.session.expectedTotal := by
  cases h with
  | worked _ hw =>
    cases hw with
    | call _ hc =>
      cases hc with
      | atGate _ h =>
        obtain ⟨_, _, hg⟩ := h.gateMove
        exact hg.expectedTotal_eq
      | repauses => exact Session.repause_expectedTotal _
      | _ => rfl
    | settles => exact Session.settle_expectedTotal _ _
    | _ => rfl
  | commanded => exact Session.control_expectedTotal _ _
  | launched => exact Session.settle_expectedTotal _ _
  | _ => rfl

end

namespace System

section
variable {s s' : System} {m : Move} {ms : List Move} {i : RunId} {r : Run} {reason : String}

theorem expectedTotal_play (h : s.play? ms = some s') (hr : s.runs[i]? = some r) :
    ∃ r', s'.runs[i]? = some r' ∧ r'.session.expectedTotal = r.session.expectedTotal := by
  refine play?_induction (P := fun t => ∃ r', t.runs[i]? = some r' ∧
    r'.session.expectedTotal = r.session.expectedTotal) ?_ ⟨r, hr, rfl⟩ h
  rintro t t' m ⟨r₁, hr₁, he⟩ hstep
  obtain ⟨r', _, hr', _, hc⟩ := runChange hstep hr₁
  exact ⟨r', hr', hc.expectedTotal_eq.trans he⟩

/-- a run that has not been started has counted nothing -/
theorem Reachable.index_of_unborn (hs : s.Reachable) (hr : s.runs[i]? = some r)
    (hp : r.place = .unborn) : r.session.index = 0 := by
  refine hs.each_run (P := fun _ _ r => r.place = .unborn → r.session.index = 0)
    (fun _ _ _ _ _ => rfl) ?_ hr hp
  intro s s' m i r r' ds hs _ hr _ _ hc ih hp'
  cases hc with
  | still => exact ih hp'
  | worked _ hw => exact absurd hp' hw.born
  | commanded => rw [Session.control_index]; exact ih hp'
  | swept => exact ih hp'
  | launched => rw [Session.settle_index]; exact ih hp'
  | spawned => cases hp'

theorem Reachable.record_of_active (hs : s.Reachable) (hk : s.killSwitch.active = true) :
    ∃ reason, s.killSwitch.record = some reason := by
  refine hs.invariant (P := fun s => s.killSwitch.active = true →
    ∃ reason, s.killSwitch.record = some reason) (fun _ _ h => nomatch h) ?_ hk
  intro s s' m ih h hk
  cases m with
  | work j reply =>
    obtain ⟨r, r', ds, _, _, rfl⟩ := work?_eq_foldl h
    obtain ⟨hkill, _, _⟩ := foldl_record_shared j r.session.script.id ds
      { s with runs := s.runs.set j r' }
    rw [hkill] at hk ⊢
    exact ih hk
  | proceed n reply =>
    obtain ⟨t, _, hr⟩ := requestStep h
    cases hr with
    | engages => exact ⟨_, rfl⟩
    | disengages => cases hk
    | _ => exact ih hk
  | request q =>
    cases h
    exact ih hk
  | elapse d =>
    cases h
    exact ih hk

end

/-! ## the stages -/

section
variable (n : Nat) (script : Script) (options : Options)

structure Vetted (x : Stride) : Prop where
  stage : x.before.task? n = some (.vet script options)
  off : x.before.killSwitch.active = false
  spares : x.before.Spares n x.after

/-- the provider has a device -/
structure Provided (x : Stride) : Prop where
  stage : x.before.task? n = some (.provide script options)
  device : x.move = .proceed n (.provision (.ok ()))
  spares : x.before.Spares n x.after

/-- the total of the last completed run is looked up -/
structure Recalled (total : Option Nat) (x : Stride) : Prop where
  stage : x.before.task? n = some (.recall script options)
  total_eq : total = find? x.before.totals script.id
  spares : x.before.Spares n x.after

/-- the checks up to the registry are passed -/
structure Cleared (total : Option Nat) (x y z : Stride) : Prop where
  valid : options.isValid = true
  vetted : Vetted n script options x
  provided : Provided n script options y
  recalled : Recalled n script options total z

/-- the run is entered: one entry and one run more, and nothing else -/
structure Enters (total : Option Nat) (i : RunId) (x : Stride) : Prop where
  stage : x.before.task? n = some (.enroll script options total)
  free : x.before.active? script.id = none
  number : i = x.before.runs.length
  registry : x.after.registry = (script.id, i) :: x.before.registry
  runs : x.after.runs = x.before.runs ++ [x.before.enrolled script options total]
  totals : x.after.totals = x.before.totals
  log : x.after.log = x.before.log

/-- the session makes its first move, and no other session is touched -/
structure Launches (i : RunId) (x : Stride) : Prop where
  stage : x.before.task? n = some (.launch i)
  moves : ∃ r, x.before.runs[i]? = some r ∧ r.place = .unborn ∧ r.session.state = .idle ∧
    x.after.runs = x.before.runs.set i { r with session := { r.session with state := .running } }
  registry : x.after.registry = x.before.registry
  totals : x.after.totals = x.before.totals
  log : x.after.log = x.before.log

structure Heralds (i : RunId) (x : Stride) : Prop where
  stage : x.before.task? n = some (.herald i)
  registry : x.after.registry = x.before.registry
  totals : x.after.totals = x.before.totals
  runs : x.after.runs = x.before.runs
  log : x.after.log = .caller n (.run i (.told (.state (x.before.idOf i) .running))) :: x.before.log

/-- the worker is started; the session has not ended, has counted nothing and knows the total -/
structure Spawns (total : Option Nat) (i : RunId) (x : Stride) : Prop where
  stage : x.before.task? n = some (.spawn i)
  starts : ∃ r, x.before.runs[i]? = some r ∧ r.place = .unborn ∧
    r.session.state.isActive = true ∧ r.session.index = 0 ∧ r.session.expectedTotal = total ∧
    x.after.runs = x.before.runs.set i { r with place := .creating }
  registry : x.after.registry = x.before.registry
  totals : x.after.totals = x.before.totals
  log : x.after.log = .caller n (.closed (.started i)) :: x.before.log

/-- the check that fails first, with the strides that have come to it -/
inductive FirstFault : List Stride → Fault → Prop
  | options {x : Stride} (hv : options.isValid = false) :
      FirstFault [x] (.invalidOptions ⟨options.speed⟩)
  | killSwitch {x : Stride} {reason : String} (hv : options.isValid = true)
      (hx : x.before.task? n = some (.vet script options))
      (hk : x.before.killSwitch.active = true) (hr : x.before.killSwitch.record = some reason) :
      FirstFault [x] (.killSwitchActive reason)
  | device {x y : Stride} {e : DeviceError} (hv : options.isValid = true)
      (hx : Vetted n script options x) (hy : y.before.task? n = some (.provide script options))
      (hm : y.move = .proceed n (.provision (.error e))) : FirstFault [x, y] (.deviceUnavailable e)
  | taken {x y z u : Stride} {total : Option Nat} {j : RunId}
      (h : Cleared n script options total x y z)
      (hu : u.before.task? n = some (.enroll script options total))
      (ha : u.before.active? script.id = some j) :
      FirstFault [x, y, z, u] (.alreadyRunning script.name)

/-- the run is entered, launched, heralded and started, and nothing else is done -/
inductive Entered : List Stride → RunId → Prop
  | intro {x y z u v w q : Stride} {total : Option Nat} {i : RunId}
      (cleared : Cleared n script options total x y z) (enters : Enters n script options total i u)
      (launches : Launches n i v) (heralds : Heralds n i w) (spawns : Spawns n total i q) :
      Entered [x, y, z, u, v, w, q] i

/-- how far a request to start has come: its strides, its next stage and its answer -/
inductive Starting : List Stride → Option Task → Option Answer → Prop
  | asked : Starting [] (some (.vet script options)) none
  | vetted {x : Stride} (hv : options.isValid = true) (hx : Vetted n script options x) :
      Starting [x] (some (.provide script options)) none
  | provided {x y : Stride} (hv : options.isValid = true) (hx : Vetted n script options x)
      (hy : Provided n script options y) : Starting [x, y] (some (.recall script options)) none
  | cleared {x y z : Stride} {total : Option Nat} (h : Cleared n script options total x y z) :
      Starting [x, y, z] (some (.enroll script options total)) none
  | entered {x y z u : Stride} {total : Option Nat} {i : RunId}
      (h : Cleared n script options total x y z) (hu : Enters n script options total i u) :
      Starting [x, y, z, u] (some (.launch i)) none
  | launched {x y z u v : Stride} {total : Option Nat} {i : RunId}
      (h : Cleared n script options total x y z) (hu : Enters n script options total i u)
      (hv : Launches n i v) : Starting [x, y, z, u, v] (some (.herald i)) none
  | heralded {x y z u v w : Stride} {total : Option Nat} {i : RunId}
      (h : Cleared n script options total x y z) (hu : Enters n script options total i u)
      (hv : Launches n i v) (hw : Heralds n i w) :
      Starting [x, y, z, u, v, w] (some (.spawn i)) none
  | started {own : List Stride} {i : RunId} (h : Entered n script options own i) :
      Starting own none (some (.started i))
  | refused {own : List Stride} {f : Fault} (h : FirstFault n script options own f)
      (hs : ∀ x ∈ own, x.before.Spares n x.after) : Starting own none (some (.refused f))

end

section
variable {s s' t t' : System} {ms : List Move} {n : Nat} {script : Script} {options : Options}
  {past own : List Stride} {task : Task} {reply : CallerReply} {i : RunId} {total : Option Nat}
  {f : Fault}

theorem isValid_of_check {o : Options} (h : options.check? = .ok o) : options.isValid = true := by
  unfold Options.check? at h
  split at h
  · assumption
  · cases h

theorem error_of_check {e : OptionsError} (h : options.check? = .error e) :
    options.isValid = false ∧ e = ⟨options.speed⟩ := by
  unfold Options.check? at h
  split at h
  · cases h
  · rename_i hv
    cases h
    exact ⟨by simpa using hv, rfl⟩

theorem launches_of_step (ht : t.Reachable) (hk : t.task? n = some (.launch i)) (m : Move) :
    Launches n i ⟨t, m, (t.onSession i fun x => x.settle .running).goOn n (.herald i)⟩ := by
  obtain ⟨r, hr, hp, hidle⟩ := ht.tidy.starting _ (mem_of_task? hk) i rfl
  have hi : r.session.state = .idle := hidle rfl
  have hm : r.session.state.canMove .running = true := by rw [hi]; rfl
  have hs : r.session.settle .running = { r.session with state := .running } := if_pos hm
  refine ⟨hk, ⟨r, hr, hp, hi, ?_⟩, rfl, rfl, rfl⟩
  rw [← hs]
  exact modify_eq_set hr _

theorem spawns_of_step {u : Stride} (ht : t.Reachable)
    (hk : t.task? n = some (.spawn i)) (hu : Enters n script options total i u)
    (hl : ∃ ms, u.after.play? ms = some t) (m : Move) :
    Spawns n total i ⟨t, m, { t with
      runs := t.runs.modify i fun r => { r with place := .creating } }.close n (.started i)⟩ := by
  have hin := mem_of_task? hk
  obtain ⟨r, hr, hp, _⟩ := ht.tidy.starting _ hin i rfl
  have ha := ht.orderly.active_of_spawn hr hin
  have hentered : u.after.runs[i]? = some (u.before.enrolled script options total) := by
    rw [hu.runs, hu.number, List.getElem?_concat_length]
  obtain ⟨ms, hplay⟩ := hl
  obtain ⟨r', hr', htotal⟩ := expectedTotal_play hplay hentered
  rw [hr] at hr'
  cases hr'
  exact ⟨hk, ⟨r, hr, hp, ha, ht.index_of_unborn hr hp, htotal, modify_eq_set hr _⟩, rfl, rfl, rfl⟩

theorem Starting.step (h : Starting n script options past (some task) none) (ht : t.Reachable)
    (hk : t.task? n = some task) (hn : t.answer? n = none)
    (hl : ∀ x ∈ past, ∃ ms, x.after.play? ms = some t) (hr : RequestStep t n task reply t') :
    Starting n script options (past ++ [⟨t, .proceed n reply, t'⟩]) (t'.task? n)
      (t'.answer? n) := by
  cases h with
  | asked =>
    cases hr with
    | invalid ho =>
      obtain ⟨hv, rfl⟩ := error_of_check ho
      rw [task?_close, answer?_close]
      exact .refused (.options hv) (List.forall_mem_singleton.2 (spares_close _ _ _))
    | barred ho hkill =>
      obtain ⟨reason, hrec⟩ := ht.record_of_active hkill
      have hshown : t.killSwitch.shownReason = reason := by
        rw [KillSwitch.shownReason, hrec, Option.getD_some]
      rw [task?_close, answer?_close, hshown]
      exact .refused (.killSwitch (isValid_of_check ho) hk hkill hrec)
        (List.forall_mem_singleton.2 (spares_close _ _ _))
    | vetted ho hoff =>
      rw [task?_goOn, answer?_goOn, hn]
      exact .vetted (isValid_of_check ho) ⟨hk, hoff, spares_goOn _ _ _⟩
  | vetted hv hx =>
    cases hr with
    | unprovided =>
      rw [task?_close, answer?_close]
      refine .refused (.device hv hx hk rfl) ?_
      simp [hx.spares, spares_close]
    | provided =>
      rw [task?_goOn, answer?_goOn, hn]
      exact .provided hv hx ⟨hk, rfl, spares_goOn _ _ _⟩
  | provided hv hx hy =>
    cases hr with
    | recalls =>
      rw [task?_goOn, answer?_goOn, hn]
      exact .cleared ⟨hv, hx, hy, hk, rfl, spares_goOn _ _ _⟩
  | cleared h =>
    cases hr with
    | taken ha =>
      rw [task?_close, answer?_close]
      refine .refused (.taken h hk ha) ?_
      simp [h.vetted.spares, h.provided.spares, h.recalled.spares, spares_close]
    | enrolls ha =>
      rw [task?_goOn, answer?_goOn]
      exact hn ▸ .entered h ⟨hk, ha, rfl, rfl, rfl, rfl, rfl⟩
  | entered h hu =>
    cases hr with
    | launches =>
      rw [task?_goOn, answer?_goOn, answer?_onSession, hn]
      exact .launched h hu (launches_of_step ht hk _)
  | launched h hu hv =>
    cases hr with
    | heralds =>
      rw [task?_goOn, answer?_goOn, answer?_note_run, hn]
      exact .heralded h hu hv ⟨hk, rfl, rfl, rfl, rfl⟩
  | @heralded x y z u v w total i h hu hv hw =>
    cases hr with
    | spawns =>
      -- the total is the one with which the run was entered, whatever has happened since
      rw [task?_close, answer?_close]
      exact .started (.intro h hu hv hw (spawns_of_step ht hk hu (hl u (by simp)) _))

/-- **Every request to start goes this way.** -/
theorem starting_of_play (hs : s.Reachable)
    (h : (s.ask (.start script options)).play? ms = some s') :
    Starting s.nextTask script options
      ((s.ask (.start script options)).course s.nextTask ms) (s'.task? s.nextTask)
      (s'.answer? s.nextTask) :=
  course_induction hs .asked
    (fun hP ht hk hn hl hr => hP.step ht hk hn hl hr) h

/-! ## what the request comes to -/

/-- all checks are passed, each when its turn comes -/
structure Passes (n : Nat) (script : Script) (options : Options) (own : List Stride) : Prop where
  valid : options.isValid = true
  off : ∃ x ∈ own, Vetted n script options x
  device : ∃ x ∈ own, Provided n script options x
  free : ∃ x ∈ own, ∃ total, x.before.task? n = some (.enroll script options total) ∧
    x.before.active? script.id = none

theorem FirstFault.not_passes (h : FirstFault n script options own f)
    (hp : Passes n script options own) : False := by
  obtain ⟨hvalid, hoff, hdevice, hfree⟩ := hp
  cases h with
  | options hv =>
    rw [hvalid] at hv
    cases hv
  | killSwitch _ _ hk =>
    obtain ⟨x', hx', hoff⟩ := hoff
    obtain rfl := List.mem_singleton.1 hx'
    rw [hoff.off] at hk
    cases hk
  | @device x y e _ hx hy hm =>
    -- the device is asked for in the second stride only: the first one is at another stage
    obtain ⟨y', hy', hdevice⟩ := hdevice
    rcases List.mem_pair.1 hy' with rfl | rfl
    · have hstage := hx.stage.symm.trans hdevice.stage
      cases hstage
    · have hmove := hm.symm.trans hdevice.device
      cases hmove
  | @taken x y z u total j h hu ha =>
    obtain ⟨u', hu', total', hstage, hfree⟩ := hfree
    simp only [List.mem_cons, List.not_mem_nil, or_false] at hu'
    rcases hu' with rfl | rfl | rfl | rfl
    · have hstage := h.vetted.stage.symm.trans hstage
      cases hstage
    · have hstage := h.provided.stage.symm.trans hstage
      cases hstage
    · have hstage := h.recalled.stage.symm.trans hstage
      cases hstage
    · rw [ha] at hfree
      cases hfree

theorem FirstFault.unique {g : Fault} (h : FirstFault n script options own f)
    (h' : FirstFault n script options own g) : f = g := by
  cases h with
  | options hv =>
    cases h' with
    | options => rfl
    | killSwitch hv' => rw [hv] at hv'; cases hv'
  | killSwitch hv _ _ hr =>
    cases h' with
    | options hv' => rw [hv] at hv'; cases hv'
    | killSwitch _ _ _ hr' =>
      rw [hr] at hr'
      cases hr'
      rfl
  | device _ _ _ hm =>
    cases h' with
    | device _ _ _ hm' =>
      rw [hm] at hm'
      cases hm'
      rfl
  | taken => cases h'; rfl

/-- what a request to start comes to, whatever others do between its steps -/
structure Admission (s : System) (script : Script) (options : Options) (ms : List Move)
    (s' : System) : Prop where
  /-- it is a start or a refusal -/
  decides : ∀ a, s'.answer? s.nextTask = some a → (∃ i, a = .started i) ∨ ∃ f, a = .refused f
  admits : ∀ a, s'.answer? s.nextTask = some a → ((∃ i, a = .started i) ↔
    Passes s.nextTask script options ((s.ask (.start script options)).course s.nextTask ms))
  refuses : ∀ a f, s'.answer? s.nextTask = some a → (a = .refused f ↔
    FirstFault s.nextTask script options ((s.ask (.start script options)).course s.nextTask ms) f)
  /-- a refusal leaves everything as it was -/
  spares : ∀ f, s'.answer? s.nextTask = some (.refused f) →
    ∀ x ∈ (s.ask (.start script options)).course s.nextTask ms,
      x.before.Spares s.nextTask x.after
  alone : (∀ m ∈ ms, ∃ reply, m = .proceed s.nextTask reply) →
    ∀ f, s'.answer? s.nextTask = some (.refused f) → s.Spares s.nextTask s'
  /-- a start enters one run and makes its first move before the worker starts -/
  enters : ∀ i, s'.answer? s.nextTask = some (.started i) →
    Entered s.nextTask script options ((s.ask (.start script options)).course s.nextTask ms) i
  /-- and nothing keeps it from an answer -/
  onward : s'.answer? s.nextTask = none →
    ((s.ask (.start script options)).course s.nextTask ms).length < 7 ∧
      ∃ reply t, s'.step? (.proceed s.nextTask reply) = some t

theorem Entered.passes (h : Entered n script options own i) : Passes n script options own := by
  cases h with
  | @intro x y z u v w q total i hc hu =>
    exact ⟨hc.valid, ⟨x, by simp, hc.vetted⟩, ⟨y, by simp, hc.provided⟩, u, by simp, total,
      hu.stage, hu.free⟩

/-- a request that has been answered is refused for its first fault, or it has entered a run -/
theorem Starting.answered {next : Option Task} {a : Answer}
    (h : Starting n script options own next (some a)) :
    (∃ f, a = .refused f ∧ FirstFault n script options own f ∧
      ∀ x ∈ own, x.before.Spares n x.after) ∨
    ∃ i, a = .started i ∧ Entered n script options own i := by
  cases h with
  | refused h hs => exact Or.inl ⟨_, rfl, h, hs⟩
  | started h => exact Or.inr ⟨_, rfl, h⟩

/-- one that has not been answered can go on -/
theorem Starting.onward (h : Starting n script options own (s.task? n) none) :
    own.length < 7 ∧ ∃ reply t, s.step? (.proceed n reply) = some t := by
  generalize ht : s.task? n = task at h
  cases h with
  | asked => exact ⟨by simp, exists_step ht .go rfl⟩
  | vetted => exact ⟨by simp, exists_step ht (.provision (.ok ())) rfl⟩
  | provided => exact ⟨by simp, exists_step ht .go rfl⟩
  | cleared => exact ⟨by simp, exists_step ht .go rfl⟩
  | entered => exact ⟨by simp, exists_step ht .go rfl⟩
  | launched => exact ⟨by simp, exists_step ht .go rfl⟩
  | heralded => exact ⟨by simp, exists_step ht .go rfl⟩

/-- **A request to start is refused for its first fault and then leaves everything as it was, or it
passes all checks, enters one run and makes its first move before the worker starts.** -/
theorem admission_of_play (hs : s.Reachable)
    (h : (s.ask (.start script options)).play? ms = some s') :
    s.Admission script options ms s' := by
  have hP := starting_of_play hs h
  have hanswered {a : Answer} (ha : s'.answer? s.nextTask = some a) := (ha ▸ hP).answered
  refine ⟨fun a ha => ?decides, fun a ha => ?admits, fun a f ha => ?refuses, fun f ha => ?spares,
    fun halone f ha => ?alone, fun i ha => ?enters, fun hn => ?onward⟩
  case decides =>
    rcases hanswered ha with ⟨f, rfl, _⟩ | ⟨i, rfl, _⟩
    · exact Or.inr ⟨f, rfl⟩
    · exact Or.inl ⟨i, rfl⟩
  case admits =>
    rcases hanswered ha with ⟨f, rfl, hf, _⟩ | ⟨i, rfl, hi⟩
    · exact iff_of_false (by simp) hf.not_passes
    · exact iff_of_true ⟨i, rfl⟩ hi.passes
  case refuses =>
    rcases hanswered ha with ⟨g, rfl, hg, _⟩ | ⟨i, rfl, hi⟩
    · rw [Answer.refused.injEq]
      exact ⟨fun he => he ▸ hg, hg.unique⟩
    · exact iff_of_false (by simp) fun hf => hf.not_passes hi.passes
  case spares =>
    rcases hanswered ha with ⟨g, _, _, hs⟩ | ⟨i, hi, _⟩
    · exact hs
    · cases hi
  case alone =>
    rcases hanswered ha with ⟨g, _, _, hs⟩ | ⟨i, hi, _⟩
    · exact (spares_ask s _).trans (spares_of_alone halone hs h)
    · cases hi
  case enters =>
    rcases hanswered ha with ⟨g, hg, _⟩ | ⟨j, hj, hentered⟩
    · cases hg
    · cases hj
      exact hentered
  case onward => exact (hn ▸ hP).onward

/-- two requests to start one script, step by step; the first comes to the registry first -/
def abreast : List Move :=
  [.proceed 0 .go, .proceed 1 .go, .proceed 0 (.provision (.ok ())),
    .proceed 1 (.provision (.ok ())), .proceed 0 .go, .proceed 1 .go, .proceed 0 .go,
    .proceed 1 .go, .proceed 0 .go, .proceed 0 .go, .proceed 0 .go]

/-- both pass the first checks, and the registry decides -/
theorem admission_of_play_abreast :
    let s := fresh {} {}
    let again := Request.start ⟨"s", "again", ""⟩ {}
    let t := s.ask (.start ⟨"s", "s", ""⟩ {})
    let s' := t.after (.request again :: abreast)
    s.Admission ⟨"s", "s", ""⟩ {} (.request again :: abreast) s' ∧
      t.Admission ⟨"s", "again", ""⟩ {} abreast s' ∧
      s'.answer? 0 = some (.started 0) ∧
      s'.answer? 1 = some (.refused (.alreadyRunning "again")) := by
  intro s again t s'
  have hs : s.Reachable := ⟨_, _, [], rfl⟩
  have hplay : t.play? (.request again :: abreast) = some s' := play?_after (by decide +kernel)
  have ht : t.Reachable := hs.step (m := .request (.start ⟨"s", "s", ""⟩ {})) rfl
  have hagain : (t.ask again).play? abreast = some s' := hplay
  exact ⟨admission_of_play hs hplay, admission_of_play ht hagain, rfl, rfl⟩

end

end System

end ScriptGuard
