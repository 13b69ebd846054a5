import ScriptGuard.Proofs.Determinism
import ScriptGuard.Proofs.Releases

/-!
# The outline of a run

What is left of a run if one looks away from its states, its grants, the time and the place of its
worker at the pause gate.

* `Surroundings`         what answers a run: its script, device and handler, each a function of what
                         it has been told or asked so far;
* `Run.outline`          the outline of a run; a reply that is about to be given once a pause has
                         been announced is given already (`Place.owed`);
* `Surroundings.next?`   the next outline, a function of the one before;
* `WorkerStep.follows`   with a step of the worker the outline takes the same step (`Run.Shadows`),
                         or it is there already (`Run.CatchesUp`).
-/

namespace ScriptGuard

/-! ## the surroundings of a run -/

/-- what a call or an interrupt check gives back to the script -/
inductive Feedback where
  | replied (reply : CallReply)
  | polled (reason : Option AbortReason)
deriving DecidableEq, Repr

def Deed.feedback? : Deed → Option Feedback
  | .replied _ x => some (.replied x)
  | .polled a => some (.polled a)
  | _ => none

/-- what answers a run; lists have the latest first -/
structure Surroundings where
  /-- the end of each stage of getting ready -/
  stage : Place → StageReply
  /-- what the script does, given what has been given back to it -/
  script : List Feedback → ScriptMove
  /-- the answer to the latest of the calls of the device -/
  device : List DeviceCall → DeviceReply
  /-- the answer to the latest of the questions -/
  verdict : List Question → Verdict

/-- the answer to a worker at a place, after these deeds -/
def Surroundings.reply (e : Surroundings) (ds : List Deed) (p : Place) : Reply :=
  match p with
  | .creating | .registering _ | .loading => .stage (e.stage p)
  | .script => .script (e.script (ds.filterMap Deed.feedback?))
  | .call _ (.asking _ _) => .verdict (e.verdict (ds.filterMap Deed.question?))
  | .call _ (.waiting _ _) | .call _ (.acting _) | .letting _ _ _ | .rescuing =>
    .device (e.device (ds.filterMap Deed.begun?))
  | _ => .go

/-! ## what is left of a run -/

def Session.blind (x : Session) : Session :=
  { x with state := .running, grants := 0, parkedTotal := 0, parkedSince := none }

def Frame.blind (f : Frame) : Frame := { f with holds := false }

def RunResult.blind (x : RunResult) : RunResult := { x with elapsed := .zero }

def View.blind (v : View) : View := { v with now := 0 }

namespace Run

/-- the place of a worker, the announcements of a pause and the marks of a grant left out -/
def blindPlace (r : Run) (settings : Settings) : Place :=
  match r.place with
  | .unborn => .creating
  | .call f (.gate k _) | .call f (.parked k _) => .call f.blind (.gate k false)
  -- the outline is through the gate before the pause has been announced
  | .call f (.announce k none) => .call f.blind (r.passed settings f k)
  | .call _ (.announce _ (some _)) | .call _ .repaused => .script
  | .call f (.repause n) | .call f (.progress n _) => .call f.blind (.progress n false)
  | .call f p => .call f.blind p
  | .leaving x => .leaving x.blind
  | .remembering x => .remembering x.blind
  | .tellState x => .tellState x.blind
  | .tellResult x => .tellResult x.blind
  | .tellIdle x => .tellIdle x.blind
  | .gone x => .gone x.blind
  | p => p

def blind (r : Run) (settings : Settings) : Run :=
  { r with session := r.session.blind, place := r.blindPlace settings }

end Run

/-- the reply that is given as soon as a pause has been announced -/
def Place.owed : Place → List Deed
  | .call f (.announce _ (some a)) => [.replied f.function (.error (.abort a))]
  | .call f .repaused => [.replied f.function .ok]
  | _ => []

/-- with the next step the worker only catches up with its outline -/
def Place.lags : Place → Bool
  | .unborn | .call _ (.announce _ _) | .call _ (.repause _) | .call _ .repaused => true
  | _ => false

/-- a deed that is not just news of the state of the run -/
def Deed.isSeen : Deed → Bool
  | .told (.progress _ _ _) => true
  | .told _ => false
  | _ => true

/-- the effect of a deed on what a worker sees -/
def View.absorb (v : View) : Deed → View
  | .granted c => { v with approvals := v.approvals.approve c }
  | _ => v

structure Outline where
  run : Run
  view : View
  /-- latest first -/
  deeds : List Deed

def Run.outline (r : Run) (v : View) (ds : List Deed) : Outline :=
  ⟨r.blind v.settings, v.blind, r.place.owed ++ ds.filter Deed.isSeen⟩

/-- the outline after the next step of the worker -/
def Surroundings.next? (e : Surroundings) (o : Outline) : Option Outline :=
  (o.run.advance o.view (e.reply o.deeds o.run.place)).map fun (r, ds) =>
    ⟨r.blind o.view.settings, ds.foldl View.absorb o.view,
      (ds.filter Deed.isSeen).reverse ++ o.deeds⟩

/-! ## deeds that are seen -/

section
variable {ds old : List Deed}

theorem Deed.filterMap_isSeen {β : Type} {f : Deed → Option β}
    (hf : ∀ n, (∀ id k t, n ≠ .progress id k t) → f (.told n) = none) (ds : List Deed) :
    (ds.filter Deed.isSeen).filterMap f = ds.filterMap f := by
  induction ds with
  | nil => rfl
  | cons d ds ih =>
    cases hd : d.isSeen with
    | true => rw [List.filter_cons_of_pos hd, List.filterMap_cons, List.filterMap_cons, ih]
    | false =>
      have hn : f d = none := by
        cases d with
        | told n => exact hf n fun id k t he => by rw [he] at hd; cases hd
        | _ => cases hd
      rw [List.filter_cons_of_neg (by simp [hd]), List.filterMap_cons_none hn, ih]

theorem Deed.filterMap_feedback (ds : List Deed) :
    (ds.filter Deed.isSeen).filterMap Deed.feedback? = ds.filterMap Deed.feedback? :=
  filterMap_isSeen (fun _ _ => rfl) ds

theorem Deed.filterMap_question (ds : List Deed) :
    (ds.filter Deed.isSeen).filterMap Deed.question? = ds.filterMap Deed.question? :=
  filterMap_isSeen (fun _ _ => rfl) ds

theorem Deed.filterMap_begun (ds : List Deed) :
    (ds.filter Deed.isSeen).filterMap Deed.begun? = ds.filterMap Deed.begun? :=
  filterMap_isSeen (fun _ _ => rfl) ds

theorem Deed.filterMap_progress (ds : List Deed) :
    (ds.filter Deed.isSeen).filterMap Deed.progress? = ds.filterMap Deed.progress? :=
  filterMap_isSeen (fun n hn => by
    cases n with
    | progress id n total => exact absurd rfl (hn id n total)
    | _ => rfl) ds

theorem Surroundings.reply_blind (e : Surroundings) {r : Run} {settings : Settings}
    (hl : r.place.lags = false) (ds : List Deed) :
    e.reply (r.place.owed ++ ds.filter Deed.isSeen) (r.blindPlace settings)
      = e.reply ds r.place := by
  unfold Run.blindPlace
  cases hp : r.place with
  | call f p =>
    rw [hp] at hl
    cases p with
    | announce _ _ | repause _ | repaused => cases hl
    | asking _ _ => simp only [Place.owed, reply, List.nil_append, Deed.filterMap_question]
    | waiting _ _ | acting _ => simp only [Place.owed, reply, List.nil_append, Deed.filterMap_begun]
    | _ => rfl
  | unborn => rw [hp] at hl; cases hl
  | script => simp only [Place.owed, reply, List.nil_append, Deed.filterMap_feedback]
  | letting => simp only [Place.owed, reply, List.nil_append, Deed.filterMap_begun]
  | rescuing => simp only [Place.owed, reply, List.nil_append, Deed.filterMap_begun]
  | _ => rfl

end

/-! ## a step and its outline -/

theorem Run.blind_congr {r r' : Run} {settings : Settings}
    (hx : r'.session.blind = r.session.blind) (hh : r'.held = r.held)
    (hc : r'.cleared = r.cleared) (hp : r'.blindPlace settings = r.blindPlace settings) :
    r'.blind settings = r.blind settings := by
  unfold Run.blind
  rw [hx, hh, hc, hp]

section
variable (x : Session)

theorem Session.settle_blind (next : RunState) : (x.settle next).blind = x.blind := by
  unfold settle
  split <;> rfl

theorem Session.repause_blind : x.repause.blind = x.blind := by
  unfold repause
  split <;> rfl

theorem Session.options_eq_of_blind {x x' : Session} (h : x'.blind = x.blind) :
    x'.options = x.options :=
  show x'.blind.options = x.blind.options by rw [h]

/-- at the gate only an abort makes a difference to the outline -/
theorem Session.GateMove.blind {x x' : Session} {killed : Option String} {holds paused : Bool}
    {now : Nat} {verdict : GateVerdict} (h : x.GateMove killed holds now verdict paused x') :
    verdict = .parked ∧ x'.blind = x.blind ∨
    (∃ holds', verdict = .passed holds') ∧ x'.blind = x.blind ∧
      x.blind.GateMove killed false 0 (.passed false) false (x.blind.wake 0) ∨
    ∃ a y, verdict = .aborted a ∧ x'.blind = y.blind ∧
      x.blind.GateMove killed false 0 (.aborted a) false y := by
  have passes (ha : x.abort = none) (hk : killed = none) :
      x.blind.GateMove killed false 0 (.passed false) false (x.blind.wake 0) :=
    .passes ha hk (by simp [Session.blind]) (by simp [Session.blind])
  cases h with
  | @aborts a ha =>
    right; right
    refine ⟨a, (x.blind.wake 0).heedSwitch killed, rfl, ?_, .aborts ?_⟩
    · cases killed <;> rfl
    · cases killed <;> exact ha
  | keeps ha hk => exact Or.inr (Or.inl ⟨⟨_, rfl⟩, rfl, passes ha hk⟩)
  | takes ha hk => exact Or.inr (Or.inl ⟨⟨_, rfl⟩, rfl, passes ha hk⟩)
  | passes ha hk => exact Or.inr (Or.inl ⟨⟨_, rfl⟩, rfl, passes ha hk⟩)
  | pauses => exact Or.inl ⟨rfl, rfl⟩
  | parks => exact Or.inl ⟨rfl, rfl⟩

end

theorem Limits.check_of_untimed {l : Limits} (h : l.duration = none) (n : Nat) (t t' : Duration) :
    l.check n t = l.check n t' := by
  simp [check, checkTime, h]

namespace Run

/-- a step that the outline is not aware of -/
structure CatchesUp (settings : Settings) (r r' : Run) (ds : List Deed) : Prop where
  blind : r'.blind settings = r.blind settings
  seen : ds.filter Deed.isSeen = r.place.owed
  owed : r'.place.owed = []

/-- a step that the outline takes too -/
structure Shadows (v : View) (r : Run) (reply : Reply) (r' : Run) (ds : List Deed) : Prop where
  lags : r.place.lags = false
  step : ∃ y ds', (r.blind v.settings).advance v.blind reply = some (y, ds') ∧
    y.blind v.settings = r'.blind v.settings ∧
    ds'.filter Deed.isSeen = ds.filter Deed.isSeen ++ r'.place.owed

end Run

section
variable {v : View} {r r' y : Run} {f : Frame} {p : CallPoint} {reply : Reply}
  {ds ds' : List Deed}

theorem Run.passed_congr {r r' : Run} {settings : Settings} {f f' : Frame} {k : Resume}
    (ho : r'.session.options = r.session.options) (hf : f'.call = f.call) :
    r'.passed settings f' k = r.passed settings f k := by
  cases k <;> simp [Run.passed, Run.needed, ho, hf]

theorem Run.blindPlace_passed {r q : Run} {settings : Settings} {f g : Frame} {k : Resume}
    (hp : r.place = .call f (q.passed settings g k)) :
    r.blindPlace settings = .call f.blind (q.passed settings g k) := by
  unfold Run.blindPlace
  rw [hp]
  cases k <;> rfl

/-- what others do to a session is no matter if they leave alone what is not blinded -/
theorem Run.blind_onSession {r : Run} {x : Session} {settings : Settings}
    (h : x.blind = r.session.blind) :
    ({ r with session := x } : Run).blind settings = r.blind settings := by
  refine Run.blind_congr h rfl rfl ?_
  have ho : x.options = r.session.options := Session.options_eq_of_blind h
  unfold Run.blindPlace
  cases r.place with
  | call f p =>
    cases p with
    | announce k stop =>
      cases stop with
      | none => exact congrArg _ (Run.passed_congr ho rfl)
      | some a => rfl
    | _ => rfl
  | _ => rfl

theorem Run.Shadows.of_step (hs : WorkerStep v.blind (r.blind v.settings) reply y ds')
    (hn : (r.blindPlace v.settings).isStage = false) (hl : r.place.lags = false)
    (hy : y.blind v.settings = r'.blind v.settings)
    (hd : ds'.filter Deed.isSeen = ds.filter Deed.isSeen ++ r'.place.owed) :
    r.Shadows v reply r' ds :=
  ⟨hl, y, ds', hs.advance_eq hn, hy, hd⟩

theorem Run.Shadows.of_call {q : CallPoint}
    (hs : CallStep v.blind (r.blind v.settings) f.blind q reply y ds')
    (hq : r.blindPlace v.settings = .call f.blind q) (hl : r.place.lags = false)
    (hy : y.blind v.settings = r'.blind v.settings)
    (hd : ds'.filter Deed.isSeen = ds.filter Deed.isSeen ++ r'.place.owed) :
    r.Shadows v reply r' ds :=
  .of_step (.call hq hs) (by rw [hq]; rfl) hl hy hd

theorem GateStep.follows {k : Resume} {shown : Bool} (h : GateStep v r f k shown r' ds)
    (hp : r.place = .call f (.gate k shown) ∨ r.place = .call f (.parked k shown)) :
    r.CatchesUp v.settings r' ds ∨ r.Shadows v .go r' ds := by
  have hblind : r.blindPlace v.settings = .call f.blind (.gate k false) ∧ r.place.lags = false ∧
      r.place.owed = [] := by
    rw [Run.blindPlace]
    rcases hp with hp | hp <;> rw [hp] <;> exact ⟨rfl, rfl, rfl⟩
  obtain ⟨hq, hl, ho⟩ := hblind
  have shadows {y : Run} {ds' : List Deed}
      (hs : GateStep v.blind (r.blind v.settings) f.blind k false y ds')
      (hy : y.blind v.settings = r'.blind v.settings)
      (hd : ds'.filter Deed.isSeen = ds.filter Deed.isSeen ++ r'.place.owed) :
      r.Shadows v .go r' ds :=
    .of_call (.atGate (Or.inl rfl) hs) hq hl hy hd
  -- in the outline the session is running, so that only an abort keeps a worker from passing
  cases h with
  | parks hg =>
    rcases hg.blind with ⟨_, hx⟩ | ⟨⟨_, hv⟩, _⟩ | ⟨_, _, hv, _⟩
    · exact .inl ⟨Run.blind_congr hx rfl rfl hq.symm, ho.symm, rfl⟩
    · cases hv
    · cases hv
  | @passes _ _ s hg hs =>
    rcases hg.blind with ⟨hv, _⟩ | ⟨_, hx, hg'⟩ | ⟨_, _, hv, _⟩
    · cases hv
    · have ho : s.options = r.session.options := Session.options_eq_of_blind hx
      refine .inr (shadows (.passes hg' rfl) (Run.blind_congr hx.symm rfl rfl ?_) ?_)
      · rw [Run.blindPlace_passed rfl, Run.blindPlace_passed rfl]
        exact congrArg _ (Run.passed_congr ho.symm rfl)
      · cases k <;> rfl
    · cases hv
  | @passesShown _ _ s hg hs =>
    rcases hg.blind with ⟨hv, _⟩ | ⟨_, hx, hg'⟩ | ⟨_, _, hv, _⟩
    · cases hv
    · have ho : s.options = r.session.options := Session.options_eq_of_blind hx
      refine .inr (shadows (.passes hg' rfl) (Run.blind_congr hx.symm rfl rfl ?_) rfl)
      rw [Run.blindPlace_passed rfl]
      exact congrArg _ (Run.passed_congr ho.symm rfl)
    · cases hv
  | aborts hg hs =>
    rcases hg.blind with ⟨hv, _⟩ | ⟨⟨_, hv⟩, _⟩ | ⟨_, y, hv, hx, hg'⟩
    · cases hv
    · cases hv
    · cases hv
      exact .inr (shadows (.aborts hg' rfl) (Run.blind_congr hx.symm rfl rfl rfl) rfl)
  | abortsShown hg hs =>
    rcases hg.blind with ⟨hv, _⟩ | ⟨⟨_, hv⟩, _⟩ | ⟨_, y, hv, hx, hg'⟩
    · cases hv
    · cases hv
    · cases hv
      exact .inr (shadows (.aborts hg' rfl) (Run.blind_congr hx.symm rfl rfl rfl) rfl)

theorem CallStep.follows (h : CallStep v r f p reply r' ds) (hp : r.place = .call f p)
    (ht : v.settings.limits.duration = none) :
    r.CatchesUp v.settings r' ds ∨ r.Shadows v reply r' ds := by
  obtain ⟨x, held, cleared, place⟩ := r
  cases hp
  -- outside the gate the outline takes the same step
  have shadows {q : CallPoint} {y : Run} {ds' : List Deed}
      (hs : CallStep v.blind (Run.blind ⟨x, held, cleared, .call f p⟩ v.settings) f.blind q reply
        y ds')
      (hq : Run.blindPlace ⟨x, held, cleared, .call f p⟩ v.settings = .call f.blind q)
      (hl : (Place.call f p).lags = false) (hy : y.blind v.settings = r'.blind v.settings)
      (hd : ds'.filter Deed.isSeen = ds.filter Deed.isSeen ++ r'.place.owed) :
      Run.Shadows v ⟨x, held, cleared, .call f p⟩ reply r' ds := .of_call hs hq hl hy hd
  cases h with
  | atGate hat h => exact h.follows (hat.imp (congrArg _) (congrArg _))
  | slotSet ha => exact .inr (shadows (.slotSet ha) rfl rfl rfl rfl)
  | slotClear ha => exact .inr (shadows (.slotClear ha) rfl rfl rfl rfl)
  | switchOn hk => exact .inr (shadows (.switchOn hk) rfl rfl rfl rfl)
  | switchOff hk => exact .inr (shadows (.switchOff hk) rfl rfl rfl rfl)
  | overLimit hx =>
    refine .inr (shadows (.overLimit ?_) rfl rfl rfl rfl)
    exact (Limits.check_of_untimed ht _ _ _).trans hx
  | withinLimits hx =>
    refine .inr (shadows (.withinLimits ?_) rfl rfl rfl rfl)
    exact (Limits.check_of_untimed ht _ _ _).trans hx
  | @announced k =>
    left
    refine ⟨Run.blind_congr rfl rfl rfl ?_, rfl, ?_⟩ <;> cases k <;> rfl
  | announcedStop => exact .inl ⟨rfl, rfl, rfl⟩
  | permitted => exact .inr (shadows .permitted rfl rfl rfl rfl)
  | cleared hc => exact .inr (shadows (.cleared hc) rfl rfl rfl rfl)
  | approved hc ha => exact .inr (shadows (.approved hc ha) rfl rfl rfl rfl)
  | unknown hc ha => exact .inr (shadows (.unknown hc ha) rfl rfl rfl rfl)
  | asks hh => exact .inr (shadows (.asks hh) rfl rfl rfl rfl)
  | nobody hh => exact .inr (shadows (.nobody hh) rfl rfl rfl rfl)
  | allowed ha => exact .inr (shadows (.allowed ha) rfl rfl rfl rfl)
  | denied ha => exact .inr (shadows (.denied ha) rfl rfl rfl rfl)
  | grants => exact .inr (shadows .grants rfl rfl rfl rfl)
  | rested hd => exact .inr (shadows (.rested hd) rfl rfl rfl rfl)
  | slice hd => exact .inr (shadows (.slice hd) rfl rfl rfl rfl)
  | sliceDone => exact .inr (shadows .sliceDone rfl rfl rfl rfl)
  | sliceFailed => exact .inr (shadows .sliceFailed rfl rfl rfl rfl)
  | sliceBroke => exact .inr (shadows .sliceBroke rfl rfl rfl rfl)
  | noInput hf => exact .inr (shadows (.noInput hf) rfl rfl rfl rfl)
  | input hf => exact .inr (shadows (.input hf) rfl rfl rfl rfl)
  | inputDone => exact .inr (shadows .inputDone rfl rfl rfl rfl)
  | inputFailed => exact .inr (shadows .inputFailed rfl rfl rfl rfl)
  | inputBroke => exact .inr (shadows .inputBroke rfl rfl rfl rfl)
  | holds => exact .inr (shadows .holds rfl rfl rfl rfl)
  -- the outline knows of no grant
  | countsHeld => exact .inr (shadows (.counts rfl) rfl rfl rfl rfl)
  | counts => exact .inr (shadows (.counts rfl) rfl rfl rfl rfl)
  | repauses => exact .inl ⟨Run.blind_congr (Session.repause_blind x) rfl rfl rfl, rfl, rfl⟩
  | progress => exact .inr (shadows .progress rfl rfl rfl rfl)
  | progressPaused => exact .inr (shadows .progress rfl rfl rfl rfl)
  | repaused => exact .inl ⟨rfl, rfl, rfl⟩
  | raises => exact .inr (shadows .raises rfl rfl rfl rfl)

theorem Run.Shadows.of_stage (hp : r.place.isStage = true)
    (h : r.advance v reply = some (r', ds)) : r.Shadows v reply r' ds := by
  obtain ⟨x, held, cleared, place⟩ := r
  cases place with
  | creating =>
    cases reply with
    | stage a => cases a <;> cases h <;> exact ⟨rfl, _, _, rfl, rfl, rfl⟩
    | _ => cases h
  | registering fs =>
    cases reply with
    | stage a =>
      cases a with
      | ready =>
        rcases fs with _ | ⟨_, _ | ⟨_, _⟩⟩ <;> cases h <;> exact ⟨rfl, _, _, rfl, rfl, rfl⟩
      | _ => cases h; exact ⟨rfl, _, _, rfl, rfl, rfl⟩
    | _ => cases h
  | loading =>
    cases reply with
    | stage a => cases a <;> cases h <;> exact ⟨rfl, _, _, rfl, rfl, rfl⟩
    | _ => cases h
  | _ => cases hp

theorem Run.result_blind_congr {r r' : Run} (h : r'.session.blind = r.session.blind) (o : Outcome)
    (n n' : Nat) : (r'.result o n').blind = (r.result o n).blind := by
  show RunResult.mk r'.session.blind.script.id r'.session.blind.script.name o
    r'.session.blind.index .zero = _
  rw [h]
  rfl

theorem Run.isSeen_resultNotice (x : RunResult) :
    Deed.isSeen (.told (Run.resultNotice x)) = false := by
  unfold Run.resultNotice
  split <;> rfl

/-- **The outline takes the same step, or the worker catches up with it.** -/
theorem WorkerStep.follows (h : WorkerStep v r reply r' ds) (hn : r.place.isStage = false)
    (ht : v.settings.limits.duration = none) :
    r.CatchesUp v.settings r' ds ∨ r.Shadows v reply r' ds := by
  have hstage {P : Prop} (hp : r.place.isStage = true) : P := by
    rw [hn] at hp
    cases hp
  rcases h.inCall_or with ⟨f, p, hp, hc⟩ | hout
  · exact hc.follows hp ht
  right
  obtain ⟨x, held, cleared, place⟩ := r
  have shadows {y : Run} {ds' : List Deed}
      (hs : WorkerStep v.blind (Run.blind ⟨x, held, cleared, place⟩ v.settings) reply y ds')
      (hn' : (Run.blindPlace ⟨x, held, cleared, place⟩ v.settings).isStage = false)
      (hl : place.lags = false) (hy : y.blind v.settings = r'.blind v.settings)
      (hd : ds'.filter Deed.isSeen = ds.filter Deed.isSeen ++ r'.place.owed) :
      Run.Shadows v ⟨x, held, cleared, place⟩ reply r' ds := .of_step hs hn' hl hy hd
  cases h with
  | call hp => cases hp; cases hout
  | staged hp => exact hstage hp
  | unready hp => exact hstage hp
  | stageBroke hp => exact hstage hp
  | equipped hp => exact hstage (by rw [hp]; rfl)
  | calls hp hc => cases hp; exact shadows (.calls rfl hc) rfl rfl rfl rfl
  | garbled hp hc => cases hp; exact shadows (.garbled rfl hc) rfl rfl rfl rfl
  | polls hp => cases hp; exact shadows (.polls rfl) rfl rfl rfl rfl
  | finishes hp => cases hp; exact shadows (.finishes rfl) rfl rfl rfl rfl
  | breaks hp => cases hp; exact shadows (.breaks rfl) rfl rfl rfl rfl
  | pollSet hp ha => cases hp; exact shadows (.pollSet rfl ha) rfl rfl rfl rfl
  | pollClear hp ha => cases hp; exact shadows (.pollClear rfl ha) rfl rfl rfl rfl
  | pollOn hp hk => cases hp; exact shadows (.pollOn rfl hk) rfl rfl rfl rfl
  | pollOff hp hk => cases hp; exact shadows (.pollOff rfl hk) rfl rfl rfl rfl
  | pollRaises hp => cases hp; exact shadows (.pollRaises rfl) rfl rfl rfl rfl
  | lets hp => cases hp; exact shadows (.lets rfl) rfl rfl rfl rfl
  | allLet hp => cases hp; exact shadows (.allLet rfl) rfl rfl rfl rfl
  | letDone hp hd => cases hp; exact shadows (.letDone rfl hd) rfl rfl rfl rfl
  | letBroke hp => cases hp; exact shadows (.letBroke rfl) rfl rfl rfl rfl
  | rescues hp => cases hp; exact shadows (.rescues rfl) rfl rfl rfl rfl
  | rescued hp hd => cases hp; exact shadows (.rescued rfl hd) rfl rfl rfl rfl
  | rescueBroke hp => cases hp; exact shadows (.rescueBroke rfl) rfl rfl rfl rfl
  | concludes hp => cases hp; exact shadows (.concludes rfl) rfl rfl rfl rfl
  | @settles o hp =>
    cases hp
    have hx : (x.blind.settle o.state).blind = (x.settle o.state).blind := by
      rw [Session.settle_blind, Session.settle_blind]
      rfl
    refine shadows (.settles rfl) rfl rfl (Run.blind_congr hx rfl rfl ?_) rfl
    exact congrArg Place.leaving (Run.result_blind_congr hx o _ _)
  | leaves hp => cases hp; exact shadows (.leaves rfl) rfl rfl rfl rfl
  | remembers hp =>
    cases hp
    exact shadows (.remembers rfl) rfl rfl rfl (List.append_nil _).symm
  | tellsState hp => cases hp; exact shadows (.tellsState rfl) rfl rfl rfl rfl
  | tellsResult hp =>
    cases hp
    refine shadows (.tellsResult rfl) rfl rfl rfl ?_
    simp [Run.isSeen_resultNotice, Place.owed]
  | tellsIdle hp => cases hp; exact shadows (.tellsIdle rfl) rfl rfl rfl rfl

end

/-! ## the next outline -/

section
variable {v : View} {ds old : List Deed}

theorem View.absorb_settings (v : View) (d : Deed) : (v.absorb d).settings = v.settings := by
  cases d <;> rfl

theorem View.foldl_absorb_settings (v : View) (ds : List Deed) :
    (ds.foldl View.absorb v).settings = v.settings := by
  induction ds generalizing v with
  | nil => rfl
  | cons d ds ih => rw [List.foldl_cons, ih, absorb_settings]

theorem View.foldl_absorb_blind (v : View) (ds : List Deed) :
    (ds.foldl View.absorb v).blind = ds.foldl View.absorb v.blind := by
  induction ds generalizing v with
  | nil => rfl
  | cons d ds ih =>
    rw [List.foldl_cons, List.foldl_cons, ih]
    cases d <;> rfl

theorem View.foldl_absorb_isSeen (v : View) (ds : List Deed) :
    (ds.filter Deed.isSeen).foldl View.absorb v = ds.foldl View.absorb v := by
  induction ds generalizing v with
  | nil => rfl
  | cons d ds ih =>
    cases hd : d.isSeen with
    | true => rw [List.filter_cons_of_pos hd, List.foldl_cons, List.foldl_cons, ih]
    | false =>
      have hv : v.absorb d = v := by
        cases d with
        | told n => rfl
        | _ => cases hd
      rw [List.filter_cons_of_neg (by simp [hd]), List.foldl_cons, hv, ih]

theorem View.foldl_absorb_owed (v : View) (p : Place) : p.owed.foldl View.absorb v = v := by
  unfold Place.owed
  split <;> rfl

theorem Place.reverse_owed (p : Place) : p.owed.reverse = p.owed := by
  unfold Place.owed
  split <;> rfl

theorem Run.CatchesUp.outline_eq {r r' : Run} (h : r.CatchesUp v.settings r' ds) :
    r'.outline (ds.foldl View.absorb v) (ds.reverse ++ old) = r.outline v old := by
  have hv : (ds.foldl View.absorb v).blind = v.blind := by
    rw [View.foldl_absorb_blind, ← View.foldl_absorb_isSeen, h.seen, View.foldl_absorb_owed]
  unfold Run.outline
  rw [View.foldl_absorb_settings, h.blind, hv, h.owed, List.filter_append, List.filter_reverse,
    h.seen, Place.reverse_owed]
  rfl

theorem Run.Shadows.next? {e : Surroundings} {r r' : Run}
    (h : r.Shadows v (e.reply old r.place) r' ds) :
    e.next? (r.outline v old)
      = some (r'.outline (ds.foldl View.absorb v) (ds.reverse ++ old)) := by
  obtain ⟨hl, y, ds', ha, hy, hd⟩ := h
  have hv : ds'.foldl View.absorb v.blind = (ds.foldl View.absorb v).blind := by
    rw [View.foldl_absorb_blind, ← View.foldl_absorb_isSeen _ ds', hd, List.foldl_append,
      View.foldl_absorb_owed, View.foldl_absorb_isSeen]
  have ho : r.place.owed = [] := by
    cases hp : r.place with
    | call f p =>
      rw [hp] at hl
      cases p with
      | announce _ _ | repause _ | repaused => cases hl
      | _ => rfl
    | _ => rfl
  have hreply : e.reply (r.outline v old).deeds (r.outline v old).run.place = e.reply old r.place :=
    e.reply_blind hl old
  unfold Surroundings.next?
  rw [hreply]
  show ((r.blind v.settings).advance v.blind _).map _ = _
  rw [ha, Option.map_some]
  show some (Outline.mk (y.blind v.settings) (ds'.foldl View.absorb v.blind)
    ((ds'.filter Deed.isSeen).reverse ++ (r.place.owed ++ old.filter Deed.isSeen))) = _
  unfold Run.outline
  rw [hy, hv, hd, ho, View.foldl_absorb_settings, List.reverse_append, Place.reverse_owed,
    List.filter_append, List.filter_reverse, List.nil_append, List.append_assoc]

end

end ScriptGuard
