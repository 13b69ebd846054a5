import ScriptGuard.Proofs.Gate
import ScriptGuard.Worker

/-!
# The steps of a worker, one by one

`Run.advance` says what a worker does next.  Here the same is said as a relation with one
constructor for each thing that can happen, so that what holds of every step is proved by cases:

* `GateStep v r f k shown r' ds`   the call `f` of the run `r` stands at the pause gate;
* `CallStep v r f p reply r' ds`   it stands at `p` and takes a step;
* `WorkerStep v r reply r' ds`     the worker takes a step, in a call or elsewhere;
* `WorkerStep.of_advance`          every step of `Run.advance` is one of these.

The deeds `ds` stand in the order in which they are done.
-/

namespace ScriptGuard

/-- a worker that enters the pause gate or wakes up at it; `shown` says that this call has paused
the session before -/
def CallPoint.AtGate (p : CallPoint) (k : Resume) (shown : Bool) : Prop :=
  p = .gate k shown ∨ p = .parked k shown

def Place.isStage : Place → Bool
  | .creating | .registering _ | .loading => true
  | _ => false

def Place.inCall : Place → Bool
  | .call _ _ => true
  | _ => false

def Place.isOver : Place → Bool
  | .leaving _ | .remembering _ | .tellState _ | .tellResult _ | .tellIdle _ | .gone _ => true
  | _ => false

theorem Place.stage_cases {p : Place} (h : p.isStage = true) :
    p = .creating ∨ (∃ fs, p = .registering fs) ∨ p = .loading := by
  cases p with
  | creating => exact Or.inl rfl
  | registering fs => exact Or.inr (Or.inl ⟨fs, rfl⟩)
  | loading => exact Or.inr (Or.inr rfl)
  | _ => cases h

theorem Place.inCall_of_isStage {p : Place} (h : p.isStage = true) : p.inCall = false := by
  obtain rfl | ⟨_, rfl⟩ | rfl := Place.stage_cases h <;> rfl

theorem Place.isOver_of_isStage {p : Place} (h : p.isStage = true) : p.isOver = false := by
  obtain rfl | ⟨_, rfl⟩ | rfl := Place.stage_cases h <;> rfl

/-- a step of a host call at the pause gate -/
inductive GateStep (v : View) (r : Run) (f : Frame) (k : Resume) (shown : Bool) :
    Run → List Deed → Prop
  | parks {paused : Bool} {s : Session}
      (hg : r.session.GateMove v.killed f.holds v.now .parked paused s) :
      GateStep v r f k shown
        { r with session := s, place := .call f (.parked k (shown || paused)) } []
  | passes {paused holds : Bool} {s : Session}
      (hg : r.session.GateMove v.killed f.holds v.now (.passed holds) paused s)
      (hs : (shown || paused) = false) :
      GateStep v r f k shown
        { r with
          session := s
          place := .call { f with holds := holds }
            ({ r with session := s }.passed v.settings { f with holds := holds } k) } []
  | passesShown {paused holds : Bool} {s : Session}
      (hg : r.session.GateMove v.killed f.holds v.now (.passed holds) paused s)
      (hs : (shown || paused) = true) :
      GateStep v r f k shown
        { r with
          session := s, place := .call { f with holds := holds } (.announce k none) } []
  | aborts {paused : Bool} {s : Session} {a : AbortReason}
      (hg : r.session.GateMove v.killed f.holds v.now (.aborted a) paused s)
      (hs : (shown || paused) = false) :
      GateStep v r f k shown { r with session := s, place := .script }
        [.replied f.function (.error (.abort a))]
  | abortsShown {paused : Bool} {s : Session} {a : AbortReason}
      (hg : r.session.GateMove v.killed f.holds v.now (.aborted a) paused s)
      (hs : (shown || paused) = true) :
      GateStep v r f k shown { r with session := s, place := .call f (.announce k (some a)) } []

inductive CallStep (v : View) (r : Run) (f : Frame) :
    CallPoint → Reply → Run → List Deed → Prop
  -- the checks
  | slotSet {k : Resume} {a : AbortReason} (ha : r.session.abort = some a) :
      CallStep v r f (.slot k) .go { r with place := .script }
        [.replied f.function (.error (.abort a))]
  | slotClear {k : Resume} (ha : r.session.abort = none) :
      CallStep v r f (.slot k) .go { r with place := .call f (.switch k) } []
  | switchOn {k : Resume} {reason : String} (hk : v.killed = some reason) :
      CallStep v r f (.switch k) .go { r with place := .call f (.raise (.killSwitch reason)) } []
  | switchOff {k : Resume} (hk : v.killed = none) :
      CallStep v r f (.switch k) .go { r with place := .call f (.limits k) } []
  | overLimit {k : Resume} {x : Violation}
      (hx : v.settings.limits.check r.session.index (r.session.elapsed v.now) = some x) :
      CallStep v r f (.limits k) .go { r with place := .call f (.raise (.failure (.limit x))) } []
  | withinLimits {k : Resume}
      (hx : v.settings.limits.check r.session.index (r.session.elapsed v.now) = none) :
      CallStep v r f (.limits k) .go { r with place := .call f (.gate k false) } []
  | atGate {p : CallPoint} {k : Resume} {shown : Bool} {r' : Run} {ds : List Deed}
      (hp : p.AtGate k shown) (h : GateStep v r f k shown r' ds) : CallStep v r f p .go r' ds
  | announced {k : Resume} :
      CallStep v r f (.announce k none) .go
        { r with place := .call f (r.passed v.settings f k) }
        [.told (.state r.session.script.id .paused)]
  | announcedStop {k : Resume} {a : AbortReason} :
      CallStep v r f (.announce k (some a)) .go { r with place := .script }
        [.told (.state r.session.script.id .paused), .replied f.function (.error (.abort a))]
  -- the approvals
  | permitted :
      CallStep v r f (.permit []) .go { r with place := .call f (.sleep (r.totalWait f.call)) } []
  | cleared {c : Category} {cs : List Category} (hc : c ∈ r.cleared) :
      CallStep v r f (.permit (c :: cs)) .go { r with place := .call f (.permit cs) } []
  | approved {c : Category} {cs : List Category} (hc : c ∉ r.cleared)
      (ha : v.approvals.has c = true) :
      CallStep v r f (.permit (c :: cs)) .go
        { r with cleared := c :: r.cleared, place := .call f (.permit cs) } []
  | unknown {c : Category} {cs : List Category} (hc : c ∉ r.cleared)
      (ha : v.approvals.has c = false) :
      CallStep v r f (.permit (c :: cs)) .go { r with place := .call f (.seek c cs) } []
  | asks {c : Category} {cs : List Category} (hh : v.handler = true) :
      CallStep v r f (.seek c cs) .go { r with place := .call f (.asking c cs) }
        [.asked ⟨c, r.session.script.name⟩]
  | nobody {c : Category} {cs : List Category} (hh : v.handler = false) :
      CallStep v r f (.seek c cs) .go { r with place := .call f (.raise (.failure (.denied c))) } []
  | allowed {c : Category} {cs : List Category} {a : Verdict} (ha : a.grants = true) :
      CallStep v r f (.asking c cs) (.verdict a) { r with place := .call f (.grant c cs) }
        [.answered ⟨c, r.session.script.name⟩ a]
  | denied {c : Category} {cs : List Category} {a : Verdict} (ha : a.grants = false) :
      CallStep v r f (.asking c cs) (.verdict a)
        { r with place := .call f (.raise (.failure (.denied c))) }
        [.answered ⟨c, r.session.script.name⟩ a]
  | grants {c : Category} {cs : List Category} :
      CallStep v r f (.grant c cs) .go
        { r with cleared := c :: r.cleared, place := .call f (.permit cs) } [.granted c]
  -- the wait
  | rested {d : Duration} (hd : d.isZero = true) :
      CallStep v r f (.sleep d) .go { r with place := .call f .act } []
  | slice {d : Duration} (hd : d.isZero = false) :
      CallStep v r f (.sleep d) .go
        { r with
          place := .call f
            (.waiting (d.least v.settings.slice) (d - d.least v.settings.slice)) }
        [.began (.wait (d.least v.settings.slice))]
  | sliceDone {d rest : Duration} :
      CallStep v r f (.waiting d rest) (.device .done)
        { r with place := .call f (.slot (.between rest)) } [.ended (.wait d) .done]
  | sliceFailed {d rest : Duration} {e : DeviceError} :
      CallStep v r f (.waiting d rest) (.device (.failed e))
        { r with place := .call f (.raise (.failure (.device f.function.name e.text))) }
        [.ended (.wait d) (.failed e)]
  | sliceBroke {d rest : Duration} :
      CallStep v r f (.waiting d rest) (.device .brokeDown) { r with place := .script }
        [.ended (.wait d) .brokeDown, .replied f.function .brokeDown]
  -- the input
  | noInput {d : Duration} (hf : f.call = .sleep d) :
      CallStep v r f .act .go { r with place := .call f .count } []
  | input {i : Input} (hf : f.call = .input i) :
      CallStep v r f .act .go { r with place := .call f (.acting i) } [.began (.input i)]
  | inputDone {i : Input} :
      CallStep v r f (.acting i) (.device .done) { r with place := .call f (.hold i) }
        [.ended (.input i) .done]
  | inputFailed {i : Input} {e : DeviceError} :
      CallStep v r f (.acting i) (.device (.failed e))
        { r with place := .call f (.raise (.failure (.device f.function.name e.text))) }
        [.ended (.input i) (.failed e)]
  | inputBroke {i : Input} :
      CallStep v r f (.acting i) (.device .brokeDown) { r with place := .script }
        [.ended (.input i) .brokeDown, .replied f.function .brokeDown]
  | holds {i : Input} :
      CallStep v r f (.hold i) .go { r with held := r.held.after i, place := .call f .count } []
  -- the count
  | countsHeld (hh : f.holds = true) :
      CallStep v r f .count .go
        { r with session := r.session.count, place := .call f (.repause (r.session.index + 1)) } []
  | counts (hh : f.holds = false) :
      CallStep v r f .count .go
        { r with
          session := r.session.count
          place := .call f (.progress (r.session.index + 1) false) } []
  | repauses {n : Nat} :
      CallStep v r f (.repause n) .go
        { r with
          session := r.session.repause
          place := .call f (.progress n r.session.mustRepause) } []
  | progress {n : Nat} :
      CallStep v r f (.progress n false) .go { r with place := .script }
        [.told (.progress r.session.script.id n r.session.expectedTotal), .replied f.function .ok]
  | progressPaused {n : Nat} :
      CallStep v r f (.progress n true) .go { r with place := .call f .repaused }
        [.told (.progress r.session.script.id n r.session.expectedTotal)]
  | repaused :
      CallStep v r f .repaused .go { r with place := .script }
        [.told (.state r.session.script.id .paused), .replied f.function .ok]
  -- the way out
  | raises {a : AbortReason} :
      CallStep v r f (.raise a) .go { r with session := r.session.request a, place := .script }
        [.replied f.function (.error (.abort (AbortReason.merge r.session.abort a)))]

inductive WorkerStep (v : View) (r : Run) : Reply → Run → List Deed → Prop
  | call {f : Frame} {p : CallPoint} {reply : Reply} {r' : Run} {ds : List Deed}
      (hp : r.place = .call f p) (h : CallStep v r f p reply r' ds) : WorkerStep v r reply r' ds
  -- getting ready
  | staged {next : Place} (hp : r.place.isStage = true) (hn : next.isStage = true) :
      WorkerStep v r (.stage .ready) { r with place := next } []
  | equipped (hp : r.place = .loading) :
      WorkerStep v r (.stage .ready) { r with place := .script } []
  | unready {e : InterpreterError} (hp : r.place.isStage = true) :
      WorkerStep v r (.stage (.failed e))
        { r with
          held := {}
          place := .releasing r.held.releases (.failure (.script e.message)) } []
  | stageBroke (hp : r.place.isStage = true) :
      WorkerStep v r (.stage .brokeDown) { r with place := .rescue } []
  -- the script
  | calls {g : HostFunction} {args : List HostValue} {c : HostCall} (hp : r.place = .script)
      (hc : g.read? args = .ok c) :
      WorkerStep v r (.script (.call g args))
        { r with place := .call ⟨g, c, false⟩ (.slot .opening) } [.called g]
  | garbled {g : HostFunction} {args : List HostValue} {e : CallError} (hp : r.place = .script)
      (hc : g.read? args = .error e) :
      WorkerStep v r (.script (.call g args)) { r with place := .script }
        [.called g, .replied g (.error (.script e.message))]
  | polls (hp : r.place = .script) :
      WorkerStep v r (.script .poll) { r with place := .polling .slot } []
  | finishes {e : ScriptEnd} (hp : r.place = .script) :
      WorkerStep v r (.script (.finish e))
        { r with held := {}, place := .releasing r.held.releases (.script e) } []
  | breaks (hp : r.place = .script) :
      WorkerStep v r (.script .breakDown) { r with place := .rescue } []
  -- an interrupt check
  | pollSet {a : AbortReason} (hp : r.place = .polling .slot) (ha : r.session.abort = some a) :
      WorkerStep v r .go { r with place := .script } [.polled (some a)]
  | pollClear (hp : r.place = .polling .slot) (ha : r.session.abort = none) :
      WorkerStep v r .go { r with place := .polling .switch } []
  | pollOn {reason : String} (hp : r.place = .polling .switch) (hk : v.killed = some reason) :
      WorkerStep v r .go { r with place := .polling (.raise (.killSwitch reason)) } []
  | pollOff (hp : r.place = .polling .switch) (hk : v.killed = none) :
      WorkerStep v r .go { r with place := .script } [.polled none]
  | pollRaises {a : AbortReason} (hp : r.place = .polling (.raise a)) :
      WorkerStep v r .go { r with session := r.session.request a, place := .script }
        [.polled (some (AbortReason.merge r.session.abort a))]
  -- the releases
  | lets {i : Input} {is : List Input} {e : Ending} (hp : r.place = .releasing (i :: is) e) :
      WorkerStep v r .go { r with place := .letting i is e } [.began (.input i)]
  | allLet {e : Ending} (hp : r.place = .releasing [] e) :
      WorkerStep v r .go { r with place := .finishing e } []
  | letDone {i : Input} {is : List Input} {e : Ending} {d : DeviceReply}
      (hp : r.place = .letting i is e) (hd : d ≠ .brokeDown) :
      WorkerStep v r (.device d) { r with place := .releasing is e } [.ended (.input i) d]
  | letBroke {i : Input} {is : List Input} {e : Ending} (hp : r.place = .letting i is e) :
      WorkerStep v r (.device .brokeDown) { r with place := .rescue } [.ended (.input i) .brokeDown]
  | rescues (hp : r.place = .rescue) :
      WorkerStep v r .go { r with place := .rescuing } [.began .releaseAll]
  | rescued {d : DeviceReply} (hp : r.place = .rescuing) (hd : d ≠ .brokeDown) :
      WorkerStep v r (.device d) { r with place := .finishing (.failure Run.brokenDown) }
        [.ended .releaseAll d]
  | rescueBroke (hp : r.place = .rescuing) :
      WorkerStep v r (.device .brokeDown) { r with place := .lost }
        [.ended .releaseAll .brokeDown]
  -- the report
  | concludes {e : Ending} (hp : r.place = .finishing e) :
      WorkerStep v r .go { r with place := .settling (Run.outcomeOf r.session.abort e) } []
  | settles {o : Outcome} (hp : r.place = .settling o) :
      WorkerStep v r .go
        { r with
          session := r.session.settle o.state
          place :=
            .leaving (({ r with session := r.session.settle o.state } : Run).result o v.now) }
        []
  | leaves {x : RunResult} (hp : r.place = .leaving x) :
      WorkerStep v r .go { r with place := .remembering x } [.deregistered]
  | remembers {x : RunResult} (hp : r.place = .remembering x) :
      WorkerStep v r .go { r with place := .tellState x }
        (if x.isSuccess then [.remembered x.operations] else [])
  | tellsState {x : RunResult} (hp : r.place = .tellState x) :
      WorkerStep v r .go { r with place := .tellResult x } [.told (.state x.script x.state)]
  | tellsResult {x : RunResult} (hp : r.place = .tellResult x) :
      WorkerStep v r .go { r with place := .tellIdle x } [.told (Run.resultNotice x)]
  | tellsIdle {x : RunResult} (hp : r.place = .tellIdle x) :
      WorkerStep v r .go { r with place := .gone x } [.told (.state x.script .idle)]

/-! ## every step is one of these -/

section
variable {v : View} {r r' : Run} {f : Frame} {p : CallPoint} {reply : Reply} {ds : List Deed}

theorem GateStep.of_atGate {k : Resume} {shown : Bool} (h : r.atGate v f k shown = (r', ds)) :
    GateStep v r f k shown r' ds := by
  unfold Run.atGate at h
  have hg := r.session.gateMove v.killed f.holds v.now
  revert h
  generalize r.session.gate v.killed f.holds v.now = g at hg ⊢
  obtain ⟨verdict, paused, s⟩ := g
  intro h
  cases verdict with
  | parked =>
    cases h
    exact .parks hg
  | passed holds =>
    cases hs : (shown || paused) with
    | false =>
      simp only [hs] at h
      cases h
      exact .passes hg hs
    | true =>
      simp only [hs] at h
      cases h
      exact .passesShown hg hs
  | aborted a =>
    cases hs : (shown || paused) with
    | false =>
      simp only [hs] at h
      cases h
      exact .aborts hg hs
    | true =>
      simp only [hs] at h
      cases h
      exact .abortsShown hg hs

theorem GateStep.gateMove {k : Resume} {shown : Bool} (h : GateStep v r f k shown r' ds) :
    ∃ verdict paused, r.session.GateMove v.killed f.holds v.now verdict paused r'.session := by
  cases h with
  | parks hg => exact ⟨_, _, hg⟩
  | passes hg => exact ⟨_, _, hg⟩
  | passesShown hg => exact ⟨_, _, hg⟩
  | aborts hg => exact ⟨_, _, hg⟩
  | abortsShown hg => exact ⟨_, _, hg⟩

theorem CallStep.of_advanceCall (h : r.advanceCall v f p = some (r', ds)) :
    CallStep v r f p .go r' ds := by
  cases p with
  | slot k =>
    cases ha : r.session.abort <;> simp only [Run.advanceCall, ha] at h <;> cases h
    · exact .slotClear ha
    · exact .slotSet ha
  | switch k =>
    cases hk : v.killed <;> simp only [Run.advanceCall, hk] at h <;> cases h
    · exact .switchOff hk
    · exact .switchOn hk
  | limits k =>
    cases hx : v.settings.limits.check r.session.index (r.session.elapsed v.now) <;>
      simp only [Run.advanceCall, hx] at h <;> cases h
    · exact .withinLimits hx
    · exact .overLimit hx
  | gate k shown => exact .atGate (Or.inl rfl) (.of_atGate (Option.some.inj h))
  | parked k shown => exact .atGate (Or.inr rfl) (.of_atGate (Option.some.inj h))
  | announce k stop =>
    cases stop <;> cases h
    · exact .announced
    · exact .announcedStop
  | permit needed =>
    cases needed with
    | nil => cases h; exact .permitted
    | cons c cs =>
      simp only [Run.advanceCall] at h
      by_cases hc : c ∈ r.cleared
      · rw [if_pos hc] at h; cases h; exact .cleared hc
      · rw [if_neg hc] at h
        cases ha : v.approvals.has c <;> simp only [ha] at h <;> cases h
        · exact .unknown hc ha
        · exact .approved hc ha
  | seek c cs =>
    cases hh : v.handler <;> simp only [Run.advanceCall, hh] at h <;> cases h
    · exact .nobody hh
    · exact .asks hh
  | grant c cs => cases h; exact .grants
  | sleep d =>
    cases hd : d.isZero <;> simp only [Run.advanceCall, hd] at h <;> cases h
    · exact .slice hd
    · exact .rested hd
  | act =>
    cases hf : f.call <;> simp only [Run.advanceCall, hf] at h <;> cases h
    · exact .input hf
    · exact .noInput hf
  | hold i => cases h; exact .holds
  | count =>
    cases hh : f.holds <;> simp only [Run.advanceCall, hh] at h <;> cases h
    · exact .counts hh
    · exact .countsHeld hh
  | repause n => cases h; exact .repauses
  | progress n again =>
    cases again <;> cases h
    · exact .progress
    · exact .progressPaused
  | repaused => cases h; exact .repaused
  | raise a =>
    simp only [Run.advanceCall, Session.handIn_eq] at h
    cases h
    exact .raises
  | asking c cs => cases h
  | waiting d rest => cases h
  | acting i => cases h

theorem CallStep.of_deviceCall {d : DeviceReply} (h : r.deviceCall f d p = some (r', ds)) :
    CallStep v r f p (.device d) r' ds := by
  cases p with
  | waiting s rest =>
    cases d <;> cases h
    · exact .sliceDone
    · exact .sliceFailed
    · exact .sliceBroke
  | acting i =>
    cases d <;> cases h
    · exact .inputDone
    · exact .inputFailed
    · exact .inputBroke
  | _ => cases h

theorem CallStep.of_verdictCall {a : Verdict} (h : r.verdictCall f a p = some (r', ds)) :
    CallStep v r f p (.verdict a) r' ds := by
  cases p with
  | asking c cs =>
    cases ha : a.grants <;> simp only [Run.verdictCall, ha] at h <;> cases h
    · exact .denied ha
    · exact .allowed ha
  | _ => cases h

theorem WorkerStep.of_scriptMove {m : ScriptMove} (hp : r.place = .script)
    (h : r.scriptMove m = (r', ds)) : WorkerStep v r (.script m) r' ds := by
  cases m with
  | call g args =>
    cases hc : g.read? args <;> simp only [Run.scriptMove, hc] at h <;> cases h
    · exact .garbled hp hc
    · exact .calls hp hc
  | poll => cases h; exact .polls hp
  | finish e => cases h; exact .finishes hp
  | breakDown => cases h; exact .breaks hp

theorem WorkerStep.of_advancePoll {q : PollPoint} (hp : r.place = .polling q)
    (h : r.advancePoll v q = (r', ds)) : WorkerStep v r .go r' ds := by
  cases q with
  | slot =>
    cases ha : r.session.abort <;> simp only [Run.advancePoll, ha] at h <;> cases h
    · exact .pollClear hp ha
    · exact .pollSet hp ha
  | switch =>
    cases hk : v.killed <;> simp only [Run.advancePoll, hk] at h <;> cases h
    · exact .pollOff hp hk
    · exact .pollOn hp hk
  | raise a =>
    simp only [Run.advancePoll, Session.handIn_eq] at h
    cases h
    exact .pollRaises hp

theorem WorkerStep.of_stage {a : StageReply} {next : Place} (hp : r.place.isStage = true)
    (hn : next.isStage = true ∨ r.place = .loading ∧ next = .script)
    (h : r.stage a next = (r', ds)) : WorkerStep v r (.stage a) r' ds := by
  cases a <;> cases h
  · rcases hn with hn | ⟨hl, rfl⟩
    · exact .staged hp hn
    · exact .equipped hl
  · exact .unready hp
  · exact .stageBroke hp

theorem Run.isStage_registered (fs : List HostFunction) :
    (Run.registered fs).isStage = true := by
  match fs with
  | [] => rfl
  | [_] => rfl
  | _ :: _ :: _ => rfl

/-- **Every step of a worker is one of those above.** -/
theorem WorkerStep.of_advance (h : r.advance v reply = some (r', ds)) :
    WorkerStep v r reply r' ds := by
  unfold Run.advance at h
  split at h
  · rename_i a hp
    exact .of_stage (by rw [hp]; rfl) (Or.inl rfl) (Option.some.inj h)
  · rename_i fs a hp
    exact .of_stage (by rw [hp]; rfl) (Or.inl (Run.isStage_registered fs)) (Option.some.inj h)
  · rename_i a hp
    exact .of_stage (by rw [hp]; rfl) (Or.inr ⟨hp, rfl⟩) (Option.some.inj h)
  · rename_i m hp
    exact .of_scriptMove hp (Option.some.inj h)
  · rename_i q hp
    exact .of_advancePoll hp (Option.some.inj h)
  · rename_i f p hp
    exact .call hp (.of_advanceCall h)
  · rename_i f p d hp
    exact .call hp (.of_deviceCall h)
  · rename_i f p a hp
    exact .call hp (.of_verdictCall h)
  · rename_i e hp
    cases h; exact .allLet hp
  · rename_i i is e hp
    cases h; exact .lets hp
  · rename_i i is e d hp
    cases d <;> cases h
    · exact .letDone hp (by simp)
    · exact .letDone hp (by simp)
    · exact .letBroke hp
  · rename_i hp
    cases h; exact .rescues hp
  · rename_i d hp
    cases d <;> cases h
    · exact .rescued hp (by simp)
    · exact .rescued hp (by simp)
    · exact .rescueBroke hp
  · rename_i e hp
    cases h; exact .concludes hp
  · rename_i o hp
    cases h; exact .settles hp
  · rename_i x hp
    cases h; exact .leaves hp
  · rename_i x hp
    cases h; exact .remembers hp
  · rename_i x hp
    cases h; exact .tellsState hp
  · rename_i x hp
    cases h; exact .tellsResult hp
  · rename_i x hp
    cases h; exact .tellsIdle hp
  · cases h

theorem WorkerStep.inCall_or (h : WorkerStep v r reply r' ds) :
    (∃ f p, r.place = .call f p ∧ CallStep v r f p reply r' ds) ∨ r.place.inCall = false := by
  cases h with
  | call hp h => exact Or.inl ⟨_, _, hp, h⟩
  | staged hp => exact Or.inr (Place.inCall_of_isStage hp)
  | unready hp => exact Or.inr (Place.inCall_of_isStage hp)
  | stageBroke hp => exact Or.inr (Place.inCall_of_isStage hp)
  | _ hp => right; rw [hp]; rfl

/-- a script calls a host function: its arguments can be read and the call begins, or they cannot -/
theorem WorkerStep.of_call {g : HostFunction} {args : List HostValue}
    (h : WorkerStep v r (.script (.call g args)) r' ds) :
    r.place = .script ∧
    ((∃ c, g.read? args = .ok c ∧
        r' = { r with place := .call ⟨g, c, false⟩ (.slot .opening) } ∧ ds = [.called g]) ∨
      (∃ e, g.read? args = .error e ∧ r' = { r with place := .script } ∧
        ds = [.called g, .replied g (.error (.script e.message))])) := by
  cases h with
  | call _ h => cases h
  | calls hp hc => exact ⟨hp, Or.inl ⟨_, hc, rfl, rfl⟩⟩
  | garbled hp hc => exact ⟨hp, Or.inr ⟨_, hc, rfl, rfl⟩⟩

/-- a worker in a host call can take a step, once those outside have answered -/
theorem Run.advance_of_inCall (v : View) (hp : r.place = .call f p) :
    ∃ reply, (r.advance v reply).isSome = true := by
  cases p with
  | asking c cs => exact ⟨.verdict .approved, by simp only [Run.advance, hp]; rfl⟩
  | waiting d rest => exact ⟨.device .done, by simp only [Run.advance, hp]; rfl⟩
  | acting inp => exact ⟨.device .done, by simp only [Run.advance, hp]; rfl⟩
  | permit cs =>
    refine ⟨.go, ?_⟩
    simp only [Run.advance, hp]
    cases cs with
    | nil => rfl
    | cons c cs =>
      simp only [Run.advanceCall]
      split
      · rfl
      · split <;> rfl
  | announce k stop => exact ⟨.go, by simp only [Run.advance, hp]; cases stop <;> rfl⟩
  | progress n again => exact ⟨.go, by simp only [Run.advance, hp]; cases again <;> rfl⟩
  | slot k | switch k | limits k | seek c cs | sleep d | act | count =>
    refine ⟨.go, ?_⟩
    simp only [Run.advance, hp, Run.advanceCall]
    split <;> rfl
  | _ => exact ⟨.go, by simp only [Run.advance, hp, Run.advanceCall]; rfl⟩

/-- a worker that can take no step has not been started, is done, or has broken down -/
theorem Run.over_of_advance (h : ∀ reply, r.advance v reply = none) :
    r.place = .unborn ∨ (∃ x, r.place = .gone x) ∨ r.place = .lost := by
  cases hp : r.place with
  | unborn => exact Or.inl rfl
  | gone x => exact Or.inr (Or.inl ⟨x, rfl⟩)
  | lost => exact Or.inr (Or.inr rfl)
  | call f p =>
    obtain ⟨reply, ha⟩ := Run.advance_of_inCall v hp
    rw [h reply] at ha
    cases ha
  | creating => simpa [Run.advance, hp] using h (.stage .ready)
  | registering fs => simpa [Run.advance, hp] using h (.stage .ready)
  | loading => simpa [Run.advance, hp] using h (.stage .ready)
  | script => simpa [Run.advance, hp] using h (.script .poll)
  | letting inp is e => simpa [Run.advance, hp] using h (.device .done)
  | rescuing => simpa [Run.advance, hp] using h (.device .done)
  | releasing is e => cases is <;> simpa [Run.advance, hp] using h .go
  | _ => simpa [Run.advance, hp] using h .go

end

end ScriptGuard
