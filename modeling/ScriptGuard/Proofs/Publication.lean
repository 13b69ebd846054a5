import ScriptGuard.Proofs.Permission

/-!
# Changes of state and their publication

A state is changed under a lock and published after the lock has been left.  In between it is owed:
by the worker of the run that changed it at the gate, after an operation or by leaving the registry,
or by the request that put a command or made the first move.

* `System.shown?`         the state published last for a script;
* `System.unsaid?`        the state that a worker or a request has still to publish for it;
* `unsaid?_aside`         what one owes is changed by its own steps only;
* `unsaid?_of_unchanged`  a step that leaves the state alone leaves what is owed, or publishes it;
* `unsaid?_of_changed`    a step that changes the state owes the new one, or ends the run.
-/

namespace ScriptGuard

/-- the state that a deed publishes for the script -/
def Deed.shows? (id : String) : Deed → Option RunState
  | .told (.state x a) => if x = id then some a else none
  | _ => none

def Entry.shows? (id : String) : Entry → Option RunState
  | .worker _ d | .caller _ (.run _ d) => d.shows? id
  | .caller _ _ => none

/-- the state that a worker has still to publish; before it there may be other notices -/
def Place.unsaid? : Place → Option RunState
  | .call _ (.gate _ true) | .call _ (.parked _ true) | .call _ (.announce _ _)
  | .call _ (.progress _ true) | .call _ .repaused => some .paused
  | .remembering _ | .tellState _ | .tellResult _ | .tellIdle _ => some .idle
  | _ => none

/-- the state that a request has still to publish, and the run that is in it -/
def Task.unsaid? : Task → Option (RunId × RunState)
  | .announce run a => some (run, a)
  | .herald run => some (run, .running)
  | _ => none

/-- those who publish: the workers and the requests -/
inductive Speaker where
  | worker (run : RunId)
  | caller (task : Nat)
deriving DecidableEq

/-- who takes the step -/
def Move.speaker? : Move → Option Speaker
  | .work i _ => some (.worker i)
  | .proceed n _ => some (.caller n)
  | _ => none

theorem Place.unsaid?_of_isStage {p : Place} (h : p.isStage = true) : p.unsaid? = none := by
  obtain rfl | ⟨_, rfl⟩ | rfl := Place.stage_cases h <;> rfl

theorem Deed.shows?_resultNotice (id : String) (x : RunResult) :
    Deed.shows? id (.told (Run.resultNotice x)) = none := by
  unfold Run.resultNotice
  split <;> rfl

theorem Place.reported_of_inCall {p : Place} (h : p.inCall = true) : p.reported = [] := by
  cases p with
  | call _ _ => rfl
  | _ => cases h

/-! ## one step of a worker -/

/-- what a step of a worker does about the state it has to publish -/
inductive Speech (r r' : Run) (ds : List Deed) : Prop
  | silent (hp : r'.place.unsaid? = r.place.unsaid?) (hd : ∀ id, ∀ d ∈ ds, d.shows? id = none)
      (hs : r.place.unsaid? = none →
        r'.session.state = r.session.state ∨ ∃ x, r'.place = .leaving x)
  | pauses (hp : r.place.inCall = true) (hn : r.place.unsaid? = none)
      (hp' : r'.place.inCall = true) (hn' : r'.place.unsaid? = some .paused) (hd : ds = [])
      (hs : r.session.state = .stepping) (hs' : r'.session.state = .paused)
  | leaves {x : RunResult} (hp : r.place = .leaving x) (hp' : r'.place = .remembering x)
      (hd : ds = [.deregistered])
  | publishes {a : RunState} (hp : r.place.unsaid? = some a) (hp' : r'.place.unsaid? = none)
      (hd : ∃ ds', ds = .told (.state r.session.script.id a) :: ds' ∧
        ∀ id, ∀ d ∈ ds', d.shows? id = none)
  | reports {x : RunResult} (hp : r.place = .tellState x) (hp' : r'.place = .tellResult x)
      (hd : ds = [.told (.state r.session.script.id x.state)])

section
variable {v : View} {r r' : Run} {f : Frame} {p : CallPoint} {reply : Reply} {ds : List Deed}

theorem Run.unsaid?_passed (r : Run) (x : Settings) (f g : Frame) (k : Resume) :
    (Place.call g (r.passed x f k)).unsaid? = none := by
  cases k <;> rfl

theorem Session.control_unshown {x : Session} {c : Command}
    (h : ∀ b, (x.control c).1 ≠ .applied (some b)) : (x.control c).2.state = x.state := by
  rcases x.control_cases c with ⟨hc, _⟩ | ⟨hc, _⟩
  · rw [hc]
  · rw [hc] at h ⊢
    cases c with
    | pause | resume | step => exact absurd rfl (h _)
    | stop | terminate => rfl

theorem Session.control_terminate_ne {x : Session} (b : RunState) :
    (x.control .terminate).1 ≠ .applied (some b) := by
  rcases x.control_cases .terminate with ⟨_, hn⟩ | ⟨hc, _⟩
  · exact hn _
  · rw [hc]
    exact nofun

/-- a command whose effect is published has led an active session to another active state -/
theorem Session.control_shown {x : Session} {c : Command} {b : RunState}
    (h : (x.control c).1 = .applied (some b)) :
    (x.control c).2.state = b ∧ b ≠ x.state ∧ x.state.isActive = true ∧ b.isActive = true := by
  rcases x.control_cases c with ⟨_, hn⟩ | ⟨hc, ha, _⟩
  · exact absurd h (hn _)
  · have hactive : x.state.isActive = true := by
      by_contra hn
      rw [Command.isAvailable_of_not_isActive c x.mode (by simpa using hn)] at ha
      cases ha
    rw [hc] at h ⊢
    cases c with
    | pause =>
      cases h
      exact ⟨rfl, fun he => by simp [Command.isAvailable, ← he] at ha, hactive, rfl⟩
    | resume =>
      cases h
      exact ⟨rfl, fun he => by simp [Command.isAvailable, ← he] at ha, hactive, rfl⟩
    | step =>
      cases h
      exact ⟨rfl, fun he => by simp [Command.isAvailable, ← he] at ha, hactive, rfl⟩
    | stop => cases h
    | terminate => cases h

/-- the gate leaves the state alone, or it pauses a stepping session and the worker parks -/
theorem Session.GateMove.state_or {x x' : Session} {killed : Option String} {holds paused : Bool}
    {now : Nat} {verdict : GateVerdict} (h : x.GateMove killed holds now verdict paused x') :
    paused = false ∧ x'.state = x.state ∨
      paused = true ∧ verdict = .parked ∧ x.state = .stepping ∧ x'.state = .paused := by
  cases h with
  | aborts => cases killed <;> exact Or.inl ⟨rfl, rfl⟩
  | pauses _ _ hs => exact Or.inr ⟨rfl, rfl, hs, rfl⟩
  | _ => exact Or.inl ⟨rfl, rfl⟩

/-- a step with which the worker does nothing that a listener hears of -/
theorem Speech.mute (hp : r'.place.unsaid? = r.place.unsaid?)
    (hs : r.place.unsaid? = none →
      r'.session.state = r.session.state ∨ ∃ x, r'.place = .leaving x) : Speech r r' [] :=
  .silent hp (fun _ => List.forall_mem_nil _) hs

theorem GateStep.speech {k : Resume} {shown : Bool} (h : GateStep v r f k shown r' ds)
    (hp : r.place.unsaid? = if shown then some .paused else none) (hc : r.place.inCall = true) :
    Speech r r' ds := by
  have howed {b : Bool} (hs : (shown || b) = true) (hb : b = false) :
      r.place.unsaid? = some .paused := by
    rw [hb, Bool.or_false] at hs
    rw [hp, hs, if_pos rfl]
  have hfree {b : Bool} (hs : (shown || b) = false) : r.place.unsaid? = none := by
    rw [hp, (Bool.or_eq_false_iff.1 hs).1]
    rfl
  cases h with
  | @parks paused s hg =>
    cases shown with
    | true => exact .mute hp.symm fun hn => by rw [hp] at hn; cases hn
    | false =>
      rcases hg.state_or with ⟨rfl, hs⟩ | ⟨rfl, _, hs, hs'⟩
      · exact .mute hp.symm fun _ => Or.inl hs
      · exact .pauses hc hp rfl rfl rfl hs hs'
  | passes hg hs =>
    rcases hg.state_or with ⟨_, hst⟩ | ⟨_, hv, _⟩
    · refine .mute ?_ fun _ => Or.inl hst
      rw [hfree hs]
      exact Run.unsaid?_passed _ _ _ _ _
    · cases hv
  | passesShown hg hs =>
    rcases hg.state_or with ⟨hb, _⟩ | ⟨_, hv, _⟩
    · exact .mute (howed hs hb).symm fun hn => by rw [howed hs hb] at hn; cases hn
    · cases hv
  | aborts hg hs =>
    rcases hg.state_or with ⟨_, hst⟩ | ⟨_, hv, _⟩
    · exact .silent (hfree hs).symm (by simp [Deed.shows?]) fun _ => Or.inl hst
    · cases hv
  | abortsShown hg hs =>
    rcases hg.state_or with ⟨hb, _⟩ | ⟨_, hv, _⟩
    · exact .mute (howed hs hb).symm fun hn => by rw [howed hs hb] at hn; cases hn
    · cases hv

theorem CallStep.speech (h : CallStep v r f p reply r' ds) (hp : r.place = .call f p) :
    Speech r r' ds := by
  have hc : r.place.inCall = true := by rw [hp]; rfl
  cases h with
  | atGate hg h =>
    refine h.speech ?_ hc
    rw [hp]
    rcases hg with rfl | rfl <;> cases ‹Bool› <;> rfl
  | announced =>
    exact .publishes (by rw [hp]; rfl) (Run.unsaid?_passed _ _ _ _ _)
      ⟨[], rfl, fun _ => List.forall_mem_nil _⟩
  | announcedStop =>
    exact .publishes (by rw [hp]; rfl) rfl ⟨_, rfl, by simp [Deed.shows?]⟩
  | repauses =>
    cases hm : r.session.mustRepause with
    | true =>
      have hst : r.session.state = .stepping ∧ r.session.grants = 0 := by
        simpa [Session.mustRepause] using hm
      exact .pauses hc (by rw [hp]; rfl) rfl rfl rfl hst.1 (r.session.repause_state hst.1 hst.2)
    | false =>
      refine .mute (by rw [hp]; rfl) fun _ => Or.inl ?_
      show r.session.repause.state = _
      rw [r.session.repause_eq_self hm]
  | progressPaused =>
    exact .silent (by rw [hp]; rfl) (by simp [Deed.shows?]) fun _ => Or.inl rfl
  | repaused => exact .publishes (by rw [hp]; rfl) rfl ⟨_, rfl, by simp [Deed.shows?]⟩
  | _ => exact .silent (by rw [hp]; rfl) (by simp [Deed.shows?]) fun _ => Or.inl rfl

/-- **A worker owes a state from the step on with which it changes it, and until it has published
it.** -/
theorem WorkerStep.speech (h : WorkerStep v r reply r' ds)
    (hn : ∀ x, r.place.result? = some x → x.script = r.session.script.id) : Speech r r' ds := by
  cases h with
  | call hp h => exact h.speech hp
  | staged hp hq =>
    refine .mute ?_ fun _ => Or.inl rfl
    rw [Place.unsaid?_of_isStage hp]
    exact Place.unsaid?_of_isStage hq
  | unready hp =>
    exact .mute (Place.unsaid?_of_isStage hp).symm fun _ => Or.inl rfl
  | stageBroke hp =>
    exact .mute (Place.unsaid?_of_isStage hp).symm fun _ => Or.inl rfl
  | settles hp => exact .mute (by rw [hp]; rfl) fun _ => Or.inr ⟨_, rfl⟩
  | leaves hp => exact .leaves hp rfl rfl
  | remembers hp =>
    refine .silent (by rw [hp]; rfl) (fun id d hd => ?_) fun _ => Or.inl rfl
    split at hd <;> simp_all [Deed.shows?]
  | tellsState hp =>
    refine .reports hp rfl ?_
    rw [hn _ (by rw [hp]; rfl)]
  | tellsResult hp =>
    refine .silent (by rw [hp]; rfl) (fun id d hd => ?_) fun _ => Or.inl rfl
    rw [List.mem_singleton.1 hd]
    exact Deed.shows?_resultNotice id _
  | tellsIdle hp =>
    refine .publishes (by rw [hp]; rfl) rfl ⟨[], ?_, fun _ => List.forall_mem_nil _⟩
    rw [hn _ (by rw [hp]; rfl)]
  | _ hp =>
    exact .silent (by simp only [hp, Place.unsaid?]) (by simp [Deed.shows?]) fun _ => Or.inl rfl

theorem Speech.other (h : Speech r r' ds) {id : String} (hid : r.session.script.id ≠ id) :
    ∀ d ∈ ds, d.shows? id = none := by
  have htold (b : RunState) : Deed.shows? id (.told (.state r.session.script.id b)) = none :=
    if_neg hid
  cases h with
  | silent _ hd => exact hd id
  | pauses _ _ _ _ hd => rw [hd]; exact List.forall_mem_nil _
  | leaves _ _ hd => rw [hd]; simp [Deed.shows?]
  | publishes _ _ hd =>
    obtain ⟨ds', rfl, hd⟩ := hd
    exact List.forall_mem_cons.2 ⟨htold _, hd id⟩
  | reports _ _ hd => rw [hd]; simpa using htold _

end

namespace System

/-! ## what is published and what is owed -/

/-- the state published last for the script -/
def shown? (s : System) (id : String) : Option RunState := s.log.findSome? (Entry.shows? id)

/-- the state of the script that a request has still to publish -/
def owes? (s : System) (id : String) (t : Task) : Option RunState :=
  t.unsaid?.bind fun e => if s.idOf e.1 = id then some e.2 else none

/-- the state of the script that someone has still to publish -/
def unsaid? (s : System) (id : String) : Speaker → Option RunState
  | .worker i => (s.runs[i]?).bind fun r =>
      if r.session.script.id = id then r.place.unsaid? else none
  | .caller n => (s.task? n).bind (s.owes? id)

/-- the active run of the script has its report and stands in the registry -/
def Leaving (s : System) (id : String) : Prop :=
  ∃ i r x, s.active? id = some i ∧ s.runs[i]? = some r ∧ r.place = .leaving x

section
variable {s s' : System} {m : Move} {id : String} {i : RunId} {n : Nat} {t : Task} {r r' : Run}
  {a : Speaker}

theorem shown?_of_log {es : List Entry} (h : s'.log = es ++ s.log) :
    s'.shown? id = (es.findSome? (Entry.shows? id)).or (s.shown? id) := by
  rw [shown?, h, List.findSome?_append]
  rfl

theorem idOf_of_run (hr : s.runs[i]? = some r) : s.idOf i = r.session.script.id := by
  rw [idOf, hr]
  rfl

theorem unsaid?_worker (hr : s.runs[i]? = some r) :
    s.unsaid? id (.worker i) = if r.session.script.id = id then r.place.unsaid? else none := by
  rw [unsaid?, hr, Option.bind_some]

theorem unsaid?_caller (ht : s.task? n = some t) : s.unsaid? id (.caller n) = s.owes? id t := by
  rw [unsaid?, ht, Option.bind_some]

theorem owes?_of_some {b : RunState} (hu : t.unsaid? = some (i, b)) :
    s.owes? id t = if s.idOf i = id then some b else none := by
  rw [owes?, hu, Option.bind_some]

theorem owes?_of_none (hu : t.unsaid? = none) : s.owes? id t = none := by
  rw [owes?, hu, Option.bind_none]

theorem unsaid?_caller_eq_none (h : ∀ t, s.task? n = some t → t.unsaid? = none) :
    s.unsaid? id (.caller n) = none := by
  cases ht : s.task? n with
  | none => rw [unsaid?, ht, Option.bind_none]
  | some t => rw [unsaid?_caller ht, owes?_of_none (h t ht)]

/-! ## the state of a script -/

theorem state_of_active (ha : s.active? id = some i) (hr : s.runs[i]? = some r) :
    s.state id = r.session.state := by
  rw [state, session?, ha, Option.bind_some, hr]
  rfl

theorem state_of_none (ha : s.active? id = none) : s.state id = .idle := by
  rw [state, session?, ha]
  rfl

theorem Reachable.state_of_unreported (hs : s.Reachable) (hr : s.runs[i]? = some r)
    (hp : r.place.reported = []) : s.state r.session.script.id = r.session.state :=
  state_of_active (hs.listed.active?_iff.2 (hs.stands_of_unreported hr hp)) hr

/-- the state of a script changes with the state of its active run, or with the run that leaves -/
theorem run_of_changed (hs : s.Reachable) (h : s.step? m = some s')
    (hst : s'.state id ≠ s.state id) :
    ∃ i r r', s.Stands id i ∧ s.runs[i]? = some r ∧ s'.runs[i]? = some r' ∧
      (s'.active? id = some i ∧ r'.session.state ≠ r.session.state ∨
        m.isWorkOf i = true ∧ ∃ x, r.place = .leaving x ∧ r'.place = .remembering x) := by
  have hs' := hs.step h
  cases ha : s.active? id with
  | none =>
    refine absurd ?_ hst
    rw [state_of_none ha]
    cases ha' : s'.active? id with
    | none => exact state_of_none ha'
    | some j =>
      have hnot : ¬ s.Stands id j := fun hj => by
        rw [← hs.listed.active?_iff, ha] at hj
        cases hj
      -- only a run that has just been registered can have become the active one, and it is idle
      have hj := hs'.listed.active?_iff.1 ha'
      cases hr : s.runs[j]? with
      | some r =>
        obtain ⟨r₁, _, hr₁, hd, hc⟩ := runChange h hr
        exact absurd ((stands_iff hr hr₁ hd hc).1 hj).1 hnot
      | none =>
        obtain ⟨_, hn | ⟨_, _, _, hn⟩⟩ := newRun h hr
        · exact absurd hj (not_stands_of_none hn)
        · rw [state_of_active ha' hn]
          rfl
  | some i =>
    have hi := hs.listed.active?_iff.1 ha
    have ⟨r, hr, _⟩ := hi
    obtain ⟨r', ds, hr', hd, hc⟩ := runChange h hr
    refine ⟨i, r, r', hi, hr, hr', ?_⟩
    by_cases hdr : Deed.deregistered ∈ ds
    · right
      cases hc with
      | worked hm hw =>
        exact ⟨by simp [hm, Move.isWorkOf], hw.leaves_of_mem hdr⟩
      | _ => cases hdr
    · have ha' : s'.active? id = some i :=
        hs'.listed.active?_iff.2 ((stands_iff hr hr' hd hc).2 ⟨hi, hdr⟩)
      rw [state_of_active ha hr, state_of_active ha' hr'] at hst
      exact Or.inl ⟨ha', hst⟩

/-! ## steps of others -/

theorem Reachable.run_of_announce (hs : s.Reachable) {b : RunState}
    (ht : s.task? n = some (.announce i b)) : b.isActive = true ∧ ∃ r, s.runs[i]? = some r := by
  refine hs.invariant (P := fun s => ∀ n i b, s.task? n = some (.announce i b) →
    b.isActive = true ∧ ∃ r, s.runs[i]? = some r) (fun _ _ _ _ _ h => nomatch h) ?_ n i b ht
  intro s s' m ih h n i b ht
  have hstays (hr : ∃ r, s.runs[i]? = some r) : ∃ r, s'.runs[i]? = some r := by
    obtain ⟨r, hr⟩ := hr
    obtain ⟨r', _, hr', _⟩ := runChange h hr
    exact ⟨r', hr'⟩
  rcases task?_step h ht with ⟨ht, _⟩ | ⟨q, _, _, hq⟩ | ⟨t₀, reply, _, _, hr⟩
  · exact ⟨(ih n i b ht).1, hstays (ih n i b ht).2⟩
  · cases q with
    | control id c => cases c <;> cases hq
    | _ => cases hq
  · cases hr with
    | @shown run c r _ hr hc =>
      rw [task?_goOn] at ht
      cases ht
      exact ⟨(Session.control_shown hc).2.2.2, hstays ⟨r, hr⟩⟩
    | _ => simp at ht

/-- a request publishes active states only, of runs that there are -/
theorem Reachable.run_of_unsaid (hs : s.Reachable) (ht : s.task? n = some t) {b : RunState}
    (hu : t.unsaid? = some (i, b)) : b.isActive = true ∧ ∃ r, s.runs[i]? = some r := by
  cases t with
  | announce j c =>
    cases hu
    exact hs.run_of_announce ht
  | herald j =>
    cases hu
    obtain ⟨r, hr, _⟩ := hs.tidy.starting _ (mem_of_task? ht) i rfl
    exact ⟨rfl, r, hr⟩
  | _ => cases hu

theorem idOf_step (h : s.step? m = some s') (hr : s.runs[i]? = some r) : s'.idOf i = s.idOf i := by
  obtain ⟨r', _, hr', _, hc⟩ := runChange h hr
  rw [idOf_of_run hr, idOf_of_run hr', hc.given_eq.1]

/-- **What one has to publish is changed by one's own steps only.** -/
theorem unsaid?_aside (hs : s.Reachable) (h : s.step? m = some s') (ha : m.speaker? ≠ some a) :
    s'.unsaid? id a = s.unsaid? id a := by
  cases a with
  | worker i =>
    have hm : m.isWorkOf i = false := by
      cases m with
      | work j reply => simpa [Move.speaker?, Move.isWorkOf] using ha
      | _ => rfl
    cases hr : s.runs[i]? with
    | none =>
      obtain ⟨_, hn | ⟨_, _, _, hn⟩⟩ := newRun h hr
      · rw [unsaid?, unsaid?, hr, hn]
      · rw [unsaid?_worker hn, unsaid?, hr]
        exact ite_self _
    | some r =>
      obtain ⟨r', ds, hr', _, hc⟩ := runChange h hr
      rw [unsaid?_worker hr, unsaid?_worker hr', hc.given_eq.1]
      rcases (hc.unmoved hs.tidy hr hm).1 with hp | ⟨hp, hp'⟩
      · rw [hp]
      · rw [hp, hp']
        rfl
  | caller n =>
    have hm (reply : CallerReply) : m ≠ .proceed n reply := by
      rintro rfl
      exact ha rfl
    cases ht : s.task? n with
    | some t =>
      have ht' : s'.task? n = some t := by
        rw [task?_aside h (hs.numbered.number _ (mem_of_task? ht)) hm, ht]
      rw [unsaid?_caller ht, unsaid?_caller ht']
      cases hu : t.unsaid? with
      | none => rw [owes?_of_none hu, owes?_of_none hu]
      | some e =>
        obtain ⟨_, r, hr⟩ := hs.run_of_unsaid ht hu
        rw [owes?_of_some hu, owes?_of_some hu, idOf_step h hr]
    | none =>
      have hnone : s.unsaid? id (.caller n) = none := by rw [unsaid?, ht, Option.bind_none]
      rw [hnone]
      refine unsaid?_caller_eq_none fun t ht' => ?_
      -- a request that is new has nothing to publish yet
      rcases task?_step h ht' with ⟨ht', _⟩ | ⟨q, _, _, rfl⟩ | ⟨_, reply, hm', _⟩
      · rw [ht] at ht'
        cases ht'
      · cases q with
        | control id c => cases c <;> rfl
        | _ => rfl
      · exact absurd hm' (hm reply)

/-! ## steps of one's own -/

/-- what a step of a request does about the state it has to publish -/
inductive RequestSpeech (s : System) (n : Nat) (t : Task) (s' : System) : Prop
  | silent (ht : t.unsaid? = none) (ht' : ∀ t', s'.task? n = some t' → t'.unsaid? = none)
      (hl : ∀ id, s'.shown? id = s.shown? id) (hs : ∀ (i : RunId) (r r' : Run),
        s.runs[i]? = some r → s'.runs[i]? = some r' → r'.session.state = r.session.state)
  | changes {run : RunId} {r : Run} {x : Session} {t' : Task} (ht : t.unsaid? = none)
      (hr : s.runs[run]? = some r) (hr' : s'.runs[run]? = some { r with session := x })
      (ho : ∀ i : RunId, i ≠ run → s'.runs[i]? = s.runs[i]?) (hp : r.place.reported = [])
      (hx : x.script = r.session.script) (hne : x.state ≠ r.session.state)
      (ht' : s'.task? n = some t') (hu : t'.unsaid? = some (run, x.state))
      (hl : ∀ id, s'.shown? id = s.shown? id)
  | publishes {run : RunId} {b : RunState} (ht : t.unsaid? = some (run, b))
      (ht' : ∀ t', s'.task? n = some t' → t'.unsaid? = none)
      (hl : ∀ id, s'.shown? id = if s.idOf run = id then some b else s.shown? id)
      (hs : s'.runs = s.runs)

theorem shown?_of_silent {es : List Entry} (hl : s'.log = es ++ s.log)
    (hes : ∀ e ∈ es, e.shows? id = none) : s'.shown? id = s.shown? id := by
  rw [shown?_of_log hl, List.findSome?_eq_none_iff.2 hes, Option.none_or]

theorem shown?_of_told (es : List Entry) {d : Entry} {x : String} {b : RunState}
    (hl : s'.log = es ++ d :: s.log) (hes : ∀ e ∈ es, e.shows? id = none)
    (hd : d.shows? id = if x = id then some b else none) :
    s'.shown? id = if x = id then some b else s.shown? id := by
  rw [shown?, hl, List.findSome?_append, List.findSome?_eq_none_iff.2 hes, Option.none_or,
    List.findSome?_cons, hd]
  by_cases hx : x = id
  · rw [if_pos hx, if_pos hx]
  · rw [if_neg hx, if_neg hx]
    rfl

theorem shown?_of_quiet {ds : List Deed} (hl : s'.log = (ds.map (Entry.worker i)).reverse ++ s.log)
    (hd : ∀ d ∈ ds, d.shows? id = none) : s'.shown? id = s.shown? id :=
  shown?_of_silent hl (by simpa [Entry.shows?] using hd)

theorem state_of_modify {f : Run → Run} (hf : ∀ r, s.runs[n]? = some r →
    (f r).session.state = r.session.state) (hr : s.runs[i]? = some r)
    (hr' : (s.runs.modify n f)[i]? = some r') : r'.session.state = r.session.state := by
  by_cases hn : n = i
  · subst hn
    rw [List.getElem?_modify_eq, hr] at hr'
    cases hr'
    exact hf r hr
  · rw [List.getElem?_modify_ne _ _ hn, hr] at hr'
    cases hr'
    rfl

section
variable {f : Run → Run} (hruns : s'.runs = s.runs.modify i f) (ht : t.unsaid? = none)
  (ht' : ∀ t', s'.task? n = some t' → t'.unsaid? = none) (hl : ∀ id, s'.shown? id = s.shown? id)

include hruns ht ht' hl in
theorem RequestSpeech.of_modify (hf : ∀ r, s.runs[i]? = some r →
    (f r).session.state = r.session.state) : RequestSpeech s n t s' :=
  .silent ht ht' hl fun _ _ _ hr hr' => state_of_modify hf hr (hruns ▸ hr')

end

/-- a command whose effect is not published leaves the state of the session alone -/
theorem RequestSpeech.of_unshown {c : Command} (hr : s.runs[i]? = some r)
    (hc : ∀ b, (r.session.control c).1 ≠ .applied (some b))
    (hruns : s'.runs = s.runs.modify i fun r₁ => { r₁ with session := (r.session.control c).2 })
    (ht : t.unsaid? = none) (ht' : ∀ t', s'.task? n = some t' → t'.unsaid? = none)
    (hl : ∀ id, s'.shown? id = s.shown? id) : RequestSpeech s n t s' := by
  refine .of_modify hruns ht ht' hl fun r₁ hr₁ => ?_
  rw [hr] at hr₁
  cases hr₁
  exact Session.control_unshown hc

theorem Reachable.reported_of_isActive (hs : s.Reachable) (hr : s.runs[i]? = some r)
    (ha : r.session.state.isActive = true) : r.place.reported = [] := by
  cases hp : r.place.result? with
  | none => exact Place.reported_of_result? hp
  | some x =>
    have hx : x.state.isActive = false :=
      RunState.isActive_of_isTerminal x.outcome.isTerminal_state
    rw [(hs.orderly.fits i r hr).eq_state hp, hx] at ha
    cases ha

theorem RequestSpeech.of_shown (hs : s.Reachable) {c : Command} {b : RunState}
    (hr : s.runs[i]? = some r) (hc : (r.session.control c).1 = .applied (some b)) :
    RequestSpeech s n (.apply i c)
      ((s.onSession i fun _ => (r.session.control c).2).goOn n (.announce i b)) := by
  obtain ⟨hb, hne, ha, _⟩ := Session.control_shown hc
  refine .changes rfl hr ?_ (fun j hj => List.getElem?_modify_ne _ _ (Ne.symm hj))
    (hs.reported_of_isActive hr ha) (Session.control_script _ _) (by rw [hb]; exact hne)
    (task?_goOn _ _ _) (by rw [hb]; rfl) fun _ => rfl
  show (s.runs.modify i _)[i]? = _
  rw [List.getElem?_modify_eq, hr]
  rfl

theorem RequestSpeech.of_launch (hs : s.Reachable) (ht : s.task? n = some (.launch i)) :
    RequestSpeech s n (.launch i)
      ((s.onSession i fun x => x.settle .running).goOn n (.herald i)) := by
  obtain ⟨r, hr, hp, hidle⟩ := hs.tidy.starting _ (mem_of_task? ht) i rfl
  have hmove : r.session.state.canMove .running = true := by rw [hidle rfl]; rfl
  have hrun : (r.session.settle .running).state = .running := Session.settle_state hmove
  refine .changes rfl hr ?_ (fun j hj => List.getElem?_modify_ne _ _ (Ne.symm hj))
    (by rw [hp]; rfl) (Session.settle_script _ _) ?_ (task?_goOn _ _ _) (by rw [hrun]; rfl)
    fun _ => rfl
  · show (s.runs.modify i _)[i]? = _
    rw [List.getElem?_modify_eq, hr]
    rfl
  · rw [hrun, hidle rfl]
    exact nofun

theorem RequestSpeech.of_step {reply : CallerReply} (hs : s.Reachable) (htask : s.task? n = some t)
    (h : RequestStep s n t reply s') : RequestSpeech s n t s' := by
  cases h with
  | shown hr hc => exact .of_shown hs hr hc
  | announced =>
    refine .publishes rfl (by simp) (fun id => ?_) rfl
    exact shown?_of_told [_] rfl (by simp [Entry.shows?]) rfl
  | launches => exact .of_launch hs htask
  | heralds =>
    refine .publishes rfl (by simp [Task.unsaid?]) (fun id => ?_) rfl
    exact shown?_of_told [] rfl (List.forall_mem_nil _) rfl
  | ignored hr hc => exact .of_unshown hr (by simp [hc]) rfl rfl (by simp) fun _ => rfl
  | refused hr hc => exact .of_unshown hr (by simp [hc]) rfl rfl (by simp) fun _ => rfl
  | applied hr hc => exact .of_unshown hr (by simp [hc]) rfl rfl (by simp) fun _ => rfl
  | cutRefused _ hr hc => exact .of_unshown hr (by simp [hc]) rfl rfl (by simp) fun _ => rfl
  | cuts _ hr =>
    exact .of_unshown hr Session.control_terminate_ne rfl rfl (by simp [Task.unsaid?]) fun _ => rfl
  | sweeps => exact .of_modify rfl rfl (by simp [Task.unsaid?]) (fun _ => rfl) fun _ _ => rfl
  | spawns => exact .of_modify rfl rfl (by simp) (fun _ => rfl) fun _ _ => rfl
  | enrolls =>
    refine .silent rfl (by simp [Task.unsaid?]) (fun _ => rfl) fun i r r' hr hr' => ?_
    have hlt : i < s.runs.length := (List.getElem?_eq_some_iff.1 hr).1
    change (s.runs ++ _)[i]? = some r' at hr'
    rw [List.getElem?_append_left hlt, hr] at hr'
    cases hr'
    rfl
  | _ =>
    refine .silent rfl (by simp [Task.unsaid?]) (fun _ => rfl) fun i r r' hr hr' => ?_
    cases hr.symm.trans hr'
    rfl

theorem worked {reply : Reply} (h : s.step? (.work i reply) = some s') :
    ∃ r r' ds, s.runs[i]? = some r ∧ s'.runs[i]? = some r' ∧ WorkerStep s.view r reply r' ds ∧
      s'.log = (ds.map (Entry.worker i)).reverse ++ s.log ∧
      ∀ j, j ≠ i → s'.runs[j]? = s.runs[j]? := by
  obtain ⟨r, r', ds, hr, ha, hruns, _, _, hlog⟩ := work?_eq_some h
  have hlt : i < s.runs.length := (List.getElem?_eq_some_iff.1 hr).1
  refine ⟨r, r', ds, hr, ?_, .of_advance ha, hlog, fun j hj => ?_⟩
  · rw [hruns]
    simp [hlt]
  · rw [hruns, List.getElem?_set_ne (Ne.symm hj)]

/-- what a step of the worker of a run does about the state it has to publish -/
theorem Reachable.speaks (hs : s.Reachable) {reply : Reply}
    (h : s.step? (.work i reply) = some s') :
    ∃ r r' ds, s.runs[i]? = some r ∧ s'.runs[i]? = some r' ∧
      r'.session.script = r.session.script ∧ Speech r r' ds ∧
      s'.log = (ds.map (Entry.worker i)).reverse ++ s.log := by
  obtain ⟨r, r', ds, hr, hr', hw, hlog, _⟩ := worked h
  exact ⟨r, r', ds, hr, hr', (RunChange.worked (s := s) (i := i) rfl hw).given_eq.1,
    hw.speech fun x hx => ((hs.accounts hr).names x hx).1, hlog⟩

/-- with its run a script loses a terminal state and becomes idle -/
theorem Reachable.state_of_leaves (hs : s.Reachable) {reply : Reply}
    (h : s.step? (.work i reply) = some s') (hr : s.runs[i]? = some r) {x : RunResult}
    (hp : r.place = .leaving x) :
    s.state r.session.script.id ≠ .idle ∧ s'.state r.session.script.id = .idle := by
  have hid : x.script = r.session.script.id := ((hs.accounts hr).names x (by rw [hp]; rfl)).1
  have hx : x.state.isTerminal = true := x.outcome.isTerminal_state
  obtain ⟨_, _, hnext⟩ := left_next hs (by rw [placeOf?_of_run hr, hp])
  refine ⟨fun he => ?_, state_of_none (by rw [← hid]; exact hnext reply s' h)⟩
  rw [hs.state_of_unreported hr (by rw [hp]; rfl),
    (hs.orderly.fits i r hr).eq_state (by rw [hp]; rfl)] at he
  rw [he] at hx
  cases hx

/-- a step that leaves the state of a script alone leaves what the one who takes it has to publish,
or publishes it; the worker that publishes a terminal state has still to publish that the script is
idle -/
def Discharges (s : System) (id : String) (a : Speaker) (s' : System) : Prop :=
  s'.unsaid? id a = s.unsaid? id a ∧ s'.shown? id = s.shown? id ∨
    (∃ b, s.unsaid? id a = some b ∧ s'.unsaid? id a = none ∧ s'.shown? id = some b) ∨
    s.unsaid? id a = some .idle ∧ s'.unsaid? id a = some .idle

theorem discharges_of_work (hs : s.Reachable) {reply : Reply}
    (h : s.step? (.work i reply) = some s') (hst : s'.state id = s.state id) :
    s.Discharges id (.worker i) s' := by
  obtain ⟨r, r', ds, hr, hr', hid', hsp, hlog⟩ := hs.speaks h
  rw [Discharges, unsaid?_worker hr, unsaid?_worker hr', hid']
  by_cases hid : r.session.script.id = id
  · subst hid
    rw [if_pos rfl, if_pos rfl]
    cases hsp with
    | silent hp hd => exact Or.inl ⟨hp, shown?_of_quiet hlog (hd _)⟩
    | pauses hp _ hp' _ _ hstep hpause =>
      -- the state of the script changes with that of its run
      have hnow := hs.state_of_unreported hr (Place.reported_of_inCall hp)
      have hnext := (hs.step h).state_of_unreported hr' (Place.reported_of_inCall hp')
      rw [hid'] at hnext
      rw [hnow, hnext, hstep, hpause] at hst
      cases hst
    | leaves hp =>
      obtain ⟨hnow, hnext⟩ := hs.state_of_leaves h hr hp
      exact absurd (hst.symm.trans hnext) hnow
    | @publishes b hp hp' hd =>
      obtain ⟨ds', rfl, hd'⟩ := hd
      refine Or.inr (Or.inl ⟨b, hp, hp', ?_⟩)
      rw [List.map_cons, List.reverse_cons, List.append_assoc] at hlog
      rw [shown?_of_told _ hlog (by simpa [Entry.shows?] using hd' _) rfl, if_pos rfl]
    | reports hp hp' => exact Or.inr (Or.inr ⟨by rw [hp]; rfl, by rw [hp']; rfl⟩)
  · rw [if_neg hid, if_neg hid]
    exact Or.inl ⟨rfl, shown?_of_quiet hlog (hsp.other hid)⟩

theorem discharges_of_proceed (hs : s.Reachable) {reply : CallerReply}
    (h : s.step? (.proceed n reply) = some s') (hst : s'.state id = s.state id) :
    s.Discharges id (.caller n) s' := by
  obtain ⟨t, ht, hr⟩ := requestStep h
  cases RequestSpeech.of_step hs ht hr with
  | silent hu hu' hl =>
    left
    rw [unsaid?_caller ht, owes?_of_none hu, unsaid?_caller_eq_none hu']
    exact ⟨rfl, hl id⟩
  | @changes run r x t' hu hr hr' _ hp hx hne ht' hu' hl =>
    have hid : r.session.script.id ≠ id := by
      rintro rfl
      have hnow := hs.state_of_unreported hr hp
      have hnext := (hs.step h).state_of_unreported hr' hp
      rw [hx] at hnext
      rw [hnow, hnext] at hst
      exact hne hst
    left
    rw [unsaid?_caller ht, owes?_of_none hu, unsaid?_caller ht', owes?_of_some hu',
      idOf_of_run hr', hx, if_neg hid]
    exact ⟨rfl, hl id⟩
  | @publishes run b hu hu' hl =>
    by_cases hid : s.idOf run = id
    · refine Or.inr (Or.inl ⟨b, ?_, unsaid?_caller_eq_none hu', ?_⟩)
      · rw [unsaid?_caller ht, owes?_of_some hu, if_pos hid]
      · rw [hl, if_pos hid]
    · refine Or.inl ⟨?_, ?_⟩
      · rw [unsaid?_caller ht, owes?_of_some hu, unsaid?_caller_eq_none hu', if_neg hid]
      · rw [hl, if_neg hid]

theorem unsaid?_of_unchanged (hs : s.Reachable) (h : s.step? m = some s')
    (ha : m.speaker? = some a) (hst : s'.state id = s.state id) : s.Discharges id a s' := by
  cases m with
  | work i reply =>
    cases ha
    exact discharges_of_work hs h hst
  | proceed n reply =>
    cases ha
    exact discharges_of_proceed hs h hst
  | _ => cases ha

/-- the one who takes a step that changes the state of a script owes the new state, or the run is
about to leave -/
def Owing (s : System) (id : String) (m : Move) (s' : System) : Prop :=
  s'.shown? id = s.shown? id ∧
    ((∃ a, m.speaker? = some a ∧ s'.unsaid? id a = some (s'.state id)) ∨ s'.Leaving id)

/-- the worker changes the state of its own run -/
theorem owing_of_work (hs : s.Reachable) {reply : Reply} (h : s.step? (.work i reply) = some s')
    (hn : s.unsaid? id (.worker i) = none) (hr : s.runs[i]? = some r) (hr' : s'.runs[i]? = some r')
    (hid : r.session.script.id = id)
    (hcase : s'.active? id = some i ∧ r'.session.state ≠ r.session.state ∨
      ∃ x, r.place = .leaving x ∧ r'.place = .remembering x) :
    s.Owing id (.work i reply) s' := by
  obtain ⟨r₁, r₁', ds, hr₁, hr₁', hid', hsp, hlog⟩ := hs.speaks h
  cases hr.symm.trans hr₁
  cases hr'.symm.trans hr₁'
  rw [unsaid?_worker hr, if_pos hid] at hn
  cases hsp with
  | silent hp hd hstay =>
    refine ⟨shown?_of_quiet hlog (hd _), Or.inr ?_⟩
    rcases hcase with ⟨ha', hne⟩ | ⟨x, hx, hx'⟩
    · obtain ⟨x, hx⟩ := (hstay hn).resolve_left hne
      exact ⟨i, r', x, ha', hr', hx⟩
    · rw [hx, hx'] at hp
      cases hp
  | pauses hp _ hp' hu hd hstep hpause =>
    refine ⟨shown?_of_quiet hlog (by rw [hd]; exact List.forall_mem_nil _), Or.inl ⟨_, rfl, ?_⟩⟩
    have hnext := (hs.step h).state_of_unreported hr' (Place.reported_of_inCall hp')
    rw [hid', hid, hpause] at hnext
    rw [unsaid?_worker hr', hid', if_pos hid, hu, hnext]
  | @leaves x hp hp' hd =>
    refine ⟨shown?_of_quiet hlog (by rw [hd]; simp [Deed.shows?]), Or.inl ⟨_, rfl, ?_⟩⟩
    rw [unsaid?_worker hr', hid', if_pos hid, hp', ← hid, (hs.state_of_leaves h hr hp).2]
    rfl
  | publishes hp => rw [hn] at hp; cases hp
  | reports hp => rw [hp] at hn; cases hn

theorem owing_of_proceed (hs : s.Reachable) {reply : CallerReply}
    (h : s.step? (.proceed n reply) = some s') (hr : s.runs[i]? = some r)
    (hr' : s'.runs[i]? = some r') (hid : r.session.script.id = id) (ha : s'.active? id = some i)
    (hne : r'.session.state ≠ r.session.state) : s.Owing id (.proceed n reply) s' := by
  obtain ⟨t, ht, hreq⟩ := requestStep h
  cases RequestSpeech.of_step hs ht hreq with
  | silent _ _ _ hsame => exact absurd (hsame i r r' hr hr') hne
  | @changes run r₁ x t' hu hr₁ hr₁' ho hp hx _ ht' hu' hl =>
    refine ⟨hl id, Or.inl ⟨_, rfl, ?_⟩⟩
    by_cases hi : i = run
    · subst hi
      cases hr.symm.trans hr₁
      rw [unsaid?_caller ht', owes?_of_some hu', idOf_of_run hr₁', hx, if_pos hid,
        state_of_active ha hr₁']
    · rw [ho i hi, hr] at hr'
      cases hr'
      exact absurd rfl hne
  | publishes _ _ _ hruns =>
    rw [hruns, hr] at hr'
    cases hr'
    exact absurd rfl hne

/-- a step that changes the state of a script while nobody has a state of it to publish lets the one
who takes it owe the new state, or it ends the run -/
theorem unsaid?_of_changed (hs : s.Reachable) (h : s.step? m = some s')
    (hn : ∀ a, s.unsaid? id a = none) (hst : s'.state id ≠ s.state id) : s.Owing id m s' := by
  obtain ⟨i, r, r', ⟨r₁, hr₁, hid, _⟩, hr, hr', hcase⟩ := run_of_changed hs h hst
  cases hr.symm.trans hr₁
  -- who leaves his run as it is has changed nothing
  have hsame (hm : m.isWorkOf i = false) (he : s'.runs[i]? = s.runs[i]?) : False := by
    cases hr'.symm.trans (he.trans hr)
    rcases hcase with ⟨_, hne⟩ | ⟨hw, _⟩
    · exact hne rfl
    · rw [hm] at hw
      cases hw
  cases m with
  | work j reply =>
    by_cases hij : j = i
    · subst hij
      exact owing_of_work hs h (hn _) hr hr' hid (hcase.imp_right And.right)
    · obtain ⟨_, _, _, _, _, _, _, ho⟩ := worked h
      exact (hsame (by simpa [Move.isWorkOf] using hij) (ho i (Ne.symm hij))).elim
  | proceed n reply =>
    obtain ⟨ha, hne⟩ := hcase.resolve_right fun hc => by cases hc.1
    exact owing_of_proceed hs h hr hr' hid ha hne
  | request q =>
    cases h
    exact (hsame rfl rfl).elim
  | elapse d =>
    cases h
    exact (hsame rfl rfl).elim

end

end System

end ScriptGuard
