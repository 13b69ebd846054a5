import ScriptGuard.Proofs.Starts

/-!
# The states a run goes through

Four sections write the state of a session: a command, the pause gate, the pause after a stepped
operation, and the two moves of its life (`Session.settle`).  Only the last ones look at the table
of moves (`RunState.canMove`); here it is shown that the others keep to it as well.

* `RunState.Stays`         from one active state to another by a move of the table, or no change;
* `Place.Fits`             the state that goes with a place: idle at most before the worker is born,
                           active while it works, the state of the result once the run is over;
* `WorkerStep.fits`        a worker changes the state by moves of the table and keeps it fitting;
* `System.Orderly`         the invariant: every run fits, and a start that has made its first move
                           has left its run active;
* `state_canMove`          hence every change is a move of the table, the first move finds the run
                           idle, the last one finds it active, and a terminal state is kept.
-/

namespace ScriptGuard

/-! ## moves between active states -/

namespace RunState

/-- no change, or a move of the table between two active states -/
def Stays (a b : RunState) : Prop :=
  b = a ∨ a.isActive = true ∧ b.isActive = true ∧ a.canMove b = true

theorem Stays.refl (a : RunState) : a.Stays a := Or.inl rfl

theorem Stays.of_eq {a b c : RunState} (h : a = c) (hc : c.isActive = true)
    (hb : b.isActive = true) (hm : c.canMove b = true) : a.Stays b := by
  subst h
  exact Or.inr ⟨hc, hb, hm⟩

theorem Stays.isActive_eq {a b : RunState} (h : a.Stays b) : b.isActive = a.isActive := by
  rcases h with rfl | ⟨ha, hb, _⟩
  · rfl
  · rw [ha, hb]

theorem Stays.canMove {a b : RunState} (h : a.Stays b) : b = a ∨ a.canMove b = true :=
  h.imp id fun h => h.2.2

theorem Stays.eq_of_not_isActive {a b : RunState} (h : a.Stays b) (ha : a.isActive = false) :
    b = a := by
  rcases h with h | ⟨h, _⟩
  · exact h
  · rw [ha] at h
    cases h

theorem isActive_of_isTerminal {a : RunState} (h : a.isTerminal = true) : a.isActive = false := by
  cases a with
  | completed | failed | terminated => rfl
  | _ => cases h

end RunState

namespace Session

/-- a command that is available leads along the table -/
theorem control_stays (s : Session) (c : Command) : s.state.Stays (s.control c).2.state := by
  rcases control_cases s c with ⟨h, _⟩ | ⟨h, hav, _⟩
  · rw [h]
    exact .refl _
  · rw [h]
    have hav := (Bool.and_eq_true _ _ ▸ hav).2
    cases c with
    | pause =>
      have hs : s.state = .running := by simpa using hav
      exact .of_eq hs rfl rfl rfl
    | resume =>
      have hs : s.state = .paused ∨ s.state = .stepping := by simpa using hav
      rcases hs with hs | hs
      · exact .of_eq hs rfl rfl rfl
      · exact .of_eq hs rfl rfl rfl
    | step =>
      have hs : s.state = .paused := by simpa using hav
      exact .of_eq hs rfl rfl rfl
    | stop => exact .refl _
    | terminate => exact .refl _

/-- the gate writes a state only where it pauses a stepping session -/
theorem GateMove.stays {s s' : Session} {killed : Option String} {holds paused : Bool} {now : Nat}
    {verdict : GateVerdict} (h : GateMove s killed holds now verdict paused s') :
    s.state.Stays s'.state := by
  cases h with
  | aborts => cases killed <;> exact .refl _
  | pauses _ _ hs => exact .of_eq hs rfl rfl rfl
  | _ => exact .refl _

theorem repause_stays (s : Session) : s.state.Stays s.repause.state := by
  cases hm : s.mustRepause with
  | false =>
    rw [repause_eq_self _ hm]
    exact .refl _
  | true =>
    obtain ⟨hs, hg⟩ : s.state = .stepping ∧ s.grants = 0 := by simpa [mustRepause] using hm
    rw [repause_state s hs hg]
    exact .of_eq hs rfl rfl rfl

theorem settle_state {s : Session} {next : RunState} (h : s.state.canMove next = true) :
    (s.settle next).state = next := by
  rw [settle, if_pos h]

theorem canMove_of_isActive {s : Session} (h : s.state.isActive = true) (o : Outcome) :
    s.state.canMove o.state = true :=
  RunState.canMove_terminal h o.isTerminal_state

end Session

/-! ## the state that goes with a place -/

/-- the report that has been made -/
def Place.result? : Place → Option RunResult
  | .leaving x | .remembering x | .tellState x | .tellResult x | .tellIdle x | .gone x => some x
  | _ => none

/-- this state of the session goes with the place -/
def Place.Fits (p : Place) (a : RunState) : Prop :=
  match p.result? with
  | some x => a = x.state
  | none => a.isActive = true ∨ p = .unborn ∧ a = .idle

section
variable {p : Place} {a b : RunState}

theorem Place.Fits.of_isActive (hp : p.result? = none) (ha : a.isActive = true) : p.Fits a := by
  rw [Fits, hp]
  exact Or.inl ha

theorem Place.Fits.isActive (h : p.Fits a) (hp : p.result? = none) (hn : p ≠ .unborn) :
    a.isActive = true := by
  rw [Fits, hp] at h
  exact h.resolve_right fun h => hn h.1

theorem Place.Fits.eq_state (h : p.Fits a) {x : RunResult} (hp : p.result? = some x) :
    a = x.state := by
  rw [Fits, hp] at h
  exact h

theorem Place.Fits.isSome_result? (h : p.Fits a) (ht : a.isTerminal = true) :
    p.result?.isSome = true := by
  cases hp : p.result? with
  | some x => rfl
  | none =>
    rw [Fits, hp] at h
    rcases h with h | ⟨_, rfl⟩
    · rw [RunState.isActive_of_isTerminal ht] at h
      cases h
    · cases ht

theorem Place.Fits.onward {q : Place} (h : p.Fits a) (hp : p.result? = none) (hn : p ≠ .unborn)
    (hq : q.result? = none) (hb : a.Stays b) : q.Fits b :=
  .of_isActive hq (by rw [hb.isActive_eq]; exact h.isActive hp hn)

theorem Place.Fits.of_stays (h : p.Fits a) (hb : a.Stays b) : p.Fits b := by
  cases hp : p.result? with
  | none =>
    rw [Fits, hp] at h ⊢
    rcases h with h | ⟨hu, hi⟩
    · exact Or.inl (by rw [hb.isActive_eq]; exact h)
    · exact Or.inr ⟨hu, by rw [hb.eq_of_not_isActive (by rw [hi]; rfl), hi]⟩
  | some x =>
    -- the state of a result is terminal, so that it stays
    have ha := h.eq_state hp
    have ht : a.isActive = false := by
      rw [ha]
      exact RunState.isActive_of_isTerminal x.outcome.isTerminal_state
    rw [hb.eq_of_not_isActive ht]
    exact h

theorem Place.result?_of_isStage (h : p.isStage = true) : p.result? = none := by
  obtain rfl | ⟨_, rfl⟩ | rfl := Place.stage_cases h <;> rfl

theorem Place.ne_unborn_of_isStage (h : p.isStage = true) : p ≠ .unborn := by
  rintro rfl
  cases h

end

/-! ## one step -/

section
variable {v : View} {r r' : Run} {f : Frame} {p : CallPoint} {reply : Reply} {ds : List Deed}

theorem CallStep.stays (h : CallStep v r f p reply r' ds) :
    r.session.state.Stays r'.session.state ∧ r'.place.result? = none := by
  cases h with
  | atGate _ h =>
    obtain ⟨_, _, hg⟩ := h.gateMove
    refine ⟨hg.stays, ?_⟩
    cases h <;> rfl
  | repauses => exact ⟨Session.repause_stays _, rfl⟩
  | _ => exact ⟨.refl _, rfl⟩

/-- **A worker changes the state of its run by moves of the table only, and leaves it fitting.** -/
theorem WorkerStep.fits (h : WorkerStep v r reply r' ds) (hf : r.place.Fits r.session.state) :
    r'.place.Fits r'.session.state ∧
      (r'.session.state = r.session.state ∨
        r.session.state.canMove r'.session.state = true) := by
  have hgoes {q : Place} (hp : r.place.result? = none) (hn : r.place ≠ .unborn)
      (hq : q.result? = none) : q.Fits r.session.state := hf.onward hp hn hq (.refl _)
  cases h with
  | call hp h =>
    obtain ⟨hs, hq⟩ := h.stays
    exact ⟨hf.onward (by rw [hp]; rfl) (by simp [hp]) hq hs, hs.canMove⟩
  | staged hp hn =>
    exact ⟨hgoes (Place.result?_of_isStage hp) (Place.ne_unborn_of_isStage hp)
      (Place.result?_of_isStage hn), Or.inl rfl⟩
  | unready hp =>
    exact ⟨hgoes (Place.result?_of_isStage hp) (Place.ne_unborn_of_isStage hp) rfl, Or.inl rfl⟩
  | stageBroke hp =>
    exact ⟨hgoes (Place.result?_of_isStage hp) (Place.ne_unborn_of_isStage hp) rfl, Or.inl rfl⟩
  | @settles o hp =>
    have ha := hf.isActive (by rw [hp]; rfl) (by simp [hp])
    have hm := Session.canMove_of_isActive ha o
    have hs := Session.settle_state hm
    refine ⟨?_, Or.inr ?_⟩
    · show (r.session.settle o.state).state = o.state
      exact hs
    · show r.session.state.canMove (r.session.settle o.state).state = true
      rw [hs]
      exact hm
  | leaves hp => exact ⟨hf.eq_state (by rw [hp]; rfl), Or.inl rfl⟩
  | remembers hp => exact ⟨hf.eq_state (by rw [hp]; rfl), Or.inl rfl⟩
  | tellsState hp => exact ⟨hf.eq_state (by rw [hp]; rfl), Or.inl rfl⟩
  | tellsResult hp => exact ⟨hf.eq_state (by rw [hp]; rfl), Or.inl rfl⟩
  | tellsIdle hp => exact ⟨hf.eq_state (by rw [hp]; rfl), Or.inl rfl⟩
  | _ hp => exact ⟨hgoes (by rw [hp]; rfl) (by simp [hp]) rfl, Or.inl rfl⟩

end

namespace System

/-! ## every run -/

/-- the state of every run fits the place of its worker, also while the run is being started -/
structure Orderly (s : System) : Prop where
  fits : ∀ (i : RunId) (r : Run), s.runs[i]? = some r → r.place.Fits r.session.state
  /-- a start that has made the first move of its run has left it active -/
  begun : ∀ e ∈ s.tasks, ∀ i, e.2.starts? = some i → e.2 ≠ .launch i →
    ∃ r : Run, s.runs[i]? = some r ∧ r.session.state.isActive = true

section
variable {s s' : System} {m : Move} {i : RunId} {r r' : Run} {ds : List Deed}

theorem Orderly.active_of_spawn (h : s.Orderly) {task : Nat} (hr : s.runs[i]? = some r)
    (ht : (task, Task.spawn i) ∈ s.tasks) : r.session.state.isActive = true := by
  obtain ⟨r₁, hr₁, ha⟩ := h.begun _ ht i rfl (by simp)
  rw [hr] at hr₁
  cases hr₁
  exact ha

theorem fits_runChange (ht : s.Tidy) (ho : s.Orderly) (hr : s.runs[i]? = some r)
    (h : RunChange s m i r r' ds) :
    r'.place.Fits r'.session.state ∧
      (r'.session.state = r.session.state ∨
        r.session.state.canMove r'.session.state = true) := by
  have hf := ho.fits i r hr
  cases h with
  | still => exact ⟨hf, Or.inl rfl⟩
  | worked _ hw => exact hw.fits hf
  | commanded =>
    have hs := Session.control_stays r.session
    exact ⟨hf.of_stays (hs _), (hs _).canMove⟩
  | swept => exact ⟨hf, Or.inl rfl⟩
  | launched _ _ hin =>
    obtain ⟨hp, hi⟩ := ht.unborn_of_launch hr hin
    have hm : r.session.state.canMove .running = true := by rw [hi]; rfl
    have hs : (r.session.settle .running).state = .running := Session.settle_state hm
    refine ⟨.of_isActive (by rw [hp]; rfl) (by rw [hs]; rfl), Or.inr ?_⟩
    show r.session.state.canMove (r.session.settle .running).state = true
    rw [hs]
    exact hm
  | spawned _ _ hin =>
    have ha := ho.active_of_spawn hr hin
    exact ⟨.of_isActive rfl ha, Or.inl rfl⟩

theorem active_runChange (ht : s.Tidy) (hr : s.runs[i]? = some r) (hp : r.place = .unborn)
    (ha : r.session.state.isActive = true) (h : RunChange s m i r r' ds) :
    r'.session.state.isActive = true := by
  cases h with
  | worked _ h => cases h <;> simp_all [Place.isStage]
  | commanded => rw [(Session.control_stays r.session _).isActive_eq]; exact ha
  | launched _ _ hin =>
    rw [(ht.unborn_of_launch hr hin).2] at ha
    cases ha
  | _ => exact ha

theorem begun_step (ht : s.Tidy) (ho : s.Orderly) (hs : s.step? m = some s') {e : Nat × Task}
    (he : e ∈ s'.tasks) (hi : e.2.starts? = some i) (hl : e.2 ≠ .launch i) :
    ∃ r, s'.runs[i]? = some r ∧ r.session.state.isActive = true := by
  have hstays {e : Nat × Task} (hin : e ∈ s.tasks) (hi : e.2.starts? = some i)
      (hl : e.2 ≠ .launch i) : ∃ r, s'.runs[i]? = some r ∧ r.session.state.isActive = true := by
    obtain ⟨r, hr, hp, _⟩ := ht.starting e hin i hi
    obtain ⟨r₁, hr₁, ha⟩ := ho.begun e hin i hi hl
    rw [hr] at hr₁
    cases hr₁
    obtain ⟨r', ds, hr', _, hc⟩ := runChange hs hr
    exact ⟨r', hr', active_runChange ht hr hp ha hc⟩
  rcases taskChange hs he with ⟨hin, _⟩ | hn | ⟨t, reply, _, hin, hn, _⟩
  · exact hstays hin hi hl
  · rw [hn] at hi
    cases hi
  · generalize hk : e.2 = k at hn hi hl
    cases hn with
    | other hn => rw [hn] at hi; cases hi
    | enrolled =>
      cases hi
      exact absurd rfl hl
    | launched hruns =>
      cases hi
      obtain ⟨r, hr, _, hidle⟩ := ht.starting _ hin i rfl
      refine ⟨_, by rw [hruns, List.getElem?_modify_eq, hr]; rfl, ?_⟩
      have hm : r.session.state.canMove .running = true := by rw [hidle rfl]; rfl
      rw [Session.settle_state hm]
      rfl
    | heralded =>
      cases hi
      exact hstays hin rfl (by simp)

theorem Orderly.fresh (settings : Settings) (approvals : Approvals) :
    (System.fresh settings approvals).Orderly where
  fits := by intro i r hr; simp [System.fresh] at hr
  begun := by intro e he; cases he

theorem Orderly.step (ht : s.Tidy) (ho : s.Orderly) (hs : s.step? m = some s') : s'.Orderly where
  fits := fun i r' hr' => by
    cases hr : s.runs[i]? with
    | none =>
      obtain ⟨_, hn | ⟨_, _, _, hn⟩⟩ := newRun hs hr
      · rw [hn] at hr'
        cases hr'
      · rw [hn] at hr'
        cases hr'
        exact Or.inr ⟨rfl, rfl⟩
    | some r =>
      obtain ⟨r₁, ds, hr₁, _, hc⟩ := runChange hs hr
      rw [hr₁] at hr'
      cases hr'
      exact (fits_runChange ht ho hr hc).1
  begun := fun _ he _ hi hl => begun_step ht ho hs he hi hl

theorem Reachable.orderly (hs : s.Reachable) : s.Orderly := by
  refine (hs.invariant (P := fun s => s.Tidy ∧ s.Orderly) ?_ ?_).2
  · exact fun settings approvals => ⟨.fresh settings approvals, .fresh settings approvals⟩
  · exact fun h hs => ⟨h.1.step hs, h.2.step h.1 hs⟩

/-! ## the table is kept -/

/-- what the state of a run does from now on -/
structure KeepsTable (s : System) (i : RunId) (a : RunState) : Prop where
  /-- whatever happens, the run is there, and its state is the same or a move of the table away -/
  moves : ∀ m s', s.step? m = some s' →
    ∃ b, s'.stateOf? i = some b ∧ (b = a ∨ a.canMove b = true)
  /-- its first move finds it idle and is made -/
  begins : ∀ task, s.task? task = some (.launch i) →
    a = .idle ∧ ∃ s', s.step? (.proceed task .go) = some s' ∧ s'.stateOf? i = some .running
  /-- its last move finds it active and is made: the state is that of the result -/
  ends : ∀ o, s.placeOf? i = some (.settling o) →
    a.isActive = true ∧ s.Next i fun s' => ∃ x, s'.placeOf? i = some (.leaving x) ∧
      x.outcome = o ∧ s'.stateOf? i = some x.state
  /-- it keeps the state of its result -/
  reported : ∀ p x, s.placeOf? i = some p → p.result? = some x → a = x.state
  /-- a terminal state never changes again -/
  final : a.isTerminal = true → ∀ ms s', s.play? ms = some s' → s'.stateOf? i = some a

theorem state_step (hs : s.Reachable) (hr : s.runs[i]? = some r) (h : s.step? m = some s') :
    ∃ b, s'.stateOf? i = some b ∧
      (b = r.session.state ∨ r.session.state.canMove b = true) := by
  obtain ⟨r', ds, hr', _, hc⟩ := runChange h hr
  exact ⟨r'.session.state, by rw [stateOf?, hr']; rfl,
    (fits_runChange hs.tidy hs.orderly hr hc).2⟩

theorem launch_step (hs : s.Reachable) (hr : s.runs[i]? = some r) {task : Nat}
    (ht : s.task? task = some (.launch i)) :
    r.session.state = .idle ∧
      ∃ s', s.step? (.proceed task .go) = some s' ∧ s'.stateOf? i = some .running := by
  obtain ⟨⟨n, t⟩, hf, he⟩ := Option.map_eq_some_iff.1 ht
  change t = .launch i at he
  subst he
  obtain ⟨_, hi⟩ := hs.tidy.unborn_of_launch hr (List.mem_of_find?_eq_some hf)
  have hm : r.session.state.canMove .running = true := by rw [hi]; rfl
  refine ⟨hi, (s.onSession i fun x => x.settle .running).goOn task (.herald i), ?_, ?_⟩
  · show s.proceed? task .go = _
    rw [proceed?, hf]
    rfl
  · show ((s.runs.modify i fun r => { r with session := r.session.settle .running })[i]?).map
      (·.session.state) = _
    rw [List.getElem?_modify_eq, hr]
    exact congrArg some (Session.settle_state hm)

theorem settle_next (hs : s.Reachable) (hr : s.runs[i]? = some r) {o : Outcome}
    (hp : r.place = .settling o) :
    r.session.state.isActive = true ∧ s.Next i fun s' => ∃ x,
      s'.placeOf? i = some (.leaving x) ∧ x.outcome = o ∧ s'.stateOf? i = some x.state := by
  have hf := hs.orderly.fits i r hr
  have ha := hf.isActive (by rw [hp]; rfl) (by simp [hp])
  refine ⟨ha, next_of hr (by simp [Run.advance, hp]) ?_⟩
  intro reply r' ds s' hw hr' _
  have hf' := (hw.fits hf).1
  cases hw with
  | settles hp' =>
    rw [hp] at hp'
    cases hp'
    refine ⟨_, by rw [placeOf?, hr']; rfl, rfl, ?_⟩
    rw [stateOf?, hr']
    exact congrArg some hf'
  | _ hp' => simp_all [Place.isStage]

theorem terminal_play (hs : s.Reachable) {a : RunState} (ha : s.stateOf? i = some a)
    (ht : a.isTerminal = true) {ms : List Move} (hp : s.play? ms = some s') :
    s'.stateOf? i = some a := by
  have h := play?_induction (P := fun t => t.Reachable ∧ t.stateOf? i = some a) ?_ ⟨hs, ha⟩ hp
  · exact h.2
  · rintro t t' m ⟨ht', hta⟩ hstep
    obtain ⟨r, hr, rfl⟩ := Option.map_eq_some_iff.1 hta
    obtain ⟨b, hb, rfl | hm⟩ := state_step ht' hr hstep
    · exact ⟨ht'.step hstep, hb⟩
    · rw [RunState.canMove_of_isTerminal ht] at hm
      cases hm

/-- **Every change of the state of a run is a move of the table, whoever makes it and whenever; so
the first and the last move of a run are never refused, the state after the last one is that of the
result, and it never changes again.** -/
theorem state_canMove {a : RunState} (hs : s.Reachable) (ha : s.stateOf? i = some a) :
    s.KeepsTable i a := by
  obtain ⟨r, hr, rfl⟩ := Option.map_eq_some_iff.1 ha
  have hplace := placeOf?_of_run hr
  refine ⟨?_, ?_, ?_, ?_, ?_⟩
  · exact fun m s' h => state_step hs hr h
  · exact fun task ht => launch_step hs hr ht
  · intro o hp
    rw [hplace] at hp
    exact settle_next hs hr (Option.some.inj hp)
  · intro p x hp hx
    rw [hplace] at hp
    cases hp
    exact (hs.orderly.fits i r hr).eq_state hx
  · exact fun ht ms s' hp => terminal_play hs ha ht hp

/-- an interactive run is paused, let go on by Step, and terminated while it steps -/
theorem state_canMove_attended :
    let s := (attended { mode := .interactive }).after
      (.request (.control "s" .pause) :: List.replicate 3 (.proceed 2 .go) ++
        .request (.control "s" .step) :: List.replicate 3 (.proceed 3 .go) ++
        .request (.control "s" .terminate) :: .proceed 4 .go ::
        .work 0 (.script (.finish .completed)) :: List.replicate 3 (.work 0 .go))
    s.stateOf? 0 = some .terminated ∧ s.KeepsTable 0 .terminated := by
  intro s
  have hs : s.Reachable := (reachable_attended _).after _
  have ha : s.stateOf? 0 = some .terminated := by decide +kernel
  exact ⟨ha, state_canMove hs ha⟩

end

end System

end ScriptGuard
