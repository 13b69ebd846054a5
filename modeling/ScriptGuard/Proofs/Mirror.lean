import ScriptGuard.Proofs.Autonomy
import ScriptGuard.Proofs.Publication

/-!
# Published states mirror the states of the scripts

While nobody else has a state to publish, a change of state is followed by its publication: when the
script comes to rest, the state published last is the one it is in.  There is one exception.  A
session may be left stepping, with no grant, by a call that broke down; the next call pauses it at
the gate, and this pause is published only after the worker has left the gate again.

* `Run.Paced`           a stepping session has a grant left, or a call that will pause it, or a call
                        of the run broke down;
* `System.Posted`       the state is published, or exactly one is about to publish it;
* `shown_or_stalled`    what has been published when a script comes to rest.
-/

namespace ScriptGuard

/-- the worker has made a pause that it has not published -/
def Place.stalls : Place → Bool
  | .call _ (.gate _ true) | .call _ (.parked _ true) | .call _ (.announce _ _) => true
  | _ => false

/-- a call under way has used a grant, and it has still to pause the session or to unwind -/
def Place.pledged : Place → Bool
  | .call _ (.progress _ _) | .call _ .repaused => false
  | .call f _ => f.holds
  | _ => false

/-- a call of the run broke down -/
def Deed.Broke (ds : List Deed) : Prop := ∃ g, Deed.replied g .brokeDown ∈ ds

/-- a stepping session has a grant left, or a call that will pause it, unless a call broke down -/
structure Run.Paced (r : Run) (ds : List Deed) : Prop where
  spared : r.session.state = .stepping → r.session.abort = none →
    0 < r.session.grants ∨ r.place.pledged = true ∨ Deed.Broke ds
  stalled : r.place.stalls = true → Deed.Broke ds

theorem Place.pledged_of_not_inCall {p : Place} (h : p.inCall = false) : p.pledged = false := by
  cases p with
  | call f q => cases h
  | _ => rfl

theorem Place.stalls_of_not_inCall {p : Place} (h : p.inCall = false) : p.stalls = false := by
  cases p with
  | call f q => cases h
  | _ => rfl

section
variable {v : View} {r r' : Run} {f : Frame} {p : CallPoint} {reply : Reply} {ds old : List Deed}

theorem Deed.Broke.later (h : Deed.Broke old) : Deed.Broke (ds ++ old) := by
  obtain ⟨g, hg⟩ := h
  exact ⟨g, List.mem_append_right _ hg⟩

namespace Run.Paced

/-- the session is as it was, and no promise is withdrawn -/
theorem goes (h : r.Paced old) (hs : r'.session = r.session)
    (hp : r.place.pledged = true → r'.place.pledged = true) (hn : r'.place.stalls = false) :
    r'.Paced (ds ++ old) where
  spared := fun hst ha => by
    rw [hs] at hst ha ⊢
    exact (h.spared hst ha).imp_right fun hb => hb.imp hp .later
  stalled := fun hst => by
    rw [hn] at hst
    cases hst

/-- the session is not stepping any more, or it unwinds -/
theorem halts (hs : r'.session.state ≠ .stepping ∨ r'.session.abort ≠ none)
    (hn : r'.place.stalls = true → Deed.Broke old) : r'.Paced (ds ++ old) where
  spared := fun hst ha => (hs.elim (fun hn => hn hst) fun hn => hn ha).elim
  stalled := fun hst => (hn hst).later

theorem on_session {x : Session} (h : r.Paced old)
    (hx : x.state = .stepping → x.abort = none →
      0 < x.grants ∨ r.session.state = .stepping ∧ r.session.abort = none ∧
        x.grants = r.session.grants) : ({ r with session := x } : Run).Paced old where
  spared := fun hst ha => by
    rcases hx hst ha with hg | ⟨hst', ha', hg⟩
    · exact Or.inl hg
    · show 0 < x.grants ∨ _
      rw [hg]
      exact h.spared hst' ha'
  stalled := h.stalled

end Run.Paced

theorem GateStep.paced {k : Resume} {shown : Bool} (h : GateStep v r f k shown r' ds)
    (hp : p.AtGate k shown) (hr : r.place = .call f p) (hpaced : r.Paced old) :
    r'.Paced (ds.reverse ++ old) := by
  have hstalls (hs : shown = true) : Deed.Broke old := by
    refine hpaced.stalled ?_
    rw [hr]
    rcases hp with rfl | rfl <;> rw [hs] <;> rfl
  have hfree {b : Bool} (hs : (shown || b) = true) (hb : b = false) : Deed.Broke old :=
    hstalls (by simpa [hb] using hs)
  cases h with
  | parks hg =>
    cases hg with
    | pauses ha _ hst hh hg =>
      -- the grant is gone, and no call under way has taken it: one broke down
      have hbroke : Deed.Broke old := by
        have hpledged : r.place.pledged = false := by
          rw [hr]
          rcases hp with rfl | rfl <;> exact hh
        rcases hpaced.spared hst ha with h | h | h
        · rw [hg] at h
          cases h
        · rw [hpledged] at h
          cases h
        · exact h
      exact .halts (Or.inl (by rintro ⟨⟩)) fun _ => hbroke
    | parks _ _ hst =>
      refine .halts (Or.inl fun he => ?_) fun hs => ?_
      · cases hst.symm.trans he
      · cases shown with
        | true => exact hstalls rfl
        | false => cases hs
  | @passes _ holds s hg hs =>
    refine ⟨fun hst _ => ?_, fun hs => by cases k <;> cases hs⟩
    have hst' : r.session.state = .stepping := by
      rcases hg.state_or with ⟨_, hst'⟩ | ⟨_, hv, _⟩
      · exact hst'.symm.trans hst
      · cases hv
    obtain ⟨rfl, _⟩ := hg.grants_of_passed (Or.inl hst')
    exact Or.inr (Or.inl (by cases k <;> rfl))
  | passesShown hg hs =>
    have hbroke : Deed.Broke old := by
      rcases hg.state_or with ⟨hb, _⟩ | ⟨_, hv, _⟩
      · exact hfree hs hb
      · cases hv
    exact ⟨fun _ _ => Or.inr (Or.inr hbroke.later), fun _ => hbroke.later⟩
  | aborts hg hs => exact .halts (Or.inr (by rw [hg.abort_of_aborted]; rintro ⟨⟩)) (by rintro ⟨⟩)
  | abortsShown hg hs =>
    refine .halts (Or.inr (by rw [hg.abort_of_aborted]; rintro ⟨⟩)) fun _ => ?_
    rcases hg.state_or with ⟨hb, _⟩ | ⟨_, hv, _⟩
    · exact hfree hs hb
    · cases hv

theorem CallStep.paced (h : CallStep v r f p reply r' ds) (hr : r.place = .call f p)
    (hp : r.Paced old) : r'.Paced (ds.reverse ++ old) := by
  cases h with
  | atGate hg h => exact h.paced hg hr hp
  | slotSet ha => exact .halts (Or.inr (by rw [ha]; rintro ⟨⟩)) (by rintro ⟨⟩)
  | raises => exact .halts (Or.inr (by simp [Session.request])) (by rintro ⟨⟩)
  | @announced k =>
    refine hp.goes rfl ?_ (by cases k <;> rfl)
    rw [hr]
    cases k <;> exact id
  | announcedStop =>
    have hbroke : Deed.Broke old := hp.stalled (by rw [hr]; rfl)
    exact ⟨fun _ _ => Or.inr (Or.inr hbroke.later), by rintro ⟨⟩⟩
  | sliceBroke =>
    exact ⟨fun _ _ => Or.inr (Or.inr ⟨f.function, by simp⟩), by rintro ⟨⟩⟩
  | inputBroke =>
    exact ⟨fun _ _ => Or.inr (Or.inr ⟨f.function, by simp⟩), by rintro ⟨⟩⟩
  | countsHeld hh => exact ⟨fun _ _ => Or.inr (Or.inl hh), by rintro ⟨⟩⟩
  | counts hh =>
    refine ⟨fun hst ha => ?_, by rintro ⟨⟩⟩
    rcases hp.spared hst ha with h | h | h
    · exact Or.inl h
    · rw [hr] at h
      cases hh.symm.trans h
    · exact Or.inr (Or.inr h)
  | repauses =>
    refine ⟨fun hst _ => Or.inl ?_, by rintro ⟨⟩⟩
    change r.session.repause.state = .stepping at hst
    show 0 < r.session.repause.grants
    cases hm : r.session.mustRepause with
    | true =>
      have hlast : r.session.state = .stepping ∧ r.session.grants = 0 := by
        simpa [Session.mustRepause] using hm
      rw [r.session.repause_state hlast.1 hlast.2] at hst
      cases hst
    | false =>
      rw [r.session.repause_eq_self hm] at hst ⊢
      refine Nat.pos_of_ne_zero fun hg => ?_
      simp [Session.mustRepause, hst, hg] at hm
  | progress =>
    refine hp.goes rfl ?_ rfl
    rw [hr]
    rintro ⟨⟩
  | progressPaused =>
    refine hp.goes rfl ?_ rfl
    rw [hr]
    rintro ⟨⟩
  | repaused =>
    refine hp.goes rfl ?_ rfl
    rw [hr]
    rintro ⟨⟩
  | _ =>
    refine hp.goes rfl ?_ rfl
    rw [hr]
    exact id

theorem WorkerStep.paced (h : WorkerStep v r reply r' ds) (hp : r.Paced old) :
    r'.Paced (ds.reverse ++ old) := by
  cases h with
  | call hr h => exact h.paced hr hp
  | staged hr hn =>
    refine hp.goes rfl (fun hpl => ?_) (Place.stalls_of_not_inCall (Place.inCall_of_isStage hn))
    rw [Place.pledged_of_not_inCall (Place.inCall_of_isStage hr)] at hpl
    cases hpl
  | unready hr =>
    refine hp.goes rfl (fun hpl => ?_) rfl
    rw [Place.pledged_of_not_inCall (Place.inCall_of_isStage hr)] at hpl
    cases hpl
  | stageBroke hr =>
    refine hp.goes rfl (fun hpl => ?_) rfl
    rw [Place.pledged_of_not_inCall (Place.inCall_of_isStage hr)] at hpl
    cases hpl
  | pollRaises => exact .halts (Or.inr (by simp [Session.request])) (by rintro ⟨⟩)
  | @settles o hr =>
    cases hm : r.session.state.canMove o.state with
    | true =>
      refine .halts (Or.inl fun he => ?_) (by rintro ⟨⟩)
      have hst : (r.session.settle o.state).state = o.state := Session.settle_state hm
      have ht := o.isTerminal_state
      rw [← hst, he] at ht
      cases ht
    | false =>
      have hx : r.session.settle o.state = r.session := if_neg (by simp [hm])
      refine hp.goes hx (fun hpl => ?_) rfl
      rw [hr] at hpl
      cases hpl
  | _ hr =>
    refine hp.goes rfl (fun hpl => ?_) rfl
    rw [hr] at hpl
    cases hpl

/-- **A stepping session runs out of grants only when a call breaks down.** -/
theorem System.Reachable.paced {s : System} {i : RunId} (hs : s.Reachable)
    (hr : s.runs[i]? = some r) : r.Paced (s.deeds i) := by
  refine hs.every_run (P := Run.Paced) (fun _ _ _ _ => ⟨by rintro ⟨⟩, by rintro ⟨⟩⟩) ?_ hr
  intro s m i r r' ds hs hr hc hp
  cases hc with
  | still => exact hp
  | worked _ hw => exact hw.paced hp
  | @commanded c =>
    refine hp.on_session fun hst ha => ?_
    rcases r.session.control_cases c with ⟨hc, _⟩ | ⟨hc, _⟩ <;> rw [hc] at hst ha ⊢
    · exact Or.inr ⟨hst, ha, rfl⟩
    · cases c with
      | pause => cases hst
      | resume => cases hst
      | step => exact Or.inl Nat.one_pos
      | stop => cases ha
      | terminate => cases ha
  | swept => exact hp.on_session fun _ ha => by cases ha
  | launched =>
    refine hp.on_session fun hst ha => ?_
    cases hm : r.session.state.canMove .running with
    | true =>
      rw [Session.settle_state hm] at hst
      cases hst
    | false =>
      have hx : r.session.settle .running = r.session := if_neg (by simp [hm])
      rw [hx] at hst ha ⊢
      exact Or.inr ⟨hst, ha, rfl⟩
  | spawned _ _ hin =>
    refine hp.goes rfl (fun hpl => ?_) rfl
    rw [hs.tidy.unborn_of_spawn hr hin] at hpl
    cases hpl

end

/-- the places at which a worker rests: between two calls, parked in one, not started, or over -/
def Place.rests : Place → Bool
  | .script | .call _ (.parked _ _) | .unborn | .gone _ | .lost => true
  | _ => false

theorem Place.parked_of_rests {p : Place} (h : p.rests = true) {a : RunState}
    (ha : p.unsaid? = some a) : ∃ f k, p = .call f (.parked k true) := by
  cases p with
  | call f q =>
    cases q with
    | parked k shown =>
      cases shown with
      | true => exact ⟨f, k, rfl⟩
      | false => cases ha
    | _ => cases h
  | script | unborn | gone | lost => cases ha
  | _ => cases h

namespace System

/-! ## what has been published -/

/-- nobody has a state of the script to publish -/
def Clear (s : System) (id : String) : Prop :=
  (∀ r ∈ s.runs, r.session.script.id = id → r.place.unsaid? = none) ∧
    ∀ e ∈ s.tasks, s.owes? id e.2 = none

/-- the workers of the script rest, and no request has a state of it to publish, as while no command
and no start is executing -/
def Quiet (s : System) (id : String) : Prop :=
  (∀ r ∈ s.runs, r.session.script.id = id → r.place.rests = true) ∧
    ∀ e ∈ s.tasks, s.owes? id e.2 = none

/-- the worker is parked in a pause that it has made itself, after a call of the run broke down -/
def Stalled (s : System) (id : String) : Prop :=
  s.state id = .paused ∧ ∃ i r f k, s.runs[i]? = some r ∧ r.session.script.id = id ∧
    r.place = .call f (.parked k true) ∧ ∃ g, (g, .brokeDown) ∈ s.replies i

instance (s : System) (id : String) : Decidable (s.Clear id) :=
  inferInstanceAs (Decidable
    ((∀ r ∈ s.runs, r.session.script.id = id → r.place.unsaid? = none) ∧ _))

instance (s : System) (id : String) : Decidable (s.Quiet id) :=
  inferInstanceAs (Decidable
    ((∀ r ∈ s.runs, r.session.script.id = id → r.place.rests = true) ∧
      ∀ e ∈ s.tasks, s.owes? id e.2 = none))

/-- the state of the script is published; or exactly one is about to publish it, and unless the
script has become idle nothing has been published meanwhile; or the run is about to leave -/
inductive Posted (s : System) (id : String) (before : Option RunState) : Prop
  | said (hn : ∀ a, s.unsaid? id a = none) (hs : s.shown? id = some (s.state id))
  | due (a : Speaker) (ha : s.unsaid? id a = some (s.state id))
      (ho : ∀ b, b ≠ a → s.unsaid? id b = none)
      (hs : s.shown? id = before ∨ s.state id = .idle)
  | leaving (h : s.Leaving id)

section
variable {s₀ s₁ s s' : System} {m : Move} {ms : List Move} {id : String} {a : Speaker}
  {before : Option RunState}

theorem Clear.unsaid? (h : s.Clear id) (a : Speaker) : s.unsaid? id a = none := by
  cases a with
  | worker i =>
    cases hr : s.runs[i]? with
    | none => rw [System.unsaid?, hr, Option.bind_none]
    | some r =>
      rw [unsaid?_worker hr]
      split
      · exact h.1 r (List.mem_of_getElem? hr) ‹_›
      · rfl
  | caller n =>
    cases ht : s.task? n with
    | none => rw [System.unsaid?, ht, Option.bind_none]
    | some t =>
      rw [unsaid?_caller ht]
      exact h.2 _ (mem_of_task? ht)

theorem leaving_step (hs : s.Reachable) (h : s.step? m = some s') (hl : s.Leaving id)
    (hst : s'.state id = s.state id) : s'.Leaving id := by
  obtain ⟨i, r, x, ha, hr, hp⟩ := hl
  have hstands : s.Stands id i := hs.listed.active?_iff.1 ha
  have hid : r.session.script.id = id := by
    obtain ⟨r₁, hr₁, hid, _⟩ := hstands
    rw [hr] at hr₁
    cases hr₁
    exact hid
  cases hm : m.isWorkOf i with
  | true =>
    -- the step of the run itself would change the state
    obtain ⟨reply, rfl⟩ := Move.exists_of_isWorkOf hm
    obtain ⟨hnow, hnext⟩ := hs.state_of_leaves h hr hp
    rw [hid] at hnow hnext
    exact absurd (hst.symm.trans hnext) hnow
  | false =>
    obtain ⟨r', ds, hr', _, hc⟩ := runChange h hr
    obtain ⟨hp', _⟩ := hc.aside hs.tidy hr hm (by rw [hp]; rintro ⟨⟩)
    exact ⟨i, r', x, (hs.step h).listed.active?_iff.2 ((stands_aside h hr hm).2 hstands), hr',
      hp'.trans hp⟩

/-- a step of one who owes nothing publishes nothing about a script whose state stays -/
theorem unsaid?_of_free (hs : s.Reachable) (h : s.step? m = some s')
    (hst : s'.state id = s.state id) (hfree : ∀ a, m.speaker? = some a → s.unsaid? id a = none) :
    (∀ a, s'.unsaid? id a = s.unsaid? id a) ∧ s'.shown? id = s.shown? id := by
  cases hm : m.speaker? with
  | none =>
    refine ⟨fun a => unsaid?_aside hs h (by rw [hm]; rintro ⟨⟩), ?_⟩
    cases m with
    | work | proceed => cases hm
    | _ => cases h; rfl
  | some c =>
    have hc : s.unsaid? id c = none := hfree c hm
    rcases unsaid?_of_unchanged hs h hm hst with ⟨hu, hl⟩ | ⟨b, hu, _⟩ | ⟨hu, _⟩
    · refine ⟨fun a => ?_, hl⟩
      by_cases ha : m.speaker? = some a
      · obtain rfl : c = a := Option.some.inj (hm.symm.trans ha)
        exact hu
      · exact unsaid?_aside hs h ha
    · rw [hc] at hu
      cases hu
    · rw [hc] at hu
      cases hu

/-- while the state of the script stays, it is published by the one who has to, and it is not
published over -/
theorem Posted.step (hs : s.Reachable) (hp : s.Posted id before) (h : s.step? m = some s')
    (hst : s'.state id = s.state id) : s'.Posted id before := by
  cases hp with
  | said hn hshown =>
    obtain ⟨hsame, hl⟩ := unsaid?_of_free hs h hst fun a _ => hn a
    exact .said (fun b => (hsame b).trans (hn b)) (by rw [hl, hshown, hst])
  | due a ha ho hshown =>
    by_cases hm : m.speaker? = some a
    · have hother (b : Speaker) (hb : b ≠ a) : s'.unsaid? id b = none := by
        rw [unsaid?_aside hs h fun he => hb (Option.some.inj (he.symm.trans hm)), ho b hb]
      rcases unsaid?_of_unchanged hs h hm hst with ⟨hu, hl⟩ | ⟨b, hu, hu', hl⟩ | ⟨hu, hu'⟩
      · exact .due a (by rw [hu, ha, hst]) hother (by rw [hl, hst]; exact hshown)
      · refine .said (fun c => ?_) (by rw [hl, hst, ← hu, ha])
        by_cases hc : c = a
        · rw [hc, hu']
        · exact hother c hc
      · have hidle : s.state id = .idle := Option.some.inj (ha.symm.trans hu)
        exact .due a (by rw [hu', hst, hidle]) hother (Or.inr (hst.trans hidle))
    · obtain ⟨hsame, hl⟩ := unsaid?_of_free hs h hst fun c hc => ho c fun he => hm (he ▸ hc)
      exact .due a (by rw [hsame, ha, hst]) (fun b hb => (hsame b).trans (ho b hb))
        (by rw [hl, hst]; exact hshown)
  | leaving hl => exact .leaving (leaving_step hs h hl hst)

theorem posted_of_changed (hs : s.Reachable) (hc : s.Clear id) (h : s.step? m = some s')
    (hne : s'.state id ≠ s.state id) : s'.Posted id (s.shown? id) := by
  obtain ⟨hl, ⟨a, ha, hu⟩ | hl'⟩ := unsaid?_of_changed hs h hc.unsaid? hne
  · refine .due a hu (fun b hb => ?_) (Or.inl hl)
    rw [unsaid?_aside hs h fun he => hb (Option.some.inj (he.symm.trans ha)), hc.unsaid? b]
  · exact .leaving hl'

theorem Posted.of_quiet (hs : s.Reachable) (hp : s.Posted id before) (hq : s.Quiet id) :
    s.shown? id = some (s.state id) ∨ s.Stalled id ∧ s.shown? id = before := by
  cases hp with
  | said _ hl => exact Or.inl hl
  | due a ha _ hl =>
    cases a with
    | worker i =>
      right
      cases hr : s.runs[i]? with
      | none => rw [unsaid?, hr] at ha; cases ha
      | some r =>
        rw [unsaid?_worker hr] at ha
        split at ha
        · have hid : r.session.script.id = id := ‹_›
          obtain ⟨f, k, hp⟩ := Place.parked_of_rests (hq.1 r (List.mem_of_getElem? hr) hid) ha
          rw [hp] at ha
          have hpaused : s.state id = .paused := (Option.some.inj ha).symm
          obtain ⟨g, hg⟩ := (hs.paced hr).stalled (by rw [hp]; rfl)
          exact ⟨⟨hpaused, i, r, f, k, hr, hid, hp, g, List.mem_filterMap.2 ⟨_, hg, rfl⟩⟩,
            hl.resolve_right (by rw [hpaused]; rintro ⟨⟩)⟩
        · cases ha
    | caller n =>
      exfalso
      cases ht : s.task? n with
      | none => rw [unsaid?, ht] at ha; cases ha
      | some t =>
        rw [unsaid?_caller ht, hq.2 _ (mem_of_task? ht)] at ha
        cases ha
  | leaving hl =>
    exfalso
    obtain ⟨i, r, x, hact, hr, hp⟩ := hl
    obtain ⟨r₁, hr₁, hid, _⟩ := hs.listed.active?_iff.1 hact
    rw [hr] at hr₁
    cases hr₁
    have hrest := hq.1 r (List.mem_of_getElem? hr) hid
    rw [hp] at hrest
    cases hrest

/-- **What has been published when a script comes to rest**, if its state has changed while nobody
had a state of it to publish, and has stayed since: this state. The exception is a pause that the
worker has made at the gate after a call broke down; it is not published while the worker is
parked, and the state published last is the one from before. -/
theorem shown_or_stalled (hs : s₀.Reachable) (hc : s₀.Clear id) (hm : s₀.step? m = some s₁)
    (hne : s₁.state id ≠ s₀.state id) (hp : s₁.play? ms = some s)
    (hk : s₁.Throughout (fun t => t.state id = s₁.state id) ms) (hq : s.Quiet id) :
    s.shown? id = some (s.state id) ∨ s.Stalled id ∧ s.shown? id = s₀.shown? id := by
  have hs₁ := hs.step hm
  have hposted : s₁.Posted id (s₀.shown? id) := posted_of_changed hs hc hm hne
  have hall : s.Reachable ∧ s.Posted id (s₀.shown? id) := by
    refine hk.induction (Q := fun t => t.Reachable ∧ t.Posted id (s₀.shown? id)) ?_
      ⟨hs₁, hposted⟩ hp
    rintro t t' n hst hst' ⟨ht, hpt⟩ hn
    exact ⟨ht.step hn, hpt.step ht hn (hst'.trans hst.symm)⟩
  exact hall.2.of_quiet hall.1 hq

/-- a stepped move of the pointer: the session is paused again, and the pause is published -/
theorem shown_or_stalled_attended :
    let s₀ := (attended { mode := .interactive }).after
      (Move.request (.control "s" .pause) :: List.replicate 3 (Move.proceed 2 .go) ++
        Move.work 0 (.script (.call .move [.int 1, .int 2])) ::
        List.replicate 4 (Move.work 0 .go) ++
        Move.request (.control "s" .step) :: List.replicate 3 (Move.proceed 3 .go) ++
        List.replicate 4 (Move.work 0 .go) ++
        Move.work 0 (.device .done) :: List.replicate 2 (Move.work 0 .go))
    let s := (s₀.after [Move.work 0 .go]).after (List.replicate 2 (Move.work 0 .go))
    s₀.shown? "s" = some .stepping ∧ s.Quiet "s" ∧
      (s.shown? "s" = some (s.state "s") ∨ s.Stalled "s" ∧ s.shown? "s" = s₀.shown? "s") := by
  intro s₀ s
  have hs : s₀.Reachable := (reachable_attended _).after _
  have hc : s₀.Clear "s" := by decide +kernel
  have hm : s₀.step? (.work 0 .go) = some (s₀.after [Move.work 0 .go]) :=
    step?_after (by decide +kernel)
  have hne : (s₀.after [Move.work 0 .go]).state "s" ≠ s₀.state "s" := by decide +kernel
  have hp : (s₀.after [Move.work 0 .go]).play? (List.replicate 2 (Move.work 0 .go)) = some s :=
    play?_after (by decide +kernel)
  have hq : s.Quiet "s" := by decide +kernel
  exact ⟨by decide +kernel, hq, shown_or_stalled hs hc hm hne hp (by decide +kernel) hq⟩

/-- **A state may be published late.**  A wait begun with a Step breaks down and leaves the session
stepping without a grant. The next call pauses it and parks, and the last to be published is that
the run is stepping. -/
theorem not_shown_of_quiet :
    ¬ ∀ (s : System) (id : String), s.Reachable → s.tasks = [] → s.Quiet id →
      s.shown? id ≠ none → s.shown? id = some (s.state id) := by
  intro h
  let s := (attended { mode := .interactive }).after
    (Move.request (.control "s" .pause) :: List.replicate 3 (Move.proceed 2 .go) ++
      Move.work 0 (.script (.call .msleep [.int 40])) :: List.replicate 4 (Move.work 0 .go) ++
      Move.request (.control "s" .step) :: List.replicate 3 (Move.proceed 3 .go) ++
      List.replicate 3 (Move.work 0 .go) ++ Move.work 0 (.device .brokeDown) ::
      .work 0 (.script (.call .move [.int 1, .int 2])) :: List.replicate 4 (Move.work 0 .go))
  have hs : s.Reachable := (reachable_attended _).after _
  have hshown : s.shown? "s" = some .stepping := by decide +kernel
  have hstate : s.state "s" = .paused := by decide +kernel
  have hno : s.tasks = [] := List.isEmpty_iff.1 (by decide +kernel)
  have hmirror := h s "s" hs hno (by decide +kernel) (by rw [hshown]; rintro ⟨⟩)
  rw [hshown, hstate] at hmirror
  cases hmirror

end

end System

end ScriptGuard
