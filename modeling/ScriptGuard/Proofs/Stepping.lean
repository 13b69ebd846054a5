import ScriptGuard.Proofs.Standstill

/-!
# What one Step lets through

A grant of Step is kept in two places: the session counts the grants that are left, and a host call
that has taken one remembers it (`Frame.holds`) until its operation is counted.  A worker that parks
in a call may have taken a grant before or not, and this decides what a Step does.

* `Run.allowance`          the operations that may still be counted: the grants left, and one more
                           if the call under way holds one;
* `WorkerStep.stepped`     while nobody lets the run go on, count and allowance together never grow;
* `index_le_of_step`       if the parked call holds no grant, a Step lets one operation through and
                           the session is paused again after it.  If it holds one, the Step grants
                           another: two operations may be counted, and the first does not pause the
                           session.
-/

namespace ScriptGuard

/-! ## points of a call -/

namespace CallPoint

/-- the gate is passed and the operation not yet counted -/
def passed : CallPoint → Bool
  | .announce _ none | .permit _ | .seek _ _ | .asking _ _ | .grant _ _ | .sleep _
  | .waiting _ _ | .act | .acting _ | .hold _ | .count => true
  | _ => false

/-- the operation is counted, or it will not be -/
def spent : CallPoint → Bool
  | .announce _ (some _) | .repause _ | .progress _ _ | .repaused | .raise _ => true
  | _ => false

theorem AtGate.not_spent {p : CallPoint} {k : Resume} {shown : Bool} (h : p.AtGate k shown) :
    p.spent = false := by
  rcases h with rfl | rfl <;> rfl

end CallPoint

/-- the grant that a call under way holds and has not used up -/
def Place.grant : Place → Nat
  | .call f p => if f.holds = true ∧ p.spent = false then 1 else 0
  | _ => 0

theorem Place.grant_of_not_inCall {p : Place} (h : p.inCall = false) : p.grant = 0 := by
  cases p with
  | call f q => cases h
  | _ => rfl

theorem Place.grant_of_holds {f : Frame} {p : CallPoint} (hf : f.holds = true)
    (hp : p.spent = false) : (Place.call f p).grant = 1 := by
  simp [grant, hf, hp]

theorem Place.grant_of_not_holds {f : Frame} {p : CallPoint} (hf : f.holds = false) :
    (Place.call f p).grant = 0 := by
  simp [grant, hf]

theorem Place.grant_of_spent {f : Frame} {p : CallPoint} (hp : p.spent = true) :
    (Place.call f p).grant = 0 := by
  simp [grant, hp]

theorem Place.grant_le {f : Frame} {p q : CallPoint} (hp : p.spent = false) :
    (Place.call f q).grant ≤ (Place.call f p).grant := by
  show (if f.holds = true ∧ q.spent = false then 1 else 0)
    ≤ if f.holds = true ∧ p.spent = false then 1 else 0
  by_cases hq : f.holds = true ∧ q.spent = false
  · exact Nat.le_of_eq (by rw [if_pos hq, if_pos ⟨hq.1, hp⟩])
  · rw [if_neg hq]
    exact Nat.zero_le _

namespace Run

/-- the operations that may still be counted before the run is let go on -/
def allowance (r : Run) : Nat := r.session.grants + r.place.grant

/-- the session is held up, and a call past the gate has taken a grant; or the run is over -/
def Stepped (r : Run) : Prop :=
  r.place.isOver = true ∨ (r.session.state = .stepping ∨ r.session.state = .paused) ∧
    ∀ f p, r.place = .call f p → p.passed = true → f.holds = true

/-- the session is paused, or about to be at the end of an operation; or the run is over -/
def Settled (r : Run) : Prop :=
  r.place.isOver = true ∨ r.session.state = .paused ∨
    ∃ f n, r.place = .call f (.repause n) ∧ r.session.mustRepause = true

/-- the session steps on with one grant left, and the call under way holds another; or the run is
over -/
def Twice (r : Run) : Prop :=
  r.place.isOver = true ∨ r.session.state = .stepping ∧ r.session.grants = 1 ∧
    ∀ f p, r.place = .call f p → f.holds = true

/-- a step counts nothing, or it counts an operation with the grant that its call holds -/
def Spends (r r' : Run) : Prop :=
  r'.session.index = r.session.index ∧ r'.allowance ≤ r.allowance ∨
    (∃ f n, r'.place = .call f (.repause n)) ∧ r'.session.index = r.session.index + 1 ∧
      r'.allowance + 1 = r.allowance

structure StepsOn (r r' : Run) : Prop where
  stepped : r'.Stepped
  spends : r.Spends r'

variable {r : Run} {x : Session}

theorem Stepped.on_session (h : r.Stepped)
    (hx : x.state = r.session.state ∨ x.state = .paused) :
    ({ r with session := x } : Run).Stepped := by
  rcases h with h | ⟨hs, hp⟩
  · exact Or.inl h
  · refine Or.inr ⟨?_, hp⟩
    rcases hx with hx | hx
    · rw [hx]
      exact hs
    · exact Or.inr hx

theorem Settled.on_session (h : r.Settled)
    (hx : x.state = r.session.state ∨ x.state = .paused) (hg : x.grants = r.session.grants) :
    ({ r with session := x } : Run).Settled := by
  rcases h with h | h | ⟨f, n, hp, hm⟩
  · exact Or.inl h
  · rcases hx with hx | hx
    · exact Or.inr (Or.inl (hx.trans h))
    · exact Or.inr (Or.inl hx)
  · rcases hx with hx | hx
    · refine Or.inr (Or.inr ⟨f, n, hp, ?_⟩)
      show (x.state == .stepping && x.grants == 0) = true
      rw [hx, hg]
      exact hm
    · exact Or.inr (Or.inl hx)

end Run

/-! ## one step -/

section
variable {v : View} {r r' : Run} {f : Frame} {p q : CallPoint} {reply : Reply} {ds : List Deed}

theorem Run.StepsOn.leaves (ho : r'.place.inCall = false)
    (hs : r'.session.state = .stepping ∨ r'.session.state = .paused)
    (hg : r'.session.grants = r.session.grants) (hi : r'.session.index = r.session.index) :
    r.StepsOn r' := by
  refine ⟨Or.inr ⟨hs, fun f p hp => ?_⟩, Or.inl ⟨hi, ?_⟩⟩
  · rw [hp] at ho
    cases ho
  · unfold Run.allowance
    rw [hg, Place.grant_of_not_inCall ho]
    exact Nat.le_add_right _ _

theorem Run.StepsOn.goes (hp : r.place = .call f p) (hp' : r'.place = .call f q)
    (hs : r'.session.state = .stepping ∨ r'.session.state = .paused)
    (hg : r'.session.grants = r.session.grants) (hi : r'.session.index = r.session.index)
    (hq : q.passed = true → f.holds = true) (hsp : p.spent = false ∨ q.spent = true) :
    r.StepsOn r' := by
  refine ⟨Or.inr ⟨hs, fun g p' he hpass => ?_⟩, Or.inl ⟨hi, ?_⟩⟩
  · rw [hp'] at he
    cases he
    exact hq hpass
  · unfold Run.allowance
    rw [hg, hp, hp']
    refine Nat.add_le_add_left ?_ _
    rcases hsp with hsp | hsp
    · exact Place.grant_le hsp
    · rw [Place.grant_of_spent hsp]
      exact Nat.zero_le _

theorem GateStep.stepped {k : Resume} {shown : Bool} (h : GateStep v r f k shown r' ds)
    (hp : r.place = .call f p) (hat : p.AtGate k shown)
    (hs : r.session.state = .stepping ∨ r.session.state = .paused) :
    r.StepsOn r' := by
  have hentry {held paused : Bool} {x : Session}
      (hm : r.session.GateMove v.killed f.holds v.now (.passed held) paused x) (q : CallPoint)
      (hq : q.spent = false) :
      r.StepsOn { r with session := x, place := .call { f with holds := held } q } := by
    obtain ⟨hheld, hgrants⟩ := hm.grants_of_passed hs
    refine ⟨Or.inr ⟨hm.held_up hs, fun g p' he _ => ?_⟩, Or.inl ⟨hm.index_eq, ?_⟩⟩
    · cases he
      exact hheld
    · show x.grants + (Place.call { f with holds := held } q).grant
        ≤ r.session.grants + r.place.grant
      rw [Place.grant_of_holds hheld hq, hgrants, hp]
      refine Nat.add_le_add_left ?_ _
      cases hf : f.holds with
      | true =>
        rw [Place.grant_of_holds hf hat.not_spent]
        exact Nat.le_refl _
      | false => exact Nat.zero_le _
  cases h with
  | parks hm =>
    exact .goes hp rfl (hm.held_up hs) (hm.grants_eq (by simp)) hm.index_eq
      (by simp [CallPoint.passed]) (Or.inl hat.not_spent)
  | passes hm =>
    refine hentry hm _ ?_
    cases k <;> rfl
  | passesShown hm => exact hentry hm _ rfl
  | aborts hm => exact .leaves rfl (hm.held_up hs) (hm.grants_eq (by simp)) hm.index_eq
  | abortsShown hm =>
    exact .goes hp rfl (hm.held_up hs) (hm.grants_eq (by simp)) hm.index_eq
      (by simp [CallPoint.passed]) (Or.inr rfl)

theorem CallStep.stepped (h : CallStep v r f p reply r' ds) (hp : r.place = .call f p)
    (hs : r.session.state = .stepping ∨ r.session.state = .paused)
    (hheld : p.passed = true → f.holds = true) : r.StepsOn r' := by
  cases h with
  | atGate hat h => exact h.stepped hp hat hs
  | countsHeld hf =>
    refine ⟨Or.inr ⟨hs, fun g p' he hpass => ?_⟩, Or.inr ⟨⟨f, _, rfl⟩, rfl, ?_⟩⟩
    · cases he
      cases hpass
    · have hone : (Place.call f .count).grant = 1 := Place.grant_of_holds hf rfl
      have hnone : (Place.call f (.repause (r.session.index + 1))).grant = 0 :=
        Place.grant_of_spent rfl
      show r.session.grants + (Place.call f (.repause (r.session.index + 1))).grant + 1
        = r.session.grants + r.place.grant
      rw [hp, hone, hnone]
  | counts hf =>
    rw [hheld rfl] at hf
    cases hf
  | repauses =>
    have hs' : r.session.repause.state = .stepping ∨ r.session.repause.state = .paused := by
      unfold Session.repause
      split
      · exact Or.inr rfl
      · exact hs
    exact .goes hp rfl hs' (Session.repause_grants _) (Session.repause_index _)
      (by simp [CallPoint.passed]) (Or.inr rfl)
  | slotSet => exact .leaves rfl hs rfl rfl
  | announcedStop => exact .leaves rfl hs rfl rfl
  | sliceBroke => exact .leaves rfl hs rfl rfl
  | inputBroke => exact .leaves rfl hs rfl rfl
  | progress => exact .leaves rfl hs rfl rfl
  | repaused => exact .leaves rfl hs rfl rfl
  | raises => exact .leaves rfl hs rfl rfl
  | announced => exact .goes hp rfl hs rfl rfl (fun _ => hheld rfl) (Or.inl rfl)
  | progressPaused => exact .goes hp rfl hs rfl rfl (by simp [CallPoint.passed]) (Or.inr rfl)
  | slotClear => exact .goes hp rfl hs rfl rfl (by simp [CallPoint.passed]) (Or.inl rfl)
  | switchOn => exact .goes hp rfl hs rfl rfl (by simp [CallPoint.passed]) (Or.inl rfl)
  | switchOff => exact .goes hp rfl hs rfl rfl (by simp [CallPoint.passed]) (Or.inl rfl)
  | overLimit => exact .goes hp rfl hs rfl rfl (by simp [CallPoint.passed]) (Or.inl rfl)
  | withinLimits => exact .goes hp rfl hs rfl rfl (by simp [CallPoint.passed]) (Or.inl rfl)
  | _ => exact .goes hp rfl hs rfl rfl (fun _ => hheld rfl) (Or.inl rfl)

/-- **A step of a run that is held up counts nothing, or it counts an operation with the grant that
its call holds.** -/
theorem WorkerStep.stepped (h : WorkerStep v r reply r' ds) (hs : r.Stepped) : r.StepsOn r' := by
  have hstay (ho : r.place.isOver = false) :
      (r.session.state = .stepping ∨ r.session.state = .paused) ∧
        ∀ f p, r.place = .call f p → p.passed = true → f.holds = true := by
    rcases hs with hs | hs
    · rw [ho] at hs
      cases hs
    · exact hs
  rcases h.kinds with ⟨f, p, hp, h⟩ | ⟨g, args, rfl⟩ | ⟨_, hb⟩
  · obtain ⟨hst, hheld⟩ := hstay (by rw [hp]; rfl)
    exact h.stepped hp hst (hheld f p hp)
  · obtain ⟨hp, ⟨c, _, rfl, _⟩ | ⟨e, _, rfl, _⟩⟩ := h.of_call
    · obtain ⟨hst, _⟩ := hstay (by rw [hp]; rfl)
      refine ⟨Or.inr ⟨hst, fun f p he hpass => ?_⟩, Or.inl ⟨rfl, ?_⟩⟩
      · cases he
        cases hpass
      · exact Nat.add_le_add_left (Nat.le_trans (Nat.le_of_eq (Place.grant_of_not_holds rfl))
          (Nat.zero_le _)) _
    · obtain ⟨hst, _⟩ := hstay (by rw [hp]; rfl)
      exact .leaves rfl hst rfl rfl
  · have hbt := hb [] rfl
    refine ⟨?_, Or.inl ⟨hbt.index, ?_⟩⟩
    · rcases hs with hs | ⟨hs, _⟩
      · exact Or.inl (hbt.past hs)
      · rcases hbt.state with he | ho
        · refine Or.inr ⟨by rw [he]; exact hs, fun f p hp => ?_⟩
          have hout := hbt.outside
          rw [hp] at hout
          cases hout
        · exact Or.inl ho
    · unfold Run.allowance
      rw [hbt.grants, Place.grant_of_not_inCall hbt.outside]
      exact Nat.le_add_right _ _

theorem WorkerStep.settled (h : WorkerStep v r reply r' ds) (hs : r.Settled) : r'.Settled := by
  have hpaused (hs : r.session.state = .paused ∨ r.place.isOver = true) : r'.Settled := by
    rcases h.held hs with hs | hs
    · exact Or.inr (Or.inl hs)
    · exact Or.inl hs
  rcases hs with hs | hs | ⟨f, n, hp, hm⟩
  · exact hpaused (Or.inr hs)
  · exact hpaused (Or.inl hs)
  · rcases h.kinds with ⟨g, p, hp', h⟩ | ⟨g, args, rfl⟩ | ⟨hc, _⟩
    · rw [hp] at hp'
      cases hp'
      cases h with
      | atGate hat => rcases hat with hat | hat <;> cases hat
      | repauses =>
        obtain ⟨hst, hg⟩ : r.session.state = .stepping ∧ r.session.grants = 0 := by
          simpa [Session.mustRepause] using hm
        exact Or.inr (Or.inl (Session.repause_state _ hst hg))
    · obtain ⟨hp', _⟩ := h.of_call
      rw [hp] at hp'
      cases hp'
    · rw [hp] at hc
      cases hc

/-- a session that steps with a grant to spare is not paused by the call that holds another -/
theorem WorkerStep.twice (h : WorkerStep v r reply r' ds) (hs : r.Twice)
    (hn : ∀ g args, reply ≠ .script (.call g args)) : r'.Twice := by
  rcases h.kinds with ⟨f, p, hp, h⟩ | ⟨g, args, rfl⟩ | ⟨_, hb⟩
  · obtain ⟨hst, hg, hheld⟩ : r.session.state = .stepping ∧ r.session.grants = 1 ∧
        ∀ f p, r.place = .call f p → f.holds = true := by
      rcases hs with hs | hs
      · rw [hp] at hs
        cases hs
      · exact hs
    have hf : f.holds = true := hheld f p hp
    have hgo {r₁ : Run} (hs₁ : r₁.session.state = .stepping) (hg₁ : r₁.session.grants = 1)
        (hp₁ : ∀ g q, r₁.place = .call g q → g = f) : r₁.Twice :=
      Or.inr ⟨hs₁, hg₁, fun g q he => by rw [hp₁ g q he]; exact hf⟩
    have hsame {q : CallPoint} : ∀ g q', Place.call f q = .call g q' → g = f := by
      rintro g q' ⟨⟩
      rfl
    cases h with
    | atGate _ h =>
      cases h with
      | parks hm =>
        obtain ⟨hst', hg', _⟩ := hm.of_grant hst hf
        exact hgo hst' (hg'.trans hg) hsame
      | passes hm =>
        obtain ⟨hst', hg', hheld'⟩ := hm.of_grant hst hf
        exact Or.inr ⟨hst', hg'.trans hg, fun g q he => by cases he; exact hheld' _ rfl⟩
      | passesShown hm =>
        obtain ⟨hst', hg', hheld'⟩ := hm.of_grant hst hf
        exact Or.inr ⟨hst', hg'.trans hg, fun g q he => by cases he; exact hheld' _ rfl⟩
      | aborts hm =>
        obtain ⟨hst', hg', _⟩ := hm.of_grant hst hf
        exact hgo hst' (hg'.trans hg) (by simp)
      | abortsShown hm =>
        obtain ⟨hst', hg', _⟩ := hm.of_grant hst hf
        exact hgo hst' (hg'.trans hg) hsame
    | repauses =>
      have hm : r.session.mustRepause = false := by simp [Session.mustRepause, hg]
      rw [Session.repause_eq_self _ hm]
      exact hgo hst hg hsame
    | slotSet | announcedStop | sliceBroke | inputBroke | progress | repaused | raises =>
      exact hgo hst hg (by simp)
    | _ => exact hgo hst hg hsame
  · exact absurd rfl (hn g args)
  · have hbt := hb [] rfl
    rcases hs with hs | ⟨hst, hg, _⟩
    · exact Or.inl (hbt.past hs)
    · rcases hbt.state with he | ho
      · refine Or.inr ⟨he.trans hst, hbt.grants.trans hg, fun f p hp => ?_⟩
        have hout := hbt.outside
        rw [hp] at hout
        cases hout
      · exact Or.inl ho

/-- the operations counted and those that may still be counted are `n` at most; if they are `n` and
all are counted, the run is settled -/
structure Run.Allowed (r : Run) (n : Nat) : Prop where
  stepped : r.Stepped
  bound : r.session.index + r.allowance ≤ n
  settled : r.session.index + r.allowance = n → r.allowance = 0 → r.Settled

theorem Run.Allowed.on_session {n : Nat} {x : Session} (h : r.Allowed n)
    (hx : x.state = r.session.state ∨ x.state = .paused) (hg : x.grants = r.session.grants)
    (hi : x.index = r.session.index) : ({ r with session := x } : Run).Allowed n := by
  have ha : ({ r with session := x } : Run).allowance = r.allowance := by
    unfold Run.allowance
    rw [hg]
  refine ⟨h.stepped.on_session hx, ?_, fun hsum hzero => ?_⟩
  · rw [ha, hi]
    exact h.bound
  · rw [ha, hi] at hsum
    rw [ha] at hzero
    exact (h.settled hsum hzero).on_session hx hg

theorem WorkerStep.allowed {n : Nat} (h : WorkerStep v r reply r' ds) (ha : r.Allowed n) :
    r'.Allowed n := by
  have hbound := ha.bound
  obtain ⟨hs, ⟨hi, hle⟩ | ⟨⟨f, k, hp⟩, hi, hle⟩⟩ := h.stepped ha.stepped
  · refine ⟨hs, by omega, fun hsum hzero => ?_⟩
    exact h.settled (ha.settled (by omega) (by omega))
  · refine ⟨hs, by omega, fun _ hzero => ?_⟩
    have hg : r'.session.grants = 0 := Nat.eq_zero_of_add_eq_zero_right hzero
    rcases hs with hs | ⟨hst | hst, _⟩
    · exact Or.inl hs
    · refine Or.inr (Or.inr ⟨f, k, hp, ?_⟩)
      simp [Session.mustRepause, hst, hg]
    · exact Or.inr (Or.inl hst)

end

namespace System

/-! ## the run -/

/-- the move lets the run go on, pauses it, or begins its next call -/
def Intervenes (i : RunId) (s : System) (m : Move) : Prop :=
  s.Frees i m ∨ s.Accepts m i .pause ∨ m.isCallOf i = true

section
variable {s s' : System} {m : Move} {i : RunId} {r : Run} {n : Nat}

theorem allowed_step (ht : s.Tidy) (hr : s.runs[i]? = some r) (ha : r.Allowed n)
    (hf : ¬ s.Frees i m) (hs : s.step? m = some s') :
    ∃ r', s'.runs[i]? = some r' ∧ r'.Allowed n := by
  obtain ⟨r', ds, hr', _, hc⟩ := runChange hs hr
  refine ⟨r', hr', ?_⟩
  cases hc with
  | still => exact ha
  | worked _ hw => exact hw.allowed ha
  | commanded hm =>
    obtain ⟨hg, hx⟩ := Session.control_held (not_resume_step hr hm hf)
    exact ha.on_session (hx.imp id (·.1)) hg (Session.control_index _ _)
  | swept => exact ha.on_session (Or.inl rfl) rfl rfl
  | launched _ _ hin =>
    -- a run about to be launched is idle
    obtain ⟨hp, hi⟩ := ht.unborn_of_launch hr hin
    rcases ha.stepped with h | ⟨h, _⟩
    · rw [hp] at h
      cases h
    · rw [hi] at h
      rcases h with h | h <;> cases h
  | spawned _ _ hin =>
    have hp := ht.unborn_of_spawn hr hin
    have hall : ({ r with place := .creating } : Run).allowance = r.allowance := by
      show r.session.grants + 0 = r.session.grants + r.place.grant
      rw [hp]
      rfl
    refine ⟨?_, by rw [hall]; exact ha.bound, fun hsum hzero => ?_⟩
    · rcases ha.stepped with h | ⟨h, _⟩
      · rw [hp] at h
        cases h
      · exact Or.inr ⟨h, fun f p he => by cases he⟩
    · rw [hall] at hsum hzero
      rcases ha.settled hsum hzero with h | h | ⟨f, k, h, _⟩
      · rw [hp] at h
        cases h
      · exact Or.inr (Or.inl h)
      · rw [hp] at h
        cases h

theorem twice_step (ht : s.Tidy) (hr : s.runs[i]? = some r) (ha : r.Twice)
    (hn : ¬ s.Intervenes i m) (hs : s.step? m = some s') :
    ∃ r', s'.runs[i]? = some r' ∧ r'.Twice := by
  obtain ⟨r', ds, hr', _, hc⟩ := runChange hs hr
  refine ⟨r', hr', ?_⟩
  cases hc with
  | still => exact ha
  | worked hm hw =>
    refine hw.twice ha fun g args he => hn (Or.inr (Or.inr ?_))
    rw [hm, he]
    simp [Move.isCallOf]
  | commanded hm =>
    obtain ⟨hg, hx⟩ := Session.control_held
      (not_resume_step hr hm fun hf => hn (Or.inl hf))
    rcases ha with h | ⟨hst, hgr, hp⟩
    · exact Or.inl h
    · rcases hx with hx | ⟨_, rfl, shown, happ⟩
      · exact Or.inr ⟨hx.trans hst, hg.trans hgr, hp⟩
      · exact absurd (Or.inr (Or.inl ⟨hm, r, shown, hr, happ⟩)) hn
  | swept => exact ha
  | launched _ _ hin =>
    obtain ⟨hp, hi⟩ := ht.unborn_of_launch hr hin
    rcases ha with h | ⟨h, _⟩
    · rw [hp] at h
      cases h
    · rw [hi] at h
      cases h
  | spawned _ _ hin =>
    have hp := ht.unborn_of_spawn hr hin
    rcases ha with h | ⟨hst, hg, _⟩
    · rw [hp] at h
      cases h
    · exact Or.inr ⟨hst, hg, fun f p he => by cases he⟩

theorem without_frees_of_work {ms : List Move} {j : RunId}
    (h : ∀ m ∈ ms, m.isWorkOf j = true) : s.Without (Frees i) ms := by
  refine Without.of_forall fun m hm t hf => ?_
  have hj := h m hm
  cases m with
  | work k reply => rcases hf with ⟨hp, _⟩ | ⟨hp, _⟩ <;> cases hp
  | _ => cases hj

theorem allowed_play {ms : List Move} (ht : s.Tidy) (hr : s.runs[i]? = some r)
    (ha : r.Allowed n) (hw : s.Without (Frees i) ms) (hp : s.play? ms = some s') :
    ∃ r', s'.runs[i]? = some r' ∧ r'.Allowed n := by
  have h : s.Throughout (fun t => t.Tidy ∧ ∃ r, t.runs[i]? = some r ∧ r.Allowed n) ms := by
    refine Throughout.of_without ?_ ⟨ht, r, hr, ha⟩ hw
    rintro t t' m ⟨ht, r, hr, ha⟩ hf hstep
    exact ⟨ht.step hstep, allowed_step ht hr ha hf hstep⟩
  exact (h.last hp).2

theorem twice_play {ms : List Move} (ht : s.Tidy) (hr : s.runs[i]? = some r)
    (ha : r.Twice) (hw : s.Without (Intervenes i) ms) (hp : s.play? ms = some s') :
    ∃ r', s'.runs[i]? = some r' ∧ r'.Twice := by
  have h : s.Throughout (fun t => t.Tidy ∧ ∃ r, t.runs[i]? = some r ∧ r.Twice) ms := by
    refine Throughout.of_without ?_ ⟨ht, r, hr, ha⟩ hw
    rintro t t' m ⟨ht, r, hr, ha⟩ hf hstep
    exact ⟨ht.step hstep, twice_step ht hr ha hf hstep⟩
  exact (h.last hp).2

/-- a run that has just been granted a step while it was parked in a call -/
theorem allowed_of_step {f : Frame} {k : Resume} {shown : Bool}
    (hp : r.place = .call f (.parked k shown)) :
    ({ r with session := r.session.apply .step } : Run).Allowed
      (r.session.index + 1 + if f.holds then 1 else 0) := by
  have hall : ({ r with session := r.session.apply .step } : Run).allowance
      = 1 + if f.holds then 1 else 0 := by
    show 1 + r.place.grant = _
    rw [hp]
    cases hf : f.holds with
    | true => rw [Place.grant_of_holds hf rfl]; rfl
    | false => rw [Place.grant_of_not_holds hf]; rfl
  refine ⟨Or.inr ⟨Or.inl rfl, fun g q he hq => ?_⟩, ?_, fun _ hzero => ?_⟩
  · have he' : r.place = .call g q := he
    rw [hp] at he'
    cases he'
    cases hq
  · rw [hall, Nat.add_assoc]
    exact Nat.le_refl _
  · rw [hall] at hzero
    omega

/-- **What a Step lets through that is accepted while the worker is parked in a call**, up to the
next accepted Resume or Step.  If the call holds no grant: one operation, after which the session is
paused again.  If it holds one, which it was given before and has kept while it was paused: two, and
that call itself does not pause the session. -/
theorem index_le_of_step {s₁ : System} {ms : List Move} {f : Frame} {k : Resume} {shown : Bool}
    (hs : s.Reachable) (hr : s.runs[i]? = some r) (hp : r.place = .call f (.parked k shown))
    (ha : s.Accepts m i .step) (hm : s.step? m = some s₁) (hw : s₁.Without (Frees i) ms)
    (hplay : s₁.play? ms = some s') :
    ∃ r', s'.runs[i]? = some r' ∧
      (f.holds = false → r'.session.index ≤ r.session.index + 1 ∧
        (r'.session.index = r.session.index + 1 → r'.Settled)) ∧
      (f.holds = true → r'.session.index ≤ r.session.index + 2 ∧
        (r'.session.index = r.session.index + 2 → r'.Settled) ∧
        (s₁.Without (Intervenes i) ms →
          r'.session.state = .stepping ∨ r'.place.isOver = true)) := by
  have ht : s₁.Tidy := (hs.step hm).tidy
  obtain ⟨r₀, hr₀, _, hr₁⟩ := run_of_accepts ha hm
  rw [hr] at hr₀
  cases hr₀
  obtain ⟨r', hr', hall⟩ := allowed_play ht hr₁ (allowed_of_step hp) hw hplay
  have hbound := hall.bound
  refine ⟨r', hr', fun hf => ?_, fun hf => ?_⟩
  · rw [hf] at hall hbound
    have hle : r'.session.index + r'.allowance ≤ r.session.index + 1 := hbound
    refine ⟨by omega, fun he => hall.settled ?_ (by omega)⟩
    show r'.session.index + r'.allowance = r.session.index + 1
    omega
  · rw [hf] at hall hbound
    have hle : r'.session.index + r'.allowance ≤ r.session.index + 1 + 1 := hbound
    refine ⟨by omega, fun he => hall.settled ?_ (by omega), fun hn => ?_⟩
    · show r'.session.index + r'.allowance = r.session.index + 1 + 1
      omega
    · have htwice : ({ r with session := r.session.apply .step } : Run).Twice := by
        refine Or.inr ⟨rfl, rfl, fun g q he => ?_⟩
        have he' : r.place = .call g q := he
        rw [hp] at he'
        cases he'
        exact hf
      obtain ⟨r₂, hr₂, h₂⟩ := twice_play ht hr₁ htwice hn hplay
      rw [hr'] at hr₂
      cases hr₂
      exact h₂.elim Or.inr fun h => Or.inl h.1

/-- a move of the pointer, called while the run is paused -/
theorem index_le_of_step_attended :
    let s := (attended { mode := .interactive }).after
      (.request (.control "s" .pause) :: List.replicate 3 (.proceed 2 .go) ++
        .work 0 (.script (.call .move [.int 1, .int 2])) :: List.replicate 4 (.work 0 .go) ++
        [.request (.control "s" .step), .proceed 3 .go])
    let s₁ := s.after [.proceed 3 .go]
    let s' := s₁.after (List.replicate 4 (.work 0 .go) ++ .work 0 (.device .done) ::
      List.replicate 5 (.work 0 .go))
    s'.indexOf? 0 = some 1 ∧ s'.stateOf? 0 = some .paused ∧
      ∃ r', s'.runs[0]? = some r' ∧ r'.session.index ≤ 0 + 1 ∧
        (r'.session.index = 0 + 1 → r'.Settled) := by
  intro s s₁ s'
  have hs : s.Reachable := (reachable_attended _).after _
  have hrun : (s.runs[0]?).map (fun r => (r.place, r.session.index,
      (r.session.control .step).1)) = some (.call ⟨.move, .input (.move ⟨1, 2⟩), false⟩
        (.parked .opening false), 0, .applied (some .stepping)) := by decide +kernel
  obtain ⟨r, hr, hrp⟩ := Option.map_eq_some_iff.1 hrun
  obtain ⟨hp, hrest⟩ := Prod.mk.inj hrp
  obtain ⟨hi, happ⟩ := Prod.mk.inj hrest
  have ha : s.Accepts (.proceed 3 .go) 0 .step := ⟨by decide +kernel, r, _, hr, happ⟩
  have hm : s.step? (.proceed 3 .go) = some s₁ := step?_after (by decide +kernel)
  have hplay : s₁.play? (List.replicate 4 (.work 0 .go) ++ .work 0 (.device .done) ::
      List.replicate 5 (.work 0 .go)) = some s' := play?_after (by decide +kernel)
  obtain ⟨r', hr', h, _⟩ := index_le_of_step hs hr hp ha hm
    (without_frees_of_work (j := 0) (by decide)) hplay
  rw [hi] at h
  exact ⟨by decide +kernel, by decide +kernel, r', hr', h rfl⟩

/-- an interactive run whose worker is parked in a wait that holds a grant: the wait was begun with
a Step, then came Resume and Pause -/
def dozing : System :=
  (attended { mode := .interactive }).after
    (.request (.control "s" .pause) :: List.replicate 3 (.proceed 2 .go) ++
      .work 0 (.script (.call .msleep [.int 40])) :: List.replicate 4 (.work 0 .go) ++
      .request (.control "s" .step) :: List.replicate 3 (.proceed 3 .go) ++
      List.replicate 3 (.work 0 .go) ++
      .request (.control "s" .resume) :: List.replicate 3 (.proceed 4 .go) ++
      .request (.control "s" .pause) :: List.replicate 3 (.proceed 5 .go) ++
      .work 0 (.device .done) :: List.replicate 4 (.work 0 .go) ++
      [.request (.control "s" .step), .proceed 6 .go])

/-- **One Step may let two operations through.**  Nothing but the worker moves after it. -/
theorem not_index_le_succ_of_step :
    ¬ ∀ (s s₁ s' : System) (i : RunId) (m : Move) (ms : List Move) (r : Run) (f : Frame)
        (k : Resume) (shown : Bool), s.Reachable → s.runs[i]? = some r →
      r.place = .call f (.parked k shown) → s.Accepts m i .step → s.step? m = some s₁ →
      (∀ m ∈ ms, m.isWorkOf i = true) → s₁.play? ms = some s' →
      ∃ r', s'.runs[i]? = some r' ∧ r'.session.index ≤ r.session.index + 1 := by
  intro h
  let s₁ := dozing.after [.proceed 6 .go]
  let ms : List Move := List.replicate 2 (.work 0 .go) ++ .work 0 (.device .done) ::
    List.replicate 9 (.work 0 .go) ++ .work 0 (.script (.call .move [.int 1, .int 2])) ::
    List.replicate 7 (.work 0 .go) ++ .work 0 (.device .done) :: List.replicate 2 (.work 0 .go)
  let s' := s₁.after ms
  have hrun : (dozing.runs[0]?).map (fun r => (r.place, r.session.index,
      (r.session.control .step).1)) = some (.call ⟨.msleep, .sleep (.ofMillis 40), true⟩
        (.parked (.between (.ofMillis 20)) false), 0, .applied (some .stepping)) := by
    decide +kernel
  obtain ⟨r, hr, hrp⟩ := Option.map_eq_some_iff.1 hrun
  obtain ⟨hp, hrest⟩ := Prod.mk.inj hrp
  obtain ⟨hi, happ⟩ := Prod.mk.inj hrest
  have ha : dozing.Accepts (.proceed 6 .go) 0 .step := ⟨by decide +kernel, r, _, hr, happ⟩
  have hm : dozing.step? (.proceed 6 .go) = some s₁ := step?_after (by decide +kernel)
  have hplay : s₁.play? ms = some s' := play?_after (by decide +kernel)
  obtain ⟨r', hr', hle⟩ := h dozing s₁ s' 0 (.proceed 6 .go) ms r _ _ _
    ((reachable_attended _).after _) hr hp ha hm (by decide) hplay
  have htwo : s'.indexOf? 0 = some 2 := by decide +kernel
  rw [indexOf?, hr', Option.map_some] at htwo
  have hindex : r'.session.index = 2 := Option.some.inj htwo
  omega

end

end System

end ScriptGuard
