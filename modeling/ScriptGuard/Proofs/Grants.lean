import ScriptGuard.Proofs.Autonomy
import ScriptGuard.Proofs.Availability
import ScriptGuard.Proofs.Lifecycle
import ScriptGuard.Proofs.Stepping

/-!
# The grants of a run

A session has one grant at most, and none unless it is stepping.  The commands, the gate and the end
of an operation all write it, in any order.

* `Session.Metered`      the invariant of a session;
* `Stride.takes`         the strides in which a worker passes the gate with a grant that it did not
                         hold before;
* `System.GateStride`    what becomes of a worker at the gate: it stays, or it is let through, or it
                         is sent back with what stands in the slot;
* `System.Metering`      a history of which all this holds: no more grants are taken than Steps are
                         accepted;
* `metering_of_play`     every history is such a one.
-/

namespace ScriptGuard

/-! ## sessions -/

namespace Session

/-- one grant at most, and none unless the session is stepping; when the run is over, what is left
of it does not matter -/
structure Metered (x : Session) : Prop where
  bound : x.grants ≤ 1
  zero : x.state.isTerminal = false → x.state ≠ .stepping → x.grants = 0

section
variable {x y : Session} {killed : Option String} {holds paused : Bool} {now : Nat}
  {verdict : GateVerdict}

theorem Metered.same (h : x.Metered) (hs : y.state = x.state) (hg : y.grants = x.grants) :
    y.Metered where
  bound := by rw [hg]; exact h.bound
  zero := by rw [hs, hg]; exact h.zero

theorem Metered.of_none (h : x.grants = 0) : x.Metered := ⟨by omega, fun _ _ => h⟩

theorem Metered.repause (h : x.Metered) : x.repause.Metered := by
  cases hm : x.mustRepause with
  | false =>
    rw [repause_eq_self _ hm]
    exact h
  | true =>
    obtain ⟨_, hg⟩ : x.state = .stepping ∧ x.grants = 0 := by simpa [mustRepause] using hm
    exact .of_none ((repause_grants x).trans hg)

theorem Metered.finish (h : x.Metered) {next : RunState} (ht : next.isTerminal = true) :
    (x.settle next).Metered := by
  unfold settle
  split
  · refine ⟨h.bound, fun hn => ?_⟩
    rw [ht] at hn
    cases hn
  · exact h

theorem Metered.gate (h : x.Metered) (hg : x.GateMove killed holds now verdict paused y) :
    y.Metered := by
  cases hg with
  | aborts => cases killed <;> exact h.same rfl rfl
  | keeps => exact h.same rfl rfl
  | takes _ _ hs =>
    exact ⟨Nat.le_trans (Nat.sub_le _ _) h.bound, fun _ hn => absurd hs hn⟩
  | pauses _ _ _ _ hg => exact .of_none hg
  | parks => exact h.same rfl rfl
  | passes => exact h.same rfl rfl

theorem Metered.control (h : x.Metered) (c : Command) : (x.control c).2.Metered := by
  rcases control_cases x c with ⟨he, _⟩ | ⟨he, hav, _⟩
  · rw [he]
    exact h
  · rw [he]
    cases c with
    | pause =>
      have hav := (Bool.and_eq_true _ _ ▸ hav).2
      have hs : x.state = .running := by simpa using hav
      exact .of_none (h.zero (by rw [hs]; rfl) (by rw [hs]; nofun))
    | resume => exact .of_none rfl
    | step => exact ⟨Nat.le_refl 1, fun _ hn => absurd rfl hn⟩
    | stop => exact h.same rfl rfl
    | terminate => exact h.same rfl rfl

theorem control_grants (x : Session) (c : Command) : (x.control c).2.grants ≤ x.grants ∨
    c = .step ∧ (x.control c).2.grants = 1 ∧ ∃ shown, (x.control c).1 = .applied shown := by
  rcases control_cases x c with ⟨he, _⟩ | ⟨he, _⟩
  · rw [he]
    exact Or.inl (Nat.le_refl _)
  · rw [he]
    cases c with
    | step => exact Or.inr ⟨rfl, rfl, _, rfl⟩
    | resume => exact Or.inl (Nat.zero_le _)
    | _ => exact Or.inl (Nat.le_refl _)

theorem GateMove.grants_le (hg : x.GateMove killed holds now verdict paused y) :
    y.grants ≤ x.grants := by
  cases hg with
  | aborts => cases killed <;> exact Nat.le_refl _
  | takes => exact Nat.sub_le _ _
  | _ => exact Nat.le_refl _

/-- an operation that comes away from the gate with a grant it did not hold has taken one -/
theorem GateMove.grants_of_taken (hg : x.GateMove killed holds now (.passed true) paused y)
    (hh : holds = false) : y.grants + 1 = x.grants := by
  subst hh
  cases hg with
  | keeps _ _ _ hh => cases hh
  | takes _ _ _ _ hg => exact Nat.sub_add_cancel hg

end

end Session

/-! ## workers -/

def CallPoint.isGate : CallPoint → Bool
  | .gate _ _ | .parked _ _ => true
  | _ => false

section
variable {v : View} {r r' : Run} {f g : Frame} {p q : CallPoint} {reply : Reply} {ds : List Deed}

theorem Run.passed_passed (settings : Settings) (k : Resume) :
    (r.passed settings f k).passed = true := by
  cases k <;> rfl

theorem WorkerStep.metered (h : WorkerStep v r reply r' ds) (hm : r.session.Metered) :
    r'.session.Metered := by
  cases h with
  | call _ h =>
    cases h with
    | atGate _ h =>
      obtain ⟨_, _, hg⟩ := h.gateMove
      exact hm.gate hg
    | repauses => exact hm.repause
    | raises => exact hm.same rfl rfl
    | countsHeld => exact hm.same rfl rfl
    | counts => exact hm.same rfl rfl
    | _ => exact hm
  | pollRaises => exact hm.same rfl rfl
  | @settles o => exact hm.finish o.isTerminal_state
  | _ => exact hm

theorem WorkerStep.grants_le (h : WorkerStep v r reply r' ds) :
    r'.session.grants ≤ r.session.grants := by
  cases h with
  | call _ h =>
    cases h with
    | atGate _ h =>
      obtain ⟨_, _, hg⟩ := h.gateMove
      exact hg.grants_le
    | repauses => exact Nat.le_of_eq (Session.repause_grants _)
    | _ => exact Nat.le_refl _
  | settles => exact Nat.le_of_eq (Session.settle_grants _ _)
  | _ => exact Nat.le_refl _

/-- the grants that a call under way holds come from the session -/
theorem WorkerStep.grants_of_taken (h : WorkerStep v r reply r' ds) (hp : r.place = .call f p)
    (hq : r'.place = .call g q) (hf : f.holds = false) (hg : g.holds = true) :
    r'.session.grants + 1 = r.session.grants := by
  have hne : f ≠ g := by
    rintro rfl
    rw [hf] at hg
    cases hg
  have hsame {q' : CallPoint} (he : Place.call f q' = .call g q) : False := by
    cases he
    exact hne rfl
  rcases h.inCall_or with ⟨f', p', hp', h⟩ | hc
  · rw [hp] at hp'
    cases hp'
    cases h with
    | atGate _ h =>
      cases h with
      | passes hm =>
        cases hq
        obtain rfl : _ = true := hg
        exact hm.grants_of_taken hf
      | passesShown hm =>
        cases hq
        obtain rfl : _ = true := hg
        exact hm.grants_of_taken hf
      | parks => exact (hsame hq).elim
      | aborts => cases hq
      | abortsShown => exact (hsame hq).elim
    | slotSet | announcedStop | sliceBroke | inputBroke | progress | repaused | raises => cases hq
    | _ => exact (hsame hq).elim
  · rw [hp] at hc
    cases hc

end

theorem RunChange.metered {s : System} {m : Move} {i : RunId} {r r' : Run} {ds : List Deed}
    (ht : s.Tidy) (hr : s.runs[i]? = some r) (h : RunChange s m i r r' ds)
    (hm : r.session.Metered) : r'.session.Metered := by
  cases h with
  | still => exact hm
  | worked _ hw => exact hw.metered hm
  | commanded => exact hm.control _
  | swept => exact hm.same rfl rfl
  | launched _ _ hin =>
    obtain ⟨_, hi⟩ := ht.unborn_of_launch hr hin
    have hg : r.session.grants = 0 := hm.zero (by rw [hi]; rfl) (by rw [hi]; nofun)
    exact .of_none ((Session.settle_grants _ _).trans hg)
  | spawned => exact hm

/-- in this stride the worker of the run passes the gate with a grant that it did not hold before -/
def Stride.takes (i : RunId) (x : Stride) : Bool :=
  match x.before.placeOf? i, x.after.placeOf? i with
  | some (.call f p), some (.call g q) => p.isGate && q.passed && !f.holds && g.holds
  | _, _ => false

namespace System

section
variable {s s₁ s' : System} {m : Move} {ms : List Move} {i : RunId} {r r' : Run} {f : Frame}
  {p : CallPoint} {ds : List Deed}

theorem Reachable.metered (hs : s.Reachable) (hr : s.runs[i]? = some r) : r.session.Metered :=
  hs.every_run (P := fun r _ => r.session.Metered) (fun _ _ _ _ => .of_none rfl)
    (fun hs hr hc hm => hc.metered hs.tidy hr hm) hr

/-! ## grants taken and given -/

instance (s : System) (m : Move) (i : RunId) (c : Command) : Decidable (s.Accepts m i c) :=
  decidable_of_iff
    (s.puts? m = some (i, c) ∧ (s.runs[i]?).any (fun r => r.session.accepts c) = true) <| by
    refine and_congr_right fun _ => ?_
    rw [Option.any_eq_true]
    refine exists_congr fun r => ?_
    rw [exists_and_left, Session.control_accepts]

def grants (s : System) (i : RunId) : Nat := ((s.runs[i]?).map (·.session.grants)).getD 0

theorem grants_of_run (hr : s.runs[i]? = some r) : s.grants i = r.session.grants := by
  rw [grants, hr, Option.map_some, Option.getD_some]

theorem takes_grants (h : s.step? m = some s') (ht : Stride.takes i ⟨s, m, s'⟩ = true) :
    s'.grants i + 1 = s.grants i := by
  unfold Stride.takes at ht
  split at ht
  · next f p g q hp hq =>
    obtain ⟨r, hr, hp⟩ := Option.map_eq_some_iff.1 hp
    obtain ⟨r', hr', hq⟩ := Option.map_eq_some_iff.1 hq
    simp only [Bool.and_eq_true, Bool.not_eq_true'] at ht
    obtain ⟨⟨⟨_, _⟩, hf⟩, hg⟩ := ht
    rw [grants_of_run hr, grants_of_run hr']
    obtain ⟨r₁, ds, hr₁, _, hc⟩ := runChange h hr
    rw [hr'] at hr₁
    cases hr₁
    -- the frame has changed, and only the worker changes it
    have hne : r'.place ≠ r.place := by
      rw [hp, hq]
      rintro ⟨⟩
      rw [hf] at hg
      cases hg
    cases hc with
    | worked _ hw => exact hw.grants_of_taken hp hq hf hg
    | spawned => cases hq
    | _ => exact absurd rfl hne
  · cases ht

theorem grants_le (h : s.step? m = some s') :
    s'.grants i ≤ s.grants i + if s.Accepts m i .step then 1 else 0 := by
  cases hr : s.runs[i]? with
  | none =>
    obtain ⟨_, hn | ⟨_, _, _, hn⟩⟩ := newRun h hr
    · simp [grants, hn]
    · simp [grants, hn, enrolled]
  | some r =>
    obtain ⟨r', ds, hr', _, hc⟩ := runChange h hr
    rw [grants_of_run hr, grants_of_run hr']
    have hle (hle : r'.session.grants ≤ r.session.grants) :
        r'.session.grants ≤ r.session.grants + if s.Accepts m i .step then 1 else 0 :=
      Nat.le_add_right_of_le hle
    cases hc with
    | still => exact hle (Nat.le_refl _)
    | worked _ hw => exact hle hw.grants_le
    | @commanded c hm =>
      rcases r.session.control_grants c with hc | ⟨rfl, hc, happlied⟩
      · exact hle hc
      · have ha : s.Accepts m i .step := ⟨hm, r, _, hr, happlied.choose_spec⟩
        rw [if_pos ha]
        exact Nat.le_trans (Nat.le_of_eq hc) (Nat.le_add_left 1 _)
    | swept => exact hle (Nat.le_refl _)
    | launched => exact hle (Nat.le_of_eq (Session.settle_grants _ _))
    | spawned => exact hle (Nat.le_refl _)

/-- the grants taken and the grants left are not more than the Steps accepted -/
theorem taken_add_grants_le (h : s.play? ms = some s') (hs : s.grants i = 0) :
    (s.trace ms).countP (Stride.takes i) + s'.grants i ≤
      (s.trace ms).countP fun x => x.before.Accepts x.move i .step := by
  refine trace_induction (P := fun past t => past.countP (Stride.takes i) + t.grants i ≤
    past.countP fun x => x.before.Accepts x.move i .step) ?_ ?_ h
  · intro past t t' m hP hstep
    have hle : (if Stride.takes i ⟨t, m, t'⟩ = true then 1 else 0) + t'.grants i ≤
        t.grants i + if t.Accepts m i .step then 1 else 0 := by
      by_cases ht : Stride.takes i ⟨t, m, t'⟩ = true
      · rw [if_pos ht, Nat.add_comm, takes_grants hstep ht]
        exact Nat.le_add_right _ _
      · rw [if_neg ht, Nat.zero_add]
        exact grants_le hstep
    rw [List.countP_append, List.countP_append, List.countP_singleton, List.countP_singleton]
    simp only [decide_eq_true_eq]
    omega
  · simp [hs]

/-! ## at the gate -/

/-- what becomes of a worker at the gate in one move -/
inductive GateStride (s s' : System) (i : RunId) (f : Frame) : Prop
  /-- it parks, or it was not its turn -/
  | stays {p : CallPoint} (hp : s'.placeOf? i = some (.call f p)) (hg : p.isGate = true)
  /-- it is let through -/
  | passes {r : Run} {g : Frame} {p : CallPoint} (hp : s'.placeOf? i = some (.call g p))
    (hg : p.passed = true) (hk : s.killSwitch.active = false) (hr : s.runs[i]? = some r)
    (ha : r.session.abort = none)
    (hs : r.session.state = .running ∨ r.session.state = .stepping ∧ g.holds = true)
  /-- it is sent back -/
  | unwinds {a : AbortReason} (hp : s'.placeOf? i = some .script)
    (hd : s'.replies i = (f.function, .error (.abort a)) :: s.replies i) (ha : s'.slot? i = some a)
  /-- it is sent back once it has published that it had paused the run -/
  | announces {a : AbortReason} {k : Resume}
    (hp : s'.placeOf? i = some (.call f (.announce k (some a)))) (ha : s'.slot? i = some a)

theorem view_killed_eq_none (h : s.view.killed = none) : s.killSwitch.active = false := by
  cases ha : s.killSwitch.active with
  | false => rfl
  | true => exact absurd h (killed_ne_none ha)

theorem Reachable.state_at_gate (hs : s.Reachable) (hr : s.runs[i]? = some r)
    (hp : r.place = .call f p) (hns : r.session.state ≠ .stepping)
    (hnp : r.session.state ≠ .paused) : r.session.state = .running := by
  have ha := (hs.orderly.fits i r hr).isActive (by rw [hp]; rfl) (by rw [hp]; nofun)
  cases hst : r.session.state <;> simp_all [RunState.isActive]

theorem Reachable.gate_passes {held paused : Bool} {x : Session} {q : CallPoint}
    (hs : s.Reachable) (hr : s.runs[i]? = some r) (hp : r.place = .call f p)
    (hm : r.session.GateMove s.view.killed f.holds s.view.now (.passed held) paused x)
    (hr' : s'.runs[i]? = some { r with session := x, place := .call { f with holds := held } q })
    (hq : q.passed = true) : s.GateStride s' i f := by
  obtain ⟨ha, hk, hnp⟩ := hm.clear_of_passed
  refine .passes (placeOf?_of_run hr') hq (view_killed_eq_none hk) hr ha ?_
  cases hm with
  | keeps _ _ hst => exact Or.inr ⟨hst, rfl⟩
  | takes _ _ hst => exact Or.inr ⟨hst, rfl⟩
  | passes _ _ hns => exact Or.inl (hs.state_at_gate hr hp hns hnp)

/-- **A worker at the gate stays, or it is let through, or it is sent back.** -/
theorem Reachable.gateStride (hs : s.Reachable) (h : s.step? m = some s')
    (hp : s.placeOf? i = some (.call f p)) (hg : p.isGate = true) : s.GateStride s' i f := by
  obtain ⟨r, hr, hp⟩ := Option.map_eq_some_iff.1 hp
  rcases worked_or h hr with ⟨reply, r', ds, _, hr', hd, hw⟩ | ⟨hm, r', hr', _, hc⟩
  · rcases hw.inCall_or with ⟨f', p', hp', hw⟩ | hc
    · rw [hp] at hp'
      cases hp'
      cases hw with
      | atGate hat hw =>
        cases hw with
        | parks => exact .stays (placeOf?_of_run hr') rfl
        | passes hm => exact hs.gate_passes hr hp hm hr' (Run.passed_passed _ _)
        | passesShown hm => exact hs.gate_passes hr hp hm hr' rfl
        | aborts hm =>
          refine .unwinds (placeOf?_of_run hr') ?_ ((slot?_of_run hr').trans hm.abort_of_aborted)
          rw [replies, hd]
          rfl
        | abortsShown hm =>
          exact .announces (placeOf?_of_run hr') ((slot?_of_run hr').trans hm.abort_of_aborted)
      | _ => cases hg
    · rw [hp] at hc
      cases hc
  · obtain ⟨hplace | ⟨hu, _⟩, _⟩ := hc.unmoved hs.tidy hr hm
    · exact .stays ((placeOf?_of_run hr').trans (by rw [hplace, hp])) hg
    · rw [hp] at hu
      cases hu

theorem Reachable.announced {a : AbortReason} {k : Resume} (hs : s.Reachable)
    (h : s.step? m = some s') (hp : s.placeOf? i = some (.call f (.announce k (some a)))) :
    s'.placeOf? i = s.placeOf? i ∨ s'.placeOf? i = some .script ∧
      s'.replies i = (f.function, .error (.abort a)) :: s.replies i := by
  rw [hp]
  obtain ⟨r, hr, hp⟩ := Option.map_eq_some_iff.1 hp
  rcases worked_or h hr with ⟨reply, r', ds, _, hr', hd, hw⟩ | ⟨hm, r', hr', _, hc⟩
  · rcases hw.inCall_or with ⟨f', p', hp', hw⟩ | hc
    · rw [hp] at hp'
      cases hp'
      cases hw with
      | atGate hat => rcases hat with hat | hat <;> cases hat
      | announcedStop =>
        refine Or.inr ⟨placeOf?_of_run hr', ?_⟩
        rw [replies, hd]
        rfl
    · rw [hp] at hc
      cases hc
  · obtain ⟨hplace | ⟨hu, _⟩, _⟩ := hc.unmoved hs.tidy hr hm
    · exact Or.inl ((placeOf?_of_run hr').trans (by rw [hplace, hp]))
    · rw [hp] at hu
      cases hu

/-! ## histories -/

/-- the grants of run `i` in the moves `ms` from `s` to `s'` -/
structure Metering (s : System) (ms : List Move) (s' : System) (i : RunId) : Prop where
  /-- one grant at most, and none unless the run is stepping, as long as it is not over -/
  budget : ∀ r, s'.runs[i]? = some r → r.place.isOver = false →
    r.session.grants ≤ 1 ∧ (r.session.state ≠ .stepping → r.session.grants = 0)
  /-- a grant that is taken at the gate was given by a Step -/
  taken : (s.trace ms).countP (Stride.takes i) ≤
    (s.trace ms).countP fun x => x.before.Accepts x.move i .step
  gate : ∀ x ∈ s.trace ms, ∀ f p, x.before.placeOf? i = some (.call f p) → p.isGate = true →
    x.before.GateStride x.after i f
  announced : ∀ x ∈ s.trace ms, ∀ f k a,
    x.before.placeOf? i = some (.call f (.announce k (some a))) →
    x.after.placeOf? i = x.before.placeOf? i ∨ x.after.placeOf? i = some .script ∧
      x.after.replies i = (f.function, .error (.abort a)) :: x.before.replies i

/-- **No more grants are taken than Steps are accepted**, and the gate lets through nobody whom a
pause, an abort or the kill switch holds back. -/
theorem metering_of_play {settings : Settings} {approvals : Approvals}
    (h : (fresh settings approvals).play? ms = some s) :
    (fresh settings approvals).Metering ms s i where
  budget r hr ho := by
    have hs : s.Reachable := ⟨settings, approvals, ms, h⟩
    have hm := hs.metered hr
    refine ⟨hm.bound, hm.zero ?_⟩
    rw [Bool.eq_false_iff]
    intro ht
    have hx := (hs.orderly.fits i r hr).isSome_result? ht
    cases hp : r.place <;> simp_all [Place.result?, Place.isOver]
  taken := Nat.le_trans (Nat.le_add_right _ _) (taken_add_grants_le h rfl)
  gate x hx f p hp hg :=
    (Reachable.of_mem_trace ⟨settings, approvals, [], rfl⟩ hx).gateStride (step?_of_mem_trace hx)
      hp hg
  announced x hx f k a hp :=
    (Reachable.of_mem_trace ⟨settings, approvals, [], rfl⟩ hx).announced (step?_of_mem_trace hx) hp

/-- a paused call is let through by a Step and uses the grant -/
theorem metering_of_play_stepped :
    let start := fresh { limits := ⟨none, none⟩ } {}
    let ms : List Move := Move.request (.start ⟨"s", "s", ""⟩ { mode := .interactive }) ::
      .proceed 0 .go :: .proceed 0 (.provision (.ok ())) :: List.replicate 5 (.proceed 0 .go) ++
      List.replicate 11 (Move.work 0 (.stage .ready)) ++
      Move.request (.control "s" .pause) :: List.replicate 3 (.proceed 1 .go) ++
      Move.work 0 (.script (.call .move [.int 1, .int 2])) :: List.replicate 4 (.work 0 .go) ++
      Move.request (.control "s" .step) :: List.replicate 3 (.proceed 2 .go) ++ [Move.work 0 .go]
    (start.trace ms).countP (Stride.takes 0) = 1 ∧ start.Metering ms (start.after ms) 0 := by
  intro start ms
  exact ⟨by decide +kernel, metering_of_play (play?_after (by decide +kernel))⟩

end

end System

end ScriptGuard
