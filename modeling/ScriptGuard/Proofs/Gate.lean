import ScriptGuard.Session

/-!
# The sections of a session, read off their results

Every way in which a section under the lock of a session can change it.

* `AbortReason.Upgrade a b`   what a slot that holds `a` may hold later: `a` itself or a reason of
                              higher priority;
* `Session.GateMove`          the moves a worker can make at the pause gate, one constructor for
                              each, and `Session.gateMove`: the gate makes one of them;
* `Session.control_cases`     a command changes nothing, or it was available and is applied.

A gate is passed only with an empty slot and the kill switch off (`GateMove.clear_of_passed`); a
grant is used only in a session that is stepping (`GateMove.takes`).
-/

namespace ScriptGuard

/-! ## abort slots -/

namespace AbortReason

/-- a slot that holds `a` may come to hold `b` -/
def Upgrade (a b : AbortReason) : Prop := b = a ∨ a.priority < b.priority

theorem Upgrade.refl (a : AbortReason) : Upgrade a a := Or.inl rfl

theorem Upgrade.trans {a b c : AbortReason} (h : Upgrade a b) (h' : Upgrade b c) :
    Upgrade a c := by
  rcases h with rfl | h
  · exact h'
  · rcases h' with rfl | h'
    · exact Or.inr h
    · exact Or.inr (Nat.lt_trans h h')

theorem isSome_of_upgrade {slot slot' : Option AbortReason}
    (h : ∀ a, slot = some a → ∃ b, slot' = some b ∧ Upgrade a b) (hs : slot.isSome = true) :
    slot'.isSome = true := by
  obtain ⟨a, ha⟩ := Option.isSome_iff_exists.1 hs
  obtain ⟨b, hb, _⟩ := h a ha
  exact Option.isSome_iff_exists.2 ⟨b, hb⟩

theorem upgrade_merge (a b : AbortReason) : Upgrade a (merge (some a) b) := by
  rw [merge_some]
  by_cases h : a.priority < b.priority
  · rw [if_pos h]; exact Or.inr h
  · rw [if_neg h]; exact Upgrade.refl a

end AbortReason

namespace Session

/-! ## what the small sections leave alone -/

section
variable (s : Session) (reason : AbortReason) (next : RunState)

@[simp] theorem request_abort :
    (s.request reason).abort = some (AbortReason.merge s.abort reason) := rfl

theorem handIn_eq : s.handIn reason = (AbortReason.merge s.abort reason, s.request reason) := by
  obtain ⟨script, options, total, started, state, grants, slot, index, parked, since⟩ := s
  cases slot with
  | none => rfl
  | some old =>
    by_cases h : old.priority < reason.priority
    · simp [handIn, request, AbortReason.merge_some, h]
    · simp [handIn, request, AbortReason.merge_some, h]

/-- who hands a reason in is told what the slot then holds: it is never empty -/
theorem handIn_abort : (s.handIn reason).2.abort = some (s.handIn reason).1 := by
  rw [handIn_eq, request_abort]

@[simp] theorem repause_abort : s.repause.abort = s.abort := by unfold repause; split <;> rfl
@[simp] theorem repause_grants : s.repause.grants = s.grants := by unfold repause; split <;> rfl
@[simp] theorem repause_index : s.repause.index = s.index := by unfold repause; split <;> rfl
@[simp] theorem repause_options : s.repause.options = s.options := by
  unfold repause; split <;> rfl
@[simp] theorem repause_script : s.repause.script = s.script := by
  unfold repause; split <;> rfl

@[simp] theorem settle_abort : (s.settle next).abort = s.abort := by unfold settle; split <;> rfl
@[simp] theorem settle_grants : (s.settle next).grants = s.grants := by
  unfold settle; split <;> rfl
@[simp] theorem settle_index : (s.settle next).index = s.index := by unfold settle; split <;> rfl
@[simp] theorem settle_options : (s.settle next).options = s.options := by
  unfold settle; split <;> rfl
@[simp] theorem settle_script : (s.settle next).script = s.script := by
  unfold settle; split <;> rfl

/-- the last grant was used: the operation that used it pauses the session -/
theorem repause_state (h : s.state = .stepping) (hg : s.grants = 0) :
    s.repause.state = .paused := by
  have hm : s.mustRepause = true := by simp [mustRepause, h, hg]
  simp [repause, hm]

theorem repause_eq_self (h : s.mustRepause = false) : s.repause = s := by
  simp [repause, h]

end

/-! ## the pause gate -/

/-- the moves of a worker at the pause gate: the verdict, whether the session was paused here, and
the session afterwards -/
inductive GateMove (s : Session) (killed : Option String) (holds : Bool) (now : Nat) :
    GateVerdict → Bool → Session → Prop
  /-- the slot is set, by now at the latest -/
  | aborts {a : AbortReason} (ha : ((s.wake now).heedSwitch killed).abort = some a) :
      GateMove s killed holds now (.aborted a) false ((s.wake now).heedSwitch killed)
  /-- the operation goes on with the grant it has -/
  | keeps (ha : s.abort = none) (hk : killed = none) (hs : s.state = .stepping)
      (hh : holds = true) : GateMove s killed holds now (.passed true) false (s.wake now)
  /-- the operation takes a grant -/
  | takes (ha : s.abort = none) (hk : killed = none) (hs : s.state = .stepping)
      (hh : holds = false) (hg : 0 < s.grants) :
      GateMove s killed holds now (.passed true) false { s.wake now with grants := s.grants - 1 }
  /-- no grant is left -/
  | pauses (ha : s.abort = none) (hk : killed = none) (hs : s.state = .stepping)
      (hh : holds = false) (hg : s.grants = 0) :
      GateMove s killed holds now .parked true
        { s.wake now with state := .paused, parkedSince := some now }
  | parks (ha : s.abort = none) (hk : killed = none) (hs : s.state = .paused) :
      GateMove s killed holds now .parked false { s.wake now with parkedSince := some now }
  /-- nobody holds the session up -/
  | passes (ha : s.abort = none) (hk : killed = none) (hs : s.state ≠ .stepping)
      (hp : s.state ≠ .paused) : GateMove s killed holds now (.passed holds) false (s.wake now)

theorem gateMove (s : Session) (killed : Option String) (holds : Bool) (now : Nat) :
    GateMove s killed holds now (s.gate killed holds now).1 (s.gate killed holds now).2.1
      (s.gate killed holds now).2.2 := by
  unfold gate
  cases ha : ((s.wake now).heedSwitch killed).abort with
  | some a => simpa only [ha] using GateMove.aborts ha
  | none =>
    cases killed with
    | some reason => simp [heedSwitch] at ha
    | none =>
      have hn : s.abort = none := ha
      obtain ⟨script, options, total, started, state, grants, abort, index, parked, since⟩ := s
      cases hn
      cases state with
      | stepping =>
        cases holds with
        | true => exact .keeps rfl rfl rfl rfl
        | false =>
          cases grants with
          | zero => exact .pauses rfl rfl rfl rfl rfl
          | succ n => exact .takes rfl rfl rfl rfl (Nat.succ_pos n)
      | paused => exact .parks rfl rfl rfl
      | idle => exact .passes rfl rfl (by simp) (by simp)
      | running => exact .passes rfl rfl (by simp) (by simp)
      | completed => exact .passes rfl rfl (by simp) (by simp)
      | failed => exact .passes rfl rfl (by simp) (by simp)
      | terminated => exact .passes rfl rfl (by simp) (by simp)

section
variable {s s' : Session} {killed : Option String} {holds paused : Bool} {now : Nat}
  {verdict : GateVerdict}

theorem GateMove.index_eq (h : GateMove s killed holds now verdict paused s') :
    s'.index = s.index := by
  cases h with
  | aborts => cases killed <;> rfl
  | _ => rfl

theorem GateMove.options_eq (h : GateMove s killed holds now verdict paused s') :
    s'.options = s.options := by
  cases h with
  | aborts => cases killed <;> rfl
  | _ => rfl

theorem GateMove.script_eq (h : GateMove s killed holds now verdict paused s') :
    s'.script = s.script := by
  cases h with
  | aborts => cases killed <;> rfl
  | _ => rfl

/-- the gate is passed with an empty slot, the kill switch off and nobody who holds the session -/
theorem GateMove.clear_of_passed {held : Bool}
    (h : GateMove s killed holds now (.passed held) paused s') :
    s.abort = none ∧ killed = none ∧ s.state ≠ .paused := by
  cases h with
  | keeps ha hk hs => exact ⟨ha, hk, by simp [hs]⟩
  | takes ha hk hs => exact ⟨ha, hk, by simp [hs]⟩
  | passes ha hk _ hp => exact ⟨ha, hk, hp⟩

theorem GateMove.paused_of_paused (h : GateMove s killed holds now verdict paused s')
    (hs : s.state = .paused) : s'.state = .paused := by
  cases h with
  | aborts => cases killed <;> exact hs
  | keeps _ _ hs' => simp [hs] at hs'
  | takes _ _ hs' => simp [hs] at hs'
  | pauses => rfl
  | parks => exact hs
  | passes _ _ _ hp => exact absurd hs hp

theorem GateMove.held_up (h : GateMove s killed holds now verdict paused s')
    (hs : s.state = .stepping ∨ s.state = .paused) :
    s'.state = .stepping ∨ s'.state = .paused := by
  cases h with
  | aborts => cases killed <;> exact hs
  | pauses => exact Or.inr rfl
  | _ => exact hs

/-- who passes the gate of a session that is held up has taken a grant, now or before -/
theorem GateMove.grants_of_passed {held : Bool}
    (h : GateMove s killed holds now (.passed held) paused s')
    (hs : s.state = .stepping ∨ s.state = .paused) :
    held = true ∧ s'.grants + 1 = s.grants + if holds then 1 else 0 := by
  cases h with
  | keeps _ _ _ hh =>
    rw [hh]
    exact ⟨rfl, rfl⟩
  | takes _ _ _ hh hg =>
    rw [hh]
    exact ⟨rfl, Nat.sub_add_cancel hg⟩
  | passes _ _ hn hp => exact (hs.elim hn hp).elim

theorem GateMove.grants_eq (h : GateMove s killed holds now verdict paused s')
    (hv : ∀ held, verdict ≠ .passed held) : s'.grants = s.grants := by
  cases h with
  | aborts => cases killed <;> rfl
  | keeps => exact absurd rfl (hv _)
  | takes => exact absurd rfl (hv _)
  | passes => exact absurd rfl (hv _)
  | _ => rfl

/-- an operation that has its grant leaves a stepping session as it is -/
theorem GateMove.of_grant (h : GateMove s killed holds now verdict paused s')
    (hs : s.state = .stepping) (hh : holds = true) :
    s'.state = .stepping ∧ s'.grants = s.grants ∧ ∀ held, verdict = .passed held → held = true := by
  cases h with
  | aborts => cases killed <;> exact ⟨hs, rfl, fun _ he => by cases he⟩
  | keeps => exact ⟨hs, rfl, fun _ he => by cases he; rfl⟩
  | takes _ _ _ hn => rw [hh] at hn; cases hn
  | pauses _ _ _ hn => rw [hh] at hn; cases hn
  | parks _ _ hp => rw [hs] at hp; cases hp
  | passes _ _ hn => exact absurd hs hn

theorem GateMove.upgrade (h : GateMove s killed holds now verdict paused s') {a : AbortReason}
    (ha : s.abort = some a) : ∃ b, s'.abort = some b ∧ AbortReason.Upgrade a b := by
  cases h with
  | aborts =>
    cases killed with
    | none => exact ⟨a, ha, .refl a⟩
    | some reason =>
      refine ⟨AbortReason.merge (some a) (.killSwitch reason), ?_, AbortReason.upgrade_merge a _⟩
      show some (AbortReason.merge s.abort _) = _
      rw [ha]
  | keeps hn => rw [ha] at hn; cases hn
  | takes hn => rw [ha] at hn; cases hn
  | pauses hn => rw [ha] at hn; cases hn
  | parks hn => rw [ha] at hn; cases hn
  | passes hn => rw [ha] at hn; cases hn

end

/-! ## commands -/

/-- a command that is not applied changes nothing; one that is applied was available, and the slot
was empty unless the command is Terminate -/
theorem control_cases (s : Session) (c : Command) :
    ((s.control c).2 = s ∧ ∀ shown, (s.control c).1 ≠ .applied shown) ∨
    (s.control c = (.applied (shownBy c), s.apply c) ∧ c.isAvailable s.mode s.state = true ∧
      (c ≠ .terminate → s.abort = none)) := by
  unfold control
  by_cases h1 : (c.needsInteractive && !s.mode.isInteractive) = true
  · left; rw [if_pos h1]; exact ⟨rfl, fun _ => by simp⟩
  · rw [if_neg h1]
    by_cases h2 : c ≠ .terminate ∧ s.abort.isSome = true
    · left; rw [if_pos h2]; exact ⟨rfl, fun _ => by simp⟩
    · rw [if_neg h2]
      by_cases h3 : c.isAvailable s.mode s.state = true
      · right
        rw [if_pos h3]
        refine ⟨rfl, h3, fun hc => ?_⟩
        have hs : ¬ s.abort.isSome = true := fun h => h2 ⟨hc, h⟩
        simpa using hs
      · left; rw [if_neg h3]; exact ⟨rfl, fun _ => by simp⟩

theorem request_upgrade {s : Session} {a : AbortReason} (reason : AbortReason)
    (ha : s.abort = some a) :
    ∃ b, (s.request reason).abort = some b ∧ AbortReason.Upgrade a b :=
  ⟨AbortReason.merge (some a) reason, by simp [ha], AbortReason.upgrade_merge a reason⟩

theorem control_upgrade {s : Session} {a : AbortReason} (c : Command) (ha : s.abort = some a) :
    ∃ b, (s.control c).2.abort = some b ∧ AbortReason.Upgrade a b := by
  rcases control_cases s c with ⟨h, _⟩ | ⟨h, _, _⟩
  · exact ⟨a, by rw [h, ha], .refl a⟩
  · rw [h]
    cases c with
    | pause => exact ⟨a, ha, .refl a⟩
    | resume => exact ⟨a, ha, .refl a⟩
    | step => exact ⟨a, ha, .refl a⟩
    | stop => exact request_upgrade _ ha
    | terminate => exact request_upgrade _ ha

@[simp] theorem control_index (s : Session) (c : Command) : (s.control c).2.index = s.index := by
  rcases control_cases s c with ⟨h, _⟩ | ⟨h, _, _⟩
  · rw [h]
  · rw [h]; cases c <;> rfl

@[simp] theorem control_options (s : Session) (c : Command) :
    (s.control c).2.options = s.options := by
  rcases control_cases s c with ⟨h, _⟩ | ⟨h, _, _⟩
  · rw [h]
  · rw [h]; cases c <;> rfl

@[simp] theorem control_script (s : Session) (c : Command) :
    (s.control c).2.script = s.script := by
  rcases control_cases s c with ⟨h, _⟩ | ⟨h, _, _⟩
  · rw [h]
  · rw [h]; cases c <;> rfl

/-- without an accepted Resume or Step a command leaves the grants alone, and the state unless it
pauses the session -/
theorem control_held {s : Session} {c : Command}
    (hc : ∀ shown, (s.control c).1 = .applied shown → c ≠ .resume ∧ c ≠ .step) :
    (s.control c).2.grants = s.grants ∧
      ((s.control c).2.state = s.state ∨ (s.control c).2.state = .paused ∧ c = .pause ∧
        ∃ shown, (s.control c).1 = .applied shown) := by
  rcases control_cases s c with ⟨h, _⟩ | ⟨h, _, _⟩
  · rw [h]
    exact ⟨rfl, Or.inl rfl⟩
  · obtain ⟨h1, h2⟩ := hc (shownBy c) (by rw [h])
    rw [h]
    cases c with
    | pause => exact ⟨rfl, Or.inr ⟨rfl, rfl, _, rfl⟩⟩
    | resume => exact absurd rfl h1
    | step => exact absurd rfl h2
    | stop => exact ⟨rfl, Or.inl rfl⟩
    | terminate => exact ⟨rfl, Or.inl rfl⟩

/-- Resume is the only command besides Step that lets a paused session go on -/
theorem control_paused {s : Session} {c : Command} (hs : s.state = .paused)
    (hc : ∀ shown, (s.control c).1 = .applied shown → c ≠ .resume ∧ c ≠ .step) :
    (s.control c).2.state = .paused := by
  rcases (control_held hc).2 with h | ⟨h, _⟩
  · rw [h, hs]
  · exact h

theorem control_idle {s : Session} {c : Command} (hs : s.state = .idle) :
    (s.control c).2 = s := by
  rcases control_cases s c with ⟨h, _⟩ | ⟨_, h, _⟩
  · exact h
  · have hi : s.state.isActive = false := by rw [hs]; rfl
    rw [Command.isAvailable_of_not_isActive c s.mode hi] at h
    cases h

end Session

end ScriptGuard
