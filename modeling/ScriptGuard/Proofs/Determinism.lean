import ScriptGuard.Proofs.WorkerStep

/-!
# The steps of a worker, taken

`WorkerStep.of_advance` reads a step off `Run.advance`.  The other way round, a step that fits the
run is the one that the worker takes: with the same view and the same reply there is no other.  The
stages of getting ready are left out, whose order the relation does not fix.

* `Session.GateMove.gate_eq`   a move that can be made at the pause gate is made;
* `CallStep.advance_eq`        a step of a host call is taken;
* `WorkerStep.advance_eq`      a step of a worker is taken, outside the stages.
-/

namespace ScriptGuard

section
variable {s s' : Session} {killed : Option String} {holds paused : Bool} {now : Nat}
  {verdict : GateVerdict}

theorem Session.GateMove.gate_eq (h : s.GateMove killed holds now verdict paused s') :
    s.gate killed holds now = (verdict, paused, s') := by
  have hclear (ha : s.abort = none) (hk : killed = none) :
      ((s.wake now).heedSwitch killed) = s.wake now ∧ (s.wake now).abort = none := by
    subst hk
    exact ⟨rfl, ha⟩
  unfold gate
  cases h with
  | aborts ha => simp only [ha]
  | keeps ha hk hs hh =>
    obtain ⟨hw, ha'⟩ := hclear ha hk
    have hs' : (s.wake now).state = .stepping := hs
    simp only [hw, ha', hs', hh, if_true]
  | takes ha hk hs hh hg =>
    obtain ⟨hw, ha'⟩ := hclear ha hk
    have hs' : (s.wake now).state = .stepping := hs
    have hg' : 0 < (s.wake now).grants := hg
    simp only [hw, ha', hs', hh, hg', if_true, Bool.false_eq_true, if_false]
    rfl
  | pauses ha hk hs hh hg =>
    obtain ⟨hw, ha'⟩ := hclear ha hk
    have hs' : (s.wake now).state = .stepping := hs
    have hg' : (s.wake now).grants = 0 := hg
    simp only [hw, ha', hs', hh, hg', Nat.lt_irrefl, Bool.false_eq_true, if_false]
  | parks ha hk hs =>
    obtain ⟨hw, ha'⟩ := hclear ha hk
    have hs' : (s.wake now).state = .paused := hs
    simp only [hw, ha', hs']
  | passes ha hk hs hp =>
    obtain ⟨hw, ha'⟩ := hclear ha hk
    simp only [hw, ha']
    cases hst : (s.wake now).state with
    | stepping => exact absurd hst hs
    | paused => exact absurd hst hp
    | _ => rfl

end

section
variable {v : View} {r r' : Run} {f : Frame} {p : CallPoint} {reply : Reply} {ds : List Deed}

theorem GateStep.atGate_eq {k : Resume} {shown : Bool} (h : GateStep v r f k shown r' ds) :
    r.atGate v f k shown = (r', ds) := by
  unfold Run.atGate
  cases h with
  | parks hg => rw [hg.gate_eq]; rfl
  | passes hg hs => rw [hg.gate_eq]; simp only [hs]; rfl
  | passesShown hg hs => rw [hg.gate_eq]; simp only [hs]; rfl
  | aborts hg hs => rw [hg.gate_eq]; simp only [hs]; rfl
  | abortsShown hg hs => rw [hg.gate_eq]; simp only [hs]; rfl

/-- a step of a host call where nothing is waited for is the one that is taken -/
theorem CallStep.advanceCall_eq (h : CallStep v r f p .go r' ds) :
    r.advanceCall v f p = some (r', ds) := by
  cases h with
  | slotSet ha => simp only [Run.advanceCall, ha]; rfl
  | slotClear ha => simp only [Run.advanceCall, ha]; rfl
  | switchOn hk => simp only [Run.advanceCall, hk]; rfl
  | switchOff hk => simp only [Run.advanceCall, hk]; rfl
  | overLimit hx => simp only [Run.advanceCall, hx]; rfl
  | withinLimits hx => simp only [Run.advanceCall, hx]; rfl
  | atGate hp h => rcases hp with rfl | rfl <;> exact congrArg some h.atGate_eq
  | cleared hc => simp only [Run.advanceCall, if_pos hc]; rfl
  | approved hc ha => simp only [Run.advanceCall, if_neg hc, ha, if_true]; rfl
  | unknown hc ha => simp only [Run.advanceCall, if_neg hc, ha]; rfl
  | asks hh => simp only [Run.advanceCall, hh, if_true]; rfl
  | nobody hh => simp only [Run.advanceCall, hh]; rfl
  | rested hd => simp only [Run.advanceCall, hd, if_true]; rfl
  | slice hd => simp only [Run.advanceCall, hd]; rfl
  | noInput hf => simp only [Run.advanceCall, hf]; rfl
  | input hf => simp only [Run.advanceCall, hf]; rfl
  | countsHeld hh => simp only [Run.advanceCall, hh, if_true]; rfl
  | counts hh => simp only [Run.advanceCall, hh]; rfl
  | raises => simp only [Run.advanceCall, Session.handIn_eq]; rfl
  | _ => rfl

theorem CallStep.advance_eq (h : CallStep v r f p reply r' ds) (hp : r.place = .call f p) :
    r.advance v reply = some (r', ds) := by
  unfold Run.advance
  cases reply with
  | go =>
    simp only [hp]
    exact h.advanceCall_eq
  | device d =>
    simp only [hp]
    cases h <;> rfl
  | verdict a =>
    simp only [hp]
    cases h with
    | allowed ha => simp only [Run.verdictCall, ha, if_true]; rfl
    | denied ha => simp only [Run.verdictCall, ha]; rfl
  | stage a => cases h
  | script m => cases h

/-- **Outside the stages of getting ready a step that fits is the step that is taken.** -/
theorem WorkerStep.advance_eq (h : WorkerStep v r reply r' ds) (hn : r.place.isStage = false) :
    r.advance v reply = some (r', ds) := by
  have hstage {P : Prop} (hp : r.place.isStage = true) : P := by
    rw [hn] at hp
    cases hp
  cases h with
  | call hp h => exact h.advance_eq hp
  | staged hp => exact hstage hp
  | unready hp => exact hstage hp
  | stageBroke hp => exact hstage hp
  | equipped hp => exact hstage (by rw [hp]; rfl)
  | calls hp hc => simp only [Run.advance, hp, Run.scriptMove, hc]; rfl
  | garbled hp hc => simp only [Run.advance, hp, Run.scriptMove, hc]; rfl
  | pollSet hp ha => simp only [Run.advance, hp, Run.advancePoll, ha]; rfl
  | pollClear hp ha => simp only [Run.advance, hp, Run.advancePoll, ha]; rfl
  | pollOn hp hk => simp only [Run.advance, hp, Run.advancePoll, hk]; rfl
  | pollOff hp hk => simp only [Run.advance, hp, Run.advancePoll, hk]; rfl
  | pollRaises hp => simp only [Run.advance, hp, Run.advancePoll, Session.handIn_eq]; rfl
  | @letDone i is e d hp hd =>
    cases d with
    | brokeDown => cases hd rfl
    | _ => simp only [Run.advance, hp]; rfl
  | @rescued d hp hd =>
    cases d with
    | brokeDown => cases hd rfl
    | _ => simp only [Run.advance, hp]; rfl
  | _ hp => simp only [Run.advance, hp]; rfl

end

end ScriptGuard
