import ScriptGuard.Proofs.Standstill

/-!
# What is left of a call that is approved too late

The handler may take its time.  When its answer comes the run may be stopped or paused
(`System.Stilled`), but the checks of the call lie behind it: the next ones stand after the first
slice of its wait.  So the wait of the call decides.

* `Approved`                   how far such a call has come, what it has begun and replied;
* `CallStep.onward`            one step of the call, `WorkerStep.onward` one step of the worker;
* `approved_while_stilled`     with a wait: one slice, no input, and an abort (or the pause gate, if
                               the run is only paused).  Without a wait: no further check.

Every step of the worker takes it nearer to the end of the call (`CallPoint.rank`).
-/

namespace ScriptGuard

/-! ## points of a call -/

namespace CallPoint

/-- the call is getting its approvals, `n` categories at most being left -/
def Seeks (n : Nat) : CallPoint → Prop
  | .permit cs | .grant _ cs => cs.length ≤ n
  | .seek _ cs | .asking _ cs => cs.length < n
  | _ => False

/-- the call looks whether it may go on after a slice of its wait -/
def checks : CallPoint → Bool
  | .slot _ | .switch _ | .limits _ | .gate _ false => true
  | _ => false

def concludes : CallPoint → Bool
  | .hold _ | .count | .repause _ | .progress _ _ | .repaused => true
  | _ => false

/-- the steps to the end of a call, at most, if the pause gate is not passed again; none from the
gate itself -/
def rank : CallPoint → Nat
  | .seek _ cs => 12 + 4 * cs.length
  | .asking _ cs => 11 + 4 * cs.length
  | .grant _ cs => 10 + 4 * cs.length
  | .permit cs => 9 + 4 * cs.length
  | .sleep _ => 8
  | .act => 7
  | .acting _ => 6
  | .hold _ | .waiting _ _ => 5
  | .count | .slot _ => 4
  | .repause _ | .switch _ => 3
  | .progress _ _ | .limits _ => 2
  | .repaused | .gate _ _ | .raise _ => 1
  | .parked _ _ | .announce _ _ => 0

theorem Seeks.rank_pos {n : Nat} {p : CallPoint} (h : p.Seeks n) : 0 < p.rank := by
  cases p with
  | permit cs =>
    show 0 < 9 + 4 * cs.length
    omega
  | grant c cs =>
    show 0 < 10 + 4 * cs.length
    omega
  | seek c cs =>
    show 0 < 12 + 4 * cs.length
    omega
  | asking c cs =>
    show 0 < 11 + 4 * cs.length
    omega
  | _ => exact False.elim h

theorem rank_pos_of_checks {p : CallPoint} (h : p.checks = true) : 0 < p.rank := by
  cases p with
  | slot k => simp [rank]
  | switch k => simp [rank]
  | limits k => simp [rank]
  | gate k shown => simp [rank]
  | _ => cases h

theorem rank_pos_of_concludes {p : CallPoint} (h : p.concludes = true) : 0 < p.rank := by
  cases p with
  | hold i => simp [rank]
  | count => simp [rank]
  | repause n => simp [rank]
  | progress n again => simp [rank]
  | repaused => simp [rank]
  | _ => cases h

end CallPoint

def Place.rank : Place → Nat
  | .call _ p => p.rank
  | _ => 0

theorem Place.rank_of_not_inCall {p : Place} (h : p.inCall = false) : p.rank = 0 := by
  cases p with
  | call f q => cases h
  | _ => rfl

def HostCall.inputs : HostCall → List DeviceCall
  | .input i => [.input i]
  | .sleep _ => []

/-- the call of the device with which an approved call goes on: the first slice of its wait, or its
input if it has no wait -/
def HostCall.first (c : HostCall) (total slice : Duration) : List DeviceCall :=
  if total.isZero then c.inputs else [.wait (total.least slice)]

theorem HostCall.first_of_isZero {c : HostCall} {total slice : Duration}
    (h : total.isZero = true) : c.first total slice = c.inputs := by
  rw [first, if_pos h]

theorem HostCall.first_of_not_isZero {c : HostCall} {total slice : Duration}
    (h : total.isZero = false) : c.first total slice = [.wait (total.least slice)] := by
  simp [first, h]

/-! ## how far the call has come -/

/-- the replies such a call may give once it has begun the calls `cs` of the device -/
def Late (c : HostCall) (total slice : Duration) (n : Nat) (cs : List DeviceCall) :
    CallReply → Prop
  | .ok => total.isZero = true
  | .brokeDown => cs = c.first total slice ∧ cs ≠ []
  | .error e => (∃ a, e = .abort a) ∧ (cs = [] ∧ 0 < n ∨ cs = c.first total slice ∧ cs ≠ [])

/-- how far a call has come that was approved while its run stood still: where the worker is, the
calls of the device begun since, the reply.  `total` is its wait, `n` the number of categories it
still needs; `soft` says that the run is paused and not stopped. -/
inductive Approved (f : Frame) (total slice : Duration) (n : Nat) (soft : Prop) :
    Place → List DeviceCall → Option CallReply → Prop
  | seeks {p : CallPoint} (hp : p.Seeks n) : Approved f total slice n soft (.call f p) [] none
  | sleeps : Approved f total slice n soft (.call f (.sleep total)) [] none
  -- the call has a wait
  | waits {rest : Duration} (hz : total.isZero = false) :
      Approved f total slice n soft (.call f (.waiting (total.least slice) rest))
        (f.call.first total slice) none
  | checks {p : CallPoint} (hz : total.isZero = false) (hp : p.checks = true) :
      Approved f total slice n soft (.call f p) (f.call.first total slice) none
  | parks {k : Resume} (hz : total.isZero = false) (hs : soft) :
      Approved f total slice n soft (.call f (.parked k false)) (f.call.first total slice) none
  -- the call has no wait
  | acts (hz : total.isZero = true) : Approved f total slice n soft (.call f .act) [] none
  | inputs {i : Input} (hz : total.isZero = true) (hf : f.call = .input i) :
      Approved f total slice n soft (.call f (.acting i)) (f.call.first total slice) none
  | concludes {p : CallPoint} (hz : total.isZero = true) (hp : p.concludes = true) :
      Approved f total slice n soft (.call f p) (f.call.first total slice) none
  -- the way out
  | raises {a : AbortReason} {cs : List DeviceCall}
      (hc : cs = [] ∧ 0 < n ∨ cs = f.call.first total slice ∧ cs ≠ []) :
      Approved f total slice n soft (.call f (.raise a)) cs none
  | returned {p : Place} {cs : List DeviceCall} {x : CallReply} (hp : p.inCall = false)
      (hc : cs = [] ∨ cs = f.call.first total slice) (hx : Late f.call total slice n cs x) :
      Approved f total slice n soft p cs (some x)

theorem Approved.frame_eq {f g : Frame} {total slice : Duration} {n : Nat} {soft : Prop}
    {p : CallPoint} {cs : List DeviceCall} {x : Option CallReply}
    (h : Approved f total slice n soft (.call g p) cs x) : g = f := by
  cases h with
  | returned hp => cases hp
  | _ => rfl

/-- the deeds since a moment at which the lists were `base` and `said` -/
structure Since (f : Frame) (cs : List DeviceCall) (x : Option CallReply)
    (base : List DeviceCall) (said : List (HostFunction × CallReply)) (ds : List Deed) : Prop where
  hostCalls : Deed.hostCalls ds = cs ++ base
  replies : ds.filterMap Deed.reply? = (x.map (f.function, ·)).toList ++ said

/-! ## one step -/

section
variable {v : View} {r r' : Run} {f : Frame} {p : CallPoint} {reply : Reply}
  {total slice : Duration} {n : Nat} {soft : Prop} {cs base : List DeviceCall}
  {x : Option CallReply} {said : List (HostFunction × CallReply)} {ds old : List Deed}

/-- at the gate a blocked run parks or unwinds, and is not paused here -/
theorem Run.Blocked.not_paused {holds : Bool} {now : Nat} {s : Session} {verdict : GateVerdict}
    {paused : Bool} (hb : r.Blocked v)
    (hg : r.session.GateMove v.killed holds now verdict paused s) : paused = false := by
  cases hg with
  | pauses ha hk hs =>
    rcases hb with hb | hb | hb
    · exact absurd ha hb
    · exact absurd hk hb
    · rw [hs] at hb
      cases hb
  | _ => rfl

theorem Session.GateMove.clear_of_parked {s s' : Session} {killed : Option String}
    {holds paused : Bool} {now : Nat} (h : s.GateMove killed holds now .parked paused s') :
    s.abort = none ∧ killed = none := by
  cases h with
  | pauses ha hk => exact ⟨ha, hk⟩
  | parks ha hk => exact ⟨ha, hk⟩

/-- the call has come to a place, with at most `k` steps to go -/
def OnItsWay (f : Frame) (total slice : Duration) (n : Nat) (soft : Prop)
    (base : List DeviceCall) (said : List (HostFunction × CallReply)) (p : Place) (k : Nat)
    (ds : List Deed) : Prop :=
  ∃ cs x, Approved f total slice n soft p cs x ∧ p.rank ≤ k ∧ Since f cs x base said ds

theorem Since.begins {c : DeviceCall} (h : Since f [] none base said old)
    (ho : Deed.underWay old = true) : Since f [c] none base said (.began c :: old) where
  hostCalls := by simp [Deed.hostCalls, ho, h.hostCalls]
  replies := h.replies

theorem Since.says {y : CallReply} (h : Since f cs none base said old) :
    Since f cs (some y) base said (.replied f.function y :: old) where
  hostCalls := h.hostCalls
  replies := congrArg ((f.function, y) :: ·) h.replies

theorem CallStep.seeks (h : CallStep v r f p reply r' ds) (hp : p.Seeks n)
    (ht : r.totalWait f.call = total) (hl : Since f [] none base said old) :
    OnItsWay f total slice n soft base said r'.place (p.rank - 1) (ds.reverse ++ old) := by
  cases h with
  | permitted =>
    rw [ht]
    exact ⟨_, _, .sleeps, Nat.le_refl _, hl⟩
  | @cleared c cs =>
    have hle : cs.length ≤ n := Nat.le_of_lt hp
    exact ⟨_, _, .seeks hle, by simp [Place.rank, CallPoint.rank]; omega, hl⟩
  | @approved c cs =>
    have hle : cs.length ≤ n := Nat.le_of_lt hp
    exact ⟨_, _, .seeks hle, by simp [Place.rank, CallPoint.rank]; omega, hl⟩
  | @unknown c cs => exact ⟨_, _, .seeks hp, by simp [Place.rank, CallPoint.rank]; omega, hl⟩
  | @asks c cs =>
    exact ⟨_, _, .seeks hp, by simp [Place.rank, CallPoint.rank], hl.hostCalls, hl.replies⟩
  | @nobody c cs =>
    have hn : 0 < n := Nat.lt_of_le_of_lt (Nat.zero_le _) hp
    exact ⟨_, _, .raises (Or.inl ⟨rfl, hn⟩), by simp [Place.rank, CallPoint.rank]; omega, hl⟩
  | @allowed c cs =>
    have hle : cs.length ≤ n := Nat.le_of_lt hp
    exact ⟨_, _, .seeks hle, by simp [Place.rank, CallPoint.rank], hl.hostCalls, hl.replies⟩
  | @denied c cs =>
    have hn : 0 < n := Nat.lt_of_le_of_lt (Nat.zero_le _) hp
    exact ⟨_, _, .raises (Or.inl ⟨rfl, hn⟩), by simp [Place.rank, CallPoint.rank]; omega,
      hl.hostCalls, hl.replies⟩
  | @grants c cs =>
    exact ⟨_, _, .seeks hp, by simp [Place.rank, CallPoint.rank], hl.hostCalls, hl.replies⟩
  | atGate hg => rcases hg with rfl | rfl <;> cases hp
  | _ => cases hp

theorem CallStep.meets_gate {k : Resume} (h : CallStep v r f p reply r' ds)
    (hp : p.AtGate k false) (hz : total.isZero = false) (hb : r.Blocked v)
    (hs : ¬ soft → r.session.abort ≠ none ∨ v.killed ≠ none)
    (hl : Since f (f.call.first total slice) none base said old) :
    OnItsWay f total slice n soft base said r'.place 0 (ds.reverse ++ old) := by
  have hne : f.call.first total slice ≠ [] := by rw [HostCall.first_of_not_isZero hz]; simp
  cases h with
  | @atGate _ k' shown _ _ hg h =>
    have hshown : shown = false := by
      rcases hp with rfl | rfl <;> rcases hg with hg | hg <;> cases hg <;> rfl
    subst hshown
    cases h with
    | @parks paused s hm =>
      have hpause : (false || paused) = false := by rw [hb.not_paused hm]; rfl
      obtain ⟨hn, hk⟩ := hm.clear_of_parked
      have hsoft : soft := Classical.byContradiction fun h => by
        rcases hs h with ha | hk'
        · exact ha hn
        · exact hk' hk
      show OnItsWay f total slice n soft base said (.call f (.parked k' (false || paused))) 0 _
      rw [hpause]
      exact ⟨_, _, .parks hz hsoft, Nat.le_refl _, hl⟩
    | passes hm => exact (hb.not_passed hm).elim
    | passesShown hm => exact (hb.not_passed hm).elim
    | aborts =>
      refine ⟨_, _, .returned rfl (Or.inr rfl) ?_, Nat.le_refl _, hl.says⟩
      exact ⟨⟨_, rfl⟩, Or.inr ⟨rfl, hne⟩⟩
    | abortsShown hm hs' =>
      rw [hb.not_paused hm] at hs'
      cases hs'
  | _ => rcases hp with hp | hp <;> cases hp

theorem CallStep.rechecks (h : CallStep v r f p reply r' ds) (hp : p.checks = true)
    (hz : total.isZero = false) (hb : r.Blocked v)
    (hs : ¬ soft → r.session.abort ≠ none ∨ v.killed ≠ none)
    (hl : Since f (f.call.first total slice) none base said old) :
    OnItsWay f total slice n soft base said r'.place (p.rank - 1) (ds.reverse ++ old) := by
  have hne : f.call.first total slice ≠ [] := by rw [HostCall.first_of_not_isZero hz]; simp
  cases p with
  | slot k =>
    cases h with
    | slotSet =>
      refine ⟨_, _, .returned rfl (Or.inr rfl) ?_, by simp [Place.rank], hl.says⟩
      exact ⟨⟨_, rfl⟩, Or.inr ⟨rfl, hne⟩⟩
    | slotClear => exact ⟨_, _, .checks hz rfl, by simp [Place.rank, CallPoint.rank], hl⟩
    | atGate hg => rcases hg with hg | hg <;> cases hg
  | switch k =>
    cases h with
    | switchOn =>
      exact ⟨_, _, .raises (Or.inr ⟨rfl, hne⟩), by simp [Place.rank, CallPoint.rank], hl⟩
    | switchOff => exact ⟨_, _, .checks hz rfl, by simp [Place.rank, CallPoint.rank], hl⟩
    | atGate hg => rcases hg with hg | hg <;> cases hg
  | limits k =>
    cases h with
    | overLimit =>
      exact ⟨_, _, .raises (Or.inr ⟨rfl, hne⟩), by simp [Place.rank, CallPoint.rank], hl⟩
    | withinLimits => exact ⟨_, _, .checks hz rfl, by simp [Place.rank, CallPoint.rank], hl⟩
    | atGate hg => rcases hg with hg | hg <;> cases hg
  | gate k shown =>
    cases shown with
    | false => exact h.meets_gate (Or.inl rfl) hz hb hs hl
    | true => cases hp
  | _ => cases hp

theorem CallStep.goes_through (h : CallStep v r f p reply r' ds) (hp : p.concludes = true)
    (hz : total.isZero = true) (hl : Since f (f.call.first total slice) none base said old) :
    OnItsWay f total slice n soft base said r'.place (p.rank - 1) (ds.reverse ++ old) := by
  cases h with
  | holds => exact ⟨_, _, .concludes hz rfl, by simp [Place.rank, CallPoint.rank], hl⟩
  | countsHeld => exact ⟨_, _, .concludes hz rfl, by simp [Place.rank, CallPoint.rank], hl⟩
  | counts => exact ⟨_, _, .concludes hz rfl, by simp [Place.rank, CallPoint.rank], hl⟩
  | repauses => exact ⟨_, _, .concludes hz rfl, by simp [Place.rank, CallPoint.rank], hl⟩
  | progress =>
    have hok := hl.says (y := .ok)
    exact ⟨_, some .ok, .returned rfl (Or.inr rfl) hz, by simp [Place.rank], hok.hostCalls,
      hok.replies⟩
  | progressPaused =>
    exact ⟨_, _, .concludes hz rfl, by simp [Place.rank, CallPoint.rank], hl.hostCalls,
      hl.replies⟩
  | repaused =>
    have hok := hl.says (y := .ok)
    exact ⟨_, some .ok, .returned rfl (Or.inr rfl) hz, by simp [Place.rank], hok.hostCalls,
      hok.replies⟩
  | atGate hg => rcases hg with rfl | rfl <;> cases hp
  | _ => cases hp

theorem CallStep.onward (h : CallStep v r f p reply r' ds)
    (ha : Approved f total slice n soft (.call f p) cs x) (ht : r.totalWait f.call = total)
    (hv : v.settings.slice = slice) (hb : r.Blocked v)
    (hs : ¬ soft → r.session.abort ≠ none ∨ v.killed ≠ none) (ho : Deed.underWay old = true)
    (hl : Since f cs x base said old) :
    OnItsWay f total slice n soft base said r'.place (p.rank - 1) (ds.reverse ++ old) := by
  cases ha with
  | seeks hp => exact h.seeks hp ht hl
  | checks hz hp => exact h.rechecks hp hz hb hs hl
  | parks hz => exact h.meets_gate (Or.inr rfl) hz hb hs hl
  | concludes hz hp => exact h.goes_through hp hz hl
  | returned hp => cases hp
  | sleeps =>
    cases h with
    | atGate hg => rcases hg with hg | hg <;> cases hg
    | rested hz => exact ⟨_, _, .acts hz, by simp [Place.rank, CallPoint.rank], hl⟩
    | slice hz =>
      rw [hv]
      refine ⟨_, _, .waits hz, by simp [Place.rank, CallPoint.rank], ?_⟩
      rw [HostCall.first_of_not_isZero hz]
      exact hl.begins ho
  | waits hz =>
    have hne : f.call.first total slice ≠ [] := by rw [HostCall.first_of_not_isZero hz]; simp
    cases h with
    | atGate hg => rcases hg with hg | hg <;> cases hg
    | sliceDone =>
      exact ⟨_, _, .checks hz rfl, by simp [Place.rank, CallPoint.rank], hl.hostCalls, hl.replies⟩
    | sliceFailed =>
      exact ⟨_, _, .raises (Or.inr ⟨rfl, hne⟩), by simp [Place.rank, CallPoint.rank],
        hl.hostCalls, hl.replies⟩
    | sliceBroke =>
      have hx := hl.says (y := .brokeDown)
      exact ⟨_, some .brokeDown, .returned rfl (Or.inr rfl) ⟨rfl, hne⟩, by simp [Place.rank],
        hx.hostCalls, hx.replies⟩
  | acts hz =>
    cases h with
    | atGate hg => rcases hg with hg | hg <;> cases hg
    | noInput hf =>
      refine ⟨_, _, .concludes hz rfl, by simp [Place.rank, CallPoint.rank], ?_⟩
      rw [HostCall.first_of_isZero hz, hf]
      exact hl
    | input hf =>
      refine ⟨_, _, .inputs hz hf, by simp [Place.rank, CallPoint.rank], ?_⟩
      rw [HostCall.first_of_isZero hz, hf]
      exact hl.begins ho
  | inputs hz hf =>
    have hne : f.call.first total slice ≠ [] := by
      rw [HostCall.first_of_isZero hz, hf]
      simp [HostCall.inputs]
    cases h with
    | atGate hg => rcases hg with hg | hg <;> cases hg
    | inputDone =>
      exact ⟨_, _, .concludes hz rfl, by simp [Place.rank, CallPoint.rank], hl.hostCalls,
        hl.replies⟩
    | inputFailed =>
      exact ⟨_, _, .raises (Or.inr ⟨rfl, hne⟩), by simp [Place.rank, CallPoint.rank],
        hl.hostCalls, hl.replies⟩
    | inputBroke =>
      have hx := hl.says (y := .brokeDown)
      exact ⟨_, some .brokeDown, .returned rfl (Or.inr rfl) ⟨rfl, hne⟩, by simp [Place.rank],
        hx.hostCalls, hx.replies⟩
  | raises hc =>
    cases h with
    | atGate hg => rcases hg with hg | hg <;> cases hg
    | raises =>
      refine ⟨_, _, .returned rfl (hc.imp (·.1) (·.1)) ?_, by simp [Place.rank], hl.says⟩
      exact ⟨⟨_, rfl⟩, hc⟩

theorem Approved.begun {q : Place} (h : Approved f total slice n soft q cs x) :
    cs = [] ∨ cs = f.call.first total slice := by
  cases h with
  | seeks => exact Or.inl rfl
  | sleeps => exact Or.inl rfl
  | acts => exact Or.inl rfl
  | raises hc => exact hc.imp (·.1) (·.1)
  | returned _ hc => exact hc
  | _ => exact Or.inr rfl

theorem Approved.late {q : Place} {y : CallReply}
    (h : Approved f total slice n soft q cs (some y)) : Late f.call total slice n cs y := by
  cases h with
  | returned _ _ hx => exact hx

theorem Approved.inCall_of_none {q : Place} (h : Approved f total slice n soft q cs none) :
    ∃ p, q = .call f p := by
  cases h <;> exact ⟨_, rfl⟩

/-- no step is left: the call has been answered or it is parked -/
theorem Approved.ended {q : Place} (h : Approved f total slice n soft q cs x) (hq : q.rank = 0) :
    (∃ y, x = some y) ∨
      ∃ k, q = .call f (.parked k false) ∧ soft ∧ total.isZero = false := by
  cases h with
  | returned => exact Or.inl ⟨_, rfl⟩
  | parks hz hs => exact Or.inr ⟨_, rfl, hs, hz⟩
  | seeks hp => exact absurd hq (Nat.ne_of_gt hp.rank_pos)
  | checks _ hp => exact absurd hq (Nat.ne_of_gt (CallPoint.rank_pos_of_checks hp))
  | concludes _ hp => exact absurd hq (Nat.ne_of_gt (CallPoint.rank_pos_of_concludes hp))
  | _ => simp [Place.rank, CallPoint.rank] at hq

theorem Approved.reply_of_not_inCall {q : Place} (h : Approved f total slice n soft q cs x)
    (hq : q.inCall = false) :
    ∃ y, x = some y ∧ (cs = [] ∨ cs = f.call.first total slice) ∧
      Late f.call total slice n cs y := by
  cases h with
  | returned _ hc hx => exact ⟨_, rfl, hc, hx⟩
  | _ => cases hq

theorem WorkerStep.onward (h : WorkerStep v r reply r' ds)
    (ha : Approved f total slice n soft r.place cs x) (ht : r.totalWait f.call = total)
    (hv : v.settings.slice = slice) (hb : r.place.inCall = true → r.Blocked v)
    (hs : ¬ soft → r.session.abort ≠ none ∨ v.killed ≠ none)
    (hn : ∀ g args, reply ≠ .script (.call g args)) (ho : Deed.underWay old = r.place.inCall)
    (hl : Since f cs x base said old) :
    OnItsWay f total slice n soft base said r'.place (r.place.rank - 1) (ds.reverse ++ old) := by
  rcases h.kinds with ⟨f', p, hp, hc⟩ | ⟨g, args, rfl⟩ | ⟨hc, hbt⟩
  · rw [hp] at ha hb ho ⊢
    obtain rfl := ha.frame_eq
    exact hc.onward ha ht hv (hb rfl) hs ho hl
  · exact absurd rfl (hn g args)
  · have hbt := hbt old (ho.trans hc)
    have hreplies : ds.filterMap Deed.reply? = [] :=
      List.filterMap_eq_nil_iff.2 fun d hd => (hbt.quiet d hd).2.1
    obtain ⟨y, rfl, hcs, hx⟩ := ha.reply_of_not_inCall hc
    refine ⟨cs, some y, .returned hbt.outside hcs hx, ?_, hbt.hostCalls.trans hl.hostCalls, ?_⟩
    · rw [Place.rank_of_not_inCall hbt.outside]
      exact Nat.zero_le _
    · rw [List.filterMap_append, List.filterMap_reverse, hreplies]
      exact hl.replies

end

namespace System

/-! ## the run -/

def Carries (s : System) (i : RunId) (f : Frame) (total slice : Duration) (n : Nat) (soft : Prop)
    (base : List DeviceCall) (said : List (HostFunction × CallReply)) (k : Nat) : Prop :=
  s.settings.slice = slice ∧ ∃ r, s.runs[i]? = some r ∧ r.totalWait f.call = total ∧
    OnItsWay f total slice n soft base said r.place k (s.deeds i)

section
variable {s s' : System} {m : Move} {i : RunId} {f : Frame} {total slice : Duration} {n k : Nat}
  {soft : Prop} {base : List DeviceCall} {said : List (HostFunction × CallReply)}
  {ms : List Move} {r r' : Run} {ds : List Deed}

theorem totalWait_step (h : RunChange s m i r r' ds) (c : HostCall) :
    r'.totalWait c = r.totalWait c := by
  have ho := h.given_eq.2
  cases c with
  | sleep d =>
    show r'.session.options.scaled d = r.session.options.scaled d
    rw [ho]
  | input inp =>
    show r'.session.options.scaled r'.session.options.preDelay
      = r.session.options.scaled r.session.options.preDelay
    rw [ho]

theorem carries_step (ht : s.Tidy) (hh : s.Halted i)
    (hs : ¬ soft → s.killSwitch.active = true ∨ ∃ a, s.slot? i = some a)
    (hm : m.isCallOf i = false) (hstep : s.step? m = some s')
    (h : s.Carries i f total slice n soft base said k) :
    s'.Carries i f total slice n soft base said (if m.isWorkOf i then k - 1 else k) := by
  obtain ⟨hslice, r, hr, htotal, cs, x, ha, hk, hl⟩ := h
  obtain ⟨r', ds, hr', hd, hc⟩ := runChange hstep hr
  refine ⟨by rw [step?_settings hstep, hslice], r', hr', by rw [totalWait_step hc, htotal], ?_⟩
  have hle : (if m.isWorkOf i then k - 1 else k) ≤ k := by split <;> omega
  have hstopped : ¬ soft → r.session.abort ≠ none ∨ s.view.killed ≠ none := by
    intro hsoft
    rcases hs hsoft with hkill | ⟨a, ha⟩
    · exact Or.inr (killed_ne_none hkill)
    · rw [slot?, hr, Option.bind_some] at ha
      exact Or.inl (by rw [ha]; simp)
  rw [hd]
  by_cases hw : m.isWorkOf i = true
  · rw [if_pos hw]
    cases m with
    | work j reply =>
      have hj : j = i := by simpa [Move.isWorkOf] using hw
      subst hj
      have hn : ∀ g args, reply ≠ .script (.call g args) := by
        rintro g args rfl
        simp [Move.isCallOf] at hm
      obtain ⟨r₁, ds₁, hr₁, hd₁, hws⟩ := workStep hstep hr
      rw [hr₁] at hr'
      cases hr'
      obtain ⟨cs', x', ha', hk', hl'⟩ := hws.onward ha htotal hslice (hh.blocked hr) hstopped hn
        (ht.bracket j r hr) hl
      rw [← hd, hd₁]
      exact ⟨cs', x', ha', by omega, hl'⟩
    | _ => cases hw
  · rw [if_neg hw]
    cases hc with
    | worked he =>
      rw [he] at hw
      simp [Move.isWorkOf] at hw
    | spawned _ _ hin =>
      -- a run about to be spawned is in no call
      have hu := ht.unborn_of_spawn hr hin
      obtain ⟨y, rfl, hcs, hx⟩ := ha.reply_of_not_inCall (by rw [hu]; rfl)
      exact ⟨cs, some y, .returned rfl hcs hx, Nat.zero_le k, hl⟩
    | _ => exact ⟨cs, x, ha, hk, hl⟩

theorem carries_play (hh : s.Throughout (fun t => (t.Tidy ∧ t.Halted i) ∧
      (¬ soft → t.killSwitch.active = true ∨ ∃ a, t.slot? i = some a)) ms)
    (hm : ∀ m ∈ ms, m.isCallOf i = false) (hp : s.play? ms = some s')
    (h : s.Carries i f total slice n soft base said k) :
    s'.Carries i f total slice n soft base said (k - ms.countP (Move.isWorkOf i)) := by
  induction ms generalizing s k with
  | nil =>
    cases hp
    exact h
  | cons m ms ih =>
    obtain ⟨s₁, h₁, h₂⟩ := exists_of_play?_cons hp
    obtain ⟨⟨ht, hhalt⟩, hs⟩ := hh.head
    have hstep := carries_step ht hhalt hs (hm m (by simp)) h₁ h
    have hrest := ih (hh.2 s₁ h₁) (fun m' hm' => hm m' (List.mem_cons_of_mem m hm')) h₂ hstep
    rw [List.countP_cons]
    by_cases hw : m.isWorkOf i = true
    · rw [if_pos hw] at hrest ⊢
      rwa [Nat.sub_sub, Nat.add_comm 1] at hrest
    · rw [if_neg hw] at hrest ⊢
      exact hrest

/-! ## the outcome -/

theorem step?_of_inCall {p : CallPoint} (hr : s.runs[i]? = some r) (hp : r.place = .call f p) :
    ∃ reply s', s.step? (.work i reply) = some s' := by
  obtain ⟨reply, ha⟩ := Run.advance_of_inCall s.view hp
  obtain ⟨⟨r', ds⟩, ha⟩ := Option.isSome_iff_exists.1 ha
  obtain ⟨s', hs', _⟩ := step?_work hr ha
  exact ⟨reply, s', hs'⟩

/-- what a call with a wait has done since it was approved: the slice `chunk` at most, and it gives
back an abort unless the device has broken down -/
structure Rechecked (s s' : System) (i : RunId) (f : Frame) (chunk : Duration) : Prop where
  begun : s'.hostCalls i = s.hostCalls i ∨ s'.hostCalls i = .wait chunk :: s.hostCalls i
  replied : s'.replies i = s.replies i ∨
    (∃ a, s'.replies i = (f.function, .error (.abort a)) :: s.replies i) ∨
    s'.replies i = (f.function, .brokeDown) :: s.replies i ∧
      s'.hostCalls i = .wait chunk :: s.hostCalls i

/-- what a call without a wait has done since it was approved: its input at most, and if it needs
no other category nothing but the device keeps it from succeeding -/
structure Unchecked (s s' : System) (i : RunId) (f : Frame) (needed : List Category) : Prop where
  begun : s'.hostCalls i = s.hostCalls i ∨
    ∃ inp, f.call = .input inp ∧ s'.hostCalls i = .input inp :: s.hostCalls i
  replied : s'.replies i = s.replies i ∨ ∃ x, s'.replies i = (f.function, x) :: s.replies i ∧
    (x = .ok ∨ needed ≠ [] ∨ ∃ inp, s'.hostCalls i = .input inp :: s.hostCalls i)

theorem Carries.rechecked (hz : total.isZero = false)
    (h : s'.Carries i f total slice n soft (s.hostCalls i) (s.replies i) k) :
    s.Rechecked s' i f (total.least slice) := by
  obtain ⟨_, r, _, _, cs, x, ha, _, hl⟩ := h
  have hcalls : s'.hostCalls i = cs ++ s.hostCalls i := hl.hostCalls
  have hreplies : s'.replies i = (x.map (f.function, ·)).toList ++ s.replies i := hl.replies
  have hfirst : f.call.first total slice = [.wait (total.least slice)] :=
    HostCall.first_of_not_isZero hz
  refine ⟨?_, ?_⟩
  · rcases ha.begun with rfl | hc
    · exact Or.inl hcalls
    · rw [hc, hfirst] at hcalls
      exact Or.inr hcalls
  · cases x with
    | none => exact Or.inl hreplies
    | some y =>
      right
      have hlate := ha.late
      cases y with
      | ok =>
        have hzero : total.isZero = true := hlate
        rw [hz] at hzero
        cases hzero
      | error e =>
        obtain ⟨⟨a, rfl⟩, _⟩ := hlate
        exact Or.inl ⟨a, hreplies⟩
      | brokeDown =>
        obtain ⟨hc, _⟩ := hlate
        rw [hc, hfirst] at hcalls
        exact Or.inr ⟨hreplies, hcalls⟩

theorem Carries.unchecked {needed : List Category} (hz : total.isZero = true)
    (h : s'.Carries i f total slice needed.length soft (s.hostCalls i) (s.replies i) k) :
    s.Unchecked s' i f needed := by
  obtain ⟨_, r, _, _, cs, x, ha, _, hl⟩ := h
  have hcalls : s'.hostCalls i = cs ++ s.hostCalls i := hl.hostCalls
  have hreplies : s'.replies i = (x.map (f.function, ·)).toList ++ s.replies i := hl.replies
  have hfirst : f.call.first total slice = f.call.inputs := HostCall.first_of_isZero hz
  have hinput (hc : cs = f.call.first total slice) (hne : cs ≠ []) :
      ∃ inp, f.call = .input inp ∧ s'.hostCalls i = .input inp :: s.hostCalls i := by
    rw [hfirst] at hc
    cases hf : f.call with
    | sleep d =>
      rw [hf] at hc
      exact absurd hc hne
    | input inp =>
      rw [hf] at hc
      rw [hc] at hcalls
      exact ⟨inp, rfl, hcalls⟩
  refine ⟨?_, ?_⟩
  · by_cases hne : cs = []
    · rw [hne] at hcalls
      exact Or.inl hcalls
    · exact Or.inr (hinput (ha.begun.resolve_left hne) hne)
  · cases x with
    | none => exact Or.inl hreplies
    | some y =>
      refine Or.inr ⟨y, hreplies, ?_⟩
      have hlate := ha.late
      cases y with
      | ok => exact Or.inl rfl
      | error e =>
        right
        rcases hlate.2 with ⟨_, hn⟩ | ⟨hc, hne⟩
        · exact Or.inl (List.ne_nil_of_length_pos hn)
        · obtain ⟨inp, _, h⟩ := hinput hc hne
          exact Or.inr ⟨inp, h⟩
      | brokeDown =>
        right
        obtain ⟨inp, _, h⟩ := hinput hlate.1 hlate.2
        exact Or.inr ⟨inp, h⟩

/-- **A call whose question is approved when its run is stopped or paused.**  If it has a wait, it
begins one slice of it and then gives back an abort, or parks at the gate if the run is only paused.
If it has none, no check is left: it goes on to its input.  It ends after so many steps of its
worker, and these can be taken. -/
theorem approved_while_stilled {s₁ : System} {c : Category} {needed : List Category}
    (hs : s.Reachable) (hr : s.runs[i]? = some r) (hp : r.place = .call f (.asking c needed))
    (ha : s.step? (.work i (.verdict .approved)) = some s₁) (hst : s₁.Stilled i ms)
    (hm : ∀ m ∈ ms, m.isCallOf i = false) (hplay : s₁.play? ms = some s') :
    ((r.totalWait f.call).isZero = false →
      s₁.Rechecked s' i f ((r.totalWait f.call).least s.settings.slice)) ∧
    ((r.totalWait f.call).isZero = true → s₁.Unchecked s' i f needed) ∧
    (10 + 4 * needed.length ≤ ms.countP (Move.isWorkOf i) →
      (∃ x, s'.replies i = (f.function, x) :: s₁.replies i) ∨
      (∃ k, s'.placeOf? i = some (.call f (.parked k false))) ∧
        (r.totalWait f.call).isZero = false ∧ ¬ s₁.Stopped i ms) ∧
    (s'.replies i = s₁.replies i → ∃ reply t, s'.step? (.work i reply) = some t) := by
  obtain ⟨r₁, ds, hr₁, hd, hw⟩ := workStep ha hr
  have hnext : r₁ = { r with place := .call f (.grant c needed) } := by
    cases hw with
    | call hp' h =>
      rw [hp] at hp'
      cases hp'
      cases h with
      | allowed => rfl
      | denied hg => cases hg
  have hstart : s₁.Carries i f (r.totalWait f.call) s.settings.slice needed.length
      (¬ s₁.Stopped i ms) (s₁.hostCalls i) (s₁.replies i) (10 + 4 * needed.length) := by
    have hset : s₁.settings.slice = s.settings.slice := by rw [step?_settings ha]
    refine ⟨hset, r₁, hr₁, by rw [hnext]; rfl, [], none, ?_, ?_, rfl, rfl⟩
    · rw [hnext]
      exact .seeks (Nat.le_refl _)
    · rw [hnext]
      exact Nat.le_refl _
  have hthrough : s₁.Throughout (fun t => (t.Tidy ∧ t.Halted i) ∧
      (¬ ¬ s₁.Stopped i ms → t.killSwitch.active = true ∨ ∃ a, t.slot? i = some a)) ms := by
    by_cases hstop : s₁.Stopped i ms
    · exact ((hst.halted (hs.step ha)).and hstop.throughout).mono fun t h => ⟨h.1, fun _ => h.2⟩
    · exact (hst.halted (hs.step ha)).mono fun t h => ⟨h, fun hn => absurd hstop hn⟩
  have hend := carries_play hthrough hm hplay hstart
  refine ⟨fun hz => hend.rechecked hz, fun hz => hend.unchecked hz, fun hk => ?_, fun hx => ?_⟩
  · obtain ⟨_, r', hr', _, cs, x, hap, hrank, hl⟩ := hend
    have hzero : r'.place.rank = 0 := by omega
    rcases hap.ended hzero with ⟨y, rfl⟩ | ⟨k, hpark, hsoft, hz⟩
    · exact Or.inl ⟨y, hl.replies⟩
    · refine Or.inr ⟨⟨k, ?_⟩, hz, hsoft⟩
      rw [placeOf?_of_run hr', hpark]
  · obtain ⟨_, r', hr', _, cs, x, hap, _, hl⟩ := hend
    have hl' : s'.replies i = (x.map (f.function, ·)).toList ++ s₁.replies i := hl.replies
    cases x with
    | some y =>
      rw [hx] at hl'
      have hlen := congrArg List.length hl'
      simp at hlen
    | none =>
      obtain ⟨p, hp'⟩ := hap.inCall_of_none
      exact step?_of_inCall hr' hp'

/-- Terminate comes while the handler is asked about a call with a wait: one slice is begun -/
theorem approved_while_stilled_questioned :
    let s := (questioned { preDelay := .ofMillis 50 }).after
      [.request (.control "s" .terminate), .proceed 2 .go]
    let s₁ := s.after [.work 0 (.verdict .approved)]
    let s' := s₁.after
      [.work 0 .go, .work 0 .go, .work 0 .go, .work 0 (.device .done), .work 0 .go]
    s₁.slot? 0 = some .terminated ∧ s'.hostCalls 0 = [.wait (.ofMillis 20)] ∧
      s'.replies 0 = [(.typeText, .error (.abort .terminated))] ∧
      s₁.Rechecked s' 0 ⟨.typeText, .input (.text "hi"), false⟩ (.ofMillis 20) := by
  intro s s₁ s'
  have hs : s.Reachable := (reachable_questioned _).after _
  have hrun : (s.runs[0]?).map (fun r => (r.place, r.totalWait (.input (.text "hi"))))
      = some (.call ⟨.typeText, .input (.text "hi"), false⟩ (.asking .textInjection []),
        .ofMillis 50) := by decide +kernel
  obtain ⟨r, hr, hrp⟩ := Option.map_eq_some_iff.1 hrun
  obtain ⟨hp, ht⟩ := Prod.mk.inj hrp
  have ha : s.step? (.work 0 (.verdict .approved)) = some s₁ := step?_after (by decide +kernel)
  have hslot : s₁.slot? 0 = some .terminated := by decide +kernel
  have hplay : s₁.play? [.work 0 .go, .work 0 .go, .work 0 .go, .work 0 (.device .done),
      .work 0 .go] = some s' := play?_after (by decide +kernel)
  have hslice : (Duration.ofMillis 50).least s.settings.slice = .ofMillis 20 := by decide +kernel
  have h := approved_while_stilled hs hr hp ha (Or.inl (Or.inl (by rw [hslot]; rfl)))
    (by decide) hplay
  rw [ht, hslice] at h
  exact ⟨hslot, by decide +kernel, by decide +kernel, h.1 rfl⟩

/-- **The answer of the handler is not followed by a check.**  A call without a wait types its text
and succeeds, although Terminate came while the handler was asked. -/
theorem not_held_back_of_approved :
    ¬ ∀ (s s₁ s' : System) (i : RunId) (ms : List Move) (r : Run) (f : Frame) (c : Category)
        (needed : List Category), s.Reachable → s.runs[i]? = some r →
      r.place = .call f (.asking c needed) → s.slot? i ≠ none →
      s.step? (.work i (.verdict .approved)) = some s₁ → (∀ m ∈ ms, m.isCallOf i = false) →
      s₁.play? ms = some s' →
      s'.hostCalls i = s.hostCalls i ∧ (f.function, .ok) ∉ s'.replies i := by
  intro h
  let s := (questioned {}).after [.request (.control "s" .terminate), .proceed 2 .go]
  let s₁ := s.after [.work 0 (.verdict .approved)]
  let ms : List Move := List.replicate 4 (.work 0 .go) ++ [.work 0 (.device .done)] ++
    List.replicate 3 (.work 0 .go)
  let s' := s₁.after ms
  have hrun : (s.runs[0]?).map (·.place)
      = some (.call ⟨.typeText, .input (.text "hi"), false⟩ (.asking .textInjection [])) := by
    decide +kernel
  obtain ⟨r, hr, hp⟩ := Option.map_eq_some_iff.1 hrun
  have ha : s.step? (.work 0 (.verdict .approved)) = some s₁ := step?_after (by decide +kernel)
  have hplay : s₁.play? ms = some s' := play?_after (by decide +kernel)
  obtain ⟨hcalls, _⟩ := h s s₁ s' 0 ms r _ _ _ ((reachable_questioned _).after _) hr hp
    (by decide +kernel) ha (by decide) hplay
  have hnone : s.hostCalls 0 = [] := by decide +kernel
  have htext : s'.hostCalls 0 = [.input (.text "hi")] := by decide +kernel
  rw [hnone, htext] at hcalls
  cases hcalls

end

end System

end ScriptGuard
