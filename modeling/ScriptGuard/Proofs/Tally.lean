import ScriptGuard.Proofs.Approval
import ScriptGuard.Proofs.Registry
import ScriptGuard.Proofs.Releases
import ScriptGuard.Proofs.Unwinding

/-!
# What is counted is what was done

A host call performs its input, counts, publishes its progress and gives its reply at different
steps.  `Tally p n ds calls` says how the four stand to each other at every place `p` of the worker,
`n` operations being counted and `calls` being what the script has asked for.

* `Move.asked?`           the call that a script makes with a move;
* `Deed.performed`        the inputs that host calls have performed;
* `Deed.attempted`        those that they have begun;
* `WorkerStep.tally`      a step of the worker keeps the tally;
* `Attempts`              an input that was begun was performed, or is under way, or it failed and
                          nothing more is begun;
* `System.tallied`        the result: outside a call everything agrees.

All lists have the latest element first.
-/

namespace ScriptGuard

/-- what a script asks for when it calls a host function -/
abbrev Asked := Except CallError HostCall

def Reply.asked? : Reply → Option Asked
  | .script (.call g args) => some (g.read? args)
  | _ => none

def Move.asked? (i : RunId) : Move → Option Asked
  | .work j reply => if j = i then reply.asked? else none
  | _ => none

theorem Reply.asked?_of_not_call {reply : Reply}
    (h : ¬ ∃ g args, reply = .script (.call g args)) : reply.asked? = none := by
  cases reply with
  | script m =>
    cases m with
    | call g args => exact absurd ⟨g, args, rfl⟩ h
    | _ => rfl
  | _ => rfl

def granted : List Asked → List (HostFunction × CallReply) → List DeviceCall
  | .ok c :: calls, (_, .ok) :: replies => c.inputs ++ granted calls replies
  | _ :: calls, _ :: replies => granted calls replies
  | _, _ => []

def okays (replies : List (HostFunction × CallReply)) : Nat := replies.countP fun e => e.2 == .ok

theorem granted_of_ne_ok {a : Asked} {calls : List Asked} {g : HostFunction} {x : CallReply}
    {replies : List (HostFunction × CallReply)} (hx : x ≠ .ok) :
    granted (a :: calls) ((g, x) :: replies) = granted calls replies := by
  cases x with
  | ok => exact absurd rfl hx
  | error e => cases a <;> rfl
  | brokeDown => cases a <;> rfl

namespace Deed

/-- the inputs that host calls have performed, latest first -/
def performed : List Deed → List DeviceCall
  | [] => []
  | .ended (.input x) .done :: ds =>
    if underWay ds then .input x :: performed ds else performed ds
  | _ :: ds => performed ds

/-- the inputs that host calls have begun, latest first -/
def attempted (ds : List Deed) : List DeviceCall :=
  (hostCalls ds).filter fun c => c matches .input _

/-- between two host calls nothing is performed for one -/
theorem performed_append {ds old : List Deed} (ho : underWay old = false)
    (hq : ∀ d ∈ ds, d.call? = none) :
    underWay (ds ++ old) = false ∧ performed (ds ++ old) = performed old := by
  induction ds with
  | nil => exact ⟨ho, rfl⟩
  | cons d ds ih =>
    obtain ⟨hu, hp⟩ := ih fun d' hd' => hq d' (List.mem_cons_of_mem _ hd')
    have hd := hq d List.mem_cons_self
    rw [List.cons_append]
    cases d with
    | called f => cases hd
    | ended c x =>
      refine ⟨hu, ?_⟩
      cases c <;> cases x <;> simp [performed, hu, hp]
    | replied f x => exact ⟨rfl, hp⟩
    | _ => exact ⟨hu, hp⟩

end Deed

/-! ## the tally at a place -/

def Place.opened : Place → List Asked
  | .call f _ => [.ok f.call]
  | _ => []

/-- the input that the call under way has performed -/
def Place.pending : Place → List DeviceCall
  | .call f p => if p.concludes then f.call.inputs else []
  | _ => []

def Place.counted : Place → Nat
  | .call _ (.repause _) => 1
  | .call _ (.progress _ _) => 1
  | .call _ .repaused => 1
  | _ => 0

def Place.unshown : Place → List Nat
  | .call _ (.repause n) => [n]
  | .call _ (.progress n _) => [n]
  | _ => []

/-- how calls, inputs, count and progress stand to each other -/
structure Tally (p : Place) (n : Nat) (ds : List Deed) (calls : List Asked) : Prop where
  answers : ∃ before, calls = p.opened ++ before ∧
    before.length = (ds.filterMap Deed.reply?).length ∧
    Deed.performed ds = p.pending ++ granted before (ds.filterMap Deed.reply?)
  count : okays (ds.filterMap Deed.reply?) + p.counted = n
  shown : p.unshown ++ ds.filterMap Deed.progress? = (List.range' 1 n).reverse
  apt : ∀ f x, p = .call f (.acting x) → f.call = .input x

section
variable {p q : Place} {n : Nat} {ds old : List Deed} {calls : List Asked} {f : Frame}
  {x : CallReply}

/-- the worker goes on and nothing that is tallied happens -/
theorem Tally.goes (h : Tally p n old calls) (ho : q.opened = p.opened)
    (hp : q.pending = p.pending) (hc : q.counted = p.counted) (hu : q.unshown = p.unshown)
    (ha : ∀ f x, q = .call f (.acting x) → f.call = .input x)
    (hr : ds.filterMap Deed.reply? = old.filterMap Deed.reply?)
    (hs : ds.filterMap Deed.progress? = old.filterMap Deed.progress?)
    (hd : Deed.performed ds = Deed.performed old) : Tally q n ds calls where
  answers := by
    rw [ho, hp, hr, hd]
    exact h.answers
  count := by
    rw [hc, hr]
    exact h.count
  shown := by
    rw [hu, hs]
    exact h.shown
  apt := ha

theorem Place.uncounted {k : CallPoint} (hk : k.concludes = false) :
    (Place.call f k).counted = 0 ∧ (Place.call f k).unshown = [] ∧
      (Place.call f k).pending = [] := by
  cases k with
  | hold _ | count | repause _ | progress _ _ | repaused => cases hk
  | _ => exact ⟨rfl, rfl, rfl⟩

/-- a call that has performed nothing goes on and performs nothing -/
theorem Tally.onward {f' : Frame} {k k' : CallPoint} (h : Tally (.call f k) n old calls)
    (hk : k.concludes = false) (hk' : k'.concludes = false) (hf : f'.call = f.call)
    (ha : ∀ x, k' = .acting x → f'.call = .input x)
    (hr : ds.filterMap Deed.reply? = old.filterMap Deed.reply?)
    (hs : ds.filterMap Deed.progress? = old.filterMap Deed.progress?)
    (hd : Deed.performed ds = Deed.performed old) : Tally (.call f' k') n ds calls := by
  obtain ⟨hc, hu, hp⟩ := Place.uncounted (f := f) hk
  obtain ⟨hc', hu', hp'⟩ := Place.uncounted (f := f') hk'
  have ho : (Place.call f' k').opened = (Place.call f k).opened := by rw [Place.opened, hf]; rfl
  refine h.goes ho (hp'.trans hp.symm) (hc'.trans hc.symm) (hu'.trans hu.symm) ?_ hr hs hd
  intro f₁ x hq
  cases hq
  exact ha x rfl

theorem Tally.fails {k : CallPoint} (h : Tally (.call f k) n old calls)
    (hk : k.concludes = false) (hx : x ≠ .ok)
    (hr : ds.filterMap Deed.reply? = (f.function, x) :: old.filterMap Deed.reply?)
    (hs : ds.filterMap Deed.progress? = old.filterMap Deed.progress?)
    (hd : Deed.performed ds = Deed.performed old) : Tally .script n ds calls := by
  obtain ⟨hc, hu, hp⟩ := Place.uncounted (f := f) hk
  obtain ⟨before, hb, hl, hperf⟩ := h.answers
  have hcount := h.count
  have hshown := h.shown
  rw [hc] at hcount
  rw [hu] at hshown
  rw [hp] at hperf
  refine ⟨⟨.ok f.call :: before, hb, ?_, ?_⟩, ?_, ?_, fun _ _ hq => nomatch hq⟩
  · rw [hr, List.length_cons, List.length_cons, hl]
  · rw [hr, hd, hperf, granted_of_ne_ok hx]
    rfl
  · have hok : (x == CallReply.ok) = false := by simpa using hx
    rw [hr, okays, List.countP_cons_of_neg (by simp [hok])]
    exact hcount
  · rw [hs]
    exact hshown

theorem Tally.grants {k : CallPoint} (h : Tally (.call f k) n old calls)
    (hk : k.concludes = true) (hc : (Place.call f k).counted = 1)
    (hr : ds.filterMap Deed.reply? = (f.function, .ok) :: old.filterMap Deed.reply?)
    (hs : ds.filterMap Deed.progress?
      = (Place.call f k).unshown ++ old.filterMap Deed.progress?)
    (hd : Deed.performed ds = Deed.performed old) : Tally .script n ds calls := by
  obtain ⟨before, hb, hl, hperf⟩ := h.answers
  have hcount := h.count
  rw [hc] at hcount
  rw [Place.pending, if_pos hk] at hperf
  refine ⟨⟨.ok f.call :: before, hb, ?_, ?_⟩, ?_, ?_, fun _ _ hq => nomatch hq⟩
  · rw [hr, List.length_cons, List.length_cons, hl]
  · rw [hr, hd, hperf]
    rfl
  · rw [hr, okays, List.countP_cons_of_pos (by rfl)]
    exact hcount
  · rw [hs]
    exact h.shown

theorem Tally.counts {k : CallPoint} (h : Tally (.call f .count) n old calls)
    (hp : (Place.call f k).pending = f.call.inputs) (hc : (Place.call f k).counted = 1)
    (hu : (Place.call f k).unshown = [n + 1]) (ha : ∀ x, k ≠ .acting x) :
    Tally (.call f k) (n + 1) old calls where
  answers := by
    rw [hp]
    exact h.answers
  count := by
    have hcount : okays (old.filterMap Deed.reply?) + 0 = n := h.count
    omega
  shown := by
    have hshown : old.filterMap Deed.progress? = (List.range' 1 n).reverse := h.shown
    rw [hu, hshown, List.range'_concat, List.reverse_append]
    simp [Nat.add_comm]
  apt := by
    intro f' x hf
    cases hf
    exact absurd rfl (ha x)

theorem Tally.performs {i : Input} (h : Tally (.call f (.acting i)) n old calls)
    (ho : Deed.underWay old = true) :
    Tally (.call f (.hold i)) n (.ended (.input i) .done :: old) calls where
  answers := by
    obtain ⟨before, hb, hl, hp⟩ := h.answers
    have hbefore : Deed.performed old = granted before (old.filterMap Deed.reply?) := hp
    have hpending : (Place.call f (.hold i)).pending = [.input i] := by
      show f.call.inputs = [.input i]
      rw [h.apt f i rfl]
      rfl
    refine ⟨before, hb, hl, ?_⟩
    rw [Deed.performed, if_pos ho, hbefore, hpending]
    rfl
  count := h.count
  shown := h.shown
  apt := fun _ _ hq => nomatch hq

theorem Tally.shows {i : Nat} {again : Bool} {d : Deed}
    (h : Tally (.call f (.progress i again)) n old calls) (hd : d.progress? = some i)
    (hr : d.reply? = none) (hp : Deed.performed (d :: old) = Deed.performed old) :
    Tally (.call f .repaused) n (d :: old) calls where
  answers := by
    rw [List.filterMap_cons_none hr, hp]
    exact h.answers
  count := by
    rw [List.filterMap_cons_none hr]
    exact h.count
  shown := by
    rw [List.filterMap_cons_some hd]
    exact h.shown
  apt := fun _ _ hq => nomatch hq

end

/-! ## one step -/

section
variable {v : View} {r r' : Run} {f : Frame} {p : CallPoint} {reply : Reply} {ds old : List Deed}
  {calls : List Asked}

theorem Run.concludes_passed (r : Run) (x : Settings) (f : Frame) (k : Resume) :
    (r.passed x f k).concludes = false := by
  cases k <;> rfl

theorem Run.passed_ne_acting (r : Run) (x : Settings) (f : Frame) (k : Resume) (i : Input) :
    r.passed x f k ≠ .acting i := by
  cases k <;> simp [Run.passed]

theorem GateStep.tally {k : Resume} {shown : Bool} (h : GateStep v r f k shown r' ds)
    (hp : p.concludes = false) (ht : Tally (.call f p) r.session.index old calls) :
    Tally r'.place r'.session.index (ds.reverse ++ old) calls := by
  obtain ⟨_, _, hg⟩ := h.gateMove
  rw [← hg.index_eq] at ht
  cases h with
  | parks => exact ht.onward hp rfl rfl (by simp) rfl rfl rfl
  | passes =>
    refine ht.onward hp (Run.concludes_passed _ _ _ _) rfl (fun x hx => ?_) rfl rfl rfl
    exact absurd hx (Run.passed_ne_acting _ _ _ _ _)
  | passesShown => exact ht.onward hp rfl rfl (by simp) rfl rfl rfl
  | aborts => exact ht.fails hp (by simp) rfl rfl rfl
  | abortsShown => exact ht.onward hp rfl rfl (by simp) rfl rfl rfl

theorem CallStep.tally (h : CallStep v r f p reply r' ds) (ho : Deed.underWay old = true)
    (ht : Tally (.call f p) r.session.index old calls) :
    Tally r'.place r'.session.index (ds.reverse ++ old) calls := by
  cases h with
  -- the ways out
  | slotSet => exact ht.fails rfl (by simp) rfl rfl rfl
  | announcedStop => exact ht.fails rfl (by simp) rfl rfl rfl
  | sliceBroke => exact ht.fails rfl (by simp) rfl rfl rfl
  | inputBroke => exact ht.fails rfl (by simp) rfl rfl rfl
  | raises => exact ht.fails rfl (by simp) rfl rfl rfl
  -- the gate
  | atGate hp h =>
    refine h.tally ?_ ht
    rcases hp with rfl | rfl <;> rfl
  | announced =>
    refine ht.onward rfl (Run.concludes_passed _ _ _ _) rfl (fun x hx => ?_) rfl rfl rfl
    exact absurd hx (Run.passed_ne_acting _ _ _ _ _)
  -- the input, the count and the progress
  | input hf => exact ht.onward rfl rfl rfl (by rintro _ ⟨⟩; exact hf) rfl rfl rfl
  | inputDone => exact ht.performs ho
  | noInput hf =>
    have hpending : (Place.call f .count).pending = [] := by
      show f.call.inputs = []
      rw [hf]
      rfl
    exact ht.goes rfl hpending rfl rfl (by simp) rfl rfl rfl
  | holds => exact ht.goes rfl rfl rfl rfl (by simp) rfl rfl rfl
  | countsHeld => exact ht.counts rfl rfl rfl (by simp)
  | counts => exact ht.counts rfl rfl rfl (by simp)
  | repauses =>
    show Tally _ r.session.repause.index _ _
    rw [Session.repause_index]
    exact ht.goes rfl rfl rfl rfl (by simp) rfl rfl rfl
  | progress => exact ht.grants rfl rfl rfl rfl rfl
  | progressPaused => exact ht.shows rfl rfl rfl
  | repaused => exact ht.grants rfl rfl rfl rfl rfl
  | _ => exact ht.onward rfl rfl rfl (by simp) rfl rfl rfl

theorem WorkerStep.tally_call {g : HostFunction} {args : List HostValue}
    (h : WorkerStep v r (.script (.call g args)) r' ds)
    (ht : Tally r.place r.session.index old calls) :
    Tally r'.place r'.session.index (ds.reverse ++ old) (g.read? args :: calls) := by
  obtain ⟨hp, ⟨c, hc, rfl, rfl⟩ | ⟨e, he, rfl, rfl⟩⟩ := h.of_call
  · rw [hp] at ht
    obtain ⟨before, hb, hl, hperf⟩ := ht.answers
    rw [hc]
    refine ⟨⟨before, ?_, hl, hperf⟩, ht.count, ht.shown, by simp⟩
    rw [hb]
    rfl
  · rw [hp] at ht
    obtain ⟨before, hb, hl, hperf⟩ := ht.answers
    rw [he]
    refine ⟨⟨.error e :: before, ?_, ?_, ?_⟩, ht.count, ht.shown, by simp⟩
    · rw [hb]
      rfl
    · rw [List.length_cons, hl]
      rfl
    · exact hperf

theorem Place.untallied {p : Place} (h : p.inCall = false) :
    p.opened = [] ∧ p.pending = [] ∧ p.counted = 0 ∧ p.unshown = [] := by
  cases p with
  | call f q => cases h
  | _ => exact ⟨rfl, rfl, rfl, rfl⟩

/-- what is done between two calls is not tallied -/
theorem Between.tally (h : Between r r' ds old) (hp : r.place.inCall = false)
    (ho : Deed.underWay old = false) (ht : Tally r.place r.session.index old calls) :
    Tally r'.place r'.session.index (ds.reverse ++ old) calls := by
  obtain ⟨ho₁, hp₁, hc₁, hu₁⟩ := Place.untallied hp
  obtain ⟨ho₂, hp₂, hc₂, hu₂⟩ := Place.untallied h.outside
  have hreplies : ds.reverse.filterMap Deed.reply? = [] :=
    List.filterMap_eq_nil_iff.2 fun d hd => (h.quiet d (List.mem_reverse.1 hd)).2.1
  have hprogress : ds.reverse.filterMap Deed.progress? = [] :=
    List.filterMap_eq_nil_iff.2 fun d hd => (h.quiet d (List.mem_reverse.1 hd)).2.2.2
  have hperf := (Deed.performed_append ho
    fun d hd => (h.quiet d (List.mem_reverse.1 hd)).1).2
  rw [h.index]
  refine ht.goes (ho₂.trans ho₁.symm) (hp₂.trans hp₁.symm) (hc₂.trans hc₁.symm)
    (hu₂.trans hu₁.symm) ?_ ?_ ?_ hperf
  · intro f x hq
    have hout := h.outside
    rw [hq] at hout
    cases hout
  · rw [List.filterMap_append, hreplies, List.nil_append]
  · rw [List.filterMap_append, hprogress, List.nil_append]

/-- **A step of the worker keeps the tally.** -/
theorem WorkerStep.tally (h : WorkerStep v r reply r' ds) (ho : Deed.underWay old = r.place.inCall)
    (ht : Tally r.place r.session.index old calls) :
    Tally r'.place r'.session.index (ds.reverse ++ old) (reply.asked?.toList ++ calls) := by
  by_cases hn : ∃ g args, reply = .script (.call g args)
  · obtain ⟨g, args, rfl⟩ := hn
    exact h.tally_call ht
  · rw [Reply.asked?_of_not_call hn]
    rcases h.kinds with ⟨f, p, hp, hc⟩ | hcall | ⟨hc, hb⟩
    · rw [hp] at ho ht
      exact hc.tally ho ht
    · exact absurd hcall hn
    · rw [hc] at ho
      exact (hb old ho).tally hc ho ht

/-! ## what was begun -/

/-- an input that was begun was performed; or it is under way; or it has failed, and nothing more is
begun -/
inductive Attempts (p : Place) (slot : Option AbortReason) (ds : List Deed) : Prop
  | even (ha : ∀ f i, p ≠ .call f (.acting i)) (h : Deed.attempted ds = Deed.performed ds)
  | acting {f : Frame} {i : Input} (hp : p = .call f (.acting i))
      (h : Deed.attempted ds = .input i :: Deed.performed ds)
  | failed {i : Input} {e : DeviceError}
      (hp : (∃ f a, p = .call f (.raise a)) ∨ slot.isSome = true ∧ p.atDoor = true)
      (hd : Deed.ended (.input i) (.failed e) ∈ ds)
      (h : Deed.attempted ds = .input i :: Deed.performed ds)

theorem Deed.attempted_began {i : Input} (ho : Deed.underWay old = true) :
    Deed.attempted (.began (.input i) :: old) = .input i :: Deed.attempted old := by
  simp [Deed.attempted, Deed.hostCalls, ho]

theorem Deed.attempted_wait {d : Duration} :
    Deed.attempted (.began (.wait d) :: old) = Deed.attempted old := by
  unfold Deed.attempted
  rw [Deed.hostCalls]
  split <;> simp

theorem GateStep.even {k : Resume} {shown : Bool} (h : GateStep v r f k shown r' ds)
    (he : Deed.attempted old = Deed.performed old) :
    Attempts r'.place r'.session.abort (ds.reverse ++ old) := by
  cases h with
  | passes =>
    refine .even (fun f' i hp => ?_) he
    injection hp with _ hp
    exact Run.passed_ne_acting _ _ _ _ _ hp
  | _ => exact .even (by simp) he

theorem CallStep.even (h : CallStep v r f p reply r' ds) (ho : Deed.underWay old = true)
    (hp : ∀ i, p ≠ .acting i) (he : Deed.attempted old = Deed.performed old) :
    Attempts r'.place r'.session.abort (ds.reverse ++ old) := by
  cases h with
  | atGate _ h => exact h.even he
  | announced =>
    refine .even (fun f' i hp => ?_) he
    injection hp with _ hp
    exact Run.passed_ne_acting _ _ _ _ _ hp
  | slice => exact .even (by simp) (Deed.attempted_wait.trans he)
  | input =>
    refine .acting rfl ?_
    show Deed.attempted (.began (.input _) :: old) = _
    rw [Deed.attempted_began ho, he]
    rfl
  | inputDone => exact absurd rfl (hp _)
  | inputFailed => exact absurd rfl (hp _)
  | inputBroke => exact absurd rfl (hp _)
  | _ => exact .even (by simp) he

theorem CallStep.attempts (h : CallStep v r f p reply r' ds) (ho : Deed.underWay old = true)
    (hb : ∀ i, Deed.ended (.input i) .brokeDown ∉ ds)
    (ht : Attempts (.call f p) r.session.abort old) :
    Attempts r'.place r'.session.abort (ds.reverse ++ old) := by
  cases ht with
  | even ha he => exact h.even ho (fun i hp => ha f i (by rw [hp])) he
  | @acting f' i hp he =>
    cases hp
    cases h with
    | inputDone =>
      refine .even (by simp) ?_
      show Deed.attempted old = Deed.performed (.ended (.input i) .done :: old)
      rw [Deed.performed, if_pos ho, he]
    | inputFailed => exact .failed (Or.inl ⟨_, _, rfl⟩) List.mem_cons_self he
    | inputBroke => exact absurd List.mem_cons_self (hb i)
    | atGate hp => rcases hp with hp | hp <;> cases hp
  | @failed i e hp hin he =>
    rcases hp with ⟨f', a, hp⟩ | ⟨ha, hd⟩
    · cases hp
      cases h with
      | raises => exact .failed (Or.inr ⟨rfl, rfl⟩) (List.mem_cons_of_mem _ hin) he
      | atGate hp => rcases hp with hp | hp <;> cases hp
    · cases h with
      | slotSet => exact .failed (Or.inr ⟨ha, rfl⟩) (List.mem_cons_of_mem _ hin) he
      | slotClear hn => rw [hn] at ha; cases ha
      | atGate hp => rcases hp with rfl | rfl <;> cases hd
      | _ => cases hd

theorem Attempts.between (ht : Attempts r.place r.session.abort old) (hp : r.place.inCall = false)
    (hd : r'.place.atDoor = true) (ha : Deed.attempted (ds ++ old) = Deed.attempted old)
    (hperf : Deed.performed (ds ++ old) = Deed.performed old)
    (hs : r.session.abort.isSome = true → r'.session.abort.isSome = true) :
    Attempts r'.place r'.session.abort (ds ++ old) := by
  cases ht with
  | even _ he =>
    refine .even (fun f i hq => ?_) (by rw [ha, hperf, he])
    rw [hq] at hd
    cases hd
  | acting hq => rw [hq] at hp; cases hp
  | failed hq hin he =>
    refine .failed (Or.inr ⟨?_, hd⟩) (List.mem_append_right _ hin) (by rw [ha, hperf, he])
    rcases hq with ⟨f, a, hq⟩ | ⟨hsome, _⟩
    · rw [hq] at hp
      cases hp
    · exact hs hsome

theorem Attempts.on_slot {q : Place} {slot slot' : Option AbortReason} (h : Attempts q slot old)
    (hs : slot.isSome = true → slot'.isSome = true) : Attempts q slot' old := by
  cases h with
  | even ha h => exact .even ha h
  | acting hp h => exact .acting hp h
  | failed hp hd h => exact .failed (hp.imp id fun ⟨hsome, hdoor⟩ => ⟨hs hsome, hdoor⟩) hd h

theorem WorkerStep.attempts (h : WorkerStep v r reply r' ds)
    (ho : Deed.underWay old = r.place.inCall)
    (hb : ∀ i, Deed.ended (.input i) .brokeDown ∉ ds)
    (ht : Attempts r.place r.session.abort old) :
    Attempts r'.place r'.session.abort (ds.reverse ++ old) := by
  rcases h.kinds with ⟨f, p, hp, hc⟩ | ⟨g, args, rfl⟩ | ⟨hc, hbt⟩
  · rw [hp] at ho ht
    exact hc.attempts ho hb ht
  · obtain ⟨hp, ⟨c, hc, rfl, rfl⟩ | ⟨e, he, rfl, rfl⟩⟩ := h.of_call
    · exact ht.between (by rw [hp]; rfl) rfl rfl rfl id
    · exact ht.between (by rw [hp]; rfl) rfl rfl rfl id
  · rw [hc] at ho
    have hbo := hbt old ho
    refine ht.between hc (Place.atDoor_of_not_inCall hbo.outside) ?_ ?_ ?_
    · rw [Deed.attempted, hbo.hostCalls, Deed.attempted]
    · exact (Deed.performed_append ho
        fun d hd => (hbo.quiet d (List.mem_reverse.1 hd)).1).2
    · intro hsome
      obtain ⟨a, ha⟩ := Option.isSome_iff_exists.1 hsome
      obtain ⟨b, hb, _⟩ := h.upgrade ha
      rw [hb]
      rfl

end

namespace System

/-! ## a run from its start on -/

section
variable {s s' : System} {m : Move} {i : RunId} {r r' : Run} {ds : List Deed} {calls : List Asked}
  {ms : List Move}

theorem tally_step (hs : s.Reachable) (hr : s.runs[i]? = some r)
    (h : Tally r.place r.session.index (s.deeds i) calls) (hstep : s.step? m = some s') :
    ∃ r', s'.runs[i]? = some r' ∧
      Tally r'.place r'.session.index (s'.deeds i) ((m.asked? i).toList ++ calls) := by
  rcases worked_or hstep hr with ⟨reply, r', ds, rfl, hr', hd, hw⟩ | ⟨hm, r', hr', hd, hc⟩
  · refine ⟨r', hr', ?_⟩
    rw [hd, Move.asked?, if_pos rfl]
    exact hw.tally (hs.tidy.bracket i r hr) h
  · have hn : m.asked? i = none := by
      cases m with
      | work j reply =>
        have hj : j ≠ i := by simpa [Move.isWorkOf] using hm
        rw [Move.asked?, if_neg hj]
      | _ => rfl
    obtain ⟨hp, hi, _⟩ := hc.unmoved hs.tidy hr hm
    refine ⟨r', hr', ?_⟩
    rw [hn, hd, hi]
    rcases hp with hp | ⟨hp, hp'⟩
    · rw [hp]
      exact h
    · rw [hp] at h
      rw [hp']
      exact h.goes rfl rfl rfl rfl (by simp) rfl rfl rfl

/-- the tally of a run, if there is such a run -/
def Tallies (s : System) (i : RunId) (calls : List Asked) : Prop :=
  (s.runs[i]? = none → calls = []) ∧
    ∀ r : Run, s.runs[i]? = some r → Tally r.place r.session.index (s.deeds i) calls

theorem Tallies.step (hs : s.Reachable) (h : s.Tallies i calls) (hstep : s.step? m = some s') :
    s'.Tallies i ((m.asked? i).toList ++ calls) := by
  cases hr : s.runs[i]? with
  | some r =>
    obtain ⟨r', hr', ht⟩ := tally_step hs hr (h.2 r hr) hstep
    refine ⟨fun hn => ?_, fun r₁ hr₁ => ?_⟩
    · rw [hr'] at hn
      cases hn
    · rw [hr'] at hr₁
      cases hr₁
      exact ht
  | none =>
    have hm : m.asked? i = none := by
      cases m with
      | work j reply =>
        obtain ⟨r, _, _, hr₁, _⟩ := work?_eq_some hstep
        have hj : j ≠ i := fun hj => by rw [hj, hr] at hr₁; cases hr₁
        rw [Move.asked?, if_neg hj]
      | _ => rfl
    obtain ⟨hd, hnew⟩ := newRun hstep hr
    rw [hm, h.1 hr]
    refine ⟨fun _ => rfl, fun r' hr' => ?_⟩
    rcases hnew with hn | ⟨script, options, total, hn⟩
    · rw [hn] at hr'
      cases hr'
    · rw [hn] at hr'
      cases hr'
      rw [hd, hs.tidy.blank i hr]
      exact ⟨⟨[], rfl, rfl, rfl⟩, rfl, rfl, by rintro f x ⟨⟩⟩

theorem Tallies.play (hs : s.Reachable) (h : s.Tallies i calls) (hp : s.play? ms = some s') :
    s'.Tallies i ((ms.filterMap (Move.asked? i)).reverse ++ calls) := by
  induction ms generalizing s calls with
  | nil =>
    cases hp
    exact h
  | cons m ms ih =>
    obtain ⟨s₁, h₁, h₂⟩ := exists_of_play?_cons hp
    have ht := ih (hs.step h₁) (h.step hs h₁) h₂
    cases ha : m.asked? i with
    | none =>
      rw [ha] at ht
      rw [List.filterMap_cons_none ha]
      exact ht
    | some a =>
      rw [ha] at ht
      rw [List.filterMap_cons_some ha, List.reverse_cons, List.append_assoc]
      exact ht

theorem Reachable.attempts (hs : s.Reachable) (hr : s.runs[i]? = some r)
    (hb : ∀ x, Deed.ended (.input x) .brokeDown ∉ s.deeds i) :
    Attempts r.place r.session.abort (s.deeds i) := by
  refine hs.every_run (P := fun r ds => (∀ x, Deed.ended (.input x) .brokeDown ∉ ds) →
    Attempts r.place r.session.abort ds) ?_ ?_ hr hb
  · intro s script options total _
    exact .even (by rintro f x ⟨⟩) rfl
  · intro s m i r r' ds hs hr hc h hb
    have hb' : ∀ x, Deed.ended (.input x) .brokeDown ∉ s.deeds i :=
      fun x hx => hb x (List.mem_append_right _ hx)
    have hold := h hb'
    have hslot : r.session.abort.isSome = true → r'.session.abort.isSome = true :=
      AbortReason.isSome_of_upgrade fun _ => hc.upgrade
    cases hc with
    | worked _ hw =>
      exact hw.attempts (hs.tidy.bracket i r hr)
        (fun x hx => hb x (List.mem_append_left _ (List.mem_reverse.2 hx))) hold
    | spawned _ _ hin =>
      have hu := hs.tidy.unborn_of_spawn hr hin
      exact hold.between (by rw [hu]; rfl) rfl rfl rfl hslot
    | _ => exact hold.on_slot hslot

/-! ## the count of a run -/

/-- one input at most has been begun in vain, and it was the last one -/
def Begun (s : System) (i : RunId) (p : Place) : Prop :=
  Deed.attempted (s.deeds i) = Deed.performed (s.deeds i) ∨
  ∃ x, Deed.attempted (s.deeds i) = .input x :: Deed.performed (s.deeds i) ∧
    ((∃ f, p = .call f (.acting x)) ∨ ∃ e, Deed.ended (.input x) (.failed e) ∈ s.deeds i)

/-- calls, inputs, count, progress and result of a run agree -/
structure Tallied (s : System) (i : RunId) (calls : List Asked) : Prop where
  answered : (s.replies i).length = calls.length
  performed : Deed.performed (s.deeds i) = granted calls (s.replies i)
  counted : s.indexOf? i = some (okays (s.replies i))
  shown : (s.progress i).reverse = List.range' 1 (okays (s.replies i))
  result : ∀ x, (s.placeOf? i).bind Place.result? = some x → x.operations = okays (s.replies i)

theorem tallied_of_tally (hs : s.Reachable) (hr : s.runs[i]? = some r) (hp : r.place.inCall = false)
    (h : Tally r.place r.session.index (s.deeds i) calls) : s.Tallied i calls := by
  obtain ⟨ho, hpend, hc, hu⟩ := Place.untallied hp
  obtain ⟨before, hb, hl, hperf⟩ := h.answers
  rw [ho, List.nil_append] at hb
  rw [hpend, List.nil_append] at hperf
  subst hb
  have hcount : okays (s.replies i) = r.session.index := by
    have hcount := h.count
    rw [hc, Nat.add_zero] at hcount
    exact hcount
  have hshown : s.progress i = (List.range' 1 r.session.index).reverse := by
    have hshown := h.shown
    rw [hu, List.nil_append] at hshown
    exact hshown
  refine ⟨hl.symm, hperf, ?_, ?_, fun x hx => ?_⟩
  · rw [indexOf?, hr, Option.map_some, hcount]
  · rw [hshown, List.reverse_reverse, hcount]
  · rw [placeOf?_of_run hr, Option.bind_some] at hx
    rw [hcount]
    exact ((hs.accounts hr).names x hx).2

theorem Reachable.begun (hs : s.Reachable) (hr : s.runs[i]? = some r)
    (hb : ∀ x, Deed.ended (.input x) .brokeDown ∉ s.deeds i) : s.Begun i r.place := by
  cases hs.attempts hr hb with
  | even _ he => exact Or.inl he
  | acting hp he => exact Or.inr ⟨_, he, Or.inl ⟨_, hp⟩⟩
  | failed _ hd he => exact Or.inr ⟨_, he, Or.inr ⟨_, hd⟩⟩

/-- **Whatever fails and whoever interferes: the inputs performed for a script are those of its
calls that were granted, in their order, each once; as many operations are counted, reported, and
published as calls were granted, one after the other; and after an input that failed no other one
is begun.** -/
theorem tallied_of_play {settings : Settings} {approvals : Approvals} {p : Place}
    (hp : (fresh settings approvals).play? ms = some s) (hplace : s.placeOf? i = some p) :
    ((∀ x, Deed.ended (.input x) .brokeDown ∉ s.deeds i) → s.Begun i p) ∧
      (p.inCall = false → s.Tallied i (ms.filterMap (Move.asked? i)).reverse) := by
  have hs : s.Reachable := ⟨settings, approvals, ms, hp⟩
  obtain ⟨r, hr, rfl⟩ := Option.map_eq_some_iff.1 hplace
  refine ⟨hs.begun hr, fun hout => ?_⟩
  have hfresh : (fresh settings approvals).Tallies i [] :=
    ⟨fun _ => rfl, fun r hr => by simp [fresh] at hr⟩
  have ht := hfresh.play ⟨settings, approvals, [], rfl⟩ hp
  rw [List.append_nil] at ht
  exact tallied_of_tally hs hr hout (ht.2 r hr)

/-- one key goes down, a call cannot be read, another key cannot be pressed, and the call after that
is refused -/
theorem tallied_of_play_failed :
    let ms : List Move := [.request (.start ⟨"s", "s", ""⟩ {}), .proceed 0 .go,
      .proceed 0 (.provision (.ok ()))] ++ List.replicate 5 (.proceed 0 .go) ++
      List.replicate 11 (.work 0 (.stage .ready)) ++
      carried .keyDown [.str "a"] ++ .work 0 (.script (.call .keyDown [.int 1])) ::
      .work 0 (.script (.call .keyDown [.str "b"])) :: List.replicate 7 (.work 0 .go) ++
      [.work 0 (.device (.failed ⟨"d", "stuck"⟩)), .work 0 .go,
        .work 0 (.script (.call .mouseDown [])), .work 0 .go,
        .work 0 (.script (.finish .completed)), .work 0 .go, .work 0 (.device .done)] ++
      List.replicate 3 (.work 0 .go)
    let s := (fresh { limits := ⟨none, none⟩ } {}).after ms
    let p := (s.placeOf? 0).getD .unborn
    p.result?.map (·.operations) = some 1 ∧
      Deed.attempted (s.deeds 0) = [.input (.key "b" true), .input (.key "a" true)] ∧
      (s.replies 0).length = 4 ∧ okays (s.replies 0) = 1 ∧
      s.Begun 0 p ∧ s.Tallied 0 (ms.filterMap (Move.asked? 0)).reverse := by
  intro ms s p
  have hp : (fresh { limits := ⟨none, none⟩ } {}).play? ms = some s :=
    play?_after (by decide +kernel)
  have hplace : s.placeOf? 0 = some p := by decide +kernel
  have hb : ∀ x, Deed.ended (.input x) .brokeDown ∉ s.deeds 0 := by
    intro x hx
    have hnone : (s.deeds 0).any Deed.breaks = false := by decide +kernel
    exact absurd (List.any_eq_true.2 ⟨_, hx, rfl⟩) (by rw [hnone]; simp)
  obtain ⟨hbegun, htallied⟩ := tallied_of_play hp hplace
  exact ⟨by decide +kernel, by decide +kernel, by decide +kernel, by decide +kernel, hbegun hb,
    htallied (by decide +kernel)⟩

end

end System

end ScriptGuard
