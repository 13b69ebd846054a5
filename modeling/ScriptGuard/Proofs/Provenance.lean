import ScriptGuard.Proofs.Arbitration

/-!
# Where aborts come from

Calls and interrupt checks give aborts to the script in several ways.  Whichever it is, the slot of
the session held this very reason in the section in which the abort came about, also if the worker
had come across another one.

* `Run.Meets`        what a worker comes across that keeps it from going on;
* `Stride.TurnsBack` the pause gate turns a call back;
* `Stride.Arises`    how an abort came about, one constructor for each way, and in which stride;
* `System.Rooted`    what a worker is about to hand in, or to give back, stems from its latest
                     stride;
* `System.Backed`    a history in which all aborts are backed by the slot;
* `backed_of_play`   every history is such a one.
-/

namespace ScriptGuard

/-- the worker is about to hand in a reason, for a call or else for an interrupt check -/
def Place.raising : Option Frame → AbortReason → Place
  | some f, a => .call f (.raise a)
  | none, a => .polling (.raise a)

/-- a worker comes across something that keeps it from going on, in a call or else in an interrupt
check: it is about to hand in this reason -/
inductive Run.Meets (r : Run) (v : View) : Reply → Option Frame → AbortReason → Prop
  | killSwitch {f : Frame} {k : Resume} {reason : String} (hp : r.place = .call f (.switch k))
      (hk : v.killed = some reason) : Meets r v .go (some f) (.killSwitch reason)
  | limit {f : Frame} {k : Resume} {x : Violation} (hp : r.place = .call f (.limits k))
      (hx : v.settings.limits.check r.session.index (r.session.elapsed v.now) = some x) :
      Meets r v .go (some f) (.failure (.limit x))
  | nobody {f : Frame} {c : Category} {cs : List Category} (hp : r.place = .call f (.seek c cs))
      (hh : v.handler = false) : Meets r v .go (some f) (.failure (.denied c))
  | denied {f : Frame} {c : Category} {cs : List Category} {a : Verdict}
      (hp : r.place = .call f (.asking c cs)) (ha : a.grants = false) :
      Meets r v (.verdict a) (some f) (.failure (.denied c))
  | wait {f : Frame} {d rest : Duration} {e : DeviceError}
      (hp : r.place = .call f (.waiting d rest)) :
      Meets r v (.device (.failed e)) (some f) (.failure (.device f.function.name e.text))
  | input {f : Frame} {i : Input} {e : DeviceError} (hp : r.place = .call f (.acting i)) :
      Meets r v (.device (.failed e)) (some f) (.failure (.device f.function.name e.text))
  | interrupt {reason : String} (hp : r.place = .polling .switch) (hk : v.killed = some reason) :
      Meets r v .go none (.killSwitch reason)

/-! ## one step -/

section
variable {v : View} {r r' : Run} {f : Frame} {p : CallPoint} {reply : Reply} {ds : List Deed}
  {a : AbortReason}

theorem CallStep.meets (h : CallStep v r f p reply r' ds) (hr : r.place = .call f p)
    {o : Option Frame} (hp : r'.place = .raising o a) : r.Meets v reply o a := by
  cases o with
  | none =>
    cases h with
    | atGate _ h => cases h <;> cases hp
    | _ => cases hp
  | some g =>
    cases h with
    | switchOn hk =>
      cases hp
      exact .killSwitch hr hk
    | overLimit hx =>
      cases hp
      exact .limit hr hx
    | nobody hh =>
      cases hp
      exact .nobody hr hh
    | denied ha =>
      cases hp
      exact .denied hr ha
    | sliceFailed =>
      cases hp
      exact .wait hr
    | inputFailed =>
      cases hp
      exact .input hr
    | @atGate _ k _ _ _ _ h =>
      cases h with
      | passes => cases k <;> cases hp
      | _ => cases hp
    | @announced k => cases k <;> cases hp
    | _ => cases hp

theorem Place.raising_ne {q : Place} {o : Option Frame} (h : q.isStage = true) :
    q ≠ .raising o a := by
  rintro rfl
  cases o <;> cases h

/-- a worker that is about to hand a reason in has just come across it -/
theorem WorkerStep.meets (h : WorkerStep v r reply r' ds) {o : Option Frame}
    (hp : r'.place = .raising o a) : r.Meets v reply o a := by
  cases h with
  | call hr h => exact h.meets hr hp
  | staged _ hn => exact absurd hp (Place.raising_ne hn)
  | pollOn hr hk =>
    cases o with
    | none =>
      cases hp
      exact .interrupt hr hk
    | some g => cases hp
  | _ => cases o <;> cases hp

/-- a call that has still to publish a pause before it gives an abort back comes from the gate -/
theorem WorkerStep.turnsBack (h : WorkerStep v r reply r' ds) {k : Resume}
    (hp : r'.place = .call f (.announce k (some a))) :
    ∃ q shown paused, r.place = .call f q ∧ q.AtGate k shown ∧
      r.session.GateMove v.killed f.holds v.now (.aborted a) paused r'.session := by
  cases h with
  | call hr h =>
    cases h with
    | @atGate _ j shown _ _ hg h =>
      cases h with
      | abortsShown hm =>
        cases hp
        exact ⟨_, shown, _, hr, hg, hm⟩
      | passes => cases j <;> cases hp
      | _ => cases hp
    | @announced j => cases j <;> cases hp
    | _ => cases hp
  | staged _ hn =>
    obtain rfl := hp
    cases hn
  | _ => cases hp

end

/-! ## strides -/

namespace Stride

/-- with the stride an abort is given to the script of the run -/
def Gives (x : Stride) (i : RunId) (a : AbortReason) : Prop :=
  ∃ ds, x.after.deeds i = ds ++ x.before.deeds i ∧ a ∈ ds.filterMap Deed.given?

/-- the worker of the run comes across something in the stride -/
def Meets (x : Stride) (i : RunId) (o : Option Frame) (a : AbortReason) : Prop :=
  ∃ r reply, x.before.runs[i]? = some r ∧ x.move = .work i reply ∧
    r.Meets x.before.view reply o a

/-- in the stride the pause gate turns a call of the run back, with what its slot holds once the
reason of an engaged kill switch has been put in -/
structure TurnsBack (x : Stride) (i : RunId) (f : Frame) (k : Resume) (a : AbortReason) : Prop where
  gate : ∃ p shown, x.before.placeOf? i = some (.call f p) ∧ p.AtGate k shown
  reason : AbortReason.mergeAll (x.before.slot? i)
    (x.before.killSwitch.poll.map AbortReason.killSwitch).toList = some a

/-- the latest of the strides that the worker of the run has taken -/
def latest? (i : RunId) (past : List Stride) : Option Stride :=
  (past.filter fun x => x.move.isWorkOf i).getLast?

/-- how an abort that is given to the script in the stride `x` came about, after the strides `past`;
the last one is the stride whose section it comes from -/
inductive Arises (i : RunId) (past : List Stride) (x : Stride) (a : AbortReason) : Stride → Prop
  /-- a call finds the slot set -/
  | slot {f : Frame} {k : Resume} (hp : x.before.placeOf? i = some (.call f (.slot k)))
      (ha : x.before.slot? i = some a) : Arises i past x a x
  /-- an interrupt check finds it set -/
  | interrupt (hp : x.before.placeOf? i = some (.polling .slot))
      (ha : x.before.slot? i = some a) : Arises i past x a x
  /-- the gate turns a call back -/
  | gate {f : Frame} {k : Resume} (hg : x.TurnsBack i f k a) : Arises i past x a x
  /-- it has done so in the stride before, and the pause that the call has made is published now -/
  | published {y : Stride} {f : Frame} {k : Resume} (hy : latest? i past = some y)
      (hg : y.TurnsBack i f k a)
      (hp : x.before.placeOf? i = some (.call f (.announce k (some a)))) : Arises i past x a y
  /-- the worker hands in what it came across in the stride before, and is told what prevails -/
  | handedIn {y : Stride} {o : Option Frame} {b : AbortReason} (hy : latest? i past = some y)
      (hm : y.Meets i o b) (hp : x.before.placeOf? i = some (.raising o b))
      (ha : a = AbortReason.merge (x.before.slot? i) b) : Arises i past x a x

section
variable {i : RunId} {past : List Stride} {x : Stride}

theorem latest?_own (hx : x.move.isWorkOf i = true) : latest? i (past ++ [x]) = some x := by
  simp [latest?, List.filter_append, hx]

theorem latest?_other (hx : x.move.isWorkOf i = false) :
    latest? i (past ++ [x]) = latest? i past := by
  simp [latest?, List.filter_append, hx]

theorem mem_of_latest? {y : Stride} (hy : latest? i past = some y) : y ∈ past :=
  List.mem_of_mem_filter (List.mem_of_getLast? hy)

/-- the section lies in the stride itself or in an earlier one -/
theorem Arises.mem {y : Stride} {a : AbortReason} (h : x.Arises i past a y) :
    y ∈ past ++ [x] := by
  cases h with
  | published hy => exact List.mem_append_left _ (mem_of_latest? hy)
  | _ => simp

end

end Stride

namespace System

section
variable {s s' : System} {m : Move} {i : RunId} {ms : List Move} {r r' : Run}
  {past rest : List Stride} {x : Stride} {a b : AbortReason} {ds : List Deed}
  {reply : Reply}

/-! ## what a worker is about to do -/

/-- what the worker of a run is about to hand in or to give back stems from its latest stride -/
structure Rooted (i : RunId) (past : List Stride) (s : System) : Prop where
  meets : ∀ o a, s.placeOf? i = some (.raising o a) →
    ∃ y, Stride.latest? i past = some y ∧ y.Meets i o a
  turned : ∀ f k a, s.placeOf? i = some (.call f (.announce k (some a))) →
    ∃ y, Stride.latest? i past = some y ∧ y.TurnsBack i f k a ∧ y.after.slot? i = some a

theorem Rooted.of_idle (h : ∀ p, s.placeOf? i = some p → p = .unborn ∨ p = .creating) :
    Rooted i past s where
  meets := fun o a hp => by
    rcases h _ hp with hu | hu <;> cases o <;> cases hu
  turned := fun f k a hp => by
    rcases h _ hp with hu | hu <;> cases hu

theorem turnsBack_of_aborted {f : Frame} {q : CallPoint} {k : Resume} {shown holds paused : Bool}
    {now : Nat} {x : Session} (hr : s.runs[i]? = some r) (hp : r.place = .call f q)
    (hg : q.AtGate k shown)
    (hm : r.session.GateMove s.view.killed holds now (.aborted a) paused x) (m : Move)
    (s' : System) : Stride.TurnsBack ⟨s, m, s'⟩ i f k a where
  gate := ⟨q, shown, by rw [placeOf?_of_run hr, hp], hg⟩
  reason := by
    rw [slot?_of_run hr]
    exact hm.slot.symm.trans hm.abort_of_aborted

theorem Rooted.own (hr : s.runs[i]? = some r) (hr' : s'.runs[i]? = some r')
    (hw : WorkerStep s.view r reply r' ds) : Rooted i (past ++ [⟨s, .work i reply, s'⟩]) s' := by
  have hown : Move.isWorkOf i (.work i reply) = true := by simp [Move.isWorkOf]
  refine ⟨fun o a hp => ?_, fun f k a hp => ?_⟩
  · rw [placeOf?_of_run hr'] at hp
    exact ⟨_, Stride.latest?_own hown, r, reply, hr, rfl, hw.meets (Option.some.inj hp)⟩
  · rw [placeOf?_of_run hr'] at hp
    obtain ⟨q, shown, paused, hq, hg, hm⟩ := hw.turnsBack (Option.some.inj hp)
    exact ⟨_, Stride.latest?_own hown, turnsBack_of_aborted hr hq hg hm _ _,
      (slot?_of_run hr').trans hm.abort_of_aborted⟩

theorem Rooted.step (ht : s.Tidy) (h : Rooted i past s) (hstep : s.step? m = some s') :
    Rooted i (past ++ [⟨s, m, s'⟩]) s' := by
  rcases place_cases ht hstep i with ⟨r, reply, r', ds, hr, rfl, hr', hw⟩ | ⟨hm, hp⟩ | hidle
  · exact .own hr hr' hw
  · have hlatest : Stride.latest? i (past ++ [⟨s, m, s'⟩]) = Stride.latest? i past :=
      Stride.latest?_other hm
    exact ⟨by rw [hlatest, hp]; exact h.meets, by rw [hlatest, hp]; exact h.turned⟩
  · exact .of_idle hidle

theorem rooted_play {settings : Settings} {approvals : Approvals}
    (h : (fresh settings approvals).play? ms = some s) (i : RunId) :
    Rooted i ((fresh settings approvals).trace ms) s := by
  refine (trace_induction (P := fun past t => t.Reachable ∧ Rooted i past t) ?_
    ⟨⟨settings, approvals, [], rfl⟩, .of_idle fun p hp => ?_⟩ h).2
  · rintro past t t' m ⟨hs, hP⟩ hstep
    exact ⟨hs.step hstep, hP.step hs.tidy hstep⟩
  · simp [placeOf?, fresh] at hp

/-! ## where an abort comes from -/

/-- an abort that a stride gives to the script stood in the slot in the section it comes from -/
theorem Rooted.arises (h : Rooted i past s) (hr : s.runs[i]? = some r)
    (hr' : s'.runs[i]? = some r') (hw : WorkerStep s.view r reply r' ds)
    (ha : a ∈ ds.filterMap Deed.given?) :
    ∃ y, Stride.Arises i past ⟨s, .work i reply, s'⟩ a y ∧ y.after.slot? i = some a := by
  have hplace := placeOf?_of_run hr
  have hslot := slot?_of_run hr
  have hslot' := slot?_of_run hr'
  cases hw with
  | call hp hc =>
    rw [hp] at hplace
    cases hc with
    | slotSet hs =>
      cases List.mem_singleton.1 ha
      exact ⟨_, .slot hplace (hslot.trans hs), hslot'.trans hs⟩
    | atGate hg hgate =>
      cases hgate with
      | aborts hm =>
        cases List.mem_singleton.1 ha
        exact ⟨_, .gate (turnsBack_of_aborted hr hp hg hm _ _), hslot'.trans hm.abort_of_aborted⟩
      | _ => cases ha
    | announcedStop =>
      cases List.mem_singleton.1 ha
      obtain ⟨y, hy, hback, hheld⟩ := h.turned _ _ _ hplace
      exact ⟨y, .published hy hback hplace, hheld⟩
    | @raises b =>
      cases List.mem_singleton.1 ha
      obtain ⟨y, hy, hm⟩ := h.meets (some _) b hplace
      exact ⟨_, .handedIn hy hm hplace (by rw [hslot]), hslot'⟩
    | _ => cases ha
  | pollSet hp hs =>
    rw [hp] at hplace
    cases List.mem_singleton.1 ha
    exact ⟨_, .interrupt hplace (hslot.trans hs), hslot'.trans hs⟩
  | @pollRaises b hp =>
    rw [hp] at hplace
    cases List.mem_singleton.1 ha
    obtain ⟨y, hy, hm⟩ := h.meets none b hplace
    exact ⟨_, .handedIn hy hm hplace (by rw [hslot]), hslot'⟩
  | remembers => split at ha <;> cases ha
  | _ => cases ha

theorem Rooted.gives (h : Rooted i past s) (hstep : s.step? m = some s')
    (hg : Stride.Gives ⟨s, m, s'⟩ i a) :
    ∃ y, Stride.Arises i past ⟨s, m, s'⟩ a y ∧ y.after.slot? i = some a := by
  obtain ⟨ds, hds, ha⟩ := hg
  have hstill (hd : s'.deeds i = s.deeds i) : ds = [] :=
    List.append_left_eq_self.1 (hds.symm.trans hd)
  cases hr : s.runs[i]? with
  | none =>
    rw [hstill (newRun hstep hr).1] at ha
    cases ha
  | some r =>
    rcases worked_or hstep hr with ⟨reply, r', ds', rfl, hr', hd, hw⟩ | ⟨_, _, _, hd, _⟩
    · obtain rfl : ds = ds'.reverse := List.append_cancel_right (hds.symm.trans hd)
      rw [List.filterMap_reverse, List.mem_reverse] at ha
      exact h.arises hr hr' hw ha
    · rw [hstill hd] at ha
      cases ha

/-- **An abort that is given to the script stood in the slot in the section it comes from.** -/
theorem exists_arises {settings : Settings} {approvals : Approvals}
    (h : (fresh settings approvals).trace ms = past ++ x :: rest) (hg : x.Gives i a) :
    ∃ y, x.Arises i past a y ∧ y.after.slot? i = some a := by
  obtain ⟨ms₁, ms₂, _, htrace, hplay, hstep⟩ := exists_of_trace_eq_append h
  have hrooted := rooted_play hplay i
  rw [htrace] at hrooted
  exact hrooted.gives hstep hg

/-! ## what the script is given -/

theorem exists_gives {s₀ : System} (hn : s₀.deeds i = []) (h : s₀.play? ms = some s)
    (ha : a ∈ (s.deeds i).filterMap Deed.given?) : ∃ x ∈ s₀.trace ms, x.Gives i a := by
  refine trace_induction (P := fun past t => a ∈ (t.deeds i).filterMap Deed.given? →
    ∃ x ∈ past, x.Gives i a) ?_ (fun ha => ?_) h ha
  · intro past t t' m ih hstep ha
    obtain ⟨es, hlog, _⟩ := log_step hstep
    have hdeeds : t'.deeds i = es.filterMap (Entry.deedOf i) ++ t.deeds i := by
      rw [deeds, hlog, List.filterMap_append, deeds]
    rw [hdeeds, List.filterMap_append] at ha
    rcases List.mem_append.1 ha with ha | ha
    · exact ⟨⟨t, m, t'⟩, by simp, _, hdeeds, ha⟩
    · obtain ⟨x, hx, hg⟩ := ih ha
      exact ⟨x, List.mem_append_left _ hx, hg⟩
  · rw [hn] at ha
    cases ha

/-- what has been given to the script stays in the slot, or has given way to something higher -/
theorem slot_of_given (hs : s.Reachable) (ha : a ∈ (s.deeds i).filterMap Deed.given?) :
    ∃ b, s.slot? i = some b ∧ AbortReason.Upgrade a b := by
  obtain ⟨settings, approvals, ms, h⟩ := hs
  obtain ⟨x, hx, hg⟩ := exists_gives rfl h ha
  obtain ⟨past, rest, htrace⟩ := List.append_of_mem hx
  obtain ⟨y, hy, hheld⟩ := exists_arises htrace hg
  have hmem : y ∈ (fresh settings approvals).trace ms := by
    rw [htrace, ← List.singleton_append, ← List.append_assoc]
    exact List.mem_append_left _ hy.mem
  obtain ⟨ms₁, ms₂, rfl, hplay, hstep⟩ := exists_of_mem_trace hmem
  rw [play?_append, hplay, Option.bind_some, play?_cons, hstep, Option.bind_some] at h
  exact slot_play hheld h

/-- the slot of a run whose script has come to its end with an abort holds it, or something
higher -/
def Vouched (i : RunId) (s : System) : Prop :=
  ∀ p a, s.placeOf? i = some p → p.ending? = some (.script (.aborted a)) →
    ∃ b, s.slot? i = some b ∧ AbortReason.Upgrade a b

theorem Vouched.step (hs : s.Reachable) (h : s.Vouched i) (hm : ¬ s.invents i m = true)
    (hstep : s.step? m = some s') : s'.Vouched i := by
  intro p a hp he
  have hlater (hb : ∃ b, s.slot? i = some b ∧ AbortReason.Upgrade a b) :
      ∃ c, s'.slot? i = some c ∧ AbortReason.Upgrade a c := by
    obtain ⟨b, hb, hab⟩ := hb
    obtain ⟨c, hc, hbc⟩ := slot_step hb hstep
    exact ⟨c, hc, hab.trans hbc⟩
  rcases place_cases hs.tidy hstep i with ⟨r, reply, r', ds, hr, rfl, hr', hw⟩ | ⟨_, hplace⟩ | hidle
  · rw [placeOf?_of_run hr'] at hp
    cases hp
    rcases hw.of_ending he with he | rfl
    · exact hlater (h r.place a (placeOf?_of_run hr) he)
    · -- the script hands in what it has been given
      have hgiven : a ∈ (s.deeds i).filterMap Deed.given? := by
        simpa [invents, List.mem_filterMap] using hm
      exact hlater (slot_of_given hs hgiven)
  · rw [hplace] at hp
    exact hlater (h p a hp he)
  · rcases hidle p hp with rfl | rfl <;> cases he

theorem vouched_play {settings : Settings} {approvals : Approvals}
    (hc : Candid i (fresh settings approvals) ms)
    (h : (fresh settings approvals).play? ms = some s) : s.Vouched i := by
  refine ((Throughout.of_without (P := fun t => t.Reachable ∧ t.Vouched i) ?_
    ⟨⟨settings, approvals, [], rfl⟩, fun p a hp => ?_⟩ hc).last h).2
  · rintro t t' m ⟨hs, ht⟩ hm hstep
    exact ⟨hs.step hstep, ht.step hs hm hstep⟩
  · simp [placeOf?, fresh] at hp

theorem slot?_handIn (h : s.step? m = some s') (hr : s.runs[i]? = some r)
    (hb : s.requested? i m = some b) : s'.slot? i = (r.session.handIn b).2.abort := by
  have hmerges : s'.slot? i = _ := merges_step h i
  rw [hmerges, hb, slot?_of_run hr, Session.handIn_eq]
  rfl

/-! ## histories -/

/-- all aborts of a run are backed by its slot, in the history of the moves `ms` from `s` to `s'` -/
structure Backed (s : System) (i : RunId) (ms : List Move) (s' : System) : Prop where
  /-- the slot held what is given to the script in the section it comes from -/
  given : ∀ past x rest a, s.trace ms = past ++ x :: rest → x.Gives i a →
    ∃ y, x.Arises i past a y ∧ y.after.slot? i = some a
  /-- whoever hands a reason in leaves a set slot behind, and is told what it holds -/
  told : ∀ x ∈ s.trace ms, ∀ r b, x.before.runs[i]? = some r →
    x.before.requested? i x.move = some b →
    x.after.slot? i = (r.session.handIn b).2.abort ∧
      (r.session.handIn b).2.abort = some (r.session.handIn b).1
  /-- when the worker is about to look into the slot after a script that has ended with an abort,
  and has not made it up, the slot is not empty -/
  ends : Candid i s ms → ∀ a, s'.placeOf? i = some (.finishing (.script (.aborted a))) →
    ∃ b, s'.slot? i = some b ∧ AbortReason.Upgrade a b

/-- **Every abort is backed by the slot.**  What a call or an interrupt check gives to the script
stood there in the section it comes from, whatever way it came and whatever was there before; so a
script that makes no abort up does not end with one while the slot is empty. -/
theorem backed_of_play {settings : Settings} {approvals : Approvals}
    (h : (fresh settings approvals).play? ms = some s) (i : RunId) :
    (fresh settings approvals).Backed i ms s where
  given := fun _ _ _ _ htrace hg => exists_arises htrace hg
  told := fun _ hx r b hr hb =>
    ⟨slot?_handIn (step?_of_mem_trace hx) hr hb, r.session.handIn_abort b⟩
  ends := fun hc a hp => vouched_play hc h _ a hp rfl

/-- a history of a run that is about to type text: while the handler is asked, the kill switch is
turned on and comes to the run; the handler says no, and the script ends with what it is given -/
def overruled : List Move :=
  [Move.request (.install true), .proceed 0 .go, .request (.start ⟨"s", "s", ""⟩ {}),
    .proceed 1 .go, .proceed 1 (.provision (.ok ()))] ++
  List.replicate 5 (Move.proceed 1 .go) ++ List.replicate 11 (Move.work 0 (.stage .ready)) ++
  [Move.work 0 (.script (.call .typeText [.str "hi"]))] ++ List.replicate 6 (Move.work 0 .go) ++
  [Move.request (.activate "k"), .proceed 2 .go, .proceed 2 .go, .proceed 2 .go,
    .work 0 (.verdict .denied), .work 0 .go,
    .work 0 (.script (.finish (.aborted (.killSwitch "k")))), .work 0 .go]

/-- the call hands in that it was denied, and is given the kill switch, which came first -/
theorem backed_of_play_overruled :
    let s₀ := fresh {} {}
    let s := s₀.after overruled
    s₀.play? overruled = some s ∧ Candid 0 s₀ overruled ∧
      s₀.requested 0 overruled = [.killSwitch "k", .failure (.denied .textInjection)] ∧
      s.replies 0 = [(.typeText, .error (.abort (.killSwitch "k")))] ∧
      s.placeOf? 0 = some (.finishing (.script (.aborted (.killSwitch "k")))) ∧
      s₀.Backed 0 overruled s ∧
      ∃ b, s.slot? 0 = some b ∧ AbortReason.Upgrade (.killSwitch "k") b := by
  intro s₀ s
  have hplay : s₀.play? overruled = some s := play?_after (by decide +kernel)
  have hc : Candid 0 s₀ overruled := by
    unfold Candid
    decide +kernel
  have hp : s.placeOf? 0 = some (.finishing (.script (.aborted (.killSwitch "k")))) := by
    decide +kernel
  have hbacked := backed_of_play hplay 0
  exact ⟨hplay, hc, by decide +kernel, by decide +kernel, hp, hbacked, hbacked.ends hc _ hp⟩

end

end System

end ScriptGuard
