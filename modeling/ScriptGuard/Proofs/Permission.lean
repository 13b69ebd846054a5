import ScriptGuard.Proofs.Shutdown

/-!
# Approvals stand before every operation

What a host call requires is looked up twice: among what its run has been cleared for, and among
the approvals of the process.  A run is cleared for nothing that is not approved, and approvals are
never lost.

* `Requires x o g c`          a call of `g` in a run with the options `o` requires the category `c`;
* `CallPoint.uncleared`       the categories that a call has still to be cleared for;
* `Reachable.has_of_cleared`  what a run has been cleared for is approved, and stays so;
* `has_of_hostCalls`          so a call does nothing outside unless all it requires is approved;
* `approves_of_has`           approvals come from those who ask for that and from the handler;
* `exists_request`            left to itself, a request for an approval does in steps what
                              `Approvals.request` does at once, and so does a call
                              (`requests_permit`).
-/

namespace ScriptGuard

/-- the categories a call requires: one for text, and one for any call of a fast run -/
inductive Requires (x : Settings) (o : Options) : HostFunction → Category → Prop
  | text : Requires x o .typeText .textInjection
  | rapid {g : HostFunction} (h : x.rapidThreshold < o.speed) : Requires x o g .rapidInput

theorem HostFunction.text_of_read? {args : List HostValue} {c : HostCall}
    (h : HostFunction.typeText.read? args = .ok c) : ∃ t, c = .input (.text t) := by
  simp only [HostFunction.read?] at h
  cases hs : Argument.string? args 1 HostFunction.typeText.name with
  | error e => rw [hs] at h; cases h
  | ok t =>
    rw [hs] at h
    cases h
    exact ⟨t, rfl⟩

theorem Requires.mem_needed {x : Settings} {r : Run} {g : HostFunction} {args : List HostValue}
    {call : HostCall} {c : Category} (h : Requires x r.session.options g c)
    (hc : g.read? args = .ok call) : c ∈ r.needed x call := by
  cases h with
  | text =>
    obtain ⟨t, rfl⟩ := HostFunction.text_of_read? hc
    simp [Run.needed]
  | rapid h => simp [Run.needed, h]

/-- the category that a deed adds to the approvals -/
def Deed.approved? : Deed → Option Category
  | .granted c => some c
  | _ => none

/-! ## the checks of a call -/

def Resume.uncleared : Resume → Option (List Category)
  | .opening => none
  | .between _ => some []

/-- the categories that a call has still to be cleared for; before it looks at its first one, and on
its way out, nothing is said -/
def CallPoint.uncleared : CallPoint → Option (List Category)
  | .slot k | .switch k | .limits k | .gate k _ | .parked k _ | .announce k _ => k.uncleared
  | .permit cs => some cs
  | .seek c cs | .asking c cs | .grant c cs => some (c :: cs)
  | .raise _ => none
  | _ => some []

/-- the call is about to look into the slot -/
def CallPoint.atSlot : CallPoint → Bool
  | .slot _ => true
  | _ => false

/-- at the gate nothing is recorded but that the kill switch is engaged -/
theorem Session.GateMove.dire {s s' : Session} {killed : Option String} {holds paused : Bool}
    {now : Nat} {verdict : GateVerdict} (h : s.GateMove killed holds now verdict paused s')
    (hd : AbortReason.Dire s.abort) : AbortReason.Dire s'.abort := by
  cases h with
  | aborts =>
    cases killed with
    | none => exact hd
    | some reason => exact AbortReason.dire_merge (Nat.le_succ 2)
  | _ => exact hd

/-- a call has been cleared for what it needs, up to what it has still to look at -/
def Run.Clears (x : Settings) (r : Run) : Prop :=
  ∀ f p cs, r.place = .call f p → p.uncleared = some cs →
    ∀ c ∈ r.needed x f.call, c ∈ cs ∨ c ∈ r.cleared

section
variable {v : View} {r r' : Run} {f : Frame} {p : CallPoint} {reply : Reply} {ds old : List Deed}

theorem Run.needed_congr {x : Settings} (h : r'.session.options = r.session.options)
    (c : HostCall) : r'.needed x c = r.needed x c := by
  unfold Run.needed
  rw [h]

/-- a step of a call that leaves nothing out keeps it cleared -/
theorem Run.Clears.onward {x : Settings} {f' : Frame} {q : CallPoint} (hc : r.Clears x)
    (hp : r.place = .call f p) (hq : r'.place = .call f' q) (hf : f'.call = f.call)
    (ho : r'.session.options = r.session.options) (hs : r.cleared ⊆ r'.cleared)
    (hu : ∀ cs', q.uncleared = some cs' →
      ∃ cs, p.uncleared = some cs ∧ ∀ c ∈ cs, c ∈ cs' ∨ c ∈ r'.cleared) : r'.Clears x := by
  intro g q' cs' hg hcs' c hin
  rw [hq] at hg
  cases hg
  obtain ⟨cs, hcs, hsub⟩ := hu cs' hcs'
  rw [Run.needed_congr ho, hf] at hin
  rcases hc f p cs hp hcs c hin with h | h
  · exact hsub c h
  · exact Or.inr (hs h)

theorem Run.Clears.of_not_inCall {x : Settings} (h : r.place.inCall = false) : r.Clears x := by
  intro f p cs hp
  rw [hp] at h
  cases h

/-- a call that has passed the gate has everything still to look at, or it had looked before -/
theorem Run.Clears.passed {x : Settings} {holds : Bool} {k : Resume} {s : Session} {q : CallPoint}
    (hc : r.Clears x) (hp : r.place = .call f p) (hk : p.uncleared = k.uncleared)
    (ho : s.options = r.session.options)
    (hr : r' = { r with session := s, place := .call { f with holds := holds } q })
    (hq : q = .announce k none ∨
      q = ({ r with session := s } : Run).passed x { f with holds := holds } k) :
    r'.Clears x := by
  subst hr
  rcases hq with rfl | rfl
  · exact hc.onward hp rfl rfl ho (fun _ h => h) fun cs h => ⟨cs, hk.trans h, fun _ => Or.inl⟩
  · cases k with
    | opening =>
      intro g q' cs' hg hcs' c hin
      cases hg
      cases hcs'
      exact Or.inl hin
    | between d =>
      exact hc.onward hp rfl rfl ho (fun _ h => h) fun cs h => ⟨cs, hk.trans h, fun _ => Or.inl⟩

theorem GateStep.clears {k : Resume} {shown : Bool} (h : GateStep v r f k shown r' ds)
    (hc : r.Clears v.settings) (hp : r.place = .call f p) (hk : p.uncleared = k.uncleared) :
    r'.Clears v.settings := by
  cases h with
  | parks hg =>
    exact hc.onward hp rfl rfl hg.options_eq (fun _ h => h) fun cs h =>
      ⟨cs, hk.trans h, fun _ => Or.inl⟩
  | passes hg => exact hc.passed hp hk hg.options_eq rfl (Or.inr rfl)
  | passesShown hg => exact hc.passed hp hk hg.options_eq rfl (Or.inl rfl)
  | aborts => exact .of_not_inCall rfl
  | abortsShown hg =>
    exact hc.onward hp rfl rfl hg.options_eq (fun _ h => h) fun cs h =>
      ⟨cs, hk.trans h, fun _ => Or.inl⟩

theorem CallStep.clears (h : CallStep v r f p reply r' ds) (hp : r.place = .call f p)
    (hc : r.Clears v.settings) : r'.Clears v.settings := by
  cases h with
  | atGate hg h =>
    refine h.clears hc hp ?_
    rcases hg with rfl | rfl <;> rfl
  | @announced k =>
    exact hc.passed (s := r.session) hp rfl rfl rfl (Or.inr rfl)
  | cleared hin =>
    refine hc.onward hp rfl rfl rfl (fun _ h => h) ?_
    rintro _ ⟨⟩
    refine ⟨_, rfl, fun c h => ?_⟩
    rcases List.mem_cons.1 h with rfl | h
    · exact Or.inr hin
    · exact Or.inl h
  | approved | grants =>
    refine hc.onward hp rfl rfl rfl (fun _ h => List.mem_cons_of_mem _ h) ?_
    rintro _ ⟨⟩
    refine ⟨_, rfl, fun c h => ?_⟩
    rcases List.mem_cons.1 h with rfl | h
    · exact Or.inr List.mem_cons_self
    · exact Or.inl h
  | repauses =>
    exact hc.onward hp rfl rfl (Session.repause_options _) (fun _ h => h) fun cs h =>
      ⟨cs, h, fun _ => Or.inl⟩
  | slotSet | announcedStop | sliceBroke | inputBroke | progress | repaused | raises =>
    exact .of_not_inCall rfl
  | switchOn | overLimit | nobody | denied | sliceFailed | inputFailed =>
    -- the call is on its way out
    exact hc.onward hp rfl rfl rfl (fun _ h => h) (by rintro _ ⟨⟩)
  | _ => exact hc.onward hp rfl rfl rfl (fun _ h => h) fun cs h => ⟨cs, h, fun _ => Or.inl⟩

theorem WorkerStep.clears (h : WorkerStep v r reply r' ds) (hc : r.Clears v.settings) :
    r'.Clears v.settings := by
  cases h with
  | call hp h => exact h.clears hp hc
  | calls =>
    intro f p cs hp hcs
    cases hp
    cases hcs
  | staged _ hn => exact .of_not_inCall (Place.inCall_of_isStage hn)
  | _ => exact .of_not_inCall rfl

/-- a run is cleared for what it has found approved, and for what it has been granted -/
theorem WorkerStep.cleared (h : WorkerStep v r reply r' ds) {c : Category} (hc : c ∈ r'.cleared) :
    c ∈ r.cleared ∨ v.approvals.has c = true ∨ Deed.granted c ∈ ds := by
  cases h with
  | call _ h =>
    cases h with
    | approved _ ha =>
      rcases List.mem_cons.1 hc with rfl | hc
      · exact Or.inr (Or.inl ha)
      · exact Or.inl hc
    | grants =>
      rcases List.mem_cons.1 hc with rfl | hc
      · exact Or.inr (Or.inr (by simp))
      · exact Or.inl hc
    | atGate _ h => cases h <;> exact Or.inl hc
    | _ => exact Or.inl hc
  | _ => exact Or.inl hc

theorem WorkerStep.of_granted (h : WorkerStep v r reply r' ds) {c : Category}
    (hc : Deed.granted c ∈ ds) : reply = .go ∧ ∃ f cs, r.place = .call f (.grant c cs) := by
  cases h with
  | call hp h =>
    cases h with
    | grants =>
      obtain rfl : c = _ := by simpa using hc
      exact ⟨rfl, _, _, hp⟩
    | atGate _ h => cases h <;> simp at hc
    | _ => simp at hc
  | remembers => split at hc <;> simp at hc
  | _ => simp at hc

/-- a host call does something outside only when it has nothing left to look at -/
theorem WorkerStep.clear_of_hostCalls (h : WorkerStep v r reply r' ds)
    (ho : Deed.underWay old = r.place.inCall)
    (hc : Deed.hostCalls (ds.reverse ++ old) ≠ Deed.hostCalls old) :
    ∃ f p, r.place = .call f p ∧ p.uncleared = some [] := by
  rcases h.kinds with ⟨f, p, hp, h⟩ | ⟨g, args, rfl⟩ | ⟨hout, hb⟩
  · refine ⟨f, p, hp, ?_⟩
    cases h with
    | slice => rfl
    | input => rfl
    | atGate _ h => cases h <;> exact absurd rfl hc
    | _ => exact absurd rfl hc
  · obtain ⟨_, ⟨c, _, _, rfl⟩ | ⟨e, _, _, rfl⟩⟩ := h.of_call
    · exact absurd rfl hc
    · exact absurd rfl hc
  · exact absurd (hb old (ho.trans hout)).hostCalls hc

/-- what the latest deeds say about a call that is under way -/
structure Run.Traced (r : Run) (ds : List Deed) : Prop where
  /-- it was the last one to be begun -/
  called : ∀ f p, r.place = .call f p →
    (∃ args, f.function.read? args = .ok f.call) ∧ (ds.filterMap Deed.call?).head? = some f.function
  /-- what is to be granted has just been answered -/
  answered : ∀ f c cs, r.place = .call f (.grant c cs) →
    ∃ q old, ds = .answered q .approved :: old ∧ q.category = c
  /-- since it looked into the slot, nothing was recorded but what terminates the run -/
  dire : ∀ f p, r.place = .call f p → p.atSlot = false → AbortReason.Dire r.session.abort

theorem Run.Traced.of_not_inCall (h : r.place.inCall = false) : r.Traced ds where
  called := fun f p hp => by rw [hp] at h; cases h
  answered := fun f c cs hp => by rw [hp] at h; cases h
  dire := fun f p hp => by rw [hp] at h; cases h

/-- a step of a call stays with the call, and leads to the grant of a category from its question
only -/
theorem CallStep.traced (h : CallStep v r f p reply r' ds) :
    ds.filterMap Deed.call? = [] ∧ ∀ f' p', r'.place = .call f' p' →
      f'.function = f.function ∧ f'.call = f.call ∧
      ∀ c cs, p' = .grant c cs → ∃ q, ds = [.answered q .approved] ∧ q.category = c := by
  cases h with
  | @atGate _ k _ _ _ _ h =>
    cases h with
    | passes =>
      refine ⟨rfl, fun f' p' hp => ?_⟩
      cases hp
      refine ⟨rfl, rfl, fun c cs hq => ?_⟩
      cases k <;> cases hq
    | _ => exact ⟨rfl, fun f' p' hp => by cases hp <;> simp⟩
  | @announced k =>
    refine ⟨rfl, fun f' p' hp => ?_⟩
    cases hp
    refine ⟨rfl, rfl, fun c cs hq => ?_⟩
    cases k <;> cases hq
  | @allowed c cs a ha =>
    refine ⟨rfl, fun f' p' hp => ?_⟩
    cases hp
    refine ⟨rfl, rfl, fun c' cs' hq => ?_⟩
    cases hq
    cases a with
    | approved => exact ⟨_, rfl, rfl⟩
    | _ => cases ha
  | _ => exact ⟨rfl, fun f' p' hp => by cases hp <;> simp⟩

theorem CallStep.dire (h : CallStep v r f p reply r' ds)
    (hd : p.atSlot = false → AbortReason.Dire r.session.abort) {f' : Frame} {p' : CallPoint}
    (hp : r'.place = .call f' p') : AbortReason.Dire r'.session.abort := by
  cases h with
  | slotClear ha =>
    intro a hset
    rw [ha] at hset
    cases hset
  | atGate hg h =>
    have hd : AbortReason.Dire r.session.abort := hd (by rcases hg with rfl | rfl <;> rfl)
    obtain ⟨_, _, hg⟩ := h.gateMove
    exact hg.dire hd
  | repauses =>
    rw [Session.repause_abort]
    exact hd rfl
  | raises => cases hp
  | slotSet => cases hp
  | _ => exact hd rfl

theorem Run.Traced.call (ht : r.Traced old) (hp : r.place = .call f p)
    (h : CallStep v r f p reply r' ds) : r'.Traced (ds.reverse ++ old) := by
  obtain ⟨hq, hon⟩ := h.traced
  refine ⟨fun f' p' hp' => ?_, fun f' c cs hp' => ?_, fun f' p' hp' _ => ?_⟩
  · obtain ⟨hg, hc, _⟩ := hon f' p' hp'
    rw [List.filterMap_append, List.filterMap_reverse, hq, hg, hc]
    exact ht.called f p hp
  · obtain ⟨_, _, hgrant⟩ := hon f' _ hp'
    obtain ⟨q, rfl, hc⟩ := hgrant c cs rfl
    exact ⟨q, old, rfl, hc⟩
  · exact h.dire (ht.dire f p hp) hp'

theorem Run.Traced.work (ht : r.Traced old) (h : WorkerStep v r reply r' ds) :
    r'.Traced (ds.reverse ++ old) := by
  cases h with
  | call hp h => exact ht.call hp h
  | calls _ hc =>
    refine ⟨fun f p hp => ?_, fun f c cs hp => ?_, fun f p hp hs => ?_⟩
    · cases hp
      exact ⟨⟨_, hc⟩, rfl⟩
    · cases hp
    · cases hp
      cases hs
  | staged _ hn => exact .of_not_inCall (Place.inCall_of_isStage hn)
  | _ => exact .of_not_inCall rfl

theorem RunChange.clears_aside {s : System} {m : Move} {i : RunId} {x : Settings}
    (h : RunChange s m i r r' [])
    (hm : m.isWorkOf i = false) (hc : r.Clears x) : r'.cleared = r.cleared ∧ r'.Clears x := by
  have ho := h.given_eq.2
  have hsession {y : Session} (hy : y.options = r.session.options) :
      ({ r with session := y } : Run).Clears x := fun f p cs hp hcs c hin =>
    hc f p cs hp hcs c (by rwa [Run.needed_congr hy] at hin)
  cases h with
  | still => exact ⟨rfl, hc⟩
  | worked hw =>
    rw [hw] at hm
    simp [Move.isWorkOf] at hm
  | spawned => exact ⟨rfl, .of_not_inCall rfl⟩
  | _ => exact ⟨rfl, hsession ho⟩

end

namespace System

section
variable {s s' t : System} {m : Move} {i : RunId} {r : Run} {c : Category} {n : Nat} {q : Question}
  {reply : Reply} {ms : List Move}

theorem Reachable.traced (hs : s.Reachable) (hr : s.runs[i]? = some r) : r.Traced (s.deeds i) := by
  refine hs.every_run (fun _ _ _ _ => .of_not_inCall rfl) ?_ hr
  intro s m i r r' ds hs hr hc ht
  have hsession {x : Session} (hd : AbortReason.Dire r.session.abort → AbortReason.Dire x.abort) :
      ({ r with session := x } : Run).Traced (s.deeds i) :=
    ⟨ht.called, ht.answered, fun f p hp hs => hd (ht.dire f p hp hs)⟩
  cases hc with
  | still => exact ht
  | worked _ hw => exact ht.work hw
  | commanded hm =>
    have hw : m.isWorkOf i = false := by
      cases m with
      | work j reply => cases hm
      | _ => rfl
    exact hsession ((RunChange.commanded hm).dire hw)
  | swept => exact hsession fun _ => AbortReason.dire_merge (Nat.le_succ 2)
  | launched => exact hsession fun hd => by rw [Session.settle_abort]; exact hd
  | spawned => exact .of_not_inCall rfl

/-! ## the approved categories -/

theorem has_foldl_record (i : RunId) (id : String) (ds : List Deed) (s : System) :
    (ds.foldl (fun s d => s.record i id d) s).approvals.has c = true ↔
      s.approvals.has c = true ∨ Deed.granted c ∈ ds := by
  induction ds generalizing s with
  | nil => simp
  | cons d ds ih =>
    have hd : (s.record i id d).approvals.has c = true ↔
        s.approvals.has c = true ∨ d = .granted c := by
      cases d with
      | granted e => simp [record, absorb, eq_comm (a := c)]
      | _ => simp [record, absorb]
    rw [List.foldl_cons, ih, hd, List.mem_cons, or_assoc, eq_comm (a := d)]

theorem has_of_work (h : s.step? (.work i reply) = some s') (hr : s.runs[i]? = some r) :
    ∃ r' ds, s'.runs = s.runs.set i r' ∧ WorkerStep s.view r reply r' ds ∧
      ∀ c, s'.approvals.has c = true ↔ s.approvals.has c = true ∨ Deed.granted c ∈ ds := by
  obtain ⟨r₁, r', ds, hr₁, ha, rfl⟩ := work?_eq_foldl h
  rw [hr] at hr₁
  cases hr₁
  exact ⟨r', ds, foldl_record_runs .., .of_advance ha, fun c => has_foldl_record ..⟩

theorem has_of_request {t : Task} {reply : CallerReply} (h : RequestStep s n t reply s')
    (c : Category) :
    s'.approvals.has c = true ↔ s.approvals.has c = true ∨
      reply = .go ∧ (t = .approve c ∨ ∃ q, t = .grant q ∧ q.category = c) := by
  cases h with
  | approves =>
    show (s.approvals.approve _).has c = true ↔ _
    simp [eq_comm (a := c)]
  | grants =>
    show (s.approvals.approve _).has c = true ↔ _
    simp [eq_comm (a := c)]
  | _ => exact ⟨Or.inl, fun h => h.resolve_right (by simp)⟩

theorem has_step (h : s.step? m = some s') (hc : s.approvals.has c = true) :
    s'.approvals.has c = true := by
  cases m with
  | work i reply =>
    obtain ⟨r, _, _, hr, _⟩ := work?_eq_foldl h
    obtain ⟨_, _, _, _, hiff⟩ := has_of_work h hr
    exact (hiff c).2 (Or.inl hc)
  | proceed n reply =>
    obtain ⟨t, _, hs⟩ := requestStep h
    exact (has_of_request hs c).2 (Or.inl hc)
  | request q => cases h; exact hc
  | elapse d => cases h; exact hc

theorem has_play (h : s.play? ms = some s') (hc : s.approvals.has c = true) :
    s'.approvals.has c = true :=
  play?_induction (P := fun t => t.approvals.has c = true) (fun hc h => has_step h hc) hc h

/-- **What a run has been cleared for is approved**, and a call of it is cleared for what it needs,
up to what it has still to look at. -/
theorem Reachable.has_of_cleared (hs : s.Reachable) (hr : s.runs[i]? = some r) :
    (∀ c ∈ r.cleared, s.approvals.has c = true) ∧ r.Clears s.settings := by
  refine hs.each_run (P := fun s _ r => (∀ c ∈ r.cleared, s.approvals.has c = true) ∧
    r.Clears s.settings) ?_ ?_ hr
  · intros
    exact ⟨List.forall_mem_nil _, .of_not_inCall rfl⟩
  · rintro s s' m i r r' _ _ h hr hr' _ _ ⟨hc, hcl⟩
    rw [step?_settings h]
    rcases worked_or h hr with ⟨reply, _, _, rfl, _⟩ | ⟨hm, r₁, hr₁, _, hch⟩
    · -- what the worker clears its run for it has found approved or has just granted
      obtain ⟨r₁, ds, hruns, hw, hiff⟩ := has_of_work h hr
      have hlt : i < s.runs.length := (List.getElem?_eq_some_iff.1 hr).1
      obtain rfl : r₁ = r' := by simpa [hruns, hlt] using hr'
      refine ⟨fun c hin => (hiff c).2 ?_, hw.clears hcl⟩
      rcases hw.cleared hin with hin | ha | hg
      · exact Or.inl (hc c hin)
      · exact Or.inl ha
      · exact Or.inr hg
    · rw [hr'] at hr₁
      cases hr₁
      obtain ⟨hsame, hcl'⟩ := hch.clears_aside hm hcl
      exact ⟨fun c hin => has_step h (hc c (hsame ▸ hin)), hcl'⟩

/-- **A host call does something outside only while all that it requires is approved.** -/
theorem has_of_hostCalls (hs : s.Reachable) (h : s.step? m = some s')
    (hc : s'.hostCalls i ≠ s.hostCalls i) :
    ∃ g gs r, s.calls i = g :: gs ∧ s.runs[i]? = some r ∧
      ∀ c, Requires s.settings r.session.options g c → s.approvals.has c = true := by
  cases hr : s.runs[i]? with
  | none =>
    obtain ⟨hd, _⟩ := newRun h hr
    exact absurd (congrArg Deed.hostCalls hd) hc
  | some r =>
    rcases worked_or h hr with ⟨reply, r', ds, _, _, hd, hw⟩ | ⟨_, _, _, hd, _⟩
    · unfold hostCalls at hc
      rw [hd] at hc
      -- the call has nothing left to look at, so the run is cleared for all that it needs
      obtain ⟨f, p, hp, hu⟩ := hw.clear_of_hostCalls (hs.tidy.bracket i r hr) hc
      obtain ⟨happ, hcl⟩ := hs.has_of_cleared hr
      obtain ⟨⟨args, hargs⟩, hcalled⟩ := (hs.traced hr).called f p hp
      obtain ⟨gs, hgs⟩ := List.head?_eq_some_iff.1 hcalled
      refine ⟨f.function, gs, r, hgs, rfl, fun c hreq => happ c ?_⟩
      rcases hcl f p [] hp hu c (hreq.mem_needed hargs) with hin | hin
      · cases hin
      · exact hin
    · exact absurd (congrArg Deed.hostCalls hd) hc

/-! ## where approvals come from -/

/-- with the move the category is approved: somebody has asked for that, or the handler has just
granted it, to a request or to a run -/
inductive Approves (s : System) (c : Category) : Move → Prop
  | ahead {n : Nat} (ht : s.task? n = some (firstTask (.preauthorize c))) :
      Approves s c (.proceed n .go)
  | granted {n : Nat} {q : Question} (ht : s.task? n = some (.grant q)) (hq : q.category = c)
      (ha : Entry.caller n (.answered q .approved) ∈ s.log) : Approves s c (.proceed n .go)
  | worked {i : RunId} {q : Question} {old : List Deed}
      (hd : s.deeds i = .answered q .approved :: old) (hq : q.category = c) :
      Approves s c (.work i .go)

@[simp] theorem task?_goOn (s : System) (n : Nat) (t : Task) : (s.goOn n t).task? n = some t := by
  rw [task?_of_goOn (goOn_tasks s n t), if_pos rfl]

@[simp] theorem task?_close (s : System) (n : Nat) (a : Answer) : (s.close n a).task? n = none := by
  rw [task?_of_quit (close_tasks s n a), if_pos rfl]

@[simp] theorem task?_quit (s : System) (n : Nat) : (s.quit n).task? n = none := by
  rw [task?_of_quit (quit_tasks s n), if_pos rfl]

/-- a request that stands somewhere stood there before, it is new, or it has just come there -/
theorem task?_step (h : s.step? m = some s') {t : Task} (ht : s'.task? n = some t) :
    (s.task? n = some t ∧ ∀ reply, m ≠ .proceed n reply) ∨
      (∃ q, m = .request q ∧ n = s.nextTask ∧ t = firstTask q) ∨
      ∃ t₀ reply, m = .proceed n reply ∧ s.task? n = some t₀ ∧ RequestStep s n t₀ reply s' := by
  cases m with
  | work i reply =>
    obtain ⟨_, _, _, _, _, _, htasks, _⟩ := work?_eq_some h
    rw [task?, htasks] at ht
    exact Or.inl ⟨ht, by simp⟩
  | proceed k reply =>
    obtain ⟨t₀, ht₀, hr⟩ := requestStep h
    by_cases hk : n = k
    · subst hk
      exact Or.inr (Or.inr ⟨t₀, reply, rfl, ht₀, hr⟩)
    · refine Or.inl ⟨?_, fun _ he => hk (by cases he; rfl)⟩
      obtain ⟨_, _, ⟨t', htasks, _⟩ | htasks⟩ := hr.course
      · rwa [task?_of_goOn htasks, if_neg hk] at ht
      · rwa [task?_of_quit htasks, if_neg hk] at ht
  | request q =>
    cases h
    by_cases hn : n = s.nextTask
    · refine Or.inr (Or.inl ⟨q, rfl, hn, ?_⟩)
      rw [hn] at ht
      simpa [task?, ask] using ht.symm
    · refine Or.inl ⟨?_, by simp⟩
      rwa [task?, ask, List.find?_cons_of_neg (by simpa using Ne.symm hn)] at ht
  | elapse d =>
    cases h
    exact Or.inl ⟨ht, by simp⟩

theorem firstTask_ne_grant (r : Request) (q : Question) : firstTask r ≠ .grant q := by
  cases r with
  | control id c => cases c <;> exact nofun
  | _ => exact nofun

theorem Reachable.answered_of_grant (hs : s.Reachable) (ht : s.task? n = some (.grant q)) :
    Entry.caller n (.answered q .approved) ∈ s.log := by
  refine hs.invariant (P := fun s => ∀ n q, s.task? n = some (.grant q) →
    Entry.caller n (.answered q .approved) ∈ s.log) (fun _ _ _ _ h => nomatch h) ?_ n q ht
  intro s s' m ih h n q ht
  rcases task?_step h ht with ⟨ht, _⟩ | ⟨r, _, _, hr⟩ | ⟨t₀, reply, rfl, _, hr⟩
  · obtain ⟨es, hlog, _⟩ := log_step h
    rw [hlog]
    exact List.mem_append_right _ (ih n q ht)
  · exact absurd hr.symm (firstTask_ne_grant r q)
  · cases hr with
    | @allowed q' v hv =>
      obtain rfl : q' = q := by simpa using ht
      cases v with
      | approved => exact List.mem_cons_self
      | _ => cases hv
    | _ => simp at ht

/-- **A category is approved by those who ask for that and by the handler only.** -/
theorem approves_of_has (hs : s.Reachable) (h : s.step? m = some s')
    (hn : s.approvals.has c = false) (hc : s'.approvals.has c = true) : s.Approves c m := by
  have hnot : ¬ s.approvals.has c = true := by simp [hn]
  cases m with
  | work i reply =>
    obtain ⟨r, _, _, hr, _⟩ := work?_eq_foldl h
    obtain ⟨r', ds, _, hw, hiff⟩ := has_of_work h hr
    obtain ⟨rfl, f, cs, hp⟩ := hw.of_granted (((hiff c).1 hc).resolve_left hnot)
    obtain ⟨q, old, hd, hq⟩ := (hs.traced hr).answered f c cs hp
    exact .worked hd hq
  | proceed n reply =>
    obtain ⟨t, ht, hr⟩ := requestStep h
    obtain ⟨rfl, rfl | ⟨q, rfl, hq⟩⟩ := ((has_of_request hr c).1 hc).resolve_left hnot
    · exact .ahead ht
    · exact .granted ht hq (hs.answered_of_grant ht)
  | request r => cases h; exact absurd hc hnot
  | elapse d => cases h; exact absurd hc hnot

end

/-! ## a question that nobody interrupts -/

/-- the handler of a service, if it has one, when it would answer so -/
def handlerOf (s : System) (ask : Question → Verdict) : Option (Question → Verdict) :=
  if s.handler then some ask else none

/-- left to itself, the worker of a run settles the question for a category as `Approvals.request`
does: it goes on to the next category, or is about to hand in that this one was denied -/
def Requests (s : System) (i : RunId) (r : Run) (f : Frame) (c : Category) (cs : List Category)
    (ask : Question → Verdict) : Prop :=
  let q : Question := ⟨c, r.session.script.name⟩
  let x := s.approvals.request (s.handlerOf ask) q
  ∃ ms s', (∀ m ∈ ms, m = .work i .go ∨ m = .work i (.verdict (ask q))) ∧
    s.play? ms = some s' ∧ s'.approvals = x.2.2 ∧
    s'.runs[i]? = some
      (if x.1 then { r with cleared := c :: r.cleared, place := .call f (.permit cs) }
      else { r with place := .call f (.raise (.failure (.denied c))) }) ∧
    s'.questions i = x.2.1.toList ++ s.questions i

section
variable {s s' : System} {ms : List Move} {n : Nat} {i : RunId} {r r' : Run} {ds : List Deed}
  {t : Task} {f : Frame} {c : Category} {cs : List Category} {q : Question}

theorem play?_proceed {reply : CallerReply} (ht : s.task? n = some t)
    (h : s.taskStep? n t reply = some s') : s.play? (.proceed n reply :: ms) = s'.play? ms := by
  rw [play?_cons, step?_of_task? ht, h, Option.bind_some]

theorem foldl_record_approvals (i : RunId) (id : String) (ds : List Deed) (s : System) :
    (ds.foldl (fun s d => s.record i id d) s).approvals
      = (ds.filterMap Deed.approved?).foldl Approvals.approve s.approvals := by
  induction ds generalizing s with
  | nil => rfl
  | cons d ds ih =>
    rw [List.foldl_cons, ih]
    cases d <;> rfl

/-- the request asks the handler, and what comes back is the answer -/
theorem play?_asks (ht : s.task? n = some (.consult q)) (ha : s.approvals.has q.category = false)
    (hh : s.handler = true) : s.play? (.proceed n .go :: .proceed n .go :: ms) =
      (((s.goOn n (.seek q)).note n (.asked q)).goOn n (.asking q)).play? ms := by
  have h₁ : s.taskStep? n (.consult q) .go = some (s.goOn n (.seek q)) := by
    rw [taskStep?, if_neg (by simp [ha])]
  have h₂ : (s.goOn n (.seek q)).taskStep? n (.seek q) .go =
      some (((s.goOn n (.seek q)).note n (.asked q)).goOn n (.asking q)) := by
    rw [taskStep?, if_pos (by exact hh)]
  rw [play?_proceed ht h₁, play?_proceed (by rw [task?_of_goOn rfl, if_pos rfl]) h₂]

/-- **A request for an approval that nobody interrupts does what `Approvals.request` does.** -/
theorem exists_request (ht : s.task? n = some (.consult q)) (ask : Question → Verdict) :
    ∃ ms s', (∀ m ∈ ms, m = .proceed n .go ∨ m = .proceed n (.verdict (ask q))) ∧
      s.play? ms = some s' ∧ s'.task? n = none ∧
      s'.approvals = (s.approvals.request (s.handlerOf ask) q).2.2 ∧
      s'.log = .caller n (.closed (.said (s.approvals.request (s.handlerOf ask) q).1)) ::
        ((s.approvals.request (s.handlerOf ask) q).2.1.toList.flatMap fun q =>
          [.caller n (.answered q (ask q)), .caller n (.asked q)]) ++ s.log := by
  have hnext (t : System) (task : Task) : (t.goOn n task).task? n = some task := by
    rw [task?_of_goOn rfl, if_pos rfl]
  have hover (t : System) (a : Answer) : (t.close n a).task? n = none := by
    rw [task?_of_quit rfl, if_pos rfl]
  cases ha : s.approvals.has q.category with
  | true =>
    have h₁ : s.taskStep? n (.consult q) .go = some (s.close n (.said true)) := by
      rw [taskStep?, if_pos ha]
    rw [Approvals.request_of_has ha]
    exact ⟨[.proceed n .go], _, by simp, play?_proceed ht h₁, hover _ _, rfl, rfl⟩
  | false =>
    rw [handlerOf]
    cases hh : s.handler with
    | false =>
      have h₁ : s.taskStep? n (.consult q) .go = some (s.goOn n (.seek q)) := by
        rw [taskStep?, if_neg (by simp [ha])]
      have h₂ : (s.goOn n (.seek q)).taskStep? n (.seek q) .go =
          some ((s.goOn n (.seek q)).close n (.said false)) := by
        rw [taskStep?, if_neg (by show ¬ s.handler = true; simp [hh])]
      rw [if_neg (by simp), Approvals.request_none ha]
      exact ⟨[.proceed n .go, .proceed n .go], _, by simp,
        (play?_proceed ht h₁).trans (play?_proceed (hnext _ _) h₂), hover _ _, rfl, rfl⟩
    | true =>
      rw [if_pos rfl, Approvals.request_some ha]
      let s₂ := ((s.goOn n (.seek q)).note n (.asked q)).goOn n (.asking q)
      cases hv : (ask q).grants with
      | true =>
        let s₃ := (s₂.note n (.answered q (ask q))).goOn n (.grant q)
        have h₃ : s₂.taskStep? n (.asking q) (.verdict (ask q)) = some s₃ := by
          rw [taskStep?, if_pos hv]
        exact ⟨[.proceed n .go, .proceed n .go, .proceed n (.verdict (ask q)), .proceed n .go],
          { s₃ with approvals := s.approvals.approve q.category }.close n (.said true), by simp,
          (play?_asks ht ha hh).trans <| (play?_proceed (hnext _ _) h₃).trans <|
            play?_proceed (hnext _ _) rfl, hover _ _, rfl, rfl⟩
      | false =>
        have h₃ : s₂.taskStep? n (.asking q) (.verdict (ask q)) =
            some ((s₂.note n (.answered q (ask q))).close n (.said false)) := by
          rw [taskStep?, if_neg (by simp [hv])]
        exact ⟨[.proceed n .go, .proceed n .go, .proceed n (.verdict (ask q))],
          (s₂.note n (.answered q (ask q))).close n (.said false), by simp,
          (play?_asks ht ha hh).trans (play?_proceed (hnext _ _) h₃), hover _ _, rfl, rfl⟩

theorem exists_work {reply : Reply} (hr : s.runs[i]? = some r)
    (ha : r.advance s.view reply = some (r', ds)) :
    ∃ s', s.step? (.work i reply) = some s' ∧ s'.runs[i]? = some r' ∧ s'.handler = s.handler ∧
      s'.approvals = (ds.filterMap Deed.approved?).foldl Approvals.approve s.approvals ∧
      s'.questions i = ds.reverse.filterMap Deed.question? ++ s.questions i := by
  obtain ⟨s', hs', hr', hd⟩ := step?_work hr ha
  obtain ⟨r₁, r₁', ds₁, hr₁, ha₁, rfl⟩ := work?_eq_foldl hs'
  rw [hr] at hr₁
  cases hr₁
  rw [ha] at ha₁
  cases ha₁
  refine ⟨_, hs', hr', (foldl_record_shared _ _ _ _).2.1, foldl_record_approvals .., ?_⟩
  rw [questions, hd, List.filterMap_append, questions]

/-- the worker that has asked takes the verdict, and a verdict that grants is entered at once -/
theorem exists_answered (hr : s.runs[i]? = some r) (hp : r.place = .call f (.asking c cs))
    (a : Verdict) : ∃ ms s', (∀ m ∈ ms, m = .work i .go ∨ m = .work i (.verdict a)) ∧
      s.play? ms = some s' ∧
      s'.approvals = (if a.grants then s.approvals.approve c else s.approvals) ∧
      s'.runs[i]? = some (if a.grants then
        { r with cleared := c :: r.cleared, place := .call f (.permit cs) }
      else { r with place := .call f (.raise (.failure (.denied c))) }) ∧
      s'.questions i = s.questions i := by
  cases hv : a.grants with
  | false =>
    have h : r.advance s.view (.verdict a) =
        some ({ r with place := .call f (.raise (.failure (.denied c))) },
          [.answered ⟨c, r.session.script.name⟩ a]) := by
      simp only [Run.advance, hp]
      exact if_neg (by simp [hv])
    obtain ⟨s', hs', hr', _, happ, hquestions⟩ := exists_work hr h
    exact ⟨[.work i (.verdict a)], s', by simp, play?_singleton hs', happ, hr', hquestions⟩
  | true =>
    have h₁ : r.advance s.view (.verdict a) =
        some ({ r with place := .call f (.grant c cs) },
          [.answered ⟨c, r.session.script.name⟩ a]) := by
      simp only [Run.advance, hp]
      exact if_pos hv
    obtain ⟨s₁, hs₁, hr₁, _, happ₁, hquestions₁⟩ := exists_work hr h₁
    have h₂ : ({ r with place := .call f (.grant c cs) } : Run).advance s₁.view .go =
        some ({ r with cleared := c :: r.cleared, place := .call f (.permit cs) },
          [.granted c]) := rfl
    obtain ⟨s₂, hs₂, hr₂, _, happ₂, hquestions₂⟩ := exists_work hr₁ h₂
    refine ⟨[.work i (.verdict a), .work i .go], s₂, by simp, ?_, ?_, hr₂,
      hquestions₂.trans hquestions₁⟩
    · rw [play?_cons, hs₁, Option.bind_some, play?_singleton hs₂]
    · rw [happ₂, happ₁]
      rfl

theorem requests_seek (hr : s.runs[i]? = some r) (hp : r.place = .call f (.seek c cs))
    (ha : s.approvals.has c = false) (ask : Question → Verdict) : s.Requests i r f c cs ask := by
  unfold Requests
  intro q x
  cases hh : s.handler with
  | false =>
    have hx : x = (false, none, s.approvals) := by
      show s.approvals.request (s.handlerOf ask) q = _
      rw [handlerOf, if_neg (by simp [hh]), Approvals.request_none ha]
    have h : r.advance s.view .go =
        some ({ r with place := .call f (.raise (.failure (.denied c))) }, []) := by
      simp only [Run.advance, hp]
      exact if_neg (by show ¬ s.handler = true; simp [hh])
    obtain ⟨s', hs', hr', _, happ, hquestions⟩ := exists_work hr h
    rw [hx]
    exact ⟨[.work i .go], s', by simp, play?_singleton hs', happ, hr', hquestions⟩
  | true =>
    have hx : x = ((ask q).grants, some q,
        if (ask q).grants then s.approvals.approve c else s.approvals) := by
      show s.approvals.request (s.handlerOf ask) q = _
      rw [handlerOf, if_pos hh, Approvals.request_some ha]
    have h : r.advance s.view .go =
        some ({ r with place := .call f (.asking c cs) }, [.asked q]) := by
      simp only [Run.advance, hp]
      exact if_pos hh
    obtain ⟨s₁, hs₁, hr₁, _, happ₁, hquestions₁⟩ := exists_work hr h
    obtain ⟨ms, s', hms, hplay, happ, hr', hquestions⟩ := exists_answered hr₁ rfl (ask q)
    rw [hx]
    refine ⟨.work i .go :: ms, s', List.forall_mem_cons.2 ⟨Or.inl rfl, hms⟩, ?_, ?_, hr',
      hquestions.trans hquestions₁⟩
    · rw [play?_cons, hs₁, Option.bind_some, hplay]
    · rw [happ, happ₁]
      rfl

/-- **So does a host call that comes to a category it has not been cleared for.** -/
theorem requests_permit (hr : s.runs[i]? = some r) (hp : r.place = .call f (.permit (c :: cs)))
    (hc : c ∉ r.cleared) (ask : Question → Verdict) : s.Requests i r f c cs ask := by
  unfold Requests
  intro q x
  cases ha : s.approvals.has c with
  | true =>
    have h : r.advance s.view .go =
        some ({ r with cleared := c :: r.cleared, place := .call f (.permit cs) }, []) := by
      simp only [Run.advance, hp, Run.advanceCall, if_neg hc]
      exact if_pos ha
    have hx : x = (true, none, s.approvals) := Approvals.request_of_has ha _
    obtain ⟨s', hs', hr', _, happ, hquestions⟩ := exists_work hr h
    rw [hx]
    exact ⟨[.work i .go], s', by simp, play?_singleton hs', happ, hr', hquestions⟩
  | false =>
    have h : r.advance s.view .go = some ({ r with place := .call f (.seek c cs) }, []) := by
      simp only [Run.advance, hp, Run.advanceCall, if_neg hc]
      exact if_neg (by show ¬ s.approvals.has c = true; simp [ha])
    obtain ⟨s₁, hs₁, hr₁, hh₁, happ₁, hquestions₁⟩ := exists_work hr h
    have hsame : s₁.approvals.request (s₁.handlerOf ask) q = x := by
      rw [happ₁, handlerOf, hh₁]
      rfl
    obtain ⟨ms, s', hms, hplay, happ, hr', hquestions⟩ :=
      requests_seek hr₁ rfl (by rw [happ₁]; exact ha) ask
    refine ⟨.work i .go :: ms, s', List.forall_mem_cons.2 ⟨Or.inl rfl, hms⟩, ?_, ?_, ?_, ?_⟩
    · rw [play?_cons, hs₁, Option.bind_some, hplay]
    · rw [happ]
      exact congrArg (·.2.2) hsame
    · rw [hr']
      show some (if (s₁.approvals.request (s₁.handlerOf ask) q).1 then _ else _) = _
      rw [hsame]
    · rw [hquestions, hquestions₁]
      exact congrArg (fun y => y.2.1.toList ++ s.questions i) hsame
end

end System

end ScriptGuard
