import ScriptGuard.Proofs.Autonomy
import ScriptGuard.Proofs.Trace

/-!
# Which request an abort slot keeps

Requests to abort a run come from its worker, from Stop and Terminate, and from an activation of the
kill switch.  The slot of the run keeps one of them.

* `AbortReason.Prevails a rs`    `a` is the earliest of the highest priority among `rs`;
* `mergeAll_eq_some`             it is what a slot holds after these requests;
* `System.requested s i ms`      what the moves hand in to the slot of a run, whoever makes them;
* `slot?_play`                   the slot holds what these requests make of it;
* `System.Arbitrates`            what follows for a run: what is given back, how the run ends, and
                                 that the order of the requests does not matter for that;
* `arbitrates_of_play`           all runs are so.
-/

namespace ScriptGuard

namespace AbortReason

/-- the earliest of the highest priority -/
def Prevails (a : AbortReason) (rs : List AbortReason) : Prop :=
  ∃ earlier later, rs = earlier ++ a :: later ∧
    (∀ b ∈ earlier, b.priority < a.priority) ∧ ∀ b ∈ later, b.priority ≤ a.priority

/-- what a slot holds after all these requests -/
def mergeAll (slot : Option AbortReason) (rs : List AbortReason) : Option AbortReason :=
  rs.foldl (fun slot a => some (merge slot a)) slot

section
variable {a b c : AbortReason} {rs rs' : List AbortReason} {slot : Option AbortReason}

theorem Prevails.mem (h : Prevails a rs) : a ∈ rs := by
  obtain ⟨earlier, later, rfl, _⟩ := h
  simp

theorem Prevails.le (h : Prevails a rs) (hb : b ∈ rs) : b.priority ≤ a.priority := by
  obtain ⟨earlier, later, rfl, he, hl⟩ := h
  rcases List.mem_append.1 hb with hb | hb
  · exact Nat.le_of_lt (he b hb)
  · rcases List.mem_cons.1 hb with rfl | hb
    · exact Nat.le_refl _
    · exact hl b hb

theorem not_prevails_nil : ¬ Prevails a [] := fun h => nomatch h.mem

theorem prevails_cons :
    Prevails a (c :: rs) ↔
      c = a ∧ (∀ b ∈ rs, b.priority ≤ a.priority) ∨ c.priority < a.priority ∧ Prevails a rs := by
  constructor
  · rintro ⟨earlier, later, he, hlt, hle⟩
    cases earlier with
    | nil =>
      cases he
      exact Or.inl ⟨rfl, hle⟩
    | cons d earlier =>
      cases he
      rw [List.forall_mem_cons] at hlt
      exact Or.inr ⟨hlt.1, earlier, later, rfl, hlt.2, hle⟩
  · rintro (⟨rfl, hle⟩ | ⟨hc, earlier, later, rfl, hlt, hle⟩)
    · exact ⟨[], rs, rfl, List.forall_mem_nil _, hle⟩
    · exact ⟨c :: earlier, later, rfl, List.forall_mem_cons.2 ⟨hc, hlt⟩, hle⟩

/-- two requests count as the one that a slot keeps of them -/
theorem prevails_merge : Prevails a (merge (some b) c :: rs) ↔ Prevails a (b :: c :: rs) := by
  rw [merge_some]
  by_cases hbc : b.priority < c.priority
  · rw [if_pos hbc, prevails_cons (c := b)]
    constructor
    · intro h
      have hle := h.le List.mem_cons_self
      exact Or.inr ⟨by omega, h⟩
    · rintro (⟨rfl, hle⟩ | ⟨_, h⟩)
      · have hle := hle c List.mem_cons_self
        omega
      · exact h
  · -- `c` does not replace `b`, so that neither of them wins over more than `b` does
    rw [if_neg hbc, prevails_cons, prevails_cons (c := b), prevails_cons (c := c),
      List.forall_mem_cons]
    constructor
    · rintro (⟨rfl, hle⟩ | ⟨hb, h⟩)
      · exact Or.inl ⟨rfl, by omega, hle⟩
      · exact Or.inr ⟨hb, Or.inr ⟨by omega, h⟩⟩
    · rintro (⟨rfl, _, hle⟩ | ⟨hb, ⟨rfl, _⟩ | ⟨_, h⟩⟩)
      · exact Or.inl ⟨rfl, hle⟩
      · exact absurd hb hbc
      · exact Or.inr ⟨hb, h⟩

theorem mergeAll_append (slot : Option AbortReason) (rs rs' : List AbortReason) :
    mergeAll slot (rs ++ rs') = mergeAll (mergeAll slot rs) rs' := List.foldl_append

theorem mergeAll_some_eq : mergeAll (some b) rs = some a ↔ Prevails a (b :: rs) := by
  induction rs generalizing b with
  | nil =>
    rw [prevails_cons]
    simp [mergeAll, not_prevails_nil]
  | cons c rs ih =>
    -- the slot takes in the first of the requests, and the two count as what it keeps
    rw [← prevails_merge]
    exact ih

/-- **A slot holds the earliest request of the highest priority.** -/
theorem mergeAll_eq_some : mergeAll slot rs = some a ↔ Prevails a (slot.toList ++ rs) := by
  cases slot with
  | some b => exact mergeAll_some_eq
  | none =>
    cases rs with
    | nil => exact ⟨nofun, fun h => (not_prevails_nil h).elim⟩
    | cons c rs => exact mergeAll_some_eq

theorem mergeAll_some_ne_none : mergeAll (some b) rs ≠ none := by
  induction rs generalizing b with
  | nil => exact nofun
  | cons c rs ih => exact ih

theorem mergeAll_eq_none : mergeAll slot rs = none ↔ slot.toList ++ rs = [] := by
  cases slot with
  | some b => exact ⟨fun h => (mergeAll_some_ne_none h).elim, nofun⟩
  | none =>
    cases rs with
    | nil => exact ⟨fun _ => rfl, fun _ => rfl⟩
    | cons c rs => exact ⟨fun h => (mergeAll_some_ne_none h).elim, nofun⟩

theorem Prevails.priority_eq (h : Prevails a rs) (h' : Prevails b rs') (hp : rs.Perm rs') :
    a.priority = b.priority := by
  have hab : a.priority ≤ b.priority := h'.le (hp.mem_iff.1 h.mem)
  have hba : b.priority ≤ a.priority := h.le (hp.mem_iff.2 h'.mem)
  omega

theorem priority_mergeAll_perm {slot' : Option AbortReason}
    (hp : (slot.toList ++ rs).Perm (slot'.toList ++ rs')) :
    (mergeAll slot rs).map priority = (mergeAll slot' rs').map priority := by
  cases h : mergeAll slot rs with
  | none =>
    have hnil : slot'.toList ++ rs' = [] := by
      rw [mergeAll_eq_none.1 h] at hp
      exact List.nil_perm.1 hp
    rw [mergeAll_eq_none.2 hnil]
  | some a =>
    cases h' : mergeAll slot' rs' with
    | none =>
      rw [mergeAll_eq_none.1 h', List.perm_nil, ← mergeAll_eq_none, h] at hp
      cases hp
    | some b =>
      have heq := (mergeAll_eq_some.1 h).priority_eq (mergeAll_eq_some.1 h') hp
      rw [Option.map_some, Option.map_some, heq]

theorem finalState_eq (a : AbortReason) :
    a.finalState = if 2 ≤ a.priority then .terminated else .failed := by
  cases a <;> rfl

theorem finalState_of_priority {slot' : Option AbortReason}
    (h : slot.map priority = slot'.map priority) :
    slot.map finalState = slot'.map finalState := by
  have hmap : ∀ x : Option AbortReason, x.map finalState
      = (x.map priority).map fun p => if 2 ≤ p then RunState.terminated else .failed := fun x => by
    rw [Option.map_map]
    congr 1
    exact funext finalState_eq
  rw [hmap, hmap, h]

end

end AbortReason

/-! ## what is requested of a run -/

def Command.reason? : Command → Option AbortReason
  | .stop => some .stopped
  | .terminate => some .terminated
  | _ => none

/-- the reason that an answer to a command says has been handed in -/
def ControlReply.reason? (c : Command) : ControlReply → Option AbortReason
  | .applied _ => c.reason?
  | _ => none

/-- the reason that the next step of a worker hands in: what a call or an interrupt check has come
across, or the reason of the kill switch seen at the pause gate -/
def Run.reason? (r : Run) (killed : Option String) : Option AbortReason :=
  match r.place with
  | .polling (.raise a) | .call _ (.raise a) => some a
  | .call _ (.gate _ _) | .call _ (.parked _ _) => killed.map .killSwitch
  | _ => none

section
variable {v : View} {r r' : Run} {f : Frame} {reply : Reply} {ds : List Deed} {a : AbortReason}

theorem Session.control_slot (x : Session) (c : Command) :
    (x.control c).2.abort
      = AbortReason.mergeAll x.abort (((x.control c).1.reason? c).toList) := by
  rcases x.control_cases c with ⟨h, hn⟩ | ⟨h, _, _⟩
  · have hnone : (x.control c).1.reason? c = none := by
      cases hx : (x.control c).1 with
      | applied shown => exact absurd hx (hn shown)
      | _ => rfl
    rw [h, hnone]
    rfl
  · rw [h]
    cases c <;> rfl

section
variable {x x' : Session} {killed : Option String} {holds paused : Bool} {now : Nat}
  {verdict : GateVerdict}

theorem Session.GateMove.slot (h : x.GateMove killed holds now verdict paused x') :
    x'.abort = AbortReason.mergeAll x.abort ((killed.map AbortReason.killSwitch).toList) := by
  cases h with
  | aborts => cases killed <;> rfl
  | keeps _ hk => rw [hk]; rfl
  | takes _ hk => rw [hk]; rfl
  | pauses _ hk => rw [hk]; rfl
  | parks _ hk => rw [hk]; rfl
  | passes _ hk => rw [hk]; rfl

/-- nobody passes the gate or parks at it while the kill switch is on -/
theorem Session.GateMove.aborted_of_killed {reason : String}
    (h : x.GateMove (some reason) holds now verdict paused x') : ∃ a, verdict = .aborted a := by
  cases h with
  | aborts => exact ⟨_, rfl⟩
  | keeps _ hk => cases hk
  | takes _ hk => cases hk
  | pauses _ hk => cases hk
  | parks _ hk => cases hk
  | passes _ hk => cases hk

end

theorem Run.reason?_of_atGate {p : CallPoint} {k : Resume} {shown : Bool}
    (hp : r.place = .call f p) (hg : p.AtGate k shown) :
    r.reason? v.killed = v.killed.map .killSwitch := by
  rcases hg with rfl | rfl <;> rw [Run.reason?, hp]

theorem Run.reason?_of_isStage {killed : Option String} (hp : r.place.isStage = true) :
    r.reason? killed = none := by
  unfold Run.reason?
  obtain hp | ⟨fs, hp⟩ | hp := Place.stage_cases hp <;> rw [hp]

/-- a step of a worker changes its slot by what it hands in, and by nothing else -/
theorem WorkerStep.slot (h : WorkerStep v r reply r' ds) :
    r'.session.abort = AbortReason.mergeAll r.session.abort (r.reason? v.killed).toList := by
  cases h with
  | call hp h =>
    cases h with
    | atGate hg h =>
      obtain ⟨_, _, hmove⟩ := h.gateMove
      rw [Run.reason?_of_atGate hp hg]
      exact hmove.slot
    | repauses =>
      rw [Run.reason?, hp]
      exact Session.repause_abort _
    | _ => rw [Run.reason?, hp]; rfl
  | staged hp => rw [Run.reason?_of_isStage hp]; rfl
  | unready hp => rw [Run.reason?_of_isStage hp]; rfl
  | stageBroke hp => rw [Run.reason?_of_isStage hp]; rfl
  | settles hp =>
    rw [Run.reason?, hp]
    exact Session.settle_abort _ _
  | _ hp => rw [Run.reason?, hp]; rfl

/-- the worker is given back what its slot holds then: at once, or after a pause that it has still
to publish -/
theorem WorkerStep.gives (h : WorkerStep v r reply r' ds) (ha : r.reason? v.killed = some a) :
    ∃ b, r'.session.abort = some b ∧
      ((∃ d, ds = [d] ∧ d.given? = some b) ∨
        ds = [] ∧ ∃ f k, r'.place = .call f (.announce k (some b))) := by
  cases h with
  | call hp h =>
    cases h with
    | atGate hg h =>
      rw [Run.reason?_of_atGate hp hg] at ha
      obtain ⟨reason, hk, rfl⟩ := Option.map_eq_some_iff.1 ha
      have haborts {x' : Session} {holds paused : Bool} {verdict : GateVerdict}
          (hmove : r.session.GateMove v.killed holds v.now verdict paused x') :
          ∃ a, verdict = .aborted a := by
        rw [hk] at hmove
        exact hmove.aborted_of_killed
      cases h with
      | aborts hmove => exact ⟨_, hmove.abort_of_aborted, Or.inl ⟨_, rfl, rfl⟩⟩
      | abortsShown hmove => exact ⟨_, hmove.abort_of_aborted, Or.inr ⟨rfl, _, _, rfl⟩⟩
      | parks hmove => exact absurd (haborts hmove) (by simp)
      | passes hmove => exact absurd (haborts hmove) (by simp)
      | passesShown hmove => exact absurd (haborts hmove) (by simp)
    | raises => exact ⟨_, rfl, Or.inl ⟨_, rfl, rfl⟩⟩
    | _ => rw [Run.reason?, hp] at ha; cases ha
  | pollRaises => exact ⟨_, rfl, Or.inl ⟨_, rfl, rfl⟩⟩
  | staged hp => rw [Run.reason?_of_isStage hp] at ha; cases ha
  | unready hp => rw [Run.reason?_of_isStage hp] at ha; cases ha
  | stageBroke hp => rw [Run.reason?_of_isStage hp] at ha; cases ha
  | _ hp => rw [Run.reason?, hp] at ha; cases ha

end

/-! ## a session by itself -/

namespace Session

def requests (x : Session) (rs : List AbortReason) : Session := rs.foldl request x

theorem requests_abort (x : Session) (rs : List AbortReason) :
    (x.requests rs).abort = AbortReason.mergeAll x.abort rs := by
  induction rs generalizing x with
  | nil => rfl
  | cons a rs ih => exact ih (x.request a)

/-- how the slot of a session arbitrates between a list of requests -/
structure Settles (x : Session) (rs : List AbortReason) : Prop where
  holds : ∀ a, (x.requests rs).abort = some a ↔ AbortReason.Prevails a (x.abort.toList ++ rs)
  /-- a request is given back what the slot holds then, and the priority of that only rises -/
  returns : ∀ earlier a later, rs = earlier ++ a :: later →
    (x.requests earlier).handIn a =
        (AbortReason.merge (x.requests earlier).abort a, x.requests (earlier ++ [a])) ∧
      (x.requests (earlier ++ [a])).abort = some ((x.requests earlier).handIn a).1 ∧
      ∀ b, (x.requests earlier).abort = some b →
        b.priority ≤ ((x.requests earlier).handIn a).1.priority
  permuted : ∀ rs', rs.Perm rs' →
    (x.requests rs).abort.map AbortReason.priority
        = (x.requests rs').abort.map AbortReason.priority ∧
      (x.requests rs).abort.map AbortReason.finalState
        = (x.requests rs').abort.map AbortReason.finalState

theorem handIn_requests (x : Session) (rs : List AbortReason) (a : AbortReason) :
    (x.requests rs).handIn a =
      (AbortReason.merge (x.requests rs).abort a, x.requests (rs ++ [a])) := by
  rw [handIn_eq, requests, requests, List.foldl_append]
  rfl

theorem settles (x : Session) (rs : List AbortReason) : x.Settles rs where
  holds := fun a => by rw [requests_abort, AbortReason.mergeAll_eq_some]
  returns := fun earlier a later _ => by
    have hanswer := x.handIn_requests earlier a
    refine ⟨hanswer, ?_, fun b hb => ?_⟩
    · rw [← (x.requests earlier).handIn_abort a, hanswer]
    · rw [hanswer, hb]
      exact (AbortReason.upgrade_merge b a).priority_le
  permuted := fun rs' hp => by
    rw [requests_abort, requests_abort]
    have hpriority := AbortReason.priority_mergeAll_perm (hp.append_left x.abort.toList)
    exact ⟨hpriority, AbortReason.finalState_of_priority hpriority⟩

end Session

namespace System

/-- the run to whose slot a stage of a request comes next, with the reason that it hands in there -/
def stageHandsIn? (s : System) : Task → Option (RunId × AbortReason)
  | .apply j c => (s.runs[j]?).bind fun r => ((r.session.control c).1.reason? c).map (j, ·)
  | .cut id =>
    (s.active? id).bind fun j => (s.runs[j]?).bind fun r =>
      ((r.session.control .terminate).1.reason? .terminate).map (j, ·)
  | .sweep reason (j :: _) => (s.runs[j]?).map fun _ => (j, .killSwitch reason)
  | _ => none

/-- the run to whose slot a move comes, with the reason that it hands in there -/
def handsIn? (s : System) : Move → Option (RunId × AbortReason)
  | .work j _ => (s.runs[j]?).bind fun r => (r.reason? s.killSwitch.poll).map (j, ·)
  | .proceed n _ => (s.task? n).bind s.stageHandsIn?
  | _ => none

/-- the reason that a move hands in to the slot of a run -/
def requested? (s : System) (i : RunId) (m : Move) : Option AbortReason :=
  (s.handsIn? m).bind fun e => if e.1 = i then some e.2 else none

def requested (s : System) (i : RunId) (ms : List Move) : List AbortReason :=
  (s.trace ms).filterMap fun x => x.before.requested? i x.move

section
variable {s s' t : System} {m : Move} {i j : RunId} {ms : List Move} {a b : AbortReason} {r : Run}
  {n : Nat} {task : Task} {reply : CallerReply}

/-- the move changes the slot of the run by what it hands in there -/
def Merges (s : System) (m : Move) (s' : System) (i : RunId) : Prop :=
  s'.slot? i = AbortReason.mergeAll (s.slot? i) (s.requested? i m).toList

theorem merges_of_eq (hn : s.handsIn? m = none) (h : s'.slot? i = s.slot? i) :
    s.Merges m s' i := by
  rw [Merges, requested?, hn]
  exact h

theorem slot?_modify {f : Run → Run} (hs : s'.runs = s.runs.modify j f) (k : RunId) :
    s'.slot? k
      = if k = j then (s.runs[k]?).bind fun r => (f r).session.abort else s.slot? k := by
  rw [slot?, hs, List.getElem?_modify]
  by_cases hk : k = j
  · subst hk
    cases s.runs[k]? <;> simp
  · simp [slot?, hk, Ne.symm hk]

theorem slot?_modify_eq {f : Run → Run} (hs : s'.runs = s.runs.modify j f)
    (hf : ∀ r, (f r).session.abort = r.session.abort) (k : RunId) : s'.slot? k = s.slot? k := by
  rw [slot?_modify hs]
  split
  · simp only [hf, slot?]
  · rfl

/-- a move that changes one run, and its slot by what it hands in there -/
theorem merges_of_modify {f : Run → Run} {o : Option AbortReason} (hr : s.runs[j]? = some r)
    (hs : s'.runs = s.runs.modify j f) (hm : s.handsIn? m = o.map (j, ·))
    (hf : (f r).session.abort = AbortReason.mergeAll r.session.abort o.toList) :
    s.Merges m s' i := by
  rw [Merges, requested?, hm, slot?_modify hs]
  by_cases hi : i = j
  · subst hi
    rw [if_pos rfl, hr, Option.bind_some, hf, slot?_of_run hr]
    cases o <;> simp
  · rw [if_neg hi]
    cases o <;> simp [Ne.symm hi, AbortReason.mergeAll]

theorem merges_of_request (ht : s.task? n = some task) (h : RequestStep s n task reply s') :
    s.Merges (.proceed n reply) s' i := by
  have hm : s.handsIn? (.proceed n reply) = s.stageHandsIn? task := by
    rw [handsIn?, ht, Option.bind_some]
  -- a command puts in what the session says about it
  have hcommand {j : RunId} {r : Run} {c : Command} (hr : s.runs[j]? = some r)
      (hs : s'.runs = s.runs.modify j fun x => { x with session := (r.session.control c).2 })
      (ht : s.stageHandsIn? task = ((r.session.control c).1.reason? c).map (j, ·)) :
      s.Merges (.proceed n reply) s' i :=
    merges_of_modify hr hs (hm.trans ht) (r.session.control_slot c)
  cases h with
  | ignored hr => exact hcommand hr rfl (by rw [stageHandsIn?, hr]; rfl)
  | refused hr => exact hcommand hr rfl (by rw [stageHandsIn?, hr]; rfl)
  | applied hr => exact hcommand hr rfl (by rw [stageHandsIn?, hr]; rfl)
  | shown hr => exact hcommand hr rfl (by rw [stageHandsIn?, hr]; rfl)
  | cutMissing ha => exact merges_of_eq (by rw [hm, stageHandsIn?, ha]; rfl) rfl
  | cutRefused ha hr =>
    exact hcommand hr rfl (by rw [stageHandsIn?, ha, Option.bind_some, hr]; rfl)
  | cuts ha hr => exact hcommand hr rfl (by rw [stageHandsIn?, ha, Option.bind_some, hr]; rfl)
  | @sweeps reason j runs =>
    -- a sweep may go by numbers that no run has, as far as this lemma knows
    cases hr : s.runs[j]? with
    | none =>
      refine merges_of_eq (by rw [hm, stageHandsIn?, hr]; rfl) ?_
      rw [slot?_modify (j := j) rfl]
      split
      · rename_i hi
        rw [hi, slot?, hr]
        rfl
      · rfl
    | some r =>
      exact merges_of_modify (o := some (.killSwitch reason)) hr rfl
        (by rw [hm, stageHandsIn?, hr]; rfl) rfl
  | enrolls =>
    refine merges_of_eq (by rw [hm]; rfl) ?_
    show ((s.runs ++ [_])[i]?).bind _ = _
    rw [List.getElem?_append]
    split
    · rfl
    · rename_i hi
      rw [slot?, List.getElem?_eq_none (Nat.le_of_not_lt hi)]
      cases i - s.runs.length <;> rfl
  | launches =>
    exact merges_of_eq (by rw [hm]; rfl)
      (slot?_modify_eq rfl (fun r => Session.settle_abort r.session _) i)
  | spawns =>
    refine merges_of_eq (by rw [hm]; rfl) ?_
    exact slot?_modify_eq (f := fun r => { r with place := .creating }) rfl (fun _ => rfl) i
  | _ => exact merges_of_eq (by rw [hm]; rfl) rfl

/-- **A move changes the slot of a run by what it hands in there, and by nothing else.** -/
theorem merges_step (h : s.step? m = some s') (i : RunId) : s.Merges m s' i := by
  cases m with
  | work j reply =>
    obtain ⟨r, r', ds, hr, ha, hruns, _⟩ := work?_eq_some h
    have hw : WorkerStep s.view r reply r' ds := .of_advance ha
    rw [List.set_eq_modify] at hruns
    exact merges_of_modify hr hruns (by rw [handsIn?, hr]; rfl) hw.slot
  | proceed n reply =>
    obtain ⟨task, ht, hr⟩ := requestStep h
    exact merges_of_request ht hr
  | request q =>
    cases h
    exact merges_of_eq rfl rfl
  | elapse d =>
    cases h
    exact merges_of_eq rfl rfl

/-- **The slot of a run holds what all the requests make of it.** -/
theorem slot?_play (h : s.play? ms = some s') (i : RunId) :
    s'.slot? i = AbortReason.mergeAll (s.slot? i) (s.requested i ms) := by
  refine trace_induction (P := fun past t => t.slot? i = AbortReason.mergeAll (s.slot? i)
    (past.filterMap fun x => x.before.requested? i x.move)) ?_ rfl h
  intro past t t' m hP hstep
  rw [List.filterMap_append, AbortReason.mergeAll_append, ← hP]
  have hmerges : t'.slot? i = _ := merges_step hstep i
  rw [hmerges, List.filterMap_cons]
  cases t.requested? i m <;> rfl

/-! ## what follows for a run -/

/-- the worker of a run is given back a reason: at once, or with its next step if it has to publish
a pause first -/
inductive GivesBack (s s' : System) (i : RunId) (b : AbortReason) : Prop
  | now {d : Deed} (hd : s'.deeds i = d :: s.deeds i) (hg : d.given? = some b)
  | next (h : ∀ ms t, Aside i ms → s'.play? ms = some t →
      t.Next i fun t' => ∃ d d', t'.deeds i = d' :: d :: s.deeds i ∧ d'.given? = some b)

theorem gives_of_announce {f : Frame} {k : Resume} (hs : s'.Tidy) (hr : s'.runs[i]? = some r)
    (hp : r.place = .call f (.announce k (some b))) (hd : s'.deeds i = s.deeds i) :
    s.GivesBack s' i b := by
  refine .next fun ms t ha hplay => ?_
  obtain ⟨r', hr', hp', _, hd'⟩ := aside_play hs hr (by rw [hp]; exact nofun) ha hplay
  rw [hp] at hp'
  refine next_of hr' (by simp [Run.advance, hp', Run.advanceCall]) ?_
  intro reply r₁ ds t' hw _ hdeeds
  rw [hd', hd] at hdeeds
  cases hw with
  | call hp₁ h =>
    rw [hp'] at hp₁
    cases hp₁
    cases h with
    | announcedStop => exact ⟨_, _, hdeeds, rfl⟩
    | atGate hg => rcases hg with hg | hg <;> cases hg
  | staged hst => rw [hp'] at hst; cases hst
  | unready hst => rw [hp'] at hst; cases hst
  | stageBroke hst => rw [hp'] at hst; cases hst
  | _ hst => rw [hp'] at hst; cases hst

/-- a worker that hands a reason in is given back what its slot holds then -/
theorem gives_of_work {reply : Reply} (hs : s.Reachable)
    (h : s.step? (.work i reply) = some s') (ha : s.requested? i (.work i reply) = some a) :
    ∃ b, s'.slot? i = some b ∧ s.GivesBack s' i b := by
  obtain ⟨r, _, _, hr, _⟩ := work?_eq_some h
  obtain ⟨r', ds, hr', hd, hw⟩ := workStep h hr
  have hreason : r.reason? s.killSwitch.poll = some a := by
    rw [requested?, handsIn?, hr, Option.bind_some] at ha
    cases hx : r.reason? s.killSwitch.poll with
    | none => simp [hx] at ha
    | some b => simpa [hx] using ha
  obtain ⟨b, hb, ⟨d, rfl, hg⟩ | ⟨rfl, f, k, hp⟩⟩ := hw.gives hreason
  · exact ⟨b, by rw [slot?_of_run hr', hb], .now hd hg⟩
  · exact ⟨b, by rw [slot?_of_run hr', hb], gives_of_announce (hs.step h).tidy hr' hp hd⟩

/-- how the slot of a run arbitrates between the requests of a list of moves -/
structure Arbitrates (s : System) (i : RunId) (ms : List Move) (s' : System) : Prop where
  /-- the slot holds the earliest request of the highest priority -/
  holds : ∀ a, s'.slot? i = some a ↔
    AbortReason.Prevails a ((s.slot? i).toList ++ s.requested i ms)
  clear : s'.slot? i = none ↔ (s.slot? i).toList ++ s.requested i ms = []
  /-- a worker that hands a reason in is given back what the slot holds then -/
  answers : ∀ x ∈ s.trace ms, ∀ reply a, x.move = .work i reply →
    x.before.requested? i x.move = some a →
    ∃ b, x.after.slot? i = some b ∧ x.before.GivesBack x.after i b
  rises : ∀ x ∈ s.trace ms, ∀ a, x.before.slot? i = some a →
    ∃ b, x.after.slot? i = some b ∧ a.priority ≤ b.priority
  /-- the same requests in another order, of this run or of another one, in this history or in
  another one, come to a reason of the same priority, with the same end -/
  permuted : ∀ (j : RunId) (t : System) (ms' : List Move) (t' : System), t.play? ms' = some t' →
    ((s.slot? i).toList ++ s.requested i ms).Perm ((t.slot? j).toList ++ t.requested j ms') →
    (s'.slot? i).map AbortReason.priority = (t'.slot? j).map AbortReason.priority ∧
      (s'.slot? i).map AbortReason.finalState = (t'.slot? j).map AbortReason.finalState
  /-- the run ends for the reason that prevails when its worker looks into the slot -/
  ends : ∀ o, s.outcome? i = none → s'.outcome? i = some o → ∃ ms₁ ms₂ t e, ms = ms₁ ++ ms₂ ∧
    s.play? ms₁ = some t ∧ t.placeOf? i = some (.finishing e) ∧
    ∀ a, AbortReason.Prevails a ((s.slot? i).toList ++ s.requested i ms₁) →
      o = .ofAbort a ∧ o.state = a.finalState
  /-- all this holds of whatever list of requests may reach the session -/
  further : ∀ r, s'.runs[i]? = some r → ∀ rs, r.session.Settles rs

/-- **The slot of a run keeps the earliest request of the highest priority, whoever makes them and
in whatever order, and the run ends for it.** -/
theorem arbitrates_of_play (hs : s.Reachable) (h : s.play? ms = some s') (i : RunId) :
    s.Arbitrates i ms s' where
  holds := fun a => by rw [slot?_play h i, AbortReason.mergeAll_eq_some]
  clear := by rw [slot?_play h i, AbortReason.mergeAll_eq_none]
  answers := by
    rintro ⟨t, m, t'⟩ hx reply a rfl ha
    exact gives_of_work (hs.of_mem_trace hx) (step?_of_mem_trace hx) ha
  rises := fun x hx a ha => by
    obtain ⟨b, hb, hab⟩ := slot_step ha (step?_of_mem_trace hx)
    exact ⟨b, hb, hab.priority_le⟩
  permuted := fun j t ms' t' h' hp => by
    have hpriority := AbortReason.priority_mergeAll_perm hp
    rw [← slot?_play h i, ← slot?_play h' j] at hpriority
    exact ⟨hpriority, AbortReason.finalState_of_priority hpriority⟩
  ends := fun o hn ho => by
    obtain ⟨ms₁, ms₂, t, e, hms, hplay, hp, rfl⟩ := looked_play hs.tidy hn h ho
    refine ⟨ms₁, ms₂, t, e, hms, hplay, hp, fun a ha => ?_⟩
    rw [slot?_play hplay i, AbortReason.mergeAll_eq_some.2 ha, Run.outcomeOf_some]
    exact ⟨rfl, Outcome.state_ofAbort a⟩
  further := fun r _ rs => r.session.settles rs

/-- while the handler is asked about a call, the run is stopped and the kill switch turned on; the
handler says no, and the run is terminated as well -/
def contested : List Move :=
  [.request (.control "s" .stop), .proceed 2 .go, .proceed 2 .go, .request (.activate "k"),
    .proceed 3 .go, .proceed 3 .go, .proceed 3 .go, .work 0 (.verdict .denied), .work 0 .go,
    .request (.control "s" .terminate), .proceed 4 .go]

/-- the kill switch comes after Stop and before Terminate, and prevails -/
theorem arbitrates_of_play_contested :
    let s := questioned { mode := .interactive }
    let s' := s.after contested
    s.requested 0 contested
        = [.stopped, .killSwitch "k", .failure (.denied .textInjection), .terminated] ∧
      s.Arbitrates 0 contested s' ∧ s'.slot? 0 = some (.killSwitch "k") := by
  intro s s'
  have hplay : s.play? contested = some s' := play?_after (by decide +kernel)
  exact ⟨by decide +kernel, arbitrates_of_play (reachable_questioned _) hplay 0,
    by decide +kernel⟩

end

end System

end ScriptGuard
