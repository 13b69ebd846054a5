import ScriptGuard.Proofs.Insertion

/-!
# Autonomous runs go their own way

An autonomous run is never paused, stepped or stopped, whoever asks for that and whenever.  Requests
for it are answered with no, and the history without them comes to the same.

* `Run.Undeterred`      the run is not held up, and nobody has stopped it;
* `System.Candid`       the script of a run hands in no abort that was not given to it;
* `System.Agrees`       two systems differ in nothing but requests;
* `unstopped_play`      an autonomous run does not end as stopped.
-/

namespace ScriptGuard

/-- a reason that a call or an interrupt check gives back to the script -/
def Deed.given? : Deed → Option AbortReason
  | .replied _ (.error (.abort a)) => some a
  | .polled reason => reason
  | _ => none

/-- a reason that the worker is about to give back -/
def Place.brings? : Place → Option AbortReason
  | .call _ (.announce _ stop) => stop
  | .call _ (.raise a) | .polling (.raise a) => some a
  | _ => none

/-- what was done, by a worker or by a request, whatever its number; the answers are left out -/
def Entry.matter? : Entry → Option ((RunId × Deed) ⊕ CallerDeed)
  | .worker i d => some (.inl (i, d))
  | .caller _ (.closed _) => none
  | .caller _ d => some (.inr d)

/-- how the work on the script has ended, until an outcome is settled on -/
def Place.ending? : Place → Option Ending
  | .releasing _ e | .letting _ _ e | .finishing e => some e
  | _ => none

theorem Place.brings?_of_isStage {q : Place} (h : q.isStage = true) : q.brings? = none := by
  obtain rfl | ⟨_, rfl⟩ | rfl := Place.stage_cases h <;> rfl

theorem Place.ending?_of_isStage {q : Place} (h : q.isStage = true) : q.ending? = none := by
  obtain rfl | ⟨_, rfl⟩ | rfl := Place.stage_cases h <;> rfl

namespace Session

/-- the session is not held up, and nobody has stopped it -/
structure Undeterred (x : Session) : Prop where
  paused : x.state ≠ .paused
  stepping : x.state ≠ .stepping
  slot : x.abort ≠ some .stopped

section
variable {x : Session} {a : AbortReason}

theorem Undeterred.merge_ne (h : x.Undeterred) (ha : a ≠ .stopped) :
    AbortReason.merge x.abort a ≠ .stopped := by
  have hs := h.slot
  cases hx : x.abort with
  | none => exact ha
  | some b =>
    rw [AbortReason.merge_some]
    split
    · exact ha
    · rintro rfl
      exact hs hx

theorem Undeterred.request (h : x.Undeterred) (ha : a ≠ .stopped) : (x.request a).Undeterred where
  paused := h.paused
  stepping := h.stepping
  slot := fun hs => h.merge_ne ha (Option.some.inj hs)

theorem Undeterred.count (h : x.Undeterred) : x.count.Undeterred := ⟨h.paused, h.stepping, h.slot⟩

theorem Undeterred.mustRepause (h : x.Undeterred) : x.mustRepause = false := by
  have hs := h.stepping
  cases hx : x.state <;> simp_all [Session.mustRepause]

theorem Undeterred.settle (h : x.Undeterred) {next : RunState} (hp : next ≠ .paused)
    (hs : next ≠ .stepping) : (x.settle next).Undeterred := by
  unfold Session.settle
  split
  · exact ⟨hp, hs, h.slot⟩
  · exact h

theorem Undeterred.gate {x' : Session} {killed : Option String} {holds paused : Bool} {now : Nat}
    {verdict : GateVerdict} (h : x.Undeterred)
    (hg : x.GateMove killed holds now verdict paused x') : x'.Undeterred := by
  cases hg with
  | aborts =>
    cases killed with
    | none => exact ⟨h.paused, h.stepping, h.slot⟩
    | some reason =>
      have hr : (x.request (.killSwitch reason)).Undeterred := h.request (by simp)
      exact ⟨hr.paused, hr.stepping, hr.slot⟩
  | pauses _ _ hs => exact absurd hs h.stepping
  | parks _ _ hs => exact absurd hs h.paused
  | _ => exact ⟨h.paused, h.stepping, h.slot⟩

theorem GateMove.abort_of_aborted {x' : Session} {killed : Option String} {holds paused : Bool}
    {now : Nat} (h : x.GateMove killed holds now (.aborted a) paused x') : x'.abort = some a := by
  cases h with
  | aborts ha => exact ha

/-- the only command that an autonomous run heeds is Terminate -/
theorem Undeterred.control (h : x.Undeterred) (hm : x.mode = .autonomous) (c : Command) :
    (x.control c).2.Undeterred := by
  cases c with
  | terminate =>
    rcases x.control_cases .terminate with ⟨hc, _⟩ | ⟨hc, _⟩ <;> rw [hc]
    · exact h
    · exact h.request (by simp)
  | _ =>
    rw [System.control_of_autonomous hm rfl]
    exact h

end

end Session

/-- the run is not held up and has never been stopped, and its script has been told so never -/
structure Run.Undeterred (r : Run) (ds : List Deed) : Prop where
  session : r.session.Undeterred
  brings : r.place.brings? ≠ some .stopped
  given : ∀ d ∈ ds, d.given? ≠ some .stopped

section
variable {v : View} {r r' : Run} {f : Frame} {p : CallPoint} {reply : Reply} {ds old : List Deed}

theorem GateStep.undeterred {k : Resume} {shown : Bool} (h : GateStep v r f k shown r' ds)
    (hx : r.session.Undeterred) : r'.Undeterred ds := by
  have hx' : r'.session.Undeterred := by
    obtain ⟨_, _, hg⟩ := h.gateMove
    exact hx.gate hg
  cases h with
  | passes => cases k <;> exact ⟨hx', by rintro ⟨⟩, List.forall_mem_nil _⟩
  | aborts hg =>
    refine ⟨hx', by rintro ⟨⟩, fun d hd he => ?_⟩
    rw [List.mem_singleton.1 hd] at he
    exact hx'.slot (hg.abort_of_aborted.trans he)
  | abortsShown hg =>
    exact ⟨hx', fun hb => hx'.slot (hg.abort_of_aborted.trans hb), List.forall_mem_nil _⟩
  | _ => exact ⟨hx', by rintro ⟨⟩, List.forall_mem_nil _⟩

theorem CallStep.undeterred (h : CallStep v r f p reply r' ds) (hx : r.session.Undeterred)
    (hb : (Place.call f p).brings? ≠ some .stopped) : r'.Undeterred ds := by
  cases h with
  | atGate _ h => exact h.undeterred hx
  | slotSet ha =>
    refine ⟨hx, by rintro ⟨⟩, fun d hd he => ?_⟩
    rw [List.mem_singleton.1 hd] at he
    exact hx.slot (ha.trans he)
  | @announced k => cases k <;> exact ⟨hx, by rintro ⟨⟩, by simp [Deed.given?]⟩
  | @announcedStop _ a =>
    have ha : a ≠ .stopped := fun ha => hb (congrArg some ha)
    exact ⟨hx, by rintro ⟨⟩, by simp [Deed.given?, ha]⟩
  | counts => exact ⟨hx.count, by rintro ⟨⟩, List.forall_mem_nil _⟩
  | countsHeld => exact ⟨hx.count, by rintro ⟨⟩, List.forall_mem_nil _⟩
  | repauses =>
    refine ⟨?_, by rintro ⟨⟩, List.forall_mem_nil _⟩
    rw [Session.repause_eq_self _ hx.mustRepause]
    exact hx
  | @raises a =>
    have ha : a ≠ .stopped := fun ha => hb (congrArg some ha)
    exact ⟨hx.request ha, by rintro ⟨⟩, by simp [Deed.given?, hx.merge_ne ha]⟩
  | _ => exact ⟨hx, by simp [Place.brings?], by simp [Deed.given?]⟩

theorem WorkerStep.undeterred (h : WorkerStep v r reply r' ds) (hu : r.Undeterred old) :
    r'.Undeterred ds := by
  have hx := hu.session
  cases h with
  | call hp h => exact h.undeterred hx (hp ▸ hu.brings)
  | staged _ hn => exact ⟨hx, by rw [Place.brings?_of_isStage hn]; simp, List.forall_mem_nil _⟩
  | pollSet _ ha =>
    refine ⟨hx, by rintro ⟨⟩, fun d hd he => ?_⟩
    rw [List.mem_singleton.1 hd] at he
    exact hx.slot (ha.trans he)
  | @pollRaises a hp =>
    have ha : a ≠ .stopped := fun ha => hu.brings (by rw [hp, ha]; rfl)
    exact ⟨hx.request ha, by rintro ⟨⟩, by simp [Deed.given?, hx.merge_ne ha]⟩
  | @settles o =>
    refine ⟨hx.settle ?_ ?_, by rintro ⟨⟩, List.forall_mem_nil _⟩ <;> cases o <;> simp [Outcome.state]
  | remembers =>
    refine ⟨hx, by rintro ⟨⟩, ?_⟩
    split <;> simp [Deed.given?]
  | _ => exact ⟨hx, by simp [Place.brings?], by simp [Deed.given?]⟩

theorem WorkerStep.of_ending (h : WorkerStep v r reply r' ds) {e : ScriptEnd}
    (he : r'.place.ending? = some (.script e)) :
    r.place.ending? = some (.script e) ∨ reply = .script (.finish e) := by
  cases h with
  | call _ h =>
    cases h with
    | atGate _ h => cases h <;> cases he
    | _ => cases he
  | staged _ hn => rw [Place.ending?_of_isStage hn] at he; cases he
  | finishes => exact Or.inr (by cases he; rfl)
  | lets hp => exact Or.inl (by rw [hp]; exact he)
  | allLet hp => exact Or.inl (by rw [hp]; exact he)
  | letDone hp => exact Or.inl (by rw [hp]; exact he)
  | _ => cases he

end

namespace System

section
variable {s s' : System} {m : Move} {i : RunId} {r : Run} {ms : List Move}

/-- **Nobody holds up or stops an autonomous run.** -/
theorem Reachable.undeterred (hs : s.Reachable) (hr : s.runs[i]? = some r)
    (hm : r.session.mode = .autonomous) : r.Undeterred (s.deeds i) := by
  refine hs.every_run (P := fun r ds => r.session.mode = .autonomous → r.Undeterred ds)
    ?_ ?_ hr hm
  · intro _ _ _ _ _
    refine ⟨⟨?_, ?_, ?_⟩, ?_, List.forall_mem_nil _⟩ <;> rintro ⟨⟩
  · intro s m i r r' ds _ _ hc ih hm'
    have hm : r.session.mode = .autonomous := by
      rw [← hm', Session.mode, Session.mode, hc.given_eq.2]
    have hu := ih hm
    cases hc with
    | still => exact hu
    | worked _ hw =>
      have hnew := hw.undeterred hu
      refine ⟨hnew.session, hnew.brings, fun d hd => ?_⟩
      rcases List.mem_append.1 hd with hd | hd
      · exact hnew.given d (List.mem_reverse.1 hd)
      · exact hu.given d hd
    | commanded => exact ⟨hu.session.control hm _, hu.brings, hu.given⟩
    | swept => exact ⟨hu.session.request (by simp), hu.brings, hu.given⟩
    | launched => exact ⟨hu.session.settle (by simp) (by simp), hu.brings, hu.given⟩
    | spawned => exact ⟨hu.session, by rintro ⟨⟩, hu.given⟩

/-! ## how autonomous runs end -/

/-- with the move the script of the run hands in an abort that neither a call nor an interrupt check
has given to it -/
def invents (s : System) (i : RunId) : Move → Bool
  | .work j (.script (.finish (.aborted a))) =>
    j == i && (s.deeds i).all fun d => d.given? != some a
  | _ => false

/-- the script of the run hands in no abort but those it has been given -/
def Candid (i : RunId) (s : System) (ms : List Move) : Prop :=
  s.Without (fun t m => t.invents i m = true) ms

theorem ofAbort_ne_stopped {a : AbortReason} (h : a ≠ .stopped) :
    Outcome.ofAbort a ≠ .terminated .stopped := by
  cases a <;> simp_all [Outcome.ofAbort]

theorem outcomeOf_ne_stopped {slot : Option AbortReason} {e : Ending} (hs : slot ≠ some .stopped)
    (he : e ≠ .script (.aborted .stopped)) : Run.outcomeOf slot e ≠ .terminated .stopped := by
  cases slot with
  | some a => exact ofAbort_ne_stopped fun h => hs (congrArg some h)
  | none =>
    cases e with
    | failure cause => rintro ⟨⟩
    | script e =>
      cases e with
      | aborted a => exact ofAbort_ne_stopped fun h => he (by rw [h])
      | _ => rintro ⟨⟩

/-- an autonomous run is not about to end as stopped, and has not ended so -/
def Unstopped (i : RunId) (s : System) : Prop :=
  ∀ r, s.runs[i]? = some r → r.session.mode = .autonomous →
    r.place.ending? ≠ some (.script (.aborted .stopped)) ∧
      r.place.outcome? ≠ some (.terminated .stopped)

theorem Unstopped.step (hs : s.Reachable) (h : s.Unstopped i)
    (hm : ¬ s.invents i m = true)
    (hstep : s.step? m = some s') : s'.Unstopped i := by
  intro r' hr' hauto'
  cases hr : s.runs[i]? with
  | none =>
    obtain ⟨_, hn | ⟨_, _, _, hn⟩⟩ := newRun hstep hr
    · rw [hn] at hr'
      cases hr'
    · rw [hn] at hr'
      cases hr'
      exact ⟨by rintro ⟨⟩, by rintro ⟨⟩⟩
  | some r =>
    obtain ⟨r₁, ds, hr₁, _, hc⟩ := runChange hstep hr
    rw [hr'] at hr₁
    cases hr₁
    have hauto : r.session.mode = .autonomous := by
      rw [← hauto', Session.mode, Session.mode, hc.given_eq.2]
    obtain ⟨he, ho⟩ := h r hr hauto
    have hu := hs.undeterred hr hauto
    cases hc with
    | worked hwork hw =>
      refine ⟨fun he' => ?_, fun ho' => ?_⟩
      · rcases hw.of_ending he' with he' | rfl
        · exact he he'
        · -- no call and no check has given it Stopped, so the script would make it up
          exact hm (by simpa [hwork, invents] using hu.given)
      · cases hset : r.place.outcome? with
        | some o =>
          have hkept := hw.keeps_outcome hset
          rw [ho'] at hkept
          exact ho (hset.trans hkept.symm)
        | none =>
          -- the outcome is settled on in this step, from the slot or else from the end
          obtain ⟨e, hp, hout⟩ := hw.settles_on hset ho'
          refine outcomeOf_ne_stopped hu.session.slot (fun heq => he ?_) hout.symm
          rw [hp, heq]
          rfl
    | spawned => exact ⟨by rintro ⟨⟩, by rintro ⟨⟩⟩
    | _ => exact ⟨he, ho⟩

/-- **An autonomous run does not end as stopped**, unless its script makes that up. -/
theorem unstopped_play (hs : s.Reachable) (h : s.Unstopped i) (hc : Candid i s ms)
    (hp : s.play? ms = some s') : s'.Unstopped i :=
  ((Throughout.of_without (P := fun t => t.Reachable ∧ t.Unstopped i)
    (fun ⟨hs, h⟩ hm hstep => ⟨hs.step hstep, h.step hs hm hstep⟩) ⟨hs, h⟩ hc).last hp).2

/-! ## two histories -/

theorem Ignored.filterMap_log {β : Type} {D : Nat → Bool} {f : Entry → Option β}
    (h : s.Ignored D) (hf : ∀ n k d, f (.caller n d) = f (.caller k d))
    (hn : ∀ n, f (.caller n (.closed (.said false))) = none) :
    (s.erase D).log.filterMap f = s.log.filterMap f := by
  show (s.log.filterMap (Entry.erase? D)).filterMap f = _
  rw [List.filterMap_filterMap]
  refine List.filterMap_congr fun e he => ?_
  cases e with
  | worker j d => rfl
  | caller n d =>
    cases hm : D n with
    | true =>
      obtain rfl := h.said n d hm he
      simp [Entry.erase?, hm, hn]
    | false => simpa [Entry.erase?, hm] using hf _ n d

/-- the two systems differ in nothing but requests: their numbers, and some that were answered and
did nothing else -/
structure Agrees (s s₀ : System) : Prop where
  same : s₀ = { s with tasks := s₀.tasks, nextTask := s₀.nextTask, log := s₀.log }
  /-- what the workers and the requests did, and told, in this order -/
  matters : s₀.log.filterMap Entry.matter? = s.log.filterMap Entry.matter?
  deeds : ∀ j, s₀.deeds j = s.deeds j

theorem Ignored.agrees {D : Nat → Bool} (h : s.Ignored D) : s.Agrees (s.erase D) where
  same := rfl
  matters := h.filterMap_log (fun _ _ d => by cases d <;> rfl) fun _ => rfl
  deeds := fun _ => h.filterMap_log (fun _ _ _ => rfl) fun _ => rfl

/-- **Requests to pause, resume, step or stop autonomous runs might as well not be made.**  Each is
answered with no; the history without them is possible in just the cases in which it is with them,
and comes to the same; and no autonomous run is ever held up or stopped. -/
theorem erase_play_of_inserts {settings : Settings} {approvals : Approvals} {D : Nat → Bool}
    (hi : (fresh settings approvals).Inserts D ms) :
    ((fresh settings approvals).play? ms).map (erase D)
        = (fresh settings approvals).play? (eraseMoves D 0 ms) ∧
      ∀ s, (fresh settings approvals).play? ms = some s →
        s.Ignored D ∧ s.Agrees (s.erase D) ∧ ∀ i r, s.runs[i]? = some r →
          r.session.mode = .autonomous → r.Undeterred (s.deeds i) ∧
            (Candid i (fresh settings approvals) ms →
              s.outcome? i ≠ some (.terminated .stopped)) := by
  have hblank : (fresh settings approvals).Ignored D :=
    ⟨by rintro _ _ _ ⟨⟩, fun _ _ _ he => absurd he List.not_mem_nil,
      fun _ _ hlt => absurd hlt (Nat.not_lt_zero _)⟩
  obtain ⟨hplay, hign⟩ := erase_play hblank hi
  refine ⟨hplay, fun s hs => ⟨hign s hs, (hign s hs).agrees, fun i r hr hm => ⟨?_, fun hc => ?_⟩⟩⟩
  · exact Reachable.undeterred ⟨_, _, ms, hs⟩ hr hm
  · have hfresh : (fresh settings approvals).Reachable := ⟨settings, approvals, [], rfl⟩
    have hnone : (fresh settings approvals).Unstopped i := fun r hr => by simp [fresh] at hr
    rw [outcome?_of_run hr]
    exact (unstopped_play hfresh hnone hc hs r hr hm).2

/-- a history of an autonomous run that is terminated in a call; two requests to inspect it come in
between, before the first move of the run and while it unwinds -/
def pestered : List Move :=
  [Move.request (.start ⟨"s", "s", ""⟩ {}), .proceed 0 .go, .proceed 0 (.provision (.ok ())),
    .proceed 0 .go, .proceed 0 .go, .request (.control "s" .pause), .proceed 1 .go,
    .proceed 0 .go, .proceed 1 .go, .proceed 0 .go, .proceed 0 .go] ++
  List.replicate 11 (Move.work 0 (.stage .ready)) ++
  [Move.work 0 (.script (.call .move [.int 1, .int 2])), .request (.control "s" .stop),
    .proceed 2 .go, .request (.control "s" .terminate), .proceed 3 .go, .proceed 2 .go, .work 0 .go,
    .work 0 (.script (.finish (.aborted .terminated)))] ++ List.replicate 3 (Move.work 0 .go)

theorem erase_play_of_inserts_pestered :
    let D : Nat → Bool := fun n => n == 1 || n == 2
    let s := (fresh {} {}).after pestered
    (fresh {} {}).Inserts D pestered ∧ s.outcome? 0 = some (.terminated .terminated) ∧
      (fresh {} {}).play? (eraseMoves D 0 pestered) = some (s.erase D) ∧ s.Ignored D ∧
      s.Agrees (s.erase D) ∧ Candid 0 (fresh {} {}) pestered ∧
      s.outcome? 0 ≠ some (.terminated .stopped) := by
  intro D s
  have hi : (fresh {} {}).Inserts D pestered := by
    unfold Inserts
    decide +kernel
  have hc : Candid 0 (fresh {} {}) pestered := by
    unfold Candid
    decide +kernel
  have hs : (fresh {} {}).play? pestered = some s := play?_after (by decide +kernel)
  obtain ⟨hplay, hall⟩ := erase_play_of_inserts hi
  obtain ⟨hign, hagr, hruns⟩ := hall s hs
  have hmode : (s.runs[0]?).map (·.session.mode) = some .autonomous := by decide +kernel
  obtain ⟨r, hr, hm⟩ := Option.map_eq_some_iff.1 hmode
  rw [hs] at hplay
  exact ⟨hi, by decide +kernel, hplay.symm, hign, hagr, hc, (hruns 0 r hr hm).2 hc⟩

end

end System

end ScriptGuard
