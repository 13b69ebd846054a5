import ScriptGuard.Proofs.Isolation
import ScriptGuard.Proofs.Trace

/-!
# How a run ends, reckoned from what its worker has heard

Eleven stages come before the script; then the script runs, what it holds is released, and the
worker reads the abort slot.  Any of these can fail or break the worker down.

* `System.hearings s i ms`   what the worker of the run `i` has heard along the moves `ms`;
* `Place.Heard p hs`         a worker that stands at `p` has heard `hs`;
* `Ending.Heard e hs`        a worker whose work has come to the ending `e` has heard `hs`;
* `Outcome.Reckoned o hs`    the outcome that goes with what was heard;
* `System.Reckoned`          the same of a run, with what its device sees and what is stored;
* `reckoned_of_play`         every run is reckoned in this way.

`System.Learned` ties hearings and places along a run, and with them what the device has seen,
whether the script was run and what was stored; it is kept by every stride.
-/

namespace ScriptGuard

/-- a stage of getting an interpreter ready -/
inductive Stage where
  | creation
  | registration (f : HostFunction)
  | compilation
deriving DecidableEq, Repr

def Stage.all : List Stage :=
  .creation :: HostFunction.all.map .registration ++ [.compilation]

/-- what a worker hears that bears on the end of its run -/
inductive Hearing where
  | ready (stage : Stage)
  | failed (stage : Stage) (e : InterpreterError)
  | returned (e : ScriptEnd)
  /-- the worker breaks down, and leaves everything to the rescue -/
  | brokeDown
  /-- the worker reads the abort slot, to finish -/
  | read (slot : Option AbortReason)
deriving DecidableEq, Repr

/-- the stages that are not done at this place, from the one under way on -/
def Place.ahead : Place → List Stage
  | .creating => Stage.all
  | .registering fs => fs.map .registration ++ [.compilation]
  | .loading => [.compilation]
  | _ => []

/-- the interpreter runs the script -/
def Place.inRun : Place → Bool
  | .script | .polling _ | .call _ _ => true
  | _ => false

/-- what a reply says to the worker at this place; the slot is read in the step that concludes -/
def Place.hears? (p : Place) (slot : Option AbortReason) (reply : Reply) : Option Hearing :=
  match p, reply with
  | .script, .script (.finish e) => some (.returned e)
  | .script, .script .breakDown => some .brokeDown
  | .letting _ _ _, .device .brokeDown => some .brokeDown
  | .finishing _, .go => some (.read slot)
  | p, .stage .ready => p.ahead.head?.map .ready
  | p, .stage (.failed e) => p.ahead.head?.map (.failed · e)
  | p, .stage .brokeDown => p.ahead.head?.map fun _ => .brokeDown
  | _, _ => none

/-- every stage was ready -/
def Equipped (hs : List Hearing) : Prop := ∀ st ∈ Stage.all, .ready st ∈ hs

/-- heard by a worker that breaks down: before the script has come to its end, or in the releases
after it -/
inductive Breakdown : List Hearing → Prop
  | early {done rest : List Stage} (hd : done ++ rest = Stage.all) :
      Breakdown (done.map .ready ++ [.brokeDown])
  | late (e : ScriptEnd) : Breakdown (Stage.all.map .ready ++ [.returned e, .brokeDown])

/-- heard by a worker whose work on the script has come to an ending -/
inductive Ending.Heard : Ending → List Hearing → Prop
  | returned (e : ScriptEnd) : Heard (.script e) (Stage.all.map .ready ++ [.returned e])
  | failed {done rest : List Stage} {st : Stage} {e : InterpreterError}
      (hd : done ++ st :: rest = Stage.all) :
      Heard (.failure (.script e.message)) (done.map .ready ++ [.failed st e])
  | broken {hs : List Hearing} (hb : Breakdown hs) : Heard (.failure Run.brokenDown) hs

/-- heard by a worker that stands at this place -/
def Place.Heard (p : Place) (hs : List Hearing) : Prop :=
  match p with
  | .unborn => hs = []
  | .creating | .registering _ | .loading =>
    p ≠ .registering [] ∧ ∃ done : List Stage, hs = done.map .ready ∧ done ++ p.ahead = Stage.all
  | .script | .polling _ | .call _ _ => hs = Stage.all.map .ready
  | .releasing held e => e.Heard hs ∧ (held = [] ∨ ∃ x, e = .script x)
  | .letting _ _ e => e.Heard hs ∧ ∃ x, e = .script x
  | .rescue | .rescuing | .lost => Breakdown hs
  | .finishing e => e.Heard hs
  | p => ∃ early e slot, hs = early ++ [.read slot] ∧ Ending.Heard e early ∧
      p.outcome? = some (Run.outcomeOf slot e)

section
variable {p : Place} {o : Outcome} {e : Ending} {hs : List Hearing} {st : Stage} {x : ScriptEnd}
  {slot : Option AbortReason}

theorem Breakdown.mem (h : Breakdown hs) : .brokeDown ∈ hs := by
  cases h <;> simp

theorem Breakdown.not_failed (h : Breakdown hs) (st : Stage) (e : InterpreterError) :
    .failed st e ∉ hs := by
  cases h <;> simp

theorem Breakdown.unread (h : Breakdown hs) (slot : Option AbortReason) : .read slot ∉ hs := by
  cases h <;> simp

theorem Equipped.of_map : Equipped (Stage.all.map .ready) := fun _ hst => List.mem_map_of_mem hst

theorem Equipped.append (h : Equipped hs) (hs' : List Hearing) : Equipped (hs ++ hs') :=
  fun st hst => List.mem_append_left _ (h st hst)

theorem Place.heard_stage (hp : p.isStage = true) : p.Heard hs ↔ p ≠ .registering [] ∧
    ∃ done : List Stage, hs = done.map .ready ∧ done ++ p.ahead = Stage.all := by
  obtain rfl | ⟨_, rfl⟩ | rfl := Place.stage_cases hp <;> exact Iff.rfl

theorem Place.heard_inRun (hp : p.inRun = true) : p.Heard hs ↔ hs = Stage.all.map .ready := by
  cases p with
  | script | polling _ | call _ _ => exact Iff.rfl
  | _ => cases hp

theorem Place.heard_settled (hp : p.outcome? = some o) : p.Heard hs ↔
    ∃ early e slot, hs = early ++ [.read slot] ∧ Ending.Heard e early ∧
      o = Run.outcomeOf slot e := by
  have ho {e : Ending} {slot : Option AbortReason} :
      p.outcome? = some (Run.outcomeOf slot e) ↔ o = Run.outcomeOf slot e := by
    rw [hp, Option.some_inj]
  simp only [← ho]
  cases p with
  | settling _ | leaving _ | remembering _ | tellState _ | tellResult _ | tellIdle _ | gone _ =>
    exact Iff.rfl
  | _ => cases hp

theorem Place.isStage_of_inRun (hp : p.inRun = true) : p.isStage = false := by
  cases p with
  | script | polling _ | call _ _ => rfl
  | _ => cases hp

theorem Place.exists_ahead (hp : p.isStage = true) : ∃ st rest, p.ahead = st :: rest := by
  cases p with
  | creating => exact ⟨_, _, rfl⟩
  | registering fs => cases fs <;> exact ⟨_, _, rfl⟩
  | loading => exact ⟨_, _, rfl⟩
  | _ => cases hp

theorem Place.hears?_ready : p.hears? slot (.stage .ready) = p.ahead.head?.map .ready := by
  cases p <;> rfl

theorem Place.hears?_failed {e : InterpreterError} :
    p.hears? slot (.stage (.failed e)) = p.ahead.head?.map (.failed · e) := by
  cases p <;> rfl

theorem Place.hears?_brokeDown :
    p.hears? slot (.stage .brokeDown) = p.ahead.head?.map fun _ => .brokeDown := by
  cases p <;> rfl

end

/-! ## one step of a worker -/

section
variable {v : View} {r r' : Run} {f : Frame} {p : CallPoint} {reply : Reply} {ds : List Deed}
  {hs : List Hearing}

theorem Run.advance_ready (h : r.advance v (.stage .ready) = some (r', ds))
    (hp : r.place.isStage = true) (hn : r.place ≠ .registering []) :
    r.place.ahead = [.compilation] ∧ r'.place = .script ∨
      ∃ st, r.place.ahead = st :: r'.place.ahead ∧ r'.place.isStage = true ∧
        r'.place ≠ .registering [] := by
  cases hplace : r.place with
  | creating =>
    simp only [Run.advance, hplace] at h
    cases h
    exact Or.inr ⟨.creation, rfl, rfl, by simp [HostFunction.all]⟩
  | registering fs =>
    simp only [Run.advance, hplace] at h
    cases h
    rw [hplace] at hn
    cases fs with
    | nil => exact absurd rfl hn
    | cons f fs =>
      cases fs with
      | nil => exact Or.inr ⟨.registration f, rfl, rfl, by simp [Run.registered]⟩
      | cons g rest => exact Or.inr ⟨.registration f, rfl, rfl, by simp [Run.registered]⟩
  | loading =>
    simp only [Run.advance, hplace] at h
    cases h
    exact Or.inl ⟨rfl, rfl⟩
  | _ =>
    rw [hplace] at hp
    cases hp

theorem CallStep.inRun (h : CallStep v r f p reply r' ds) :
    r'.place.inRun = true ∧ (Place.call f p).hears? r.session.abort reply = none := by
  cases h with
  | atGate _ h => cases h <;> exact ⟨rfl, rfl⟩
  | _ => exact ⟨rfl, rfl⟩

theorem Run.heard_ready (h : r.advance v (.stage .ready) = some (r', ds))
    (hp : r.place.isStage = true) (hh : r.place.Heard hs) :
    r'.place.Heard (hs ++ (r.place.ahead.head?.map Hearing.ready).toList) := by
  obtain ⟨hn, done, rfl, hd⟩ := (Place.heard_stage hp).1 hh
  rcases Run.advance_ready h hp hn with ⟨ha, hp'⟩ | ⟨st, ha, hp', hn'⟩
  · rw [hp', Place.heard_inRun rfl, ha, ← hd, ha]
    simp
  · rw [ha] at hd ⊢
    exact (Place.heard_stage hp').2 ⟨hn', done ++ [st], by simp, by simpa using hd⟩

/-- **A worker hears what goes with the place it comes to.** -/
theorem Run.heard_step (h : r.advance v reply = some (r', ds))
    (hb : r.place.isStage = true → r.held = {}) (hh : r.place.Heard hs) :
    r'.place.Heard (hs ++ (r.place.hears? r.session.abort reply).toList) := by
  have hw : WorkerStep v r reply r' ds := .of_advance h
  have hnothing (hn : r.place.hears? r.session.abort reply = none) (hq : r'.place.Heard hs) :
      r'.place.Heard (hs ++ (r.place.hears? r.session.abort reply).toList) := by
    rwa [hn, Option.toList_none, List.append_nil]
  cases hw with
  | call hp hc =>
    rw [hp] at hh
    refine hnothing ?_ ((Place.heard_inRun hc.inRun.1).2 hh)
    rw [hp]
    exact hc.inRun.2
  -- the stages
  | staged hp =>
    rw [Place.hears?_ready]
    exact Run.heard_ready h hp hh
  | equipped hp =>
    rw [Place.hears?_ready]
    exact Run.heard_ready h (by rw [hp]; rfl) hh
  | unready hp =>
    obtain ⟨st, rest, ha⟩ := Place.exists_ahead hp
    obtain ⟨_, done, rfl, hd⟩ := (Place.heard_stage hp).1 hh
    rw [Place.hears?_failed, ha, hb hp]
    exact ⟨.failed (ha ▸ hd), Or.inl rfl⟩
  | stageBroke hp =>
    obtain ⟨st, rest, ha⟩ := Place.exists_ahead hp
    obtain ⟨_, done, rfl, hd⟩ := (Place.heard_stage hp).1 hh
    rw [Place.hears?_brokeDown, ha]
    exact .early hd
  -- the script and the releases
  | @finishes e hp =>
    rw [hp] at hh ⊢
    obtain rfl : hs = Stage.all.map .ready := hh
    exact ⟨.returned e, Or.inr ⟨e, rfl⟩⟩
  | breaks hp =>
    rw [hp] at hh ⊢
    obtain rfl : hs = Stage.all.map .ready := hh
    exact .early (List.append_nil _)
  | lets hp =>
    rw [hp] at hh
    obtain ⟨he, hn | hx⟩ := hh
    · cases hn
    · exact hnothing (by rw [hp]; rfl) ⟨he, hx⟩
  | @letDone i is e d hp hd =>
    rw [hp] at hh
    refine hnothing ?_ ⟨hh.1, Or.inr hh.2⟩
    rw [hp]
    cases d with
    | done | failed _ => rfl
    | brokeDown => exact absurd rfl hd
  | letBroke hp =>
    rw [hp] at hh ⊢
    obtain ⟨he, x, rfl⟩ := hh
    cases he
    rw [List.append_assoc]
    exact .late x
  | allLet hp =>
    rw [hp] at hh
    exact hnothing (by rw [hp]; rfl) hh.1
  | rescued hp =>
    rw [hp] at hh
    exact hnothing (by rw [hp]; rfl) (.broken hh)
  -- the report
  | concludes hp =>
    rw [hp] at hh ⊢
    exact ⟨hs, _, _, rfl, hh, rfl⟩
  | _ hp =>
    rw [hp] at hh
    exact hnothing (by rw [hp]; rfl) hh

end

/-- a worker begins a call of the device once every stage was ready, or to release everything
after a breakdown -/
theorem WorkerStep.begins {c : DeviceCall} (h : WorkerStep v r reply r' ds)
    (hh : r.place.Heard hs) (hc : .began c ∈ ds) :
    Equipped hs ∨ c = .releaseAll ∧ .brokeDown ∈ hs := by
  have hready (hin : r.place.inRun = true) : Equipped hs := by
    rw [(Place.heard_inRun hin).1 hh]
    exact .of_map
  cases h with
  | call hp => exact Or.inl (hready (by rw [hp]; rfl))
  | garbled hp => exact Or.inl (hready (by rw [hp]; rfl))
  | lets hp =>
    rw [hp] at hh
    obtain ⟨he, hn | ⟨x, rfl⟩⟩ := hh
    · cases hn
    · cases he
      exact Or.inl (Equipped.of_map.append _)
  | rescues hp =>
    rw [hp] at hh
    cases List.mem_singleton.1 hc
    exact Or.inr ⟨rfl, Breakdown.mem hh⟩
  | remembers => split at hc <;> simp at hc
  | _ => simp at hc

theorem WorkerStep.keeps_stored {y : RunResult} (h : WorkerStep v r reply r' ds)
    (hy : r.place.stored? = some y) : r'.place.stored? = some y := by
  have hstage {P : Prop} (hp : r.place.isStage = true) : P := by
    rw [Place.stored?_of_isStage hp] at hy
    cases hy
  cases h with
  | staged hp => exact hstage hp
  | unready hp => exact hstage hp
  | stageBroke hp => exact hstage hp
  | tellsState hp => rwa [hp] at hy
  | tellsResult hp => rwa [hp] at hy
  | tellsIdle hp => rwa [hp] at hy
  | _ hp =>
    rw [hp] at hy
    cases hy

/-- a request begins no call of a device but the release of everything -/
theorem RequestStep.frees_all {s s' : System} {n k : Nat} {task : Task} {reply : CallerReply}
    {i : RunId} {c : DeviceCall} (h : RequestStep s n task reply s')
    (he : .caller k (.run i (.began c)) ∈ s'.log) :
    c = .releaseAll ∨ .caller k (.run i (.began c)) ∈ s.log := by
  have hcons {j : RunId} (he : Entry.caller k (.run i (.began c)) ∈
      .caller n (.run j (.began .releaseAll)) :: s.log) :
      c = .releaseAll ∨ .caller k (.run i (.began c)) ∈ s.log := by
    rcases List.mem_cons.1 he with he | he
    · cases he
      exact Or.inl rfl
    · exact Or.inr he
  cases h with
  | frees => exact hcons he
  | clears => exact hcons he
  | _ =>
    simp only [System.close, System.goOn, System.quit, System.note, System.onSession,
      List.mem_cons, reduceCtorEq, Entry.caller.injEq, CallerDeed.run.injEq, and_false,
      false_or] at he
    exact Or.inr he

/-! ## what the hearings say about an ending -/

section
variable {e : Ending} {hs : List Hearing} {st : Stage} {x : ScriptEnd} {done rest : List Stage}

theorem Stage.not_mem_of_split (hd : done ++ st :: rest = Stage.all) : st ∉ done := by
  have hnodup : (done ++ st :: rest).Nodup := by
    rw [hd]
    decide
  exact fun hin => (List.nodup_append.1 hnodup).2.2 st hin st List.mem_cons_self rfl

namespace Ending.Heard

/-- the slot has not been read before the end -/
theorem unread (h : e.Heard hs) (slot : Option AbortReason) : .read slot ∉ hs := by
  cases h with
  | broken hb => exact hb.unread slot
  | _ => simp

/-- **The work has come to the end of the script if and only if every stage was ready, the script
returned so and nothing broke down.** -/
theorem completed_iff (h : e.Heard hs) : e = .script .completed ↔
    Equipped hs ∧ .returned .completed ∈ hs ∧ .brokeDown ∉ hs := by
  cases h with
  | returned x =>
    have hready : Equipped (Stage.all.map .ready ++ [.returned x]) := Equipped.of_map.append _
    simp [hready, eq_comm]
  | failed hd => simp
  | broken hb => simp [hb.mem]

theorem of_failed {c : InterpreterError} (h : e.Heard hs) (hf : .failed st c ∈ hs) :
    e = .failure (.script c.message) ∧ st ∈ Stage.all ∧ .ready st ∉ hs ∧ .brokeDown ∉ hs := by
  cases h with
  | returned x => simp at hf
  | @failed done rest st' c' hd =>
    obtain ⟨rfl, rfl⟩ : st = st' ∧ c = c' := by simpa using hf
    exact ⟨rfl, by simp [← hd], by simpa using Stage.not_mem_of_split hd, by simp⟩
  | broken hb => exact absurd hf (hb.not_failed st c)

theorem of_brokeDown (h : e.Heard hs) (hb : .brokeDown ∈ hs) : e = .failure Run.brokenDown := by
  cases h with
  | broken => rfl
  | _ => simp at hb

theorem of_returned (h : e.Heard hs) (hr : .returned x ∈ hs) (hb : .brokeDown ∉ hs) :
    e = .script x := by
  cases h with
  | returned y =>
    obtain rfl : x = y := by simpa using hr
    rfl
  | failed => simp at hr
  | broken h => exact absurd h.mem hb

theorem ways (h : e.Heard hs) :
    (∃ st c, .failed st c ∈ hs) ∨ .brokeDown ∈ hs ∨ ∃ x, .returned x ∈ hs := by
  cases h with
  | returned x => exact Or.inr (Or.inr ⟨x, by simp⟩)
  | @failed _ _ st c => exact Or.inl ⟨st, c, by simp⟩
  | broken hb => exact Or.inr (Or.inl hb.mem)

end Ending.Heard

theorem Run.outcomeOf_eq_completed {slot : Option AbortReason} :
    Run.outcomeOf slot e = .completed ↔ e = .script .completed ∧ slot = none := by
  have hof (a : AbortReason) : Outcome.ofAbort a ≠ .completed := by cases a <;> nofun
  cases slot with
  | some a => simp [Run.outcomeOf_some, hof]
  | none =>
    cases e with
    | failure c => simp [Run.outcomeOf]
    | script x => cases x <;> simp [Run.outcomeOf, hof]

end

/-- a worker is getting ready or runs the script, or its work has come to an ending, or it has read
the slot as well and has settled on an outcome -/
theorem Place.Heard.stands {p : Place} (h : p.Heard hs) :
    (∃ done : List Stage, hs = done.map .ready) ∨ (∃ e, Ending.Heard e hs) ∨
      ∃ o early e slot, p.outcome? = some o ∧ hs = early ++ [.read slot] ∧
        Ending.Heard e early := by
  cases ho : p.outcome? with
  | some o =>
    obtain ⟨early, e, slot, rfl, he, _⟩ := (Place.heard_settled ho).1 h
    exact Or.inr (Or.inr ⟨o, early, e, slot, rfl, rfl, he⟩)
  | none =>
    by_cases hin : p.inRun = true
    · exact Or.inl ⟨_, (Place.heard_inRun hin).1 h⟩
    · by_cases hst : p.isStage = true
      · obtain ⟨_, done, rfl, _⟩ := (Place.heard_stage hst).1 h
        exact Or.inl ⟨done, rfl⟩
      · cases p with
        | unborn => exact Or.inl ⟨[], h⟩
        | releasing held e => exact Or.inr (Or.inl ⟨e, h.1⟩)
        | letting i held e => exact Or.inr (Or.inl ⟨e, h.1⟩)
        | finishing e => exact Or.inr (Or.inl ⟨e, h⟩)
        | rescue => exact Or.inr (Or.inl ⟨_, .broken h⟩)
        | rescuing => exact Or.inr (Or.inl ⟨_, .broken h⟩)
        | lost => exact Or.inr (Or.inl ⟨_, .broken h⟩)
        | creating | registering _ | loading => exact absurd rfl hst
        | script | polling _ | call _ _ => exact absurd rfl hin
        | _ => cases ho

theorem Place.Heard.of_failed {p : Place} {c : InterpreterError} (h : p.Heard hs)
    (hf : .failed st c ∈ hs) : st ∈ Stage.all ∧ .ready st ∉ hs ∧ .brokeDown ∉ hs := by
  rcases h.stands with ⟨done, rfl⟩ | ⟨e, he⟩ | ⟨o, early, e, slot, _, rfl, he⟩
  · simp at hf
  · exact (he.of_failed hf).2
  · obtain ⟨_, hst, hun, hb⟩ := he.of_failed (by simpa using hf)
    exact ⟨hst, by simpa using hun, by simpa using hb⟩

theorem Place.Heard.of_read {p : Place} {slot : Option AbortReason} (h : p.Heard hs)
    (hr : .read slot ∈ hs) : ∃ o, p.outcome? = some o := by
  rcases h.stands with ⟨done, rfl⟩ | ⟨e, he⟩ | ⟨o, _, _, _, ho, _⟩
  · simp at hr
  · exact absurd hr (he.unread slot)
  · exact ⟨o, ho⟩

/-- an outcome, reckoned from what the worker of the run has heard -/
structure Outcome.Reckoned (o : Outcome) (hs : List Hearing) : Prop where
  /-- the slot is read once, at the end -/
  once : ∃ early slot, hs = early ++ [.read slot] ∧ ∀ slot', .read slot' ∉ early
  completed : o = .completed ↔
    Equipped hs ∧ .returned .completed ∈ hs ∧ .brokeDown ∉ hs ∧ .read none ∈ hs
  overridden : ∀ a, .read (some a) ∈ hs → o = .ofAbort a
  unready : ∀ st e, .failed st e ∈ hs → .read none ∈ hs → o = .failed (.script e.message)
  broken : .brokeDown ∈ hs → .read none ∈ hs → o = .failed Run.brokenDown
  failed : ∀ message, .returned (.failed message) ∈ hs → .brokeDown ∉ hs → .read none ∈ hs →
    o = .failed (.script message)
  aborted : ∀ a, .returned (.aborted a) ∈ hs → .brokeDown ∉ hs → .read none ∈ hs → o = .ofAbort a
  /-- there is no other way to the end -/
  ways : (∃ st e, .failed st e ∈ hs) ∨ .brokeDown ∈ hs ∨ ∃ x, .returned x ∈ hs

theorem Outcome.Reckoned.of_heard {p : Place} {o : Outcome} (ho : p.outcome? = some o)
    (h : p.Heard hs) : o.Reckoned hs := by
  obtain ⟨early, e, slot, rfl, he, rfl⟩ := (Place.heard_settled ho).1 h
  have hread (slot' : Option AbortReason) : .read slot' ∈ early ++ [.read slot] ↔ slot' = slot := by
    simp [he.unread]
  -- the reading of the slot is nothing else
  have hequipped : Equipped (early ++ [.read slot]) ↔ Equipped early := by simp [Equipped]
  have hreturned (x : ScriptEnd) : .returned x ∈ early ++ [.read slot] ↔ .returned x ∈ early := by
    simp
  have hbroke : .brokeDown ∈ early ++ [.read slot] ↔ .brokeDown ∈ early := by simp
  have hfailed (st : Stage) (c : InterpreterError) :
      .failed st c ∈ early ++ [.read slot] ↔ .failed st c ∈ early := by simp
  have hempty (hn : .read none ∈ early ++ [.read slot]) : slot = none := ((hread none).1 hn).symm
  refine ⟨⟨early, slot, rfl, he.unread⟩, ?completed, fun a ha => ?overridden,
    fun st c hf hn => ?unready, fun hb hn => ?broken, fun message hr hb hn => ?failed,
    fun a hr hb hn => ?aborted, ?ways⟩
  case completed =>
    rw [Run.outcomeOf_eq_completed, he.completed_iff, hequipped, hreturned, hbroke, hread,
      and_assoc, and_assoc, eq_comm (a := slot)]
  case overridden =>
    rw [← (hread _).1 ha]
    rfl
  case unready =>
    rw [hempty hn, (he.of_failed ((hfailed st c).1 hf)).1]
    rfl
  case broken =>
    rw [hempty hn, he.of_brokeDown (hbroke.1 hb)]
    rfl
  case failed =>
    rw [hbroke] at hb
    rw [hempty hn, he.of_returned ((hreturned _).1 hr) hb]
    rfl
  case aborted =>
    rw [hbroke] at hb
    rw [hempty hn, he.of_returned ((hreturned _).1 hr) hb]
    rfl
  case ways =>
    have hmem {y : Hearing} (hy : y ∈ early) : y ∈ early ++ [.read slot] :=
      List.mem_append_left _ hy
    rcases he.ways with ⟨st, c, hf⟩ | hb | ⟨x, hr⟩
    · exact Or.inl ⟨st, c, hmem hf⟩
    · exact Or.inr (Or.inl (hmem hb))
    · exact Or.inr (Or.inr ⟨x, hmem hr⟩)

/-! ## along a run -/

namespace Stride

/-- what the worker of a run hears in a stride -/
def hears? (i : RunId) (x : Stride) : Option Hearing :=
  match x.move with
  | .work j reply =>
    if j = i then (x.before.runs[i]?).bind fun r => r.place.hears? r.session.abort reply else none
  | _ => none

/-- what it hears along these strides, in the order of hearing -/
def heard (i : RunId) (xs : List Stride) : List Hearing := xs.filterMap (hears? i)

theorem heard_concat (i : RunId) (xs : List Stride) (x : Stride) :
    heard i (xs ++ [x]) = heard i xs ++ (x.hears? i).toList := by
  unfold heard
  rw [List.filterMap_append]
  cases hx : x.hears? i <;> simp [hx]

/-- the totals are the same but for that of one script -/
def Stores (id : String) (n : Nat) (x : Stride) : Prop :=
  ∀ key, System.find? x.after.totals key
    = if key = id then some n else System.find? x.before.totals key

/-- in none of these strides the worker of the run changes a total -/
def Unstored (i : RunId) (xs : List Stride) : Prop :=
  ∀ x ∈ xs, x.move.isWorkOf i = true → x.after.totals = x.before.totals

/-- in one of these strides, and in no other one, the worker of the run changes a total: it stores
the count of the report as that of its script -/
def StoredOnce (i : RunId) (y : RunResult) (xs : List Stride) : Prop :=
  ∃ early x late, xs = early ++ x :: late ∧ x.move.isWorkOf i = true ∧
    x.Stores y.script y.operations ∧ Unstored i (early ++ late)

/-- once its end is to be published a run has stored its count, if it has completed; before that,
and otherwise, it has not -/
inductive Banked (i : RunId) (p : Place) (xs : List Stride) : Prop
  | unstored (hp : ∀ y, p.stored? = some y → y.isSuccess = false) (hx : Unstored i xs)
  | stored {y : RunResult} (hp : p.stored? = some y) (hy : y.isSuccess = true)
      (hx : StoredOnce i y xs)

section
variable {i : RunId} {xs : List Stride} {x : Stride} {y : RunResult} {p p' : Place}

theorem Unstored.concat (h : Unstored i xs)
    (hx : x.move.isWorkOf i = true → x.after.totals = x.before.totals) :
    Unstored i (xs ++ [x]) := by
  intro z hz
  rcases List.mem_append.1 hz with hz | hz
  · exact h z hz
  · obtain rfl := List.mem_singleton.1 hz
    exact hx

theorem StoredOnce.concat (h : StoredOnce i y xs)
    (hx : x.move.isWorkOf i = true → x.after.totals = x.before.totals) :
    StoredOnce i y (xs ++ [x]) := by
  obtain ⟨early, z, late, rfl, hz, hst, hun⟩ := h
  refine ⟨early, z, late ++ [x], by simp, hz, hst, ?_⟩
  rw [← List.append_assoc]
  exact hun.concat hx

/-- a stride that changes no total leads to no report but one there was, or one without success -/
theorem Banked.concat (h : Banked i p xs)
    (hx : x.move.isWorkOf i = true → x.after.totals = x.before.totals)
    (hp : ∀ y, p'.stored? = some y → p.stored? = some y ∨ y.isSuccess = false)
    (hk : ∀ y, p.stored? = some y → p'.stored? = some y) : Banked i p' (xs ++ [x]) := by
  cases h with
  | unstored hn hun =>
    refine .unstored (fun y hy => ?_) (hun.concat hx)
    exact (hp y hy).elim (hn y) id
  | stored hy hsucc hst => exact .stored (hk _ hy) hsucc (hst.concat hx)

theorem Banked.once (h : Banked i p xs) (hy : p.stored? = some y) (hc : y.outcome = .completed) :
    StoredOnce i y xs := by
  have hsucc : y.isSuccess = true := by simp [RunResult.isSuccess, hc]
  cases h with
  | unstored hp => exact absurd (hp y hy) (by simp [hsucc])
  | stored hp _ hst =>
    rw [hp] at hy
    cases hy
    exact hst

theorem Banked.never (h : Banked i p xs) (hn : ∀ y, p.stored? = some y → y.outcome ≠ .completed) :
    Unstored i xs := by
  cases h with
  | unstored _ hun => exact hun
  | @stored y hp hy _ => exact absurd (by simpa [RunResult.isSuccess] using hy) (hn y hp)

end

end Stride

namespace System

/-- where the worker of a run stands; it is unborn as long as there is no such run -/
def standing (s : System) (i : RunId) : Place := (s.placeOf? i).getD .unborn

section
variable {s s' t t' : System} {m : Move} {ms : List Move} {i : RunId} {r r' : Run} {reply : Reply}
  {past : List Stride} {hs' : List Hearing}

theorem standing_of_run (hr : s.runs[i]? = some r) : s.standing i = r.place := by
  rw [standing, placeOf?_of_run hr, Option.getD_some]

theorem mem_deeds {d : Deed} (h : .worker i d ∈ s.log) : d ∈ s.deeds i :=
  List.mem_filterMap.2 ⟨_, h, if_pos rfl⟩

theorem standing_of_none (hr : s.runs[i]? = none) : s.standing i = .unborn := by
  rw [standing, placeOf?, hr, Option.map_none, Option.getD_none]

/-- a move is a step of the worker, or it leaves the worker where it stands, unless it is the move
with which the worker is started -/
theorem standing_step (hs : t.Reachable) (h : t.step? m = some t') :
    (∃ reply r r' ds, m = .work i reply ∧ t.runs[i]? = some r ∧ t'.runs[i]? = some r' ∧
        r.advance t.view reply = some (r', ds) ∧ t'.deeds i = ds.reverse ++ t.deeds i) ∨
      m.isWorkOf i = false ∧ t'.deeds i = t.deeds i ∧
        (t'.standing i = t.standing i ∨ t.standing i = .unborn ∧ t'.standing i = .creating) := by
  by_cases hm : m.isWorkOf i = true
  · obtain ⟨reply, rfl⟩ := Move.exists_of_isWorkOf hm
    obtain ⟨r, r', ds, hr, ha, hruns, _, _, hlog⟩ := work?_eq_some h
    refine Or.inl ⟨reply, r, r', ds, rfl, hr, ?_, ha, ?_⟩
    · rw [hruns, List.getElem?_set_self (List.getElem?_eq_some_iff.1 hr).1]
    · rw [deeds_of_work hlog, if_pos rfl]
  · refine Or.inr ⟨by simpa using hm, ?_⟩
    cases hr : t.runs[i]? with
    | none =>
      obtain ⟨hd, hn | ⟨_, _, _, hn⟩⟩ := newRun h hr
      · exact ⟨hd, Or.inl (by rw [standing_of_none hr, standing_of_none hn])⟩
      · exact ⟨hd, Or.inl (by rw [standing_of_none hr, standing_of_run hn]; rfl)⟩
    | some r =>
      rcases worked_or h hr with ⟨reply, _, _, rfl, _⟩ | ⟨hm, r', hr', hd, hc⟩
      · exact absurd (beq_self_eq_true i) hm
      · rw [standing_of_run hr, standing_of_run hr']
        exact ⟨hd, (hc.unmoved hs.tidy hr hm).1⟩

theorem Reachable.bare (hs : s.Reachable) (hr : s.runs[i]? = some r)
    (hp : r.place.isStage = true ∨ r.place = .unborn) : r.held = {} := by
  refine hs.every_run (P := fun r _ => r.place.isStage = true ∨ r.place = .unborn → r.held = {})
    (fun _ _ _ _ _ => rfl) ?_ hr hp
  intro s m i r r' ds hs hr hc ih hp
  cases hc with
  | worked _ hw =>
    have hborn := hp.resolve_right hw.born
    cases hw with
    | call _ h =>
      rw [Place.isStage_of_inRun h.inRun.1] at hborn
      cases hborn
    | staged hstage => exact ih (Or.inl hstage)
    | _ => cases hborn
  | spawned _ _ hin => exact ih (Or.inr (hs.tidy.unborn_of_spawn hr hin))
  | _ => exact ih hp

theorem heard_step (hs : t.Reachable) (h : t.step? m = some t') (hh : (t.standing i).Heard hs') :
    (t'.standing i).Heard (hs' ++ (Stride.hears? i ⟨t, m, t'⟩).toList) := by
  rcases standing_step (i := i) hs h with ⟨reply, r, r', ds, rfl, hr, hr', ha, _⟩ | ⟨hm, _, hst⟩
  · have hone : Stride.hears? i ⟨t, .work i reply, t'⟩
        = r.place.hears? r.session.abort reply := by simp [Stride.hears?, hr]
    rw [standing_of_run hr] at hh
    rw [standing_of_run hr', hone]
    exact Run.heard_step ha (fun hp => hs.bare hr (Or.inl hp)) hh
  · have hnone : Stride.hears? i ⟨t, m, t'⟩ = none := by
      cases m with
      | work j reply => exact if_neg (by simpa [Move.isWorkOf] using hm)
      | _ => rfl
    rw [hnone, Option.toList_none, List.append_nil]
    rcases hst with hsame | ⟨hu, hc⟩
    · rw [hsame]
      exact hh
    · rw [hu] at hh
      rw [hc, show hs' = [] from hh]
      exact ⟨by simp, [], rfl, rfl⟩

/-- a step of a worker stores the count of a success, or it leaves the totals alone -/
theorem totals_of_work (h : s.step? (.work i reply) = some s') (hr : s.runs[i]? = some r) :
    s'.totals = s.totals ∧ (∀ y, r.place = .remembering y → y.isSuccess = false) ∨
      ∃ y, r.place = .remembering y ∧ y.isSuccess = true ∧
        s'.totals = put s.totals r.session.script.id y.operations := by
  by_cases hp : ∃ y, r.place = .remembering y ∧ y.isSuccess = true
  · obtain ⟨y, hp, hy⟩ := hp
    exact Or.inr ⟨y, hp, hy, (remembered_of_work h hr hp hy).1⟩
  · obtain ⟨r₁, r', ds, hr₁, ha, rfl⟩ := work?_eq_foldl h
    rw [hr] at hr₁
    cases hr₁
    refine Or.inl ⟨foldl_record_totals _ _ _ _ fun k hk => hp ?_, fun y hy => ?_⟩
    · obtain ⟨y, hy, hsucc, _⟩ := WorkerStep.remembers_of_mem (.of_advance ha) hk
      exact ⟨y, hy, hsucc⟩
    · simpa using fun hsucc => hp ⟨y, hy, hsucc⟩

theorem banked_step (hs : t.Reachable) (h : t.step? m = some t')
    (hb : Stride.Banked i (t.standing i) past) :
    Stride.Banked i (t'.standing i) (past ++ [⟨t, m, t'⟩]) := by
  rcases standing_step (i := i) hs h with ⟨reply, r, r', ds, rfl, hr, hr', ha, _⟩ | ⟨hm, _, hst⟩
  · have hw : WorkerStep t.view r reply r' ds := .of_advance ha
    rw [standing_of_run hr] at hb
    rw [standing_of_run hr']
    rcases totals_of_work h hr with ⟨hsame, hfail⟩ | ⟨y, hp, hy, hput⟩
    · refine hb.concat (fun _ => hsame) (fun y hy => ?_) fun y hy => ?_
      · exact (hw.stores hy).imp_right (hfail y)
      · exact hw.keeps_stored hy
    · have hid : y.script = r.session.script.id := ((hs.accounts hr).names y (by rw [hp]; rfl)).1
      have hnext : r'.place.stored? = some y := by
        cases hw with
        | remembers hp' =>
          rw [hp] at hp'
          cases hp'
          rfl
        | _ hp' => simp_all [Place.isStage]
      cases hb with
      | stored hp' =>
        rw [hp] at hp'
        cases hp'
      | unstored _ hun =>
        refine .stored hnext hy ⟨past, _, [], rfl, beq_self_eq_true i, fun key => ?_, ?_⟩
        · rw [hput, find?_put, hid]
          simp only [eq_comm]
        · rwa [List.append_nil]
  · refine hb.concat (fun hm' => absurd hm' (by simp [hm])) (fun y hy => Or.inl ?_) fun y hy => ?_
    · rcases hst with hsame | ⟨_, hc⟩
      · rwa [← hsame]
      · rw [hc] at hy
        cases hy
    · rcases hst with hsame | ⟨hu, _⟩
      · rwa [hsame]
      · rw [hu] at hy
        cases hy

/-- what is kept along the strides of a run -/
structure Learned (i : RunId) (past : List Stride) (t : System) : Prop where
  heard : (t.standing i).Heard (Stride.heard i past)
  begun : ∀ c, .began c ∈ t.deeds i →
    Equipped (Stride.heard i past) ∨ c = .releaseAll ∧ .brokeDown ∈ Stride.heard i past
  entered : ∀ x ∈ past, (x.after.standing i).inRun = true → Equipped (Stride.heard i past)
  banked : Stride.Banked i (t.standing i) past

theorem Learned.step (hs : t.Reachable) (hl : Learned i past t) (h : t.step? m = some t') :
    Learned i (past ++ [⟨t, m, t'⟩]) t' := by
  have hheard := heard_step hs h hl.heard
  rw [← Stride.heard_concat] at hheard
  have hmore (hq : Equipped (Stride.heard i past)) :
      Equipped (Stride.heard i (past ++ [⟨t, m, t'⟩])) := by
    rw [Stride.heard_concat]
    exact hq.append _
  have hbroke (hq : .brokeDown ∈ Stride.heard i past) :
      .brokeDown ∈ Stride.heard i (past ++ [⟨t, m, t'⟩]) := by
    rw [Stride.heard_concat]
    exact List.mem_append_left _ hq
  refine ⟨hheard, fun c hc => ?begun, fun x hx hin => ?entered, banked_step hs h hl.banked⟩
  case begun =>
    have hbefore : Equipped (Stride.heard i past) ∨
        c = .releaseAll ∧ .brokeDown ∈ Stride.heard i past := by
      rcases standing_step (i := i) hs h with ⟨reply, r, r', ds, rfl, hr, _, ha, hd⟩ | ⟨_, hd, _⟩
      · rw [hd, List.mem_append, List.mem_reverse] at hc
        have hh := hl.heard
        rw [standing_of_run hr] at hh
        exact hc.elim ((WorkerStep.of_advance ha).begins hh) (hl.begun c)
      · rw [hd] at hc
        exact hl.begun c hc
    exact hbefore.imp hmore fun ⟨hc, hb⟩ => ⟨hc, hbroke hb⟩
  case entered =>
    rcases List.mem_append.1 hx with hx | hx
    · exact hmore (hl.entered x hx hin)
    · obtain rfl := List.mem_singleton.1 hx
      rw [(Place.heard_inRun hin).1 hheard]
      exact .of_map

theorem learned_of_play (hs : s.Reachable) (hn : s.runs[i]? = none) (h : s.play? ms = some s') :
    Learned i (s.trace ms) s' := by
  refine (trace_induction (P := fun past t => t.Reachable ∧ Learned i past t) ?_ ⟨hs, ?_⟩ h).2
  · rintro past t t' m ⟨ht, hl⟩ hstep
    exact ⟨ht.step hstep, hl.step ht hstep⟩
  · refine ⟨?_, fun c hc => ?_, List.forall_mem_nil _, .unstored ?_ (List.forall_mem_nil _)⟩
    · rw [standing_of_none hn]
      rfl
    · rw [hs.tidy.blank i hn] at hc
      cases hc
    · rw [standing_of_none hn]
      exact fun _ => nofun

theorem Reachable.frees_all {k : Nat} {c : DeviceCall} (hs : s.Reachable)
    (he : .caller k (.run i (.began c)) ∈ s.log) : c = .releaseAll := by
  refine hs.invariant (P := fun s => .caller k (.run i (.began c)) ∈ s.log → c = .releaseAll)
    (fun _ _ => nofun) ?_ he
  intro s s' m ih h he
  cases m with
  | work j reply =>
    obtain ⟨_, _, ds, _, _, _, _, _, hlog⟩ := work?_eq_some h
    rw [hlog] at he
    exact ih (by simpa using he)
  | proceed n reply =>
    obtain ⟨task, _, hr⟩ := requestStep h
    exact (hr.frees_all he).elim id ih
  | request q =>
    cases h
    exact ih he
  | elapse d =>
    cases h
    exact ih he

theorem Learned.spares (hl : Learned i past t) (ht : t.Reachable)
    (hne : ¬ Equipped (Stride.heard i past)) {e : Entry} (he : e ∈ t.log) {c : DeviceCall}
    (hc : e.deed? = some (i, .began c)) : c = .releaseAll := by
  cases e with
  | worker j d =>
    cases hc
    exact ((hl.begun c (mem_deeds he)).resolve_left hne).1
  | caller k d =>
    cases d with
    | run j d =>
      cases hc
      exact ht.frees_all he
    | _ => cases hc

theorem Learned.unready (hl : Learned i past t) {st : Stage} {e : InterpreterError}
    (hf : .failed st e ∈ Stride.heard i past) :
    st ∈ Stage.all ∧ .ready st ∉ Stride.heard i past ∧ ∀ c, .began c ∉ t.deeds i := by
  obtain ⟨hst, hun, hb⟩ := hl.heard.of_failed hf
  refine ⟨hst, hun, fun c hc => ?_⟩
  rcases hl.begun c hc with hall | ⟨_, hbroke⟩
  · exact hun (hall st hst)
  · exact hb hbroke

/-- nothing keeps a worker that has been started from its report, unless it is lost -/
theorem exists_step_of_unreported (hr : s.runs[i]? = some r) (hb : r.place ≠ .unborn)
    (hl : r.place ≠ .lost) (hx : r.place.result? = none) :
    ∃ reply t, s.step? (.work i reply) = some t := by
  by_contra hno
  have hnone (reply : Reply) : r.advance s.view reply = none := by
    rw [Option.eq_none_iff_forall_ne_some]
    rintro ⟨r', ds⟩ ha
    obtain ⟨t, ht, _⟩ := step?_work hr ha
    exact hno ⟨reply, t, ht⟩
  rcases Run.over_of_advance hnone with hp | ⟨x, hp⟩ | hp
  · exact hb hp
  · rw [hp] at hx
    cases hx
  · exact hl hp

/-! ## every run -/

/-- what the worker of a run hears along a list of moves, in the order of hearing -/
def hearings (s : System) (i : RunId) (ms : List Move) : List Hearing :=
  Stride.heard i (s.trace ms)

/-- how a run ends, what its device sees and what is stored, read off what its worker has heard -/
structure Reckoned (s : System) (ms : List Move) (s' : System) (i : RunId) (r : Run) : Prop where
  outcome : ∀ x, r.place.result? = some x → x.outcome.Reckoned (s.hearings i ms)
  /-- as soon as the slot has been read there is an outcome -/
  settled : ∀ slot, .read slot ∈ s.hearings i ms →
    ∃ o, r.place.outcome? = some o ∧ o.Reckoned (s.hearings i ms)
  /-- nothing keeps a worker that has been started from its report, but a rescue that breaks down -/
  onward : r.place ≠ .unborn → r.place ≠ .lost → r.place.result? = none →
    ∃ reply t, s'.step? (.work i reply) = some t
  /-- the report counts the operations of the run, for its script -/
  report : ∀ x, r.place.result? = some x →
    x.script = r.session.script.id ∧ x.operations = r.session.index
  /-- the script is not run before every stage is ready -/
  uninvoked : ¬ Equipped (s.hearings i ms) → ∀ x ∈ s.trace ms, (x.after.standing i).inRun = false
  /-- and the device sees no wait, no input and no release of one -/
  spared : ¬ Equipped (s.hearings i ms) → ∀ e ∈ s'.log, ∀ c,
    e.deed? = some (i, .began c) → c = .releaseAll
  /-- a stage that fails is never ready, and the worker calls the device for nothing at all -/
  unready : ∀ st e, .failed st e ∈ s.hearings i ms →
    st ∈ Stage.all ∧ .ready st ∉ s.hearings i ms ∧ ∀ c, .began c ∉ s'.deeds i
  stored : ∀ x, r.place.stored? = some x → x.outcome = .completed →
    Stride.StoredOnce i x (s.trace ms)
  unstored : (∀ x, r.place.stored? = some x → x.outcome ≠ .completed) →
    Stride.Unstored i (s.trace ms)

/-- **The end of every run is reckoned from what its worker has heard.**  A run has completed if
and only if every stage was ready, its script returned so, nothing broke down and the slot was empty
when it was read; otherwise the slot, the breakdown, the stage or the script says how it ended.
Before every stage is ready the script does not run and the device is left alone, and the total of
the script is replaced, once, if the run has completed. -/
theorem reckoned_of_play (hs : s.Reachable) (hn : s.runs[i]? = none) (h : s.play? ms = some s')
    (hr : s'.runs[i]? = some r) : s.Reckoned ms s' i r := by
  have hs' : s'.Reachable := hs.play h
  have hl := learned_of_play hs hn h
  have hplace := standing_of_run hr
  have hheard : r.place.Heard (s.hearings i ms) := by
    rw [← hplace]
    exact hl.heard
  have hbanked : Stride.Banked i r.place (s.trace ms) := by
    rw [← hplace]
    exact hl.banked
  refine ⟨fun x hx => .of_heard (Place.outcome?_of_result? hx) hheard, fun slot hread => ?settled,
    exists_step_of_unreported hr, fun x hx => (hs'.accounts hr).names x hx,
    fun hne x hx => ?uninvoked, fun hne e he c hc => hl.spares hs' hne he hc,
    fun st e hf => hl.unready hf, fun x hx hc => hbanked.once hx hc, hbanked.never⟩
  case settled =>
    obtain ⟨o, ho⟩ := hheard.of_read hread
    exact ⟨o, ho, .of_heard ho hheard⟩
  case uninvoked => simpa using fun hin => hne (hl.entered x hx hin)

/-- a start, and the stages up to the compilation of the source -/
def equipping : List Move :=
  [Move.request (.start ⟨"s", "s", ""⟩ {}), .proceed 0 .go, .proceed 0 (.provision (.ok ()))] ++
    List.replicate 5 (Move.proceed 0 .go) ++ List.replicate 10 (Move.work 0 (.stage .ready))

/-- a run with nothing in its way, and one whose source does not compile -/
theorem reckoned_of_play_compiled :
    let s := fresh { limits := ⟨none, none⟩ } {}
    let good := equipping ++ Move.work 0 (.stage .ready) ::
      Move.work 0 (.script (.finish .completed)) :: List.replicate 8 (Move.work 0 .go)
    let bad := equipping ++ Move.work 0 (.stage (.failed (.compile "end expected"))) ::
      List.replicate 8 (Move.work 0 .go)
    (∃ r, (s.after good).runs[0]? = some r ∧ s.Reckoned good (s.after good) 0 r ∧
      s.hearings 0 good = Stage.all.map .ready ++ [Hearing.returned .completed, .read none] ∧
      r.place.stored? = some ⟨"s", "s", .completed, 0, .zero⟩) ∧
    ∃ r, (s.after bad).runs[0]? = some r ∧ s.Reckoned bad (s.after bad) 0 r ∧
      s.hearings 0 bad = (Stage.all.take 10).map .ready ++
        [Hearing.failed .compilation (.compile "end expected"), .read none] ∧
      r.place.stored? = some ⟨"s", "s",
        .failed (.script "script failed to compile: end expected"), 0, .zero⟩ := by
  intro s good bad
  have hs : s.Reachable := ⟨_, _, [], rfl⟩
  have hgood : s.play? good = some (s.after good) := play?_after (by decide +kernel)
  have hbad : s.play? bad = some (s.after bad) := play?_after (by decide +kernel)
  have hrun : ((s.after good).runs[0]?).isSome = true := by decide +kernel
  have hrun' : ((s.after bad).runs[0]?).isSome = true := by decide +kernel
  obtain ⟨r, hr⟩ := Option.isSome_iff_exists.1 hrun
  obtain ⟨r', hr'⟩ := Option.isSome_iff_exists.1 hrun'
  refine ⟨⟨r, hr, reckoned_of_play hs rfl hgood hr, by decide +kernel, ?_⟩,
    r', hr', reckoned_of_play hs rfl hbad hr', by decide +kernel, ?_⟩
  · have hst : ((s.after good).standing 0).stored? = some ⟨"s", "s", .completed, 0, .zero⟩ := by
      decide +kernel
    rwa [standing_of_run hr] at hst
  · have hst : ((s.after bad).standing 0).stored? = some ⟨"s", "s",
        .failed (.script "script failed to compile: end expected"), 0, .zero⟩ := by
      decide +kernel
    rwa [standing_of_run hr'] at hst

end

end System

end ScriptGuard
