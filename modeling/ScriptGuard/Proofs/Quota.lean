import ScriptGuard.Proofs.Checkpoint
import ScriptGuard.Proofs.Determinism
import ScriptGuard.Proofs.Tally

/-!
# A run does not exceed its number of operations

The limit is compared with the number of operations done, before each call and again between the
slices of its wait.  A call that has been let in is not counted yet; so between the first comparison
and its count one operation is left for it (`Place.isAdmitted`).

* `Run.Within`          the count does not exceed the limit, and is below it while a call is let in;
* `Spends`              the inputs begun are not more than the operations counted and under way;
* `System.Overrun`      what becomes of the call after the last operation;
* `quota_of_reachable`  the result, for limits below the greatest number that can be attempted;
                        `not_quota_of_longest` says that this one binds nothing.
-/

namespace ScriptGuard

/-! ## comparisons -/

namespace Limits

variable {l : Limits} {limit n : Nat} {t : Duration}

theorem checkCount_of_le (hl : l.operations = some limit) (hmax : limit < 18446744073709551615)
    (hn : limit ≤ n) : l.checkCount n = some (.operations limit (nextIndex n)) := by
  have hlt : limit < nextIndex n := by
    unfold nextIndex
    omega
  simp [checkCount, hl, hlt]

theorem lt_of_checkCount (hl : l.operations = some limit) (hmax : limit < 18446744073709551615)
    (h : l.checkCount n = none) : n < limit := by
  refine Nat.lt_of_not_le fun hn => ?_
  rw [checkCount_of_le hl hmax hn] at h
  cases h

theorem checkCount_of_lt (hl : l.operations = some limit) (hn : n < limit) :
    l.checkCount n = none := by
  have hle : ¬ limit < nextIndex n := by
    unfold nextIndex
    omega
  simp [checkCount, hl, hle]

theorem check_ne_operations (h : l.checkCount n = none) (m k : Nat) :
    l.check n t ≠ some (.operations m k) := by
  rw [check, h, Option.none_or]
  intro hx
  unfold checkTime at hx
  split at hx
  · split at hx <;> cases hx
  · cases hx

theorem check_of_checkCount_some {x : Violation} (h : l.checkCount n = some x) :
    l.check n t = some x := by
  rw [check, h, Option.some_or]

end Limits

/-! ## the count -/

/-- the call has passed its first comparison and has not been counted -/
def CallPoint.isAdmitted : CallPoint → Bool
  | .slot .opening | .switch .opening | .limits .opening => false
  | .announce _ (some _) | .repause _ | .progress _ _ | .repaused | .raise _ => false
  | _ => true

def Place.isAdmitted : Place → Bool
  | .call _ p => p.isAdmitted
  | _ => false

theorem Place.isAdmitted_of_not_inCall {p : Place} (h : p.inCall = false) :
    p.isAdmitted = false := by
  cases p with
  | call f q => cases h
  | _ => rfl

/-- the run has not done more than `limit` operations, and one is left for a call that was let in -/
structure Run.Within (r : Run) (limit : Nat) : Prop where
  count : r.session.index ≤ limit
  room : r.place.isAdmitted = true → r.session.index < limit

section
variable {v : View} {r r' : Run} {f : Frame} {p : CallPoint} {reply : Reply} {limit : Nat}
  {ds old : List Deed}

/-- nothing is counted, and a call that is let in was let in before -/
theorem Run.Within.stays {q : Place} {s : Session} (h : r.Within limit)
    (hs : s.index = r.session.index)
    (hq : q.isAdmitted = true → r.place.isAdmitted = true) :
    ({ r with session := s, place := q } : Run).Within limit where
  count := by
    show s.index ≤ limit
    rw [hs]
    exact h.count
  room := fun ha => by
    show s.index < limit
    rw [hs]
    exact h.room (hq ha)

theorem CallStep.within (h : CallStep v r f p reply r' ds) (hp : r.place = .call f p)
    (hl : v.settings.limits.operations = some limit) (hmax : limit < 18446744073709551615)
    (hw : r.Within limit) : r'.Within limit := by
  have hadm : r.place.isAdmitted = p.isAdmitted := by rw [hp]; rfl
  cases h with
  | @slotClear k => exact hw.stays rfl fun ha => by rw [hadm]; cases k <;> exact ha
  | @switchOff k => exact hw.stays rfl fun ha => by rw [hadm]; cases k <;> exact ha
  | withinLimits hx =>
    have hlt := Limits.lt_of_checkCount hl hmax (Limits.check_of_checkCount hx)
    exact ⟨hw.count, fun _ => hlt⟩
  | atGate hg h =>
    obtain ⟨_, _, hm⟩ := h.gateMove
    have hyes : r.place.isAdmitted = true := by rw [hadm]; rcases hg with rfl | rfl <;> rfl
    cases h with
    | _ => exact hw.stays hm.index_eq fun _ => hyes
  | announced => exact hw.stays rfl fun _ => by rw [hadm]; rfl
  | countsHeld => exact ⟨hw.room (by rw [hadm]; rfl), nofun⟩
  | counts => exact ⟨hw.room (by rw [hadm]; rfl), nofun⟩
  | repauses => exact hw.stays (Session.repause_index _) nofun
  | sliceDone => exact hw.stays rfl fun _ => by rw [hadm]; rfl
  | permitted | cleared | approved | unknown | asks | allowed | grants | rested | slice | noInput
  | input | inputDone | holds =>
    exact ⟨hw.count, fun _ => hw.room (by rw [hadm]; rfl)⟩
  | _ =>
    -- the others give up what they were admitted for
    exact ⟨hw.count, nofun⟩

theorem WorkerStep.within (h : WorkerStep v r reply r' ds)
    (hl : v.settings.limits.operations = some limit) (hmax : limit < 18446744073709551615)
    (hw : r.Within limit) : r'.Within limit := by
  rcases h.kinds with ⟨f, p, hp, hc⟩ | ⟨g, args, rfl⟩ | ⟨_, hb⟩
  · exact hc.within hp hl hmax hw
  · obtain ⟨_, ⟨c, _, rfl, _⟩ | ⟨e, _, rfl, _⟩⟩ := h.of_call
    · exact ⟨hw.count, nofun⟩
    · exact ⟨hw.count, nofun⟩
  · have hbt := hb [] rfl
    refine ⟨by rw [hbt.index]; exact hw.count, fun ha => ?_⟩
    rw [Place.isAdmitted_of_not_inCall hbt.outside] at ha
    cases ha

/-! ## the inputs begun -/

/-- the input of the call may have been begun, and the call has not been counted -/
def Place.isUncounted : Place → Bool
  | .call _ (.acting _) | .call _ (.hold _) | .call _ .count => true
  | _ => false

theorem Place.isAdmitted_of_isUncounted {p : Place} (h : p.isUncounted = true) :
    p.isAdmitted = true := by
  cases p with
  | call f q =>
    cases q with
    | acting _ | hold _ | count => rfl
    | _ => cases h
  | _ => cases h

/-- the inputs begun are not more than the operations counted and under way; or one has failed, and
nothing more is begun -/
inductive Spends (limit : Nat) (p : Place) (slot : Option AbortReason) (n : Nat) (ds : List Deed) :
    Prop
  | counted (h : (Deed.attempted ds).length ≤ n)
  | underWay (hp : p.isUncounted = true) (h : (Deed.attempted ds).length ≤ n + 1)
  | failed (hp : (∃ f a, p = .call f (.raise a)) ∨ slot.isSome = true ∧ p.atDoor = true)
      (h : (Deed.attempted ds).length ≤ limit)

theorem CallStep.spends_counted (h : CallStep v r f p reply r' ds)
    (ho : Deed.underWay old = true) (hp : (Place.call f p).isUncounted = false)
    (hs : (Deed.attempted old).length ≤ r.session.index) :
    Spends limit r'.place r'.session.abort r'.session.index (ds.reverse ++ old) := by
  cases h with
  | atGate _ h =>
    obtain ⟨_, _, hg⟩ := h.gateMove
    refine .counted ?_
    rw [hg.index_eq]
    cases h with
    | _ => exact hs
  | repauses =>
    refine .counted ?_
    show (Deed.attempted old).length ≤ r.session.repause.index
    rw [Session.repause_index]
    exact hs
  | slice =>
    refine .counted ?_
    show (Deed.attempted (.began (.wait _) :: old)).length ≤ _
    rw [Deed.attempted_wait]
    exact hs
  | input =>
    refine .underWay rfl ?_
    show (Deed.attempted (.began (.input _) :: old)).length ≤ _
    rw [Deed.attempted_began ho, List.length_cons]
    exact Nat.succ_le_succ hs
  | inputDone => cases hp
  | inputFailed => cases hp
  | inputBroke => cases hp
  | holds => cases hp
  | countsHeld => cases hp
  | counts => cases hp
  | _ => exact .counted hs

theorem CallStep.spends_underWay (h : CallStep v r f p reply r' ds)
    (hb : ∀ i, Deed.ended (.input i) .brokeDown ∉ ds) (hp : (Place.call f p).isUncounted = true)
    (hlt : r.session.index < limit) (hs : (Deed.attempted old).length ≤ r.session.index + 1) :
    Spends limit r'.place r'.session.abort r'.session.index (ds.reverse ++ old) := by
  cases h with
  | inputDone => exact .underWay rfl hs
  | inputFailed => exact .failed (Or.inl ⟨_, _, rfl⟩) (Nat.le_trans hs hlt)
  | inputBroke => exact absurd List.mem_cons_self (hb _)
  | holds => exact .underWay rfl hs
  | countsHeld => exact .counted hs
  | counts => exact .counted hs
  | atGate hg => rcases hg with rfl | rfl <;> cases hp
  | _ => cases hp

theorem CallStep.spends_failed (h : CallStep v r f p reply r' ds)
    (hp : (∃ a, p = .raise a) ∨ r.session.abort.isSome = true ∧ (Place.call f p).atDoor = true)
    (hs : (Deed.attempted old).length ≤ limit) :
    Spends limit r'.place r'.session.abort r'.session.index (ds.reverse ++ old) := by
  rcases hp with ⟨a, rfl⟩ | ⟨ha, hd⟩
  · cases h with
    | raises => exact .failed (Or.inr ⟨rfl, rfl⟩) hs
    | atGate hg => rcases hg with hg | hg <;> cases hg
  · cases h with
    | slotSet => exact .failed (Or.inr ⟨ha, rfl⟩) hs
    | slotClear hn => rw [hn] at ha; cases ha
    | atGate hg => rcases hg with rfl | rfl <;> cases hd
    | _ => cases hd

theorem Spends.on_slot {q : Place} {slot slot' : Option AbortReason} {n : Nat}
    (h : Spends limit q slot n old) (hs : slot.isSome = true → slot'.isSome = true) :
    Spends limit q slot' n old := by
  cases h with
  | counted h => exact .counted h
  | underWay hq h => exact .underWay hq h
  | failed hq h => exact .failed (hq.imp id fun ⟨hsome, hd⟩ => ⟨hs hsome, hd⟩) h

/-- outside of every call nothing is begun for one -/
theorem Spends.outside {q : Place} {slot : Option AbortReason} {n : Nat} (hs : Spends limit r.place
    r.session.abort r.session.index old) (hp : r.place.inCall = false) (hd : q.atDoor = true)
    (ha : Deed.attempted ds = Deed.attempted old) (hn : n = r.session.index)
    (hslot : r.session.abort.isSome = true → slot.isSome = true) :
    Spends limit q slot n ds := by
  subst hn
  cases hs with
  | counted h => exact .counted (by rw [ha]; exact h)
  | underWay hq =>
    cases hplace : r.place with
    | call f p => rw [hplace] at hp; cases hp
    | _ => rw [hplace] at hq; cases hq
  | failed hq h =>
    refine .failed (Or.inr ⟨?_, hd⟩) (by rw [ha]; exact h)
    rcases hq with ⟨f, a, hq⟩ | ⟨hsome, _⟩
    · rw [hq] at hp
      cases hp
    · exact hslot hsome

theorem WorkerStep.spends (h : WorkerStep v r reply r' ds) (ho : Deed.underWay old = r.place.inCall)
    (hb : ∀ i, Deed.ended (.input i) .brokeDown ∉ ds) (hw : r.Within limit)
    (hs : Spends limit r.place r.session.abort r.session.index old) :
    Spends limit r'.place r'.session.abort r'.session.index (ds.reverse ++ old) := by
  have hslot : r.session.abort.isSome = true → r'.session.abort.isSome = true :=
    AbortReason.isSome_of_upgrade fun _ => h.upgrade
  rcases h.kinds with ⟨f, p, hp, hc⟩ | ⟨g, args, rfl⟩ | ⟨hc, hbt⟩
  · rw [hp] at ho hs
    cases hs with
    | counted h =>
      cases hu : (Place.call f p).isUncounted with
      | false => exact hc.spends_counted ho hu h
      | true =>
        have hroom := hw.room (by rw [hp]; exact Place.isAdmitted_of_isUncounted hu)
        exact hc.spends_underWay hb hu hroom (Nat.le_succ_of_le h)
    | underWay hu h =>
      have hroom := hw.room (by rw [hp]; exact Place.isAdmitted_of_isUncounted hu)
      exact hc.spends_underWay hb hu hroom h
    | failed hq h =>
      refine hc.spends_failed (hq.imp (fun ⟨f', a, hq⟩ => ?_) id) h
      cases hq
      exact ⟨a, rfl⟩
  · obtain ⟨hp, ⟨c, _, rfl, rfl⟩ | ⟨e, _, rfl, rfl⟩⟩ := h.of_call
    · exact hs.outside (by rw [hp]; rfl) rfl rfl rfl id
    · exact hs.outside (by rw [hp]; rfl) rfl rfl rfl id
  · rw [hc] at ho
    have hbo := hbt old ho
    refine hs.outside hc (Place.atDoor_of_not_inCall hbo.outside) ?_ hbo.index hslot
    rw [Deed.attempted, hbo.hostCalls, Deed.attempted]

end

namespace System

/-! ## the run -/

section
variable {s s₁ s' : System} {m : Move} {i : RunId} {r r' : Run} {ds : List Deed} {limit : Nat}
  {ms : List Move}

theorem Reachable.within (hs : s.Reachable) (hr : s.runs[i]? = some r)
    (hl : s.settings.limits.operations = some limit) (hmax : limit < 18446744073709551615) :
    r.Within limit := by
  refine hs.each_run
    (P := fun s _ r => s.settings.limits.operations = some limit → r.Within limit) ?_ ?_ hr hl
  · intro s s' m i script options total _ _ _ _ _
    exact ⟨Nat.zero_le _, nofun⟩
  · intro s s' m i r r' ds hs hstep hr _ _ hc hw hl
    rw [step?_settings hstep] at hl
    have hw := hw hl
    cases hc with
    | still => exact hw
    | worked _ h => exact h.within hl hmax hw
    | commanded => exact hw.stays (Session.control_index _ _) id
    | swept => exact hw.stays rfl id
    | launched => exact hw.stays (Session.settle_index _ _) id
    | spawned => exact ⟨hw.count, nofun⟩

theorem Reachable.spends (hs : s.Reachable) (hr : s.runs[i]? = some r)
    (hl : s.settings.limits.operations = some limit) (hmax : limit < 18446744073709551615)
    (hb : ∀ x, Deed.ended (.input x) .brokeDown ∉ s.deeds i) :
    Spends limit r.place r.session.abort r.session.index (s.deeds i) := by
  refine hs.each_run (P := fun s i r => s.settings.limits.operations = some limit →
    (∀ x, Deed.ended (.input x) .brokeDown ∉ s.deeds i) →
    Spends limit r.place r.session.abort r.session.index (s.deeds i)) ?_ ?_ hr hl hb
  · intro s s' m i script options total hs hstep hr _ _ _
    refine .counted ?_
    rw [(newRun hstep hr).1, hs.tidy.blank i hr]
    exact Nat.zero_le _
  · intro s s' m i r r' ds hs hstep hr _ hd hc h hl hb
    rw [step?_settings hstep] at hl
    rw [hd] at hb
    have hold := h hl fun x hx => hb x (List.mem_append_right _ hx)
    have hslot : r.session.abort.isSome = true → r'.session.abort.isSome = true :=
      AbortReason.isSome_of_upgrade fun _ => hc.upgrade
    rw [hd]
    cases hc with
    | still => exact hold
    | worked _ hw =>
      exact hw.spends (hs.tidy.bracket i r hr)
        (fun x hx => hb x (List.mem_append_left _ (List.mem_reverse.2 hx)))
        (hs.within hr hl hmax) hold
    | commanded =>
      show Spends limit r.place _ (r.session.control _).2.index _
      rw [Session.control_index]
      exact hold.on_slot hslot
    | swept => exact hold.on_slot hslot
    | launched =>
      show Spends limit r.place _ (r.session.settle .running).index _
      rw [Session.settle_index]
      exact hold.on_slot hslot
    | spawned _ _ hin =>
      have hu := hs.tidy.unborn_of_spawn hr hin
      exact hold.outside (by rw [hu]; rfl) rfl rfl rfl id

theorem Reachable.okays_le (hs : s.Reachable) (hr : s.runs[i]? = some r) :
    okays (s.replies i) ≤ r.session.index := by
  obtain ⟨settings, approvals, ms, hp⟩ := hs
  have hfresh : (fresh settings approvals).Tallies i [] :=
    ⟨fun _ => rfl, fun r hr => by simp [fresh] at hr⟩
  have hcount := ((hfresh.play ⟨settings, approvals, [], rfl⟩ hp).2 r hr).count
  exact Nat.le.intro hcount

theorem Reachable.attempted_le (hs : s.Reachable) (hr : s.runs[i]? = some r)
    (hl : s.settings.limits.operations = some limit) (hmax : limit < 18446744073709551615)
    (hb : ∀ x, Deed.ended (.input x) .brokeDown ∉ s.deeds i) :
    (Deed.attempted (s.deeds i)).length ≤ limit := by
  have hw := hs.within hr hl hmax
  cases hs.spends hr hl hmax hb with
  | counted h => exact Nat.le_trans h hw.count
  | underWay hu h => exact Nat.le_trans h (hw.room (Place.isAdmitted_of_isUncounted hu))
  | failed _ h => exact h

/-! ## the call after the last operation -/

/-- all operations are done: the bound is exceeded by the next one -/
def overrun (limit : Nat) : AbortReason := .failure (.limit (.operations limit (limit + 1)))

/-- what has become at the moment `s'` of a call of the function `g`, begun at the moment `s₁`, when
all `limit` operations had been done -/
structure Overrun (s₁ s' : System) (i : RunId) (g : HostFunction) (limit : Nat) (ms : List Move) :
    Prop where
  /-- it has begun nothing, asked nobody, and was not counted -/
  quiet : s₁.Untouched s' i
  reply : s'.replies i = s₁.replies i ∨
    s'.replies i = (g, .error (.abort (overrun limit))) :: s₁.replies i
  answered : 4 ≤ ms.countP (Move.isWorkOf i) → s'.replies i ≠ s₁.replies i
  goesOn : s'.replies i = s₁.replies i → ∃ reply t, s'.step? (.work i reply) = some t

/-- while the call is unanswered nobody else gives it a reason to unwind -/
def Unhindered (s₁ : System) (i : RunId) (t : System) : Prop :=
  t.replies i = s₁.replies i → t.slot? i = none ∧ t.killSwitch.active = false

instance : DecidablePred (s₁.Unhindered i) := fun t =>
  inferInstanceAs (Decidable (t.replies i = s₁.replies i →
    t.slot? i = none ∧ t.killSwitch.active = false))

theorem Unhindered.barred (hl : s₁.settings.limits.operations = some limit)
    (hmax : limit < 18446744073709551615) (hi : s₁.indexOf? i = some limit)
    {t : System} (h : s₁.Unhindered i t) : s₁.Barred i (· = overrun limit) False t where
  reasons := by
    intro hset hu hx r hr
    obtain ⟨hslot, hkill⟩ := h hx
    rw [slot?_of_run hr] at hslot
    have hindex : r.session.index = limit := by
      have hindex := hu.index
      rw [hi, indexOf?, hr] at hindex
      exact Option.some.inj hindex
    refine ⟨fun a ha => ?_, fun reason hk => ?_, fun x hx => ?_⟩
    · rw [hslot] at ha
      cases ha
    · have hpoll : t.killSwitch.poll = some reason := hk
      simp [KillSwitch.poll, hkill] at hpoll
    · have hcount : s₁.settings.limits.checkCount limit
          = some (.operations limit (Limits.nextIndex limit)) :=
        Limits.checkCount_of_le hl hmax (Nat.le_refl _)
      have hnext : Limits.nextIndex limit = limit + 1 := Nat.min_eq_left hmax
      have hview : t.view.settings = s₁.settings := hset
      rw [hview, hindex, Limits.check_of_checkCount_some hcount, hnext] at hx
      rw [← Option.some.inj hx]
      rfl
  bar := by
    refine Or.inl ⟨limit, hi, ?_⟩
    rw [Limits.checkCount_of_le hl hmax (Nat.le_refl _)]
    simp

theorem overrun_of_called {g : HostFunction} {args : List HostValue} {c : HostCall}
    (hs : s.Reachable) (hl : s.settings.limits.operations = some limit)
    (hmax : limit < 18446744073709551615) (hi : s.indexOf? i = some limit)
    (hc : g.read? args = .ok c) (hcall : s.step? (.work i (.script (.call g args))) = some s₁)
    (hm : ∀ m ∈ ms, m.isCallOf i = false) (hp : s₁.play? ms = some s')
    (hu : s₁.Throughout (s₁.Unhindered i) ms) : s₁.Overrun s' i g limit ms := by
  obtain ⟨r, _, _, hr, _⟩ := work?_eq_some hcall
  obtain ⟨r₁, ds, hr₁, hd, hw⟩ := workStep hcall hr
  have hsession : r₁.session = r.session := by
    obtain ⟨_, ⟨_, _, rfl, _⟩ | ⟨_, _, rfl, _⟩⟩ := hw.of_call
    · rfl
    · rfl
  have hi₁ : s₁.indexOf? i = some limit := by
    rw [indexOf?, hr₁, Option.map_some, hsession, ← hi, indexOf?, hr, Option.map_some]
  have hl₁ : s₁.settings.limits.operations = some limit := by rw [step?_settings hcall, hl]
  have hbar : s₁.Throughout (fun t => t.Tidy ∧ s₁.Barred i (· = overrun limit) False t) ms :=
    Throughout.and_step (fun ht hstep => ht.step hstep) (hs.step hcall).tidy
      (hu.mono fun t h => h.barred hl₁ hmax hi₁)
  have hend := facing_play hbar hm hp (facing_of_called hc hcall _ _)
  refine ⟨hend.untouched, ?_, fun hlong => ?_, hend.goesOn⟩
  · cases hend.faced with
    | opens _ _ _ hx => exact Or.inl hx
    | closed _ _ hwhy hx =>
      rw [hwhy] at hx
      exact Or.inr hx
  · rw [Nat.sub_eq_zero_of_le hlong] at hend
    exact hend.answered

/-- a run under a limit of operations -/
structure Quota (s : System) (i : RunId) (limit : Nat) : Prop where
  granted : okays (s.replies i) ≤ limit
  /-- if no input of a call breaks down -/
  attempted : (∀ x, Deed.ended (.input x) .brokeDown ∉ s.deeds i) →
    (Deed.attempted (s.deeds i)).length ≤ limit
  /-- between the slices of a wait the limit is not exceeded -/
  rechecks : ∀ (r : Run) f d now n k, s.runs[i]? = some r →
    r.place = .call f (.limits (.between d)) →
    s.settings.limits.check r.session.index (r.session.elapsed now) ≠ some (.operations n k)
  /-- the call after the last operation -/
  next : s.indexOf? i = some limit → ∀ g args c s₁ ms s', g.read? args = .ok c →
    s.step? (.work i (.script (.call g args))) = some s₁ → (∀ m ∈ ms, m.isCallOf i = false) →
    s₁.play? ms = some s' → s₁.Throughout (s₁.Unhindered i) ms → s₁.Overrun s' i g limit ms

/-- **Under a limit of operations that is not the greatest number, no more calls are granted and no
more inputs begun than it allows; the next call is refused before it does anything, and the last
operation is not refused half-way.** -/
theorem quota_of_reachable (hs : s.Reachable) (hl : s.settings.limits.operations = some limit)
    (hmax : limit < 18446744073709551615) : s.Quota i limit where
  granted := by
    cases hr : s.runs[i]? with
    | some r => exact Nat.le_trans (hs.okays_le hr) (hs.within hr hl hmax).count
    | none =>
      rw [replies, hs.tidy.blank i hr]
      exact Nat.zero_le _
  attempted := fun hb => by
    cases hr : s.runs[i]? with
    | some r => exact hs.attempted_le hr hl hmax hb
    | none =>
      rw [hs.tidy.blank i hr]
      exact Nat.zero_le _
  rechecks := fun r f d now n k hr hp => by
    have hlt := (hs.within hr hl hmax).room (by rw [hp]; rfl)
    exact Limits.check_ne_operations (Limits.checkCount_of_lt hl hlt) n k
  next := fun hi _ _ _ _ _ _ hc hcall hm hp hu => overrun_of_called hs hl hmax hi hc hcall hm hp hu

/-- one operation is allowed: the pointer moves once -/
theorem quota_of_reachable_once :
    let s := (fresh { limits := ⟨some 1, none⟩ } {}).after ([.request (.start ⟨"s", "s", ""⟩ {}),
      .proceed 0 .go, .proceed 0 (.provision (.ok ()))] ++ List.replicate 5 (.proceed 0 .go) ++
      List.replicate 11 (.work 0 (.stage .ready)) ++ carried .move [.int 1, .int 2])
    let s₁ := s.after [.work 0 (.script (.call .move [.int 3, .int 4]))]
    let ms : List Move := List.replicate 4 (.work 0 .go)
    let s' := s₁.after ms
    s.replies 0 = [(.move, .ok)] ∧ s.Quota 0 1 ∧ s₁.Overrun s' 0 .move 1 ms ∧
      s'.replies 0 = [(.move, .error (.abort (overrun 1))), (.move, .ok)] := by
  intro s s₁ ms s'
  have hs : s.Reachable := Reachable.after ⟨_, _, [], rfl⟩ _
  have hcall : s.step? (.work 0 (.script (.call .move [.int 3, .int 4]))) = some s₁ :=
    step?_after (by decide +kernel)
  have hplay : s₁.play? ms = some s' := play?_after (by decide +kernel)
  have hcalm : s₁.Throughout (s₁.Unhindered 0) ms := by decide +kernel
  have hquota : s.Quota 0 1 := quota_of_reachable hs (by decide +kernel) (by decide)
  have hover := hquota.next (by decide +kernel) .move [.int 3, .int 4] (.input (.move ⟨3, 4⟩)) s₁
    ms s' rfl hcall (by decide) hplay hcalm
  exact ⟨by decide +kernel, hquota, hover, by decide +kernel⟩

/-! ## the greatest limit -/

/-- steps of a worker that see the process in one way and find the slot empty; none of them approves
a category -/
inductive Walk (v : View) : Run → List Reply → List Deed → Run → Prop
  | nil {r : Run} (ha : r.session.abort = none) : Walk v r [] [] r
  | cons {r r₁ r' : Run} {reply : Reply} {replies : List Reply} {ds ds' all : List Deed}
      (ha : r.session.abort = none) (h : WorkerStep v r reply r₁ ds)
      (hn : r.place.isStage = false) (hg : ∀ c, Deed.granted c ∉ ds)
      (hw : Walk v r₁ replies ds' r') (hds : ds ++ ds' = all) : Walk v r (reply :: replies) all r'

/-- the process looks like this, and the slot of the run is empty -/
def Calm (s : System) (i : RunId) (v : View) : Prop := s.view = v ∧ s.slot? i = none

theorem Calm.off {v : View} (h : s.Calm i v) (hv : v.killed = none) :
    s.killSwitch.active = false := by
  have hpoll : s.killSwitch.poll = none := by
    rw [← hv, ← h.1]
    rfl
  cases hact : s.killSwitch.active with
  | false => rfl
  | true => simp [KillSwitch.poll, hact] at hpoll

theorem foldl_record_view (id : String) (hg : ∀ c, Deed.granted c ∉ ds) (s : System) :
    (ds.foldl (fun s d => s.record i id d) s).view = s.view := by
  induction ds generalizing s with
  | nil => rfl
  | cons d ds ih =>
    rw [List.foldl_cons, ih fun c hc => hg c (List.mem_cons_of_mem d hc)]
    cases d with
    | granted c => exact absurd List.mem_cons_self (hg c)
    | _ => rfl

theorem Walk.play {v : View} {replies : List Reply} (h : Walk v r replies ds r')
    (hv : s.view = v) (hr : s.runs[i]? = some r) :
    ∃ s', s.play? (replies.map (.work i)) = some s' ∧ s'.runs[i]? = some r' ∧
      s'.deeds i = ds.reverse ++ s.deeds i ∧ s'.view = v ∧
      s.Throughout (fun t => t.Calm i v) (replies.map (.work i)) := by
  induction h generalizing s with
  | nil ha => exact ⟨s, rfl, hr, rfl, hv, hv, by rw [slot?_of_run hr, ha]⟩
  | @cons r r₁ r' reply replies ds ds' _ hslot h hn hg _ hds ih =>
    subst hds
    rw [← hv] at h
    have ha := h.advance_eq hn
    obtain ⟨s₁, h₁, hr₁, hd₁⟩ := step?_work hr ha
    have hview : s₁.view = v := by
      obtain ⟨r₂, r₃, ds₂, hr₂, ha₂, rfl⟩ := work?_eq_foldl h₁
      rw [hr] at hr₂
      cases hr₂
      rw [ha] at ha₂
      cases ha₂
      rw [foldl_record_view _ hg]
      exact hv
    obtain ⟨s', h', hr', hd', hv', hcalm⟩ := ih hview hr₁
    refine ⟨s', ?_, hr', ?_, hv', ⟨hv, by rw [slot?_of_run hr, hslot]⟩, fun t ht => ?_⟩
    · rw [List.map_cons, play?_cons, h₁]
      exact h'
    · rw [hd', hd₁, List.reverse_append, List.append_assoc]
    · rw [h₁] at ht
      cases ht
      exact hcalm

/-- the settings with the greatest limit of operations -/
def longest : Settings := { limits := ⟨some 18446744073709551615, none⟩ }

/-- the run is in its script, nobody interferes, and it has done `n` operations; it is not rapid,
and does not wait before its inputs -/
structure Idles (r : Run) (n : Nat) : Prop where
  place : r.place = .script
  slot : r.session.abort = none
  state : r.session.state = .running
  index : r.session.index = n
  slow : ¬ longest.rapidThreshold < r.session.options.speed
  prompt : (r.session.options.scaled r.session.options.preDelay).isZero = true

def moving : Frame := ⟨.move, .input (.move ⟨0, 0⟩), false⟩

/-- the replies on the way of that call to its input, and from there to its end -/
def inward : List Reply :=
  [.script (.call .move [.int 0, .int 0]), .go, .go, .go, .go, .go, .go, .go]

def onward : List Reply := [.device .done, .go, .go, .go]

theorem check_longest (n : Nat) (t : Duration) : longest.limits.check n t = none := by
  have hle : ¬ 18446744073709551615 < Limits.nextIndex n := by
    unfold Limits.nextIndex
    omega
  simp [Limits.check, Limits.checkCount, Limits.checkTime, longest, hle]

theorem walk_to_input {v : View} {n : Nat} (hv : v.settings = longest) (hk : v.killed = none)
    (h : Idles r n) :
    ∃ r', Walk v r inward [.called .move, .began (.input (.move ⟨0, 0⟩))] r' ∧
      r'.place = .call moving (.acting (.move ⟨0, 0⟩)) ∧ r'.session = r.session.wake v.now := by
  obtain ⟨hplace, ha, hstate, hindex, hslow, hprompt⟩ := h
  have hx (t : Duration) : v.settings.limits.check r.session.index t = none := by
    rw [hv]
    exact check_longest _ t
  have hgate : r.session.GateMove v.killed false v.now (.passed false) false
      (r.session.wake v.now) :=
    .passes ha hk (by rw [hstate]; simp) (by rw [hstate]; simp)
  let r₅ : Run :=
    { r with
      session := r.session.wake v.now
      place := .call moving (({ r with session := r.session.wake v.now } : Run).passed v.settings
        moving .opening) }
  have hneeded : r₅.place = .call moving (.permit []) := by
    show Place.call moving (.permit (Run.needed _ v.settings _)) = _
    have hrapid : ¬ v.settings.rapidThreshold < r.session.options.speed := by
      rw [hv]
      exact hslow
    simp [Run.needed, Session.wake, moving, hrapid]
  have hwait : (r₅.totalWait moving.call).isZero = true := hprompt
  refine ⟨{ r₅ with place := .call moving (.acting (.move ⟨0, 0⟩)) }, ?_, rfl, rfl⟩
  refine .cons ha (.calls hplace rfl) (by rw [hplace]; rfl) (by simp) ?_ rfl
  refine .cons ha (.call rfl (.slotClear ha)) rfl (by simp) ?_ rfl
  refine .cons ha (.call rfl (.switchOff hk)) rfl (by simp) ?_ rfl
  refine .cons ha (.call rfl (.withinLimits (hx _))) rfl (by simp) ?_ rfl
  refine .cons ha (.call rfl (.atGate (Or.inl rfl) (.passes hgate rfl))) rfl (by simp) ?_ rfl
  refine .cons ha (.call hneeded .permitted) rfl (by simp) ?_ rfl
  refine .cons ha (.call rfl (.rested hwait)) rfl (by simp) ?_ rfl
  exact .cons ha (.call rfl (.input rfl)) rfl (by simp) (.nil ha) rfl

theorem walk_to_end {v : View} {n : Nat} {r₀ : Run} (h : Idles r₀ n)
    (hp : r.place = .call moving (.acting (.move ⟨0, 0⟩)))
    (hs : r.session = r₀.session.wake v.now) :
    ∃ r' ds, Walk v r onward ds r' ∧ Idles r' (n + 1) := by
  have ha : r.session.abort = none := by
    rw [hs]
    exact h.slot
  let r₄ : Run :=
    { r with
      session := r.session.count, held := r.held.after (.move ⟨0, 0⟩), place := .script }
  have hwalk : ∃ ds, Walk v r onward ds r₄ := by
    refine ⟨[.ended (.input (.move ⟨0, 0⟩)) .done,
      .told (.progress r.session.script.id (r.session.index + 1) r.session.expectedTotal),
      .replied .move .ok], ?_⟩
    refine .cons ha (.call hp .inputDone) (by rw [hp]; rfl) (by simp) ?_ rfl
    refine .cons ha (.call rfl .holds) rfl (by simp) ?_ rfl
    refine .cons ha (.call rfl (.counts rfl)) rfl (by simp) ?_ rfl
    exact .cons ha (.call rfl .progress) rfl (by simp) (.nil ha) rfl
  obtain ⟨ds, hwalk⟩ := hwalk
  refine ⟨r₄, ds, hwalk, ?_⟩
  show Idles { r with session := r.session.count, held := _, place := .script } (n + 1)
  rw [hs]
  exact ⟨rfl, h.slot, h.state, congrArg (· + 1) h.index, h.slow, h.prompt⟩

/-- a service with this limit that has started one run, which has done `n` operations -/
structure Busy (s : System) (n : Nat) : Prop where
  reachable : s.Reachable
  settings : s.view.settings = longest
  killed : s.view.killed = none
  run : ∃ r : Run, s.runs[0]? = some r ∧ Idles r n

theorem Busy.moves {n : Nat} (h : s.Busy n) :
    ∃ s₁ s₂, s.step? (.work 0 (.script (.call .move [.int 0, .int 0]))) = some s₁ ∧
      s₁.play? (List.replicate 7 (.work 0 .go)) = some s₂ ∧
      s₁.Throughout (fun t => t.Calm 0 s.view) (List.replicate 7 (.work 0 .go)) ∧
      s₂.deeds 0 = .began (.input (.move ⟨0, 0⟩)) :: .called .move :: s.deeds 0 ∧
      ∃ s₃, s₂.play? (onward.map (.work 0)) = some s₃ ∧ s₃.Busy (n + 1) := by
  obtain ⟨hs, hset, hk, r, hr, hidle⟩ := h
  obtain ⟨r₂, hwalk, hplace, hsession⟩ := walk_to_input hset hk hidle
  obtain ⟨s₂, h₂, hr₂, hd₂, hv₂, hcalm⟩ := hwalk.play rfl hr
  have hmoves : inward.map (Move.work 0) =
      Move.work 0 (.script (.call .move [.int 0, .int 0])) ::
        List.replicate 7 (Move.work 0 .go) := rfl
  rw [hmoves] at h₂ hcalm
  obtain ⟨s₁, h₁, h₁₂⟩ := exists_of_play?_cons h₂
  obtain ⟨r₃, ds, hwalk', hidle'⟩ := walk_to_end (v := s.view) hidle hplace hsession
  obtain ⟨s₃, h₃, hr₃, _, hv₃, _⟩ := hwalk'.play hv₂ hr₂
  refine ⟨s₁, s₂, h₁, h₁₂, hcalm.2 s₁ h₁, hd₂, s₃, h₃, ?_, ?_, ?_, r₃, hr₃, hidle'⟩
  · exact (((hs.step h₁).play h₁₂).play h₃)
  · rw [hv₃]
    exact hset
  · rw [hv₃]
    exact hk

theorem play?_settings (h : s.play? ms = some s') : s'.settings = s.settings :=
  play?_induction (P := fun t => t.settings = s.settings)
    (fun ht hstep => (step?_settings hstep).trans ht) rfl h

/-- any number of operations is done under the greatest limit -/
theorem exists_busy (n : Nat) : ∃ s : System, s.Busy n := by
  induction n with
  | zero =>
    let ms : List Move := [.request (.start ⟨"s", "s", ""⟩ {}),
      .proceed 0 .go, .proceed 0 (.provision (.ok ()))] ++ List.replicate 5 (.proceed 0 .go) ++
      List.replicate 11 (.work 0 (.stage .ready))
    let s := (fresh longest {}).after ms
    have hplay : (fresh longest {}).play? ms = some s := play?_after (by decide +kernel)
    have hset : s.settings = longest := play?_settings hplay
    have hkilled : s.view.killed = none := by decide +kernel
    have hrun : (s.runs[0]?).isSome = true := by decide +kernel
    have hidle : ∀ r ∈ s.runs[0]?, r.place = .script ∧ r.session.abort = none ∧
        r.session.state = .running ∧ r.session.index = 0 ∧
        ¬ longest.rapidThreshold < r.session.options.speed ∧
        (r.session.options.scaled r.session.options.preDelay).isZero = true := by
      decide +kernel
    obtain ⟨r, hr⟩ := Option.isSome_iff_exists.1 hrun
    obtain ⟨hplace, hslot, hstate, hindex, hslow, hprompt⟩ := hidle r hr
    exact ⟨s, ⟨_, _, ms, hplay⟩, hset, hkilled, r, hr, hplace, hslot, hstate, hindex, hslow,
      hprompt⟩
  | succ n ih =>
    obtain ⟨s, h⟩ := ih
    obtain ⟨_, _, _, _, _, _, s₃, _, h₃⟩ := h.moves
    exact ⟨s₃, h₃⟩

/-- **The greatest limit binds nothing.**  When that many operations have been done, one more is not
refused: its input begins. -/
theorem not_quota_of_longest :
    ¬ ∀ (s s₁ s' : System) (i : RunId) (limit : Nat) (ms : List Move) (g : HostFunction)
      (args : List HostValue) (c : HostCall),
      s.Reachable → s.settings.limits.operations = some limit → limit ≤ 18446744073709551615 →
      s.indexOf? i = some limit → g.read? args = .ok c →
      s.step? (.work i (.script (.call g args))) = some s₁ → (∀ m ∈ ms, m.isCallOf i = false) →
      s₁.play? ms = some s' → s₁.Throughout (s₁.Unhindered i) ms →
      s₁.Overrun s' i g limit ms := by
  intro h
  obtain ⟨s, hbusy⟩ := exists_busy 18446744073709551615
  obtain ⟨s₁, s₂, h₁, h₂, hcalm, hd₂, _⟩ := hbusy.moves
  obtain ⟨hs, hset, hk, r, hr, hidle⟩ := hbusy
  have hl : s.settings.limits.operations = some 18446744073709551615 := by
    have hset : s.settings = longest := hset
    rw [hset]
    rfl
  have hi : s.indexOf? 0 = some 18446744073709551615 := by
    rw [indexOf?, hr, Option.map_some, hidle.index]
  have hmoves : ∀ m ∈ List.replicate 7 (Move.work 0 .go), m.isCallOf 0 = false := by decide
  have hover := h s s₁ s₂ 0 _ _ _ _ _ hs hl (Nat.le_refl _) hi (by rfl) h₁ hmoves h₂
    (hcalm.mono fun t ht _ => ⟨ht.2, Calm.off ht hk⟩)
  have hcalled : s₁.hostCalls 0 = s.hostCalls 0 := by
    obtain ⟨_, ds, _, hd₁, hw⟩ := workStep h₁ hr
    rw [hostCalls, hd₁]
    obtain ⟨_, ⟨_, _, _, rfl⟩ | ⟨_, _, _, rfl⟩⟩ := hw.of_call
    · rfl
    · rfl
  have hbegun : s₂.hostCalls 0 = .input (.move ⟨0, 0⟩) :: s.hostCalls 0 := by
    rw [hostCalls, hd₂]
    rfl
  have hquiet := hover.quiet.hostCalls
  rw [hbegun, hcalled] at hquiet
  exact absurd hquiet (List.cons_ne_self _ _)

end

end System

end ScriptGuard
