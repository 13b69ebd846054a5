import ScriptGuard.Proofs.Approval
import ScriptGuard.Proofs.Unwinding

/-!
# Which calls are checkpoints

A call whose arguments can be read goes through the slot, the kill switch, the limits and the gate
before it does anything.  One whose arguments cannot be read goes through none of them.

* `Run.OpensAt`        a call stands at one of its first checks, or is about to give back an abort;
* `CallStep.opens`     a step of such a call that must not pass them;
* `System.TurnedAway`  what becomes of a call that meets a set slot, an engaged kill switch, a used
                       up number of operations, or a pause;
* `checked_of_called`  both kinds of calls; `not_checked_of_called` says that the second kind is an
                       exception.
-/

namespace ScriptGuard

namespace CallPoint

/-- the call stands at one of its first checks, or is about to give back an abort -/
def opens : CallPoint → Bool
  | .slot .opening | .switch .opening | .limits .opening | .gate .opening false
  | .parked .opening false | .raise _ => true
  | _ => false

def isAtGate : CallPoint → Bool
  | .gate _ _ | .parked _ _ => true
  | _ => false

end CallPoint

/-- the call `f` of the run stands at `p`, one of its first checks, with the reason `why` if it is
about to give one back; it is parked at the gate only if `soft` holds, and has come there only if it
does not exceed the number of operations -/
structure Run.OpensAt (r : Run) (limits : Limits) (f : Frame) (why : AbortReason → Prop)
    (soft : Prop) (p : CallPoint) : Prop where
  place : r.place = .call f p
  opens : p.opens = true
  raised : ∀ a, p = .raise a → why a
  within : p.isAtGate = true → limits.checkCount r.session.index = none
  parked : p.rank = 0 → soft

/-- the call has given back an abort with the reason `why`, and the slot holds it -/
structure Run.TurnsBack (r : Run) (f : Frame) (why : AbortReason → Prop) (a : AbortReason)
    (ds : List Deed) : Prop where
  place : r.place = .script
  slot : r.session.abort = some a
  why : why a
  deeds : ds = [.replied f.function (.error (.abort a))]

/-- the reasons for which a check can fail now are all of this kind -/
structure Run.Reasons (r : Run) (v : View) (why : AbortReason → Prop) : Prop where
  slot : ∀ a, r.session.abort = some a → why a
  switch : ∀ reason, v.killed = some reason → why (.killSwitch reason)
  limit : ∀ x, v.settings.limits.check r.session.index (r.session.elapsed v.now) = some x →
    why (.failure (.limit x))

/-! ## one step -/

theorem Limits.check_of_checkCount {l : Limits} {n : Nat} {t : Duration} (h : l.check n t = none) :
    l.checkCount n = none := by
  rw [check] at h
  exact (Option.or_eq_none_iff.1 h).1

section
variable {v : View} {r r' : Run} {f : Frame} {p : CallPoint} {reply : Reply} {soft : Prop}
  {why : AbortReason → Prop} {ds old : List Deed}

theorem Run.reasons_true (r : Run) (v : View) : r.Reasons v fun _ => True :=
  ⟨fun _ _ => trivial, fun _ _ => trivial, fun _ _ => trivial⟩

theorem AbortReason.why_merge {slot : Option AbortReason} {a : AbortReason}
    (hs : ∀ b, slot = some b → why b) (ha : why a) : why (merge slot a) := by
  cases slot with
  | none => exact ha
  | some b =>
    rw [merge_some]
    split
    · exact ha
    · exact hs b rfl

theorem Run.Reasons.heeds (h : r.Reasons v why) {a : AbortReason}
    (ha : ((r.session.wake v.now).heedSwitch v.killed).abort = some a) : why a := by
  cases hk : v.killed with
  | none =>
    rw [hk] at ha
    exact h.slot a ha
  | some reason =>
    rw [hk] at ha
    cases ha
    exact AbortReason.why_merge h.slot (h.switch reason hk)

theorem GateStep.opens (h : GateStep v r f .opening false r' ds) (hq : r.Reasons v why)
    (hb : r.Blocked v) (hw : v.settings.limits.checkCount r.session.index = none)
    (hs : ¬ soft → r.session.abort ≠ none ∨ v.killed ≠ none) :
    r'.session.index = r.session.index ∧
      (r'.OpensAt v.settings.limits f why soft (.parked .opening false) ∧ ds = [] ∨
        ∃ a, r'.TurnsBack f why a ds) := by
  cases h with
  | @parks paused s hg =>
    have hp : paused = false := hb.not_paused hg
    subst hp
    obtain ⟨hn, hk⟩ := hg.clear_of_parked
    refine ⟨hg.index_eq, Or.inl ⟨⟨rfl, rfl, nofun, fun _ => ?_, fun _ => ?_⟩, rfl⟩⟩
    · show v.settings.limits.checkCount s.index = none
      rw [hg.index_eq, hw]
    · exact Classical.byContradiction fun h => (hs h).elim (· hn) (· hk)
  | passes hg => exact (hb.not_passed hg).elim
  | passesShown hg => exact (hb.not_passed hg).elim
  | aborts hg =>
    refine ⟨hg.index_eq, Or.inr ⟨_, rfl, ?_, ?_, rfl⟩⟩
    · cases hg with
      | aborts ha => exact ha
    · cases hg with
      | aborts ha => exact hq.heeds ha
  | abortsShown hg hshown =>
    rw [hb.not_paused hg] at hshown
    cases hshown

/-- a call that must not pass its first checks comes to the next one, or gives back an abort with
the reason that the slot then holds -/
theorem CallStep.opens (h : CallStep v r f p reply r' ds)
    (ho : r.OpensAt v.settings.limits f why soft p) (hq : r.Reasons v why)
    (hb : v.settings.limits.checkCount r.session.index = none → r.Blocked v ∧
      (¬ soft → r.session.abort ≠ none ∨ v.killed ≠ none)) :
    r'.session.index = r.session.index ∧
      ((∃ q, r'.OpensAt v.settings.limits f why soft q ∧ q.rank ≤ p.rank - 1 ∧ ds = []) ∨
        ∃ a, r'.TurnsBack f why a ds) := by
  have hp := ho.opens
  cases h with
  | slotSet ha => exact ⟨rfl, Or.inr ⟨_, rfl, ha, hq.slot _ ha, rfl⟩⟩
  | @slotClear k =>
    cases k with
    | opening => exact ⟨rfl, Or.inl ⟨_, ⟨rfl, rfl, nofun, nofun, nofun⟩, Nat.le_refl _, rfl⟩⟩
    | between d => cases hp
  | @switchOn k reason hk =>
    cases k with
    | opening =>
      have hwhy (a : AbortReason) (ha : CallPoint.raise (.killSwitch reason) = .raise a) :
          why a := by
        cases ha
        exact hq.switch reason hk
      exact ⟨rfl, Or.inl ⟨_, ⟨rfl, rfl, hwhy, nofun, nofun⟩, Nat.le_succ 1, rfl⟩⟩
    | between d => cases hp
  | @switchOff k =>
    cases k with
    | opening => exact ⟨rfl, Or.inl ⟨_, ⟨rfl, rfl, nofun, nofun, nofun⟩, Nat.le_refl _, rfl⟩⟩
    | between d => cases hp
  | @overLimit k x hx =>
    cases k with
    | opening =>
      have hwhy (a : AbortReason) (ha : CallPoint.raise (.failure (.limit x)) = .raise a) :
          why a := by
        cases ha
        exact hq.limit x hx
      exact ⟨rfl, Or.inl ⟨_, ⟨rfl, rfl, hwhy, nofun, nofun⟩, Nat.le_refl _, rfl⟩⟩
    | between d => cases hp
  | @withinLimits k hx =>
    cases k with
    | opening =>
      have hw := Limits.check_of_checkCount hx
      exact ⟨rfl, Or.inl ⟨_, ⟨rfl, rfl, nofun, fun _ => hw, nofun⟩, Nat.le_refl _, rfl⟩⟩
    | between d => cases hp
  | @atGate _ k shown _ _ hg h =>
    have hgate : p.isAtGate = true := by rcases hg with rfl | rfl <;> rfl
    have hk : k = .opening ∧ shown = false := by
      cases k with
      | between d => rcases hg with rfl | rfl <;> cases shown <;> cases hp
      | opening =>
        cases shown with
        | true => rcases hg with rfl | rfl <;> cases hp
        | false => exact ⟨rfl, rfl⟩
    obtain ⟨rfl, rfl⟩ := hk
    have hw := ho.within hgate
    obtain ⟨hi, ⟨hpark, hds⟩ | hclose⟩ := h.opens hq (hb hw).1 hw (hb hw).2
    · exact ⟨hi, Or.inl ⟨_, hpark, Nat.zero_le _, hds⟩⟩
    · exact ⟨hi, Or.inr hclose⟩
  | @raises a =>
    have hwhy := AbortReason.why_merge hq.slot (ho.raised a rfl)
    exact ⟨rfl, Or.inr ⟨_, rfl, rfl, hwhy, rfl⟩⟩
  | @announced k => cases k <;> cases hp
  | @announcedStop k => cases k <;> cases hp
  | _ => cases hp

end

namespace System

/-! ## the call -/

def Spent (s : System) (i : RunId) : Prop :=
  ∃ n, s.indexOf? i = some n ∧ s.settings.limits.checkCount n ≠ none

/-- the call `f` of the run, begun at the moment `s₁`, at the later moment `t`: it still stands at
its first checks, with `k` steps to go at most, or it has given back an abort -/
inductive Faced (s₁ t : System) (i : RunId) (f : Frame) (why : AbortReason → Prop) (soft : Prop)
    (k : Nat) : Prop
  | opens {r : Run} {p : CallPoint} (hr : t.runs[i]? = some r)
      (ho : r.OpensAt s₁.settings.limits f why soft p) (hk : p.rank ≤ k)
      (hx : t.replies i = s₁.replies i)
  | closed {r : Run} {a b : AbortReason} (hr : t.runs[i]? = some r) (hc : r.place.inCall = false)
      (hw : why a) (hx : t.replies i = (f.function, .error (.abort a)) :: s₁.replies i)
      (hb : t.slot? i = some b) (hab : AbortReason.Upgrade a b)

/-- and it has done nothing else -/
structure Facing (s₁ t : System) (i : RunId) (f : Frame) (why : AbortReason → Prop) (soft : Prop)
    (k : Nat) : Prop where
  settings : t.settings = s₁.settings
  untouched : s₁.Untouched t i
  faced : Faced s₁ t i f why soft k

section
variable {s s₁ s' t t' : System} {m : Move} {i : RunId} {f : Frame} {why : AbortReason → Prop}
  {soft : Prop} {k : Nat} {ms : List Move} {r : Run}

/-- something keeps the call begun at the moment `s₁` from passing its first checks, for reasons of
this kind; it is not a mere pause unless `soft` holds -/
structure Barred (s₁ : System) (i : RunId) (why : AbortReason → Prop) (soft : Prop) (t : System) :
    Prop where
  reasons : t.settings = s₁.settings → s₁.Untouched t i → t.replies i = s₁.replies i →
    ∀ r : Run, t.runs[i]? = some r → r.Reasons t.view why
  bar : s₁.Spent i ∨ t.Halted i ∧ (¬ soft → t.killSwitch.active = true ∨ ∃ a, t.slot? i = some a)

theorem Barred.blocked (hb : s₁.Barred i why soft t) (hset : t.settings = s₁.settings)
    (hu : s₁.Untouched t i) (hr : t.runs[i]? = some r) (hc : r.place.inCall = true)
    (hw : t.view.settings.limits.checkCount r.session.index = none) :
    r.Blocked t.view ∧ (¬ soft → r.session.abort ≠ none ∨ t.view.killed ≠ none) := by
  rcases hb.bar with ⟨n, hn, hx⟩ | ⟨hh, hs⟩
  · have hi : t.indexOf? i = some r.session.index := by rw [indexOf?, hr, Option.map_some]
    rw [← hu.index, hi] at hn
    cases hn
    rw [← hset] at hx
    exact absurd hw hx
  · refine ⟨hh.blocked hr hc, fun hsoft => ?_⟩
    rcases hs hsoft with hk | ⟨a, ha⟩
    · exact Or.inr (killed_ne_none hk)
    · rw [slot?_of_run hr] at ha
      exact Or.inl (by rw [ha]; simp)

theorem replies_of_deeds {ds : List Deed} (hd : t'.deeds i = ds.reverse ++ t.deeds i) :
    t'.replies i = (ds.filterMap Deed.reply?).reverse ++ t.replies i := by
  rw [replies, hd, List.filterMap_append, List.filterMap_reverse, replies]

theorem opens_work {reply : Reply} {p : CallPoint} (hb : s₁.Barred i why soft t)
    (hset : t.settings = s₁.settings) (hu : s₁.Untouched t i) (hr : t.runs[i]? = some r)
    (ho : r.OpensAt s₁.settings.limits f why soft p) (hx : t.replies i = s₁.replies i)
    (hstep : t.step? (.work i reply) = some t') :
    t.Untouched t' i ∧
      ((∃ r' q, t'.runs[i]? = some r' ∧ r'.OpensAt s₁.settings.limits f why soft q ∧
          q.rank ≤ p.rank - 1 ∧ t'.replies i = s₁.replies i) ∨
        ∃ r' a, t'.runs[i]? = some r' ∧ r'.place.inCall = false ∧ why a ∧ t'.slot? i = some a ∧
          t'.replies i = (f.function, .error (.abort a)) :: s₁.replies i) := by
  obtain ⟨r', ds, hr', hd, hw⟩ := workStep hstep hr
  have hincall : r.place.inCall = true := by rw [ho.place]; rfl
  have hc : CallStep t.view r f p reply r' ds := by
    rcases hw.inCall_or with ⟨f', p', hp, hc⟩ | hn
    · rw [ho.place] at hp
      cases hp
      exact hc
    · rw [hincall] at hn
      cases hn
  rw [← hset] at ho
  obtain ⟨hi, hcases⟩ := hc.opens ho (hb.reasons hset hu hx r hr)
    fun hwithin => hb.blocked hset hu hr hincall hwithin
  rw [← hset]
  rcases hcases with ⟨q, ho', hk, rfl⟩ | ⟨a, hp, ha, hwhy, rfl⟩
  · refine ⟨untouched_of_deeds hr hr' hd hi rfl rfl rfl, Or.inl ⟨r', q, hr', ho', hk, ?_⟩⟩
    rw [replies_of_deeds hd, hx]
    rfl
  · refine ⟨untouched_of_deeds hr hr' hd hi rfl rfl rfl, Or.inr ⟨r', a, hr', ?_, hwhy, ?_, ?_⟩⟩
    · rw [hp]
      rfl
    · rw [slot?_of_run hr', ha]
    · rw [replies_of_deeds hd, hx]
      rfl

theorem rests_step (ht : t.Tidy) (hr : t.runs[i]? = some r) (hc : r.place.inCall = false)
    (hm : m.isCallOf i = false) (hstep : t.step? m = some t') :
    (∃ r', t'.runs[i]? = some r' ∧ r'.place.inCall = false) ∧ t.Untouched t' i ∧
      t'.replies i = t.replies i := by
  rcases worked_or hstep hr with ⟨reply, r', ds, rfl, hr', hd, hw⟩ | ⟨hm', r', hr', hd, hch⟩
  · have hbt : Between r r' ds (t.deeds i) := by
      refine hw.between hc ?_ (ht.bracket i r hr)
      rintro g args rfl
      simp [Move.isCallOf] at hm
    have hnone : ds.filterMap Deed.reply? = [] :=
      List.filterMap_eq_nil_iff.2 fun d hd => (hbt.quiet d hd).2.1
    refine ⟨⟨r', hr', hbt.outside⟩, ?_, ?_⟩
    · refine untouched_of_deeds hr hr' hd hbt.index hbt.hostCalls ?_ ?_
      · exact List.filterMap_eq_nil_iff.2 fun d hd => (hbt.quiet d hd).2.2.1
      · exact List.filterMap_eq_nil_iff.2 fun d hd => (hbt.quiet d hd).2.2.2
    · rw [replies_of_deeds hd, hnone]
      rfl
  · have hd' : t'.deeds i = ([] : List Deed).reverse ++ t.deeds i := hd
    obtain ⟨hplace, hi, _⟩ := hch.unmoved ht hr hm'
    refine ⟨⟨r', hr', ?_⟩, untouched_of_deeds hr hr' hd' hi rfl rfl rfl, ?_⟩
    · rcases hplace with hp | ⟨_, hp⟩
      · rw [hp, hc]
      · rw [hp]
        rfl
    · rw [replies, hd, replies]

theorem opens_aside {p : CallPoint} (ht : t.Tidy) (hr : t.runs[i]? = some r)
    (ho : r.OpensAt s₁.settings.limits f why soft p) (hm : m.isWorkOf i = false)
    (hstep : t.step? m = some t') :
    t.Untouched t' i ∧ t'.replies i = t.replies i ∧
      ∃ r', t'.runs[i]? = some r' ∧ r'.OpensAt s₁.settings.limits f why soft p := by
  obtain ⟨r', ds, hr', hd, hch⟩ := runChange hstep hr
  obtain ⟨hp, hi, rfl⟩ := hch.aside ht hr hm (by rw [ho.place]; simp)
  refine ⟨untouched_of_deeds hr hr' hd hi rfl rfl rfl, replies_of_deeds hd, r', hr', ?_⟩
  exact ⟨hp.trans ho.place, ho.opens, ho.raised, fun hg => by rw [hi]; exact ho.within hg,
    ho.parked⟩

theorem facing_step (ht : t.Tidy) (hb : s₁.Barred i why soft t) (hm : m.isCallOf i = false)
    (hstep : t.step? m = some t') (h : s₁.Facing t i f why soft k) :
    s₁.Facing t' i f why soft (if m.isWorkOf i then k - 1 else k) := by
  obtain ⟨hset, hu, hf⟩ := h
  have hset' : t'.settings = s₁.settings := by rw [step?_settings hstep, hset]
  cases hf with
  | opens hr ho hk hx =>
    cases hw : m.isWorkOf i with
    | true =>
      obtain ⟨reply, rfl⟩ := Move.exists_of_isWorkOf hw
      obtain ⟨hu', ⟨r', q, hr', ho', hk', hx'⟩ | ⟨r', a, hr', hc, hw', ha, hx'⟩⟩ :=
        opens_work hb hset hu hr ho hx hstep
      · exact ⟨hset', hu.trans hu',
          .opens hr' ho' (Nat.le_trans hk' (Nat.sub_le_sub_right hk 1)) hx'⟩
      · exact ⟨hset', hu.trans hu', .closed hr' hc hw' hx' ha (.refl a)⟩
    | false =>
      obtain ⟨hu', hx', r', hr', ho'⟩ := opens_aside ht hr ho hw hstep
      exact ⟨hset', hu.trans hu', .opens hr' ho' hk (hx'.trans hx)⟩
  | closed hr hc hw hx hslot hab =>
    obtain ⟨⟨r', hr', hc'⟩, hu', hx'⟩ := rests_step ht hr hc hm hstep
    obtain ⟨c, hc₁, hbc⟩ := slot_step hslot hstep
    exact ⟨hset', hu.trans hu', .closed hr' hc' hw (hx'.trans hx) hc₁ (hab.trans hbc)⟩

theorem facing_play (hb : s.Throughout (fun t => t.Tidy ∧ s₁.Barred i why soft t) ms)
    (hm : ∀ m ∈ ms, m.isCallOf i = false) (hp : s.play? ms = some s')
    (h : s₁.Facing s i f why soft k) :
    s₁.Facing s' i f why soft (k - ms.countP (Move.isWorkOf i)) := by
  induction ms generalizing s k with
  | nil =>
    cases hp
    exact h
  | cons m ms ih =>
    obtain ⟨s₂, h₁, h₂⟩ := exists_of_play?_cons hp
    obtain ⟨ht, hbar⟩ := hb.head
    -- the moment `s₁` of the call stays fixed, and only the steps of its worker count
    have hstep := facing_step ht hbar (hm m (by simp)) h₁ h
    have hrest := ih (hb.2 s₂ h₁) (fun m' hm' => hm m' (List.mem_cons_of_mem m hm')) h₂ hstep
    rw [List.countP_cons]
    cases hw : m.isWorkOf i with
    | true =>
      rw [hw, if_pos rfl, Nat.sub_sub, Nat.add_comm 1] at hrest
      exact hrest
    | false =>
      rw [hw] at hrest
      exact hrest

/-! ## the outcome -/

/-- what has become at the moment `s'` of a call of the function `g`, begun at the moment `s₁`, that
does not pass its first checks -/
structure TurnedAway (s₁ s' : System) (i : RunId) (g : HostFunction) : Prop where
  /-- it has done nothing outside, asked nobody, and was not counted -/
  quiet : s₁.Untouched s' i
  reply : s'.replies i = s₁.replies i ∨
    ∃ a b, s'.replies i = (g, .error (.abort a)) :: s₁.replies i ∧ s'.slot? i = some b ∧
      AbortReason.Upgrade a b
  /-- the step that gives the reply leaves its reason in the slot -/
  next : s'.replies i = s₁.replies i → ∀ m t, s'.step? m = some t →
    t.replies i = s₁.replies i ∨
      ∃ a, t.replies i = (g, .error (.abort a)) :: s₁.replies i ∧ t.slot? i = some a
  goesOn : s'.replies i = s₁.replies i → ∃ reply t, s'.step? (.work i reply) = some t

theorem cons_ne_replies {x : CallReply} {g : HostFunction}
    (h : s'.replies i = (g, x) :: s₁.replies i) : s'.replies i ≠ s₁.replies i := by
  intro he
  rw [he] at h
  have hlen := congrArg List.length h
  simp at hlen

theorem Facing.goesOn (h : s₁.Facing s' i f why soft k) (hx : s'.replies i = s₁.replies i) :
    ∃ reply t, s'.step? (.work i reply) = some t := by
  cases h.faced with
  | opens hr ho => exact step?_of_inCall hr ho.place
  | closed _ _ _ hx' => exact absurd hx (cons_ne_replies hx')

/-- a call that has no step to go, and is not parked, has its reply -/
theorem Facing.answered (h : s₁.Facing s' i f why False 0) : s'.replies i ≠ s₁.replies i := by
  cases h.faced with
  | opens _ ho hk => exact (ho.parked (Nat.le_zero.1 hk)).elim
  | closed _ _ _ hx => exact cons_ne_replies hx

theorem Facing.turnedAway (ht : s'.Tidy) (hb : s₁.Barred i why soft s')
    (h : s₁.Facing s' i f why soft k) : s₁.TurnedAway s' i f.function := by
  refine ⟨h.untouched, ?_, fun hx m t hstep => ?_, h.goesOn⟩
  · cases h.faced with
    | opens _ _ _ hx => exact Or.inl hx
    | closed _ _ _ hx hslot hab => exact Or.inr ⟨_, _, hx, hslot, hab⟩
  · cases h.faced with
    | opens hr ho _ _ =>
      cases hw : m.isWorkOf i with
      | true =>
        obtain ⟨reply, rfl⟩ := Move.exists_of_isWorkOf hw
        obtain ⟨_, ⟨_, _, _, _, _, hx'⟩ | ⟨_, a, _, _, _, ha, hx'⟩⟩ :=
          opens_work hb h.settings h.untouched hr ho hx hstep
        · exact Or.inl hx'
        · exact Or.inr ⟨a, hx', ha⟩
      | false =>
        obtain ⟨_, hx', _⟩ := opens_aside ht hr ho hw hstep
        exact Or.inl (hx'.trans hx)
    | closed _ _ _ hx' => exact absurd hx (cons_ne_replies hx')

theorem Stilled.barred (hs : s₁.Reachable) (h : s₁.Stilled i ms ∨ s₁.Spent i) :
    s₁.Throughout (fun t => t.Tidy ∧ s₁.Barred i (fun _ => True) True t) ms := by
  rcases h with h | h
  · refine (h.halted hs).mono ?_
    rintro t ⟨ht, hh⟩
    exact ⟨ht, fun _ _ _ r _ => r.reasons_true t.view, Or.inr ⟨hh, fun hn => absurd trivial hn⟩⟩
  · refine (Throughout.of_step (fun ht hstep => ht.step hstep) hs.tidy).mono ?_
    exact fun t ht => ⟨ht, fun _ _ _ r _ => r.reasons_true t.view, Or.inl h⟩

theorem Stopped.barred (hs : s₁.Reachable) (h : s₁.Stopped i ms ∨ s₁.Spent i) :
    s₁.Throughout (fun t => t.Tidy ∧ s₁.Barred i (fun _ => True) False t) ms := by
  rcases h with h | h
  · have hstill : s₁.Stilled i ms := Or.inl h
    refine ((hstill.halted hs).and h.throughout).mono ?_
    rintro t ⟨⟨ht, hh⟩, hs⟩
    exact ⟨ht, fun _ _ _ r _ => r.reasons_true t.view, Or.inr ⟨hh, fun _ => hs⟩⟩
  · refine (Throughout.of_step (fun ht hstep => ht.step hstep) hs.tidy).mono ?_
    exact fun t ht => ⟨ht, fun _ _ _ r _ => r.reasons_true t.view, Or.inl h⟩

theorem facing_of_called {g : HostFunction} {args : List HostValue} {c : HostCall}
    (hc : g.read? args = .ok c) (hcall : s.step? (.work i (.script (.call g args))) = some s₁)
    (why : AbortReason → Prop) (soft : Prop) : s₁.Facing s₁ i ⟨g, c, false⟩ why soft 4 := by
  obtain ⟨r, _, _, hr, _⟩ := work?_eq_some hcall
  obtain ⟨r₁, ds, hr₁, _, hw⟩ := workStep hcall hr
  obtain ⟨_, ⟨c', hc', rfl, _⟩ | ⟨e, he, _⟩⟩ := hw.of_call
  · rw [hc] at hc'
    cases hc'
    exact ⟨rfl, .refl s₁ i, .opens hr₁ ⟨rfl, rfl, nofun, nofun, nofun⟩ (Nat.le_refl _) rfl⟩
  · rw [hc] at he
    cases he

theorem garbled_of_called {g : HostFunction} {args : List HostValue} {e : CallError}
    (he : g.read? args = .error e)
    (hcall : s.step? (.work i (.script (.call g args))) = some s₁) :
    s₁.runs[i]? = s.runs[i]? ∧
      s₁.deeds i = .replied g (.error (.script e.message)) :: .called g :: s.deeds i := by
  obtain ⟨r, _, _, hr, _⟩ := work?_eq_some hcall
  obtain ⟨r₁, ds, hr₁, hd, hw⟩ := workStep hcall hr
  obtain ⟨hp, ⟨c, hc, _⟩ | ⟨e', he', hsame, rfl⟩⟩ := hw.of_call
  · rw [he] at hc
    cases hc
  · rw [he] at he'
    cases he'
    have hkeep : r₁ = r := by
      rw [hsame, ← hp]
    exact ⟨by rw [hr₁, hr, hkeep], hd⟩

/-- **A call that can be read is a checkpoint: it gives back the recorded reason when the slot is
set, the kill switch engaged or the number of operations used up, after four steps at most, and does
not come back to the script while the run is paused.  A call that cannot be read is none: it fails
at once, whatever state the run is in.** -/
theorem checked_of_called {g : HostFunction} {args : List HostValue} (hs : s.Reachable)
    (hcall : s.step? (.work i (.script (.call g args))) = some s₁) :
    (∀ c, g.read? args = .ok c → ∀ ms s', (∀ m ∈ ms, m.isCallOf i = false) →
      s₁.play? ms = some s' →
      (s₁.Stilled i ms ∨ s₁.Spent i → s₁.TurnedAway s' i g) ∧
      (s₁.Stopped i ms ∨ s₁.Spent i → 4 ≤ ms.countP (Move.isWorkOf i) →
        s'.replies i ≠ s₁.replies i)) ∧
    (∀ e, g.read? args = .error e → s₁.runs[i]? = s.runs[i]? ∧
      s₁.deeds i = .replied g (.error (.script e.message)) :: .called g :: s.deeds i) := by
  refine ⟨fun c hc ms s' hm hp => ⟨fun h => ?_, fun h hlong => ?_⟩,
    fun e he => garbled_of_called he hcall⟩
  · have hbar := Stilled.barred (hs.step hcall) h
    obtain ⟨ht, hb⟩ := hbar.last hp
    exact (facing_play hbar hm hp (facing_of_called hc hcall _ True)).turnedAway ht hb
  · have hbar := Stopped.barred (hs.step hcall) h
    have hend := facing_play hbar hm hp (facing_of_called hc hcall _ False)
    rw [Nat.sub_eq_zero_of_le hlong] at hend
    exact hend.answered

/-- Terminate has come before the script moves the pointer -/
theorem checked_of_called_attended :
    let s := (attended {}).after [.request (.control "s" .terminate), .proceed 2 .go]
    let s₁ := s.after [.work 0 (.script (.call .move [.int 1, .int 2]))]
    let s' := s₁.after [.work 0 .go]
    s₁.slot? 0 = some .terminated ∧ s'.replies 0 = [(.move, .error (.abort .terminated))] ∧
      s₁.TurnedAway s' 0 .move := by
  intro s s₁ s'
  have hs : s.Reachable := (reachable_attended _).after _
  have hcall : s.step? (.work 0 (.script (.call .move [.int 1, .int 2]))) = some s₁ :=
    step?_after (by decide +kernel)
  have hslot : s₁.slot? 0 = some .terminated := by decide +kernel
  have hplay : s₁.play? [.work 0 .go] = some s' := play?_after (by decide +kernel)
  have hstill : s₁.Stilled 0 [.work 0 .go] := Or.inl (Or.inl (by rw [hslot]; rfl))
  have h := (checked_of_called hs hcall).1 (.input (.move ⟨1, 2⟩)) rfl _ s' (by decide) hplay
  exact ⟨hslot, by decide +kernel, h.1 (Or.inl hstill)⟩

/-- **Not every call is a checkpoint.**  A call with a word in the place of a number fails with the
message about it, although Terminate has come before. -/
theorem not_checked_of_called :
    ¬ ∀ (s s₁ : System) (i : RunId) (g : HostFunction) (args : List HostValue) (x : CallReply),
      s.Reachable → s.slot? i ≠ none →
      s.step? (.work i (.script (.call g args))) = some s₁ →
      s₁.replies i = (g, x) :: s.replies i → ∃ a, x = .error (.abort a) := by
  intro h
  let s := (attended {}).after [.request (.control "s" .terminate), .proceed 2 .go]
  let s₁ := s.after [.work 0 (.script (.call .move [.str "x", .int 2]))]
  have hcall : s.step? (.work 0 (.script (.call .move [.str "x", .int 2]))) = some s₁ :=
    step?_after (by decide +kernel)
  have hreply : s₁.replies 0 = (.move, .error (.script
      "bad argument #1 to 'move' (integer expected, got string)")) :: s.replies 0 := by
    decide +kernel
  obtain ⟨a, ha⟩ := h s s₁ 0 .move _ _ ((reachable_attended _).after _) (by decide +kernel) hcall
    hreply
  cases ha

end

end System

end ScriptGuard
