import ScriptGuard.Proofs.Approval

/-!
# The wait of a call is cut into slices

A call that has to wait does so in slices, with all its checks after each of them.  Whatever the
service does in between (pauses, resumptions, steps, aborts):

* `Duration.slices`   whole slices and what remains of the wait; together they make up the wait;
* `Sliced`            how far a call has come with its wait, and which waits it has begun;
* `CallPoint.toWait`  the steps to the end of the wait, at most, if the run is not parked;
* `wait_sliced`       the waits begun are the first ones of these slices; all of them if the wait
                      ends well, and none is begun after a check or a wait that has failed.

A step that leaves the worker parked at the pause gate (`System.parkings`) brings it no nearer to
the end of its wait; every other one does.
-/

namespace ScriptGuard

namespace Duration

/-! ## slices -/

/-- whole slices, and what remains if it is not nothing -/
def slices (total slice : Duration) : List Duration :=
  List.replicate (total.ns / slice.ns) slice ++
    if total.ns % slice.ns = 0 then [] else [⟨total.ns % slice.ns⟩]

def sum : List Duration → Duration
  | [] => zero
  | d :: ds => d + sum ds

section
variable {total slice : Duration}

theorem sum_append (ds ds' : List Duration) : sum (ds ++ ds') = sum ds + sum ds' := by
  induction ds with
  | nil => exact congrArg Duration.mk (Nat.zero_add _).symm
  | cons d ds ih =>
    calc d + sum (ds ++ ds') = d + (sum ds + sum ds') := by rw [ih]
      _ = d + sum ds + sum ds' := congrArg Duration.mk (Nat.add_assoc _ _ _).symm

theorem least_le (d slice : Duration) : d.least slice ≤ d := Nat.min_le_left _ _

theorem slices_of_isZero (h : total.isZero = true) : total.slices slice = [] := by
  have hz : total.ns = 0 := (isZero_iff total).1 h
  simp [slices, hz]

/-- a wait begins with its first slice and goes on with the slices of what is left -/
theorem slices_of_not_isZero (hs : 0 < slice.ns) (h : total.isZero = false) :
    total.slices slice = total.least slice :: (total - total.least slice).slices slice := by
  have hne : total.ns ≠ 0 := by simpa [isZero] using h
  by_cases hle : slice.ns ≤ total.ns
  · have hleast : total.least slice = slice := congrArg Duration.mk (Nat.min_eq_right hle)
    have hq : total.ns / slice.ns = (total.ns - slice.ns) / slice.ns + 1 :=
      Nat.div_eq_sub_div hs hle
    have hr : total.ns % slice.ns = (total.ns - slice.ns) % slice.ns := Nat.mod_eq_sub_mod hle
    rw [hleast, slices, slices, ns_sub, hq, hr, List.replicate_succ, List.cons_append]
  · have hlt : total.ns < slice.ns := Nat.lt_of_not_le hle
    have hleast : total.least slice = total :=
      congrArg Duration.mk (Nat.min_eq_left (Nat.le_of_lt hlt))
    have hzero : (total - total).isZero = true := by rw [isZero_iff, ns_sub, Nat.sub_self]
    rw [hleast, slices_of_isZero hzero, slices, Nat.div_eq_of_lt hlt, Nat.mod_eq_of_lt hlt,
      if_neg hne]
    rfl

theorem ns_sum_replicate (k : Nat) (d : Duration) :
    (sum (List.replicate k d)).ns = d.ns * k := by
  induction k with
  | zero => rfl
  | succ k ih =>
    rw [List.replicate_succ, sum, ns_add, ih, Nat.mul_succ, Nat.add_comm]

theorem sum_slices (total slice : Duration) : sum (total.slices slice) = total := by
  have hrest : (sum (if total.ns % slice.ns = 0 then [] else [⟨total.ns % slice.ns⟩])).ns
      = total.ns % slice.ns := by
    split
    · next h => exact h.symm
    · exact Nat.add_zero _
  have hns : (sum (total.slices slice)).ns = total.ns := by
    rw [slices, sum_append, ns_add, ns_sum_replicate, hrest]
    exact Nat.div_add_mod total.ns slice.ns
  exact congrArg Duration.mk hns

theorem length_slices (hs : 0 < slice.ns) :
    (total.slices slice).length = (total.ns + slice.ns - 1) / slice.ns := by
  have hsplit := Nat.div_add_mod total.ns slice.ns
  have hlt := Nat.mod_lt total.ns hs
  unfold slices
  rw [List.length_append, List.length_replicate]
  generalize total.ns / slice.ns = q at hsplit ⊢
  generalize total.ns % slice.ns = m at hsplit hlt ⊢
  symm
  split
  · apply Nat.div_eq_of_lt_le
    · rw [List.length_nil, Nat.add_zero, Nat.mul_comm]
      omega
    · rw [List.length_nil, Nat.add_zero, Nat.succ_mul, Nat.mul_comm]
      omega
  · apply Nat.div_eq_of_lt_le
    · rw [List.length_singleton, Nat.succ_mul, Nat.mul_comm]
      omega
    · rw [List.length_singleton, Nat.succ_mul, Nat.succ_mul, Nat.mul_comm]
      omega

end

end Duration

/-! ## where the wait stands -/

def Resume.left? : Resume → Option Duration
  | .opening => none
  | .between d => some d

namespace CallPoint

/-- what will be left of the wait when the call comes to its next slice -/
def left? : CallPoint → Option Duration
  | .sleep d | .waiting _ d => some d
  | .slot k | .switch k | .limits k | .gate k _ | .parked k _ | .announce k none => k.left?
  | _ => none

def pastWait : CallPoint → Bool
  | .act | .acting _ | .hold _ | .count | .repause _ | .progress _ _ | .repaused => true
  | _ => false

def givesUp : CallPoint → Bool
  | .raise _ | .announce _ (some _) => true
  | _ => false

/-- the steps to the next slice -/
def lap : CallPoint → Nat
  | .sleep _ => 1
  | .announce _ _ => 2
  | .gate _ _ | .parked _ _ => 3
  | .limits _ => 4
  | .switch _ => 5
  | .slot _ => 6
  | .waiting _ _ => 7
  | _ => 0

/-- the steps to the end of the wait, at most, if the pause gate lets the call through -/
def toWait (slice : Duration) (p : CallPoint) : Nat :=
  match p.left? with
  | some d => 7 * (d.slices slice).length + p.lap
  | none => 0

theorem toWait_of_left {slice d : Duration} {p : CallPoint} (hp : p.left? = some d) :
    p.toWait slice = 7 * (d.slices slice).length + p.lap := by
  rw [toWait, hp]

theorem left?_of_pastWait {p : CallPoint} (h : p.pastWait = true) :
    p.left? = none ∧ p.givesUp = false := by
  cases p with
  | act => exact ⟨rfl, rfl⟩
  | acting i => exact ⟨rfl, rfl⟩
  | hold i => exact ⟨rfl, rfl⟩
  | count => exact ⟨rfl, rfl⟩
  | repause n => exact ⟨rfl, rfl⟩
  | progress n again => exact ⟨rfl, rfl⟩
  | repaused => exact ⟨rfl, rfl⟩
  | _ => cases h

theorem left?_of_givesUp {p : CallPoint} (h : p.givesUp = true) : p.left? = none := by
  cases p with
  | raise a => rfl
  | announce k stop =>
    cases stop with
    | none => cases h
    | some a => rfl
  | _ => cases h

theorem lap_pos {d : Duration} {p : CallPoint} (hp : p.left? = some d) : 0 < p.lap := by
  cases p with
  | slot _ | switch _ | limits _ | gate _ _ | parked _ _ | announce _ _ | sleep _ | waiting _ _ =>
    simp [lap]
  | _ => cases hp

theorem left?_of_toWait {slice : Duration} {p : CallPoint} (h : p.toWait slice = 0) :
    p.left? = none := by
  cases hp : p.left? with
  | none => rfl
  | some d =>
    have hlap := lap_pos hp
    rw [toWait_of_left hp] at h
    omega

theorem toWait_of_none {slice : Duration} {p : CallPoint} (hp : p.left? = none) :
    p.toWait slice = 0 := by
  rw [toWait, hp]

end CallPoint

namespace Place

def toWait (slice : Duration) : Place → Nat
  | .call _ p => p.toWait slice
  | _ => 0

def isParked : Place → Bool
  | .call _ (.parked _ _) => true
  | _ => false

theorem toWait_of_not_inCall {slice : Duration} {p : Place} (h : p.inCall = false) :
    p.toWait slice = 0 := by
  cases p with
  | call f q => cases h
  | _ => rfl

end Place

def DeviceCall.wait? : DeviceCall → Option Duration
  | .wait d => some d
  | _ => none

def Deed.waits (ds : List Deed) : List Duration := (Deed.hostCalls ds).filterMap DeviceCall.wait?

/-- how far a call of the function `g` has come that had `total` to wait: where the worker is, the
waits begun since (in the order of the beginnings), the reply -/
inductive Sliced (g : HostFunction) (total slice : Duration) :
    Place → List Duration → Option CallReply → Prop
  | waits {f : Frame} {p : CallPoint} {d : Duration} {ws : List Duration} (hf : f.function = g)
      (hp : p.left? = some d) (hw : ws ++ d.slices slice = total.slices slice) :
      Sliced g total slice (.call f p) ws none
  | past {f : Frame} {p : CallPoint} {ws : List Duration} (hf : f.function = g)
      (hp : p.pastWait = true) (hw : ws = total.slices slice) :
      Sliced g total slice (.call f p) ws none
  | givesUp {f : Frame} {p : CallPoint} {ws : List Duration} (hf : f.function = g)
      (hp : p.givesUp = true) (hw : ws <+: total.slices slice) :
      Sliced g total slice (.call f p) ws none
  | returned {p : Place} {ws : List Duration} {x : CallReply} (hp : p.inCall = false)
      (hw : ws <+: total.slices slice) (hx : x = .ok → ws = total.slices slice) :
      Sliced g total slice p ws (some x)

/-- the deeds since a moment at which the lists were `base` and `said` -/
structure Begun (g : HostFunction) (ws : List Duration) (x : Option CallReply)
    (base : List Duration) (said : List (HostFunction × CallReply)) (ds : List Deed) : Prop where
  waits : Deed.waits ds = ws.reverse ++ base
  replies : ds.filterMap Deed.reply? = (x.map (g, ·)).toList ++ said

/-- the call has come to a place, with at most `k` steps to the end of its wait -/
def Unsliced (g : HostFunction) (total slice : Duration) (base : List Duration)
    (said : List (HostFunction × CallReply)) (p : Place) (k : Nat) (ds : List Deed) : Prop :=
  ∃ ws x, Sliced g total slice p ws x ∧ p.toWait slice ≤ k ∧ Begun g ws x base said ds

/-! ## one step -/

section
variable {v : View} {r r' : Run} {f : Frame} {p : CallPoint} {reply : Reply} {g : HostFunction}
  {total slice d : Duration} {ws base : List Duration} {x : Option CallReply}
  {said : List (HostFunction × CallReply)} {ds old : List Deed}

theorem Begun.begins (h : Begun g ws none base said old) (ho : Deed.underWay old = true) :
    Begun g (ws ++ [d]) none base said (.began (.wait d) :: old) where
  waits := by
    have hw : (Deed.hostCalls old).filterMap DeviceCall.wait? = ws.reverse ++ base := h.waits
    simp [Deed.waits, Deed.hostCalls, ho, DeviceCall.wait?, hw]
  replies := h.replies

theorem Begun.inputs {i : Input} (h : Begun g ws none base said old) :
    Begun g ws none base said (.began (.input i) :: old) where
  waits := by
    have hw : (Deed.hostCalls old).filterMap DeviceCall.wait? = ws.reverse ++ base := h.waits
    simp only [Deed.waits, Deed.hostCalls]
    split
    · exact hw
    · exact hw
  replies := h.replies

theorem Begun.passes_over {e : Deed} (h : Begun g ws x base said old)
    (hw : Deed.waits (e :: old) = Deed.waits old := by rfl) (hr : e.reply? = none := by rfl) :
    Begun g ws x base said (e :: old) where
  waits := hw.trans h.waits
  replies := by rw [List.filterMap_cons_none hr, h.replies]

theorem Begun.says {y : CallReply} (h : Begun g ws none base said old) :
    Begun g ws (some y) base said (.replied g y :: old) where
  waits := h.waits
  replies := congrArg ((g, y) :: ·) h.replies

/-- the points between two slices stand in the order of their laps -/
theorem Begun.stays {k : Nat} (h : Begun g ws none base said old) (hf : f.function = g)
    (hp : p.left? = some d) (hw : ws ++ d.slices slice = total.slices slice) (hk : p.lap ≤ k) :
    Unsliced g total slice base said (.call f p) (7 * (d.slices slice).length + k) old := by
  refine ⟨ws, none, .waits hf hp hw, ?_, h⟩
  show p.toWait slice ≤ _
  rw [CallPoint.toWait_of_left hp]
  exact Nat.add_le_add_left hk _

theorem Begun.gives_up {k : Nat} (h : Begun g ws none base said old) (hf : f.function = g)
    (hp : p.givesUp = true) (hw : ws <+: total.slices slice) :
    Unsliced g total slice base said (.call f p) k old := by
  refine ⟨ws, none, .givesUp hf hp hw, ?_, h⟩
  show p.toWait slice ≤ _
  rw [CallPoint.toWait_of_none (CallPoint.left?_of_givesUp hp)]
  exact Nat.zero_le k

theorem Begun.goes_past {k : Nat} (h : Begun g ws none base said old) (hf : f.function = g)
    (hp : p.pastWait = true) (hw : ws = total.slices slice) :
    Unsliced g total slice base said (.call f p) k old := by
  refine ⟨ws, none, .past hf hp hw, ?_, h⟩
  show p.toWait slice ≤ _
  rw [CallPoint.toWait_of_none (CallPoint.left?_of_pastWait hp).1]
  exact Nat.zero_le k

theorem Begun.returns {y : CallReply} {k : Nat} (h : Begun g ws none base said old)
    (hw : ws <+: total.slices slice) (hy : y = .ok → ws = total.slices slice) :
    Unsliced g total slice base said .script k (.replied g y :: old) :=
  ⟨ws, some y, .returned rfl hw hy, Nat.zero_le k, h.says⟩

theorem CallStep.waits_on (h : CallStep v r f p reply r' ds) (hv : v.settings.slice = slice)
    (hs : 0 < slice.ns) (hf : f.function = g) (hp : p.left? = some d)
    (hw : ws ++ d.slices slice = total.slices slice) (ho : Deed.underWay old = true)
    (hb : Begun g ws none base said old) :
    Unsliced g total slice base said r'.place
      (p.toWait slice - if r'.place.isParked then 0 else 1) (ds.reverse ++ old) := by
  have hpre : ws <+: total.slices slice := ⟨_, hw⟩
  rw [CallPoint.toWait_of_left hp]
  subst hf
  cases h with
  | slotSet => exact hb.returns hpre (fun h => nomatch h)
  | slotClear => exact hb.stays rfl hp hw (Nat.le_refl _)
  | switchOn => exact hb.gives_up rfl rfl hpre
  | switchOff => exact hb.stays rfl hp hw (Nat.le_refl _)
  | overLimit => exact hb.gives_up rfl rfl hpre
  | withinLimits => exact hb.stays rfl hp hw (Nat.le_refl _)
  | @atGate _ k shown _ _ hg h =>
    have hk : k.left? = some d := by rcases hg with rfl | rfl <;> exact hp
    have hlap : p.lap = 3 := by rcases hg with rfl | rfl <;> rfl
    rw [hlap]
    cases h with
    | parks => exact hb.stays rfl hk hw (Nat.le_refl _)
    | passes =>
      cases k with
      | opening => cases hk
      | between d' => exact hb.stays rfl hk hw (Nat.le_succ 1)
    | passesShown => exact hb.stays rfl hk hw (Nat.le_refl _)
    | aborts => exact hb.returns hpre (fun h => nomatch h)
    | abortsShown => exact hb.gives_up rfl rfl hpre
  | @announced k =>
    cases k with
    | opening => cases hp
    | between d' => exact hb.passes_over.stays rfl hp hw (Nat.le_refl _)
  | rested hz =>
    cases hp
    rw [Duration.slices_of_isZero hz, List.append_nil] at hw
    exact hb.goes_past rfl rfl hw
  | slice hz =>
    cases hp
    rw [Duration.slices_of_not_isZero hs hz] at hw ⊢
    rw [List.append_cons] at hw
    rw [hv]
    exact (hb.begins ho).stays rfl rfl hw (Nat.le_refl _)
  | sliceDone => exact hb.passes_over.stays rfl hp hw (Nat.le_refl _)
  | sliceFailed => exact hb.passes_over.gives_up rfl rfl hpre
  | sliceBroke => exact hb.passes_over.returns hpre (fun h => nomatch h)
  | _ => cases hp

theorem CallStep.past_on (h : CallStep v r f p reply r' ds) (hf : f.function = g)
    (hp : p.pastWait = true) (hw : ws = total.slices slice)
    (hb : Begun g ws none base said old) :
    Unsliced g total slice base said r'.place 0 (ds.reverse ++ old) := by
  have hpre : ws <+: total.slices slice := by
    subst hw
    exact List.prefix_refl _
  subst hf
  cases h with
  | noInput => exact hb.goes_past rfl rfl hw
  | input => exact hb.inputs.goes_past rfl rfl hw
  | inputDone => exact hb.passes_over.goes_past rfl rfl hw
  | inputFailed => exact hb.passes_over.gives_up rfl rfl hpre
  | inputBroke => exact hb.passes_over.returns hpre (fun h => nomatch h)
  | holds => exact hb.goes_past rfl rfl hw
  | countsHeld => exact hb.goes_past rfl rfl hw
  | counts => exact hb.goes_past rfl rfl hw
  | repauses => exact hb.goes_past rfl rfl hw
  | progress => exact hb.passes_over.returns hpre fun _ => hw
  | progressPaused => exact hb.passes_over.goes_past rfl rfl hw
  | repaused => exact hb.passes_over.returns hpre fun _ => hw
  | atGate hg => rcases hg with rfl | rfl <;> cases hp
  | _ => cases hp

theorem CallStep.gives_back (h : CallStep v r f p reply r' ds) (hf : f.function = g)
    (hp : p.givesUp = true) (hw : ws <+: total.slices slice)
    (hb : Begun g ws none base said old) :
    Unsliced g total slice base said r'.place 0 (ds.reverse ++ old) := by
  subst hf
  cases h with
  | announcedStop => exact hb.passes_over.returns hw (fun h => nomatch h)
  | raises => exact hb.returns hw (fun h => nomatch h)
  | atGate hg => rcases hg with rfl | rfl <;> cases hp
  | _ => cases hp

theorem Sliced.reply_of_not_inCall {q : Place} (h : Sliced g total slice q ws x)
    (hq : q.inCall = false) :
    ∃ y, x = some y ∧ ws <+: total.slices slice ∧ (y = .ok → ws = total.slices slice) := by
  cases h with
  | returned _ hw hx => exact ⟨_, rfl, hw, hx⟩
  | _ => cases hq

theorem Sliced.order {q : Place} (h : Sliced g total slice q ws x) :
    ws <+: total.slices slice := by
  cases h with
  | waits _ _ hw => exact ⟨_, hw⟩
  | past _ _ hw =>
    subst hw
    exact List.prefix_refl _
  | givesUp _ _ hw => exact hw
  | returned _ hw => exact hw

theorem Sliced.rest (h : Sliced g total slice (.call f p) ws x) (hp : p.left? = some d) :
    ws ++ d.slices slice = total.slices slice := by
  cases h with
  | waits _ hp' hw =>
    rw [hp] at hp'
    cases hp'
    exact hw
  | past _ hp' =>
    rw [(CallPoint.left?_of_pastWait hp').1] at hp
    cases hp
  | givesUp _ hp' =>
    rw [CallPoint.left?_of_givesUp hp'] at hp
    cases hp
  | returned hp' => cases hp'

theorem Sliced.whole (h : Sliced g total slice (.call f p) ws x) (hp : p.pastWait = true) :
    ws = total.slices slice := by
  cases h with
  | waits _ hp' =>
    rw [(CallPoint.left?_of_pastWait hp).1] at hp'
    cases hp'
  | past _ _ hw => exact hw
  | givesUp _ hp' =>
    rw [(CallPoint.left?_of_pastWait hp).2] at hp'
    cases hp'
  | returned hp' => cases hp'

theorem Sliced.of_ok {q : Place} (h : Sliced g total slice q ws (some .ok)) :
    ws = total.slices slice := by
  cases h with
  | returned _ _ hx => exact hx rfl

theorem WorkerStep.slices (h : WorkerStep v r reply r' ds) (hv : v.settings.slice = slice)
    (hs : 0 < slice.ns) (hn : ∀ h args, reply ≠ .script (.call h args))
    (ha : Sliced g total slice r.place ws x) (ho : Deed.underWay old = r.place.inCall)
    (hb : Begun g ws x base said old) :
    Unsliced g total slice base said r'.place
      (r.place.toWait slice - if r'.place.isParked then 0 else 1) (ds.reverse ++ old) := by
  rcases h.kinds with ⟨f, p, hp, hc⟩ | ⟨h', args, rfl⟩ | ⟨hc, hbt⟩
  · rw [hp] at ha ho ⊢
    have least {k : Nat} (h0 : Unsliced g total slice base said r'.place 0 (ds.reverse ++ old)) :
        Unsliced g total slice base said r'.place k (ds.reverse ++ old) := by
      obtain ⟨ws', x', ha', hk, hb'⟩ := h0
      exact ⟨ws', x', ha', Nat.le_trans hk (Nat.zero_le k), hb'⟩
    cases ha with
    | waits hf hp hw => exact hc.waits_on hv hs hf hp hw ho hb
    | past hf hp hw => exact least (hc.past_on hf hp hw hb)
    | givesUp hf hp hw => exact least (hc.gives_back hf hp hw hb)
    | returned hp => cases hp
  · exact absurd rfl (hn h' args)
  · have hbt := hbt old (ho.trans hc)
    have hreplies : ds.filterMap Deed.reply? = [] :=
      List.filterMap_eq_nil_iff.2 fun d hd => (hbt.quiet d hd).2.1
    obtain ⟨y, rfl, hw, hx⟩ := ha.reply_of_not_inCall hc
    refine ⟨ws, _, .returned hbt.outside hw hx, ?_, ?_, ?_⟩
    · rw [Place.toWait_of_not_inCall hbt.outside]
      exact Nat.zero_le _
    · rw [Deed.waits, hbt.hostCalls]
      exact hb.waits
    · rw [List.filterMap_append, List.filterMap_reverse, hreplies]
      exact hb.replies

end

def Place.isDone : Place → Bool
  | .call _ p => p.givesUp
  | _ => true

theorem Place.isDone_of_not_inCall {p : Place} (h : p.inCall = false) : p.isDone = true := by
  cases p with
  | call f q => cases h
  | _ => rfl

theorem WorkerStep.done {v : View} {r r' : Run} {reply : Reply} {ds old : List Deed}
    (h : WorkerStep v r reply r' ds) (hn : ∀ g args, reply ≠ .script (.call g args))
    (hp : r.place.isDone = true) (ho : Deed.underWay old = r.place.inCall) :
    r'.place.isDone = true ∧ Deed.hostCalls (ds.reverse ++ old) = Deed.hostCalls old := by
  rcases h.kinds with ⟨f, p, hp', hc⟩ | ⟨g, args, rfl⟩ | ⟨hc, hbt⟩
  · rw [hp'] at hp
    cases hc with
    | announcedStop => exact ⟨rfl, rfl⟩
    | raises => exact ⟨rfl, rfl⟩
    | atGate hg => rcases hg with rfl | rfl <;> cases hp
    | _ => cases hp
  · exact absurd rfl (hn g args)
  · have hbt := hbt old (ho.trans hc)
    exact ⟨Place.isDone_of_not_inCall hbt.outside, hbt.hostCalls⟩

namespace System

/-! ## the run -/

/-- the waits begun by the host calls of a run, latest first -/
def waits (s : System) (i : RunId) : List Duration := Deed.waits (s.deeds i)

def isParked (s : System) (i : RunId) : Bool := (s.placeOf? i).any Place.isParked

def isDone (s : System) (i : RunId) : Bool := (s.placeOf? i).any Place.isDone

/-- the steps of the worker of a run that do not leave it parked at the pause gate -/
def strides (i : RunId) : System → List Move → Nat
  | _, [] => 0
  | s, m :: ms =>
    match s.step? m with
    | none => 0
    | some s' => (if m.isWorkOf i && !s'.isParked i then 1 else 0) + strides i s' ms

/-- the call of a run has come so far with its wait, and there are at most `k` steps to its end -/
def Waits (s : System) (i : RunId) (g : HostFunction) (total slice : Duration)
    (base : List Duration) (said : List (HostFunction × CallReply)) (k : Nat) : Prop :=
  s.settings.slice = slice ∧ ∃ r, s.runs[i]? = some r ∧
    Unsliced g total slice base said r.place k (s.deeds i)

section
variable {s s' : System} {m : Move} {i : RunId} {g : HostFunction} {total slice : Duration}
  {base : List Duration} {said : List (HostFunction × CallReply)} {k : Nat} {ms : List Move}
  {r : Run}

theorem isParked_of_run (hr : s.runs[i]? = some r) : s.isParked i = r.place.isParked := by
  rw [isParked, placeOf?_of_run hr, Option.any_some]

theorem isDone_of_run (hr : s.runs[i]? = some r) : s.isDone i = r.place.isDone := by
  rw [isDone, placeOf?_of_run hr, Option.any_some]

theorem not_call_of_isCallOf {reply : Reply} (hm : (Move.work i reply).isCallOf i = false) :
    ∀ g args, reply ≠ .script (.call g args) := by
  rintro g args rfl
  simp [Move.isCallOf] at hm

theorem waits_step (ht : s.Tidy) (hs : 0 < slice.ns) (hm : m.isCallOf i = false)
    (hstep : s.step? m = some s') (h : s.Waits i g total slice base said k) :
    s'.Waits i g total slice base said
      (k - if m.isWorkOf i && !s'.isParked i then 1 else 0) := by
  obtain ⟨hslice, r, hr, ws, x, ha, hk, hb⟩ := h
  refine ⟨by rw [step?_settings hstep, hslice], ?_⟩
  rcases worked_or hstep hr with ⟨reply, r', ds, rfl, hr', hd, hw⟩ | ⟨hm', r', hr', hd, hc⟩
  · obtain ⟨ws', x', ha', hk', hb'⟩ :=
      hw.slices hslice hs (not_call_of_isCallOf hm) ha (ht.bracket i r hr) hb
    rw [← hd] at hb'
    refine ⟨r', hr', ws', x', ha', Nat.le_trans hk' ?_, hb'⟩
    rw [isParked_of_run hr']
    have hwork : (Move.work i reply).isWorkOf i = true := by simp [Move.isWorkOf]
    rw [hwork]
    cases r'.place.isParked with
    | true => exact hk
    | false => exact Nat.sub_le_sub_right hk 1
  · rw [← hd] at hb
    rw [hm']
    refine ⟨r', hr', ws, x, ?_⟩
    rcases (hc.unmoved ht hr hm').1 with hp | ⟨hp, hp'⟩
    · rw [hp]
      exact ⟨ha, hk, hb⟩
    · -- a run about to be spawned is in no call
      rw [hp] at ha
      obtain ⟨y, rfl, hw, hx⟩ := ha.reply_of_not_inCall rfl
      rw [hp']
      exact ⟨.returned rfl hw hx, Nat.zero_le _, hb⟩

theorem waits_play (ht : s.Tidy) (hs : 0 < slice.ns) (hm : ∀ m ∈ ms, m.isCallOf i = false)
    (hp : s.play? ms = some s') (h : s.Waits i g total slice base said k) :
    s'.Waits i g total slice base said (k - s.strides i ms) := by
  induction ms generalizing s k with
  | nil =>
    cases hp
    exact h
  | cons m ms ih =>
    obtain ⟨s₁, h₁, h₂⟩ := exists_of_play?_cons hp
    -- what is left of the bound after the first move is the bound for the others
    have hstep := waits_step ht hs (hm m (by simp)) h₁ h
    have hrest := ih (ht.step h₁) (fun m' hm' => hm m' (List.mem_cons_of_mem m hm')) h₂ hstep
    rw [Nat.sub_sub] at hrest
    simp only [strides, h₁]
    exact hrest

/-- from the moment a call is done nothing is begun until the script calls again -/
theorem done_play (ht : s.Tidy) (hd : s.isDone i = true) (hm : ∀ m ∈ ms, m.isCallOf i = false)
    (hp : s.play? ms = some s') : s'.hostCalls i = s.hostCalls i := by
  induction ms generalizing s with
  | nil =>
    cases hp
    rfl
  | cons m ms ih =>
    obtain ⟨s₁, h₁, h₂⟩ := exists_of_play?_cons hp
    obtain ⟨q, hq, hdone⟩ := (Option.any_eq_true _ _).1 hd
    obtain ⟨r, hr, rfl⟩ := Option.map_eq_some_iff.1 hq
    have hnow : s₁.isDone i = true ∧ s₁.hostCalls i = s.hostCalls i := by
      rcases worked_or h₁ hr with ⟨reply, r', ds, rfl, hr', hds, hw⟩ | ⟨hm', r', hr', hds, hc⟩
      · obtain ⟨hd', hcalls⟩ :=
          hw.done (not_call_of_isCallOf (hm _ (by simp))) hdone (ht.bracket i r hr)
        rw [isDone_of_run hr', hostCalls, hds]
        exact ⟨hd', hcalls⟩
      · rw [isDone_of_run hr', hostCalls, hds]
        refine ⟨?_, rfl⟩
        rcases (hc.unmoved ht hr hm').1 with hp' | ⟨_, hp'⟩
        · rw [hp', hdone]
        · rw [hp']
          rfl
    have hrest := ih (ht.step h₁) hnow.1 (fun m' hm' => hm m' (List.mem_cons_of_mem m hm')) h₂
    exact hrest.trans hnow.2

/-- a wait that does not end well is the last thing of its call -/
theorem done_of_wait {f : Frame} {chunk rest : Duration} {d : DeviceReply}
    (hr : s.runs[i]? = some r) (hp : r.place = .call f (.waiting chunk rest)) (hd : d ≠ .done)
    (hs : s.step? (.work i (.device d)) = some s') : s'.isDone i = true := by
  obtain ⟨r', ds, hr', _, hw⟩ := workStep hs hr
  rw [isDone_of_run hr']
  cases hw with
  | call hp' h =>
    rw [hp] at hp'
    cases hp'
    cases h with
    | sliceDone => exact absurd rfl hd
    | sliceFailed => rfl
    | sliceBroke => rfl
  | letDone hp' => rw [hp] at hp'; cases hp'
  | letBroke hp' => rw [hp] at hp'; cases hp'
  | rescued hp' => rw [hp] at hp'; cases hp'
  | rescueBroke hp' => rw [hp] at hp'; cases hp'

/-! ## the outcome -/

/-- what a call of the function `g` that had `total` to wait at the moment `s` has done about it
after the moves `ms` that lead to `s'`; `ws` are the waits begun since, in their order -/
structure Waited (s s' : System) (i : RunId) (g : HostFunction) (total : Duration)
    (ms : List Move) (ws : List Duration) : Prop where
  begun : s'.waits i = ws.reverse ++ s.waits i
  order : ws <+: total.slices s.settings.slice
  few : ws.length ≤ (total.ns + s.settings.slice.ns - 1) / s.settings.slice.ns
  /-- no subtraction takes away more than there is -/
  rest : ∀ f p d, s'.placeOf? i = some (.call f p) → p.left? = some d →
    Duration.sum ws + d = total ∧ d.least s.settings.slice ≤ d
  /-- the wait is over, or the call has succeeded -/
  whole : (∃ f p, s'.placeOf? i = some (.call f p) ∧ p.pastWait = true) ∨
      s'.replies i = (g, .ok) :: s.replies i →
    ws = total.slices s.settings.slice ∧ Duration.sum ws = total
  /-- a wait that fails ends the wait of the call; a check that fails leads to the same places -/
  fails : ∀ f chunk rest d t, s'.placeOf? i = some (.call f (.waiting chunk rest)) → d ≠ .done →
    s'.step? (.work i (.device d)) = some t → t.isDone i = true
  last : s'.isDone i = true → ∀ ms' t, (∀ m ∈ ms', m.isCallOf i = false) →
    s'.play? ms' = some t → t.hostCalls i = s'.hostCalls i
  ends : 7 * ((total.ns + s.settings.slice.ns - 1) / s.settings.slice.ns) + 1 ≤ s.strides i ms →
    ∀ f p, s'.placeOf? i = some (.call f p) → p.left? = none
  goesOn : ∀ f p, s'.placeOf? i = some (.call f p) →
    ∃ reply t, s'.step? (.work i reply) = some t

/-- **A call waits in slices: whole ones, then what remains.** -/
theorem wait_sliced {f : Frame} (hs : s.Reachable) (hslice : 0 < s.settings.slice.ns)
    (hr : s.runs[i]? = some r) (hp : r.place = .call f (.sleep total))
    (hm : ∀ m ∈ ms, m.isCallOf i = false) (hplay : s.play? ms = some s') :
    ∃ ws, s.Waited s' i f.function total ms ws := by
  have hcount : (total.slices s.settings.slice).length
      = (total.ns + s.settings.slice.ns - 1) / s.settings.slice.ns := Duration.length_slices hslice
  have hstart : s.Waits i f.function total s.settings.slice (s.waits i) (s.replies i)
      (7 * (total.slices s.settings.slice).length + 1) := by
    refine ⟨rfl, r, hr, [], none, ?_, ?_, rfl, rfl⟩
    · rw [hp]
      exact .waits rfl rfl rfl
    · rw [hp]
      exact Nat.le_refl _
  obtain ⟨_, r', hr', ws, x, ha, hk, hb⟩ := waits_play hs.tidy hslice hm hplay hstart
  have hplace := placeOf?_of_run hr'
  have at_call {f : Frame} {p : CallPoint} (h : s'.placeOf? i = some (.call f p)) :
      r'.place = .call f p := Option.some.inj (hplace.symm.trans h)
  refine ⟨ws, hb.waits, ha.order, ?few, ?rest, ?whole, ?fails, ?last, ?ends, ?goesOn⟩
  case few =>
    rw [← hcount]
    exact ha.order.length_le
  case rest =>
    intro f p d h hd
    rw [at_call h] at ha
    refine ⟨?_, Duration.least_le _ _⟩
    have hsum := congrArg Duration.sum (ha.rest hd)
    rw [Duration.sum_append, Duration.sum_slices, Duration.sum_slices] at hsum
    exact hsum
  case whole =>
    intro h
    have hws : ws = total.slices s.settings.slice := by
      rcases h with ⟨f, p, h, hpast⟩ | h
      · rw [at_call h] at ha
        exact ha.whole hpast
      · have hsaid := hb.replies.symm.trans h
        cases x with
        | none => simp at hsaid
        | some y =>
          obtain rfl : y = .ok := by simpa using hsaid
          exact ha.of_ok
    exact ⟨hws, by rw [hws, Duration.sum_slices]⟩
  case fails =>
    intro f chunk rest d t h hd ht
    exact done_of_wait hr' (at_call h) hd ht
  case last =>
    intro hd ms' t hm' ht
    exact done_play (hs.play hplay).tidy hd hm' ht
  case ends =>
    intro hlong f p h
    rw [← hcount] at hlong
    rw [at_call h] at hk
    have hzero : p.toWait s.settings.slice ≤ 0 :=
      Nat.le_trans hk (Nat.le_of_eq (Nat.sub_eq_zero_of_le hlong))
    exact CallPoint.left?_of_toWait (Nat.le_zero.1 hzero)
  case goesOn =>
    intro f p h
    exact step?_of_inCall hr' (at_call h)

/-- a pause during the first slice of a wait of 50 ms, and a resumption -/
theorem wait_sliced_attended :
    let s := (attended { mode := .interactive }).after
      (.work 0 (.script (.call .msleep [.int 50])) :: List.replicate 5 (.work 0 .go))
    let ms : List Move := [.work 0 .go, .request (.control "s" .pause), .proceed 2 .go,
        .proceed 2 .go, .work 0 (.device .done)] ++ List.replicate 4 (.work 0 .go) ++
      [.request (.control "s" .resume), .proceed 3 .go, .proceed 3 .go, .work 0 .go, .work 0 .go,
        .work 0 (.device .done)]
    let s' := s.after ms
    0 < s.settings.slice.ns ∧ s'.waits 0 = [.ofMillis 20, .ofMillis 20] ∧
      s.Waited s' 0 .msleep (.ofMillis 50) ms [.ofMillis 20, .ofMillis 20] := by
  intro s ms s'
  have hs : s.Reachable := (reachable_attended _).after _
  have hslice : 0 < s.settings.slice.ns := by decide +kernel
  have hrun : (s.runs[0]?).map (·.place)
      = some (.call ⟨.msleep, .sleep (.ofMillis 50), false⟩ (.sleep (.ofMillis 50))) := by
    decide +kernel
  obtain ⟨r, hr, hp⟩ := Option.map_eq_some_iff.1 hrun
  have hplay : s.play? ms = some s' := play?_after (by decide +kernel)
  have hwaits : s'.waits 0 = [.ofMillis 20, .ofMillis 20] := by decide +kernel
  have hnone : s.waits 0 = [] := by decide +kernel
  obtain ⟨ws, h⟩ := wait_sliced hs hslice hr hp (by decide) hplay
  have hws := h.begun
  rw [hwaits, hnone, List.append_nil, eq_comm, List.reverse_eq_iff] at hws
  subst hws
  exact ⟨hslice, hwaits, h⟩

end

end System

end ScriptGuard
