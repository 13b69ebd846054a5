import ScriptGuard.Proofs.Releases

/-!
# Two records of what is down

A worker writes down what its script has pressed and not released; a simulated device keeps its own
record.  The two are written at different moments, and a request to terminate or an activation of
the kill switch may clear that of the device at any time, also between a press and the note of it.

* `Desk`            a service and the device of one of its runs, with the answers on the way; a call
                    of the device has three moments: it is begun, it is performed, it is answered;
* `Held.Within`     the device holds nothing that the worker has not written down, and the same as
                    the worker as long as nothing has been cleared (`Desk.swept`);
* `Held.LeftTo`     what the device still holds is among the inputs that are still to be released;
* `Place.Minds`     which of the two goes with a place: the relation that every turn keeps;
* `minds_of_open`   hence `Desk.Faithful`: between two host calls the records agree in this way, and
                    a device is empty when its run has come to its terminal state.
-/

namespace ScriptGuard

/-! ## one record within another -/

namespace Held

/-- all that is down in one record is down in the other, and they are the same as long as the first
has not been swept -/
structure Within (down h : Held) (swept : Bool) : Prop where
  buttons : down.buttons ⊆ h.buttons
  keys : down.keys ⊆ h.keys
  equal : swept = false → down = h

/-- these inputs release, and what is down is among what they release -/
structure LeftTo (down : Held) (rest : List Input) : Prop where
  lets : ∀ i ∈ rest, (∃ b, i = .click b .up) ∨ ∃ k, i = .key k false
  buttons : ∀ b ∈ down.buttons, .click b .up ∈ rest
  keys : ∀ k ∈ down.keys, .key k false ∈ rest

variable {down h : Held} {swept : Bool} {rest : List Input}

theorem within_refl (h : Held) (swept : Bool) : h.Within h swept :=
  ⟨List.Subset.refl _, List.Subset.refl _, fun _ => rfl⟩

theorem within_of_swept (h : Held) : ({} : Held).Within h true :=
  ⟨List.nil_subset _, List.nil_subset _, fun hs => by cases hs⟩

theorem pressButton_subset (hb : down.buttons ⊆ h.buttons) (b : Button) :
    (down.pressButton b).buttons ⊆ (h.pressButton b).buttons := by
  intro x hx
  simp only [pressButton, List.mem_filter, Bool.or_eq_true, List.contains_iff_mem] at hx ⊢
  exact ⟨hx.1, hx.2.imp id fun hx => hb hx⟩

theorem releaseButton_subset (hb : down.buttons ⊆ h.buttons) (b : Button) :
    (down.releaseButton b).buttons ⊆ (h.releaseButton b).buttons := by
  intro x hx
  obtain ⟨hx, hne⟩ := List.mem_filter.1 hx
  exact List.mem_filter.2 ⟨hb hx, hne⟩

theorem pressKey_subset (hk : down.keys ⊆ h.keys) (k : String) :
    (down.pressKey k).keys ⊆ (h.pressKey k).keys := by
  intro x hx
  rcases mem_insertKey.1 hx with rfl | hx
  · exact mem_insertKey.2 (Or.inl rfl)
  · exact mem_insertKey.2 (Or.inr (hk hx))

theorem releaseKey_subset (hk : down.keys ⊆ h.keys) (k : String) :
    (down.releaseKey k).keys ⊆ (h.releaseKey k).keys := by
  intro x hx
  obtain ⟨hx, hne⟩ := List.mem_filter.1 hx
  exact List.mem_filter.2 ⟨hk hx, hne⟩

theorem Within.after (hw : down.Within h swept) (i : Input) :
    (down.after i).Within (h.after i) swept := by
  refine ⟨?_, ?_, fun hs => by rw [hw.equal hs]⟩
  · cases i with
    | click b phase =>
      cases phase with
      | down => exact pressButton_subset hw.buttons b
      | up => exact releaseButton_subset hw.buttons b
      | click => exact hw.buttons
    | key k isDown => cases isDown <;> exact hw.buttons
    | _ => exact hw.buttons
  · cases i with
    | click b phase => cases phase <;> exact hw.keys
    | key k isDown =>
      cases isDown with
      | true => exact pressKey_subset hw.keys k
      | false => exact releaseKey_subset hw.keys k
    | _ => exact hw.keys

theorem Within.leftTo (hw : down.Within h swept) : down.LeftTo h.releases where
  lets := fun i hi => by
    rcases List.mem_append.1 hi with hi | hi
    · obtain ⟨b, _, rfl⟩ := List.mem_map.1 hi
      exact Or.inl ⟨b, rfl⟩
    · obtain ⟨k, _, rfl⟩ := List.mem_map.1 hi
      exact Or.inr ⟨k, rfl⟩
  buttons := fun b hb =>
    List.mem_append_left _ (List.mem_map_of_mem (hw.buttons hb))
  keys := fun k hk =>
    List.mem_append_right _ (List.mem_map_of_mem (hw.keys hk))

theorem LeftTo.empty (hl : down.LeftTo rest) : ({} : Held).LeftTo rest :=
  ⟨hl.lets, by simp, by simp⟩

theorem LeftTo.eq_empty (hl : down.LeftTo []) : down = {} := by
  obtain ⟨buttons, keys⟩ := down
  have hb : buttons = [] := List.eq_nil_iff_forall_not_mem.2 fun b hb => by
    cases hl.buttons b hb
  have hk : keys = [] := List.eq_nil_iff_forall_not_mem.2 fun k hk => by
    cases hl.keys k hk
  rw [hb, hk]

end Held

/-! ## the device -/

namespace SimulatedDevice

/-- no key without a name is down -/
def Named (d : SimulatedDevice) : Prop := ∀ k ∈ d.down.keys, Text.allBlank k = false

variable {d d' : SimulatedDevice} {i : Input}

theorem down_of_perform (h : d.perform i = .ok d') : d'.down = d.down.after i := by
  cases i with
  | key k isDown =>
    rw [perform] at h
    split at h
    · cases h
    · cases h
      rfl
  | _ => cases h; rfl

theorem Named.perform (hn : d.Named) (h : d.perform i = .ok d') : d'.Named := by
  intro x hx
  rw [down_of_perform h] at hx
  cases i with
  | click b phase => cases phase <;> exact hn x hx
  | key k isDown =>
    cases isDown with
    | true =>
      rcases mem_insertKey.1 hx with rfl | hx
      · -- a key that has gone down has a name
        rw [SimulatedDevice.perform] at h
        cases hk : Text.allBlank x with
        | false => rfl
        | true => rw [hk, if_pos rfl] at h; cases h
      · exact hn x hx
    | false => exact hn x (List.mem_filter.1 hx).1
  | _ => exact hn x hx

theorem Named.call (hn : d.Named) (c : DeviceCall) : (d.call c).2.Named := by
  cases c with
  | input i =>
    cases h : d.perform i with
    | ok d' => simpa [SimulatedDevice.call, h] using hn.perform h
    | error e => simpa [SimulatedDevice.call, h] using hn
  | wait t => exact hn
  | releaseAll =>
    intro k hk
    cases hk

theorem call_ne_brokeDown (d : SimulatedDevice) (c : DeviceCall) :
    (d.call c).1 ≠ .brokeDown := by
  cases c with
  | input i =>
    rw [SimulatedDevice.call]
    split <;> simp
  | _ => simp [SimulatedDevice.call]

/-- a release that is asked for is performed, unless nothing of it is down -/
theorem leftTo_call {rest : List Input} (hn : d.Named) (hl : d.down.LeftTo (i :: rest)) :
    (d.call (.input i)).2.down.LeftTo rest := by
  refine ⟨fun j hj => hl.lets j (List.mem_cons_of_mem i hj), ?_, ?_⟩
  -- what is still down was down before and is not what has just been released
  · intro b hb
    rcases hl.lets i (by simp) with ⟨b₀, rfl⟩ | ⟨k₀, rfl⟩
    · obtain ⟨hb, hne⟩ := List.mem_filter.1 hb
      have hin := hl.buttons b hb
      simp only [List.mem_cons, Input.click.injEq, and_true] at hin
      exact hin.resolve_left (bne_iff_ne.1 hne)
    · have hb : b ∈ d.down.buttons := by
        simp only [call, perform] at hb
        split at hb
        · rename_i h
          split at h <;> cases h
          exact hb
        · exact hb
      simpa using hl.buttons b hb
  · intro k hk
    rcases hl.lets i (by simp) with ⟨b₀, rfl⟩ | ⟨k₀, rfl⟩
    · simpa using hl.keys k hk
    · have hk : k ∈ d.down.keys ∧ k ≠ k₀ := by
        cases hblank : Text.allBlank k₀ with
        | true =>
          rw [call, perform, hblank, if_pos rfl] at hk
          refine ⟨hk, fun he => ?_⟩
          rw [he] at hk
          rw [hn k₀ hk] at hblank
          cases hblank
        | false =>
          rw [call, perform, hblank, if_neg (by simp)] at hk
          obtain ⟨hk, hne⟩ := List.mem_filter.1 hk
          exact ⟨hk, bne_iff_ne.1 hne⟩
      have hin := hl.keys k hk.1
      simp only [List.mem_cons, Input.key.injEq, and_true] at hin
      exact hin.resolve_left hk.2

end SimulatedDevice

/-! ## a service and the device of one of its runs -/

/-- what the worker waits for the device to do -/
def Place.asks? : Place → Option DeviceCall
  | .call _ (.waiting d _) => some (.wait d)
  | .call _ (.acting i) => some (.input i)
  | .letting i _ _ => some (.input i)
  | .rescuing => some .releaseAll
  | _ => none

/-- the run whose device the request waits for to release everything -/
def Task.frees? : Task → Option RunId
  | .freeing run => some run
  | .clearing _ run _ => some run
  | _ => none

def Reply.device? : Reply → Option DeviceReply
  | .device x => some x
  | _ => none

/-- a service, the device of one of its runs, and the answers of the device on their way -/
structure Desk where
  system : System
  device : SimulatedDevice
  /-- what the device has answered to the worker, until the worker takes notice -/
  told : Option DeviceReply := none
  /-- the requests for which it has released everything, until they take notice -/
  freed : List Nat := []
  /-- it has released everything for some request -/
  swept : Bool := false

/-- what happens next at a desk -/
inductive Turn where
  /-- the device does what the worker waits for -/
  | serve
  /-- the device releases everything for the request of a number -/
  | sweep (task : Nat)
  | move (m : Move)

namespace Desk

def fresh (settings : Settings) (approvals : Approvals) (mode : InputMode) : Desk :=
  { system := .fresh settings approvals, device := { mode := mode } }

/-- the request of a number waits for the device of the run to release everything -/
def waits (i : RunId) (d : Desk) (task : Nat) : Prop :=
  (d.system.task? task).bind Task.frees? = some i

instance (i : RunId) (d : Desk) (task : Nat) : Decidable (d.waits i task) := by
  unfold waits
  infer_instance

/-- the answer that a move takes from the device of the run is there, and is used up; the devices
of other runs answer as they like -/
def take? (i : RunId) (d : Desk) : Move → Option Desk
  | .work j (.device x) =>
    if j ≠ i then some d
    else if d.told = some x then some { d with told := none }
    else none
  | .proceed task (.device x) =>
    if ¬ d.waits i task then some d
    else if x = .done ∧ task ∈ d.freed then some { d with freed := d.freed.erase task }
    else none
  | _ => some d

def step? (i : RunId) (d : Desk) : Turn → Option Desk
  | .serve =>
    match d.told, (d.system.placeOf? i).bind Place.asks? with
    | none, some c =>
      some { d with device := (d.device.call c).2, told := some (d.device.call c).1 }
    | _, _ => none
  | .sweep task =>
    if d.waits i task ∧ task ∉ d.freed then
      some { d with device := d.device.releaseAll, freed := task :: d.freed, swept := true }
    else none
  | .move m =>
    (d.take? i m).bind fun d => (d.system.step? m).map fun s => { d with system := s }

def play? (i : RunId) (d : Desk) : List Turn → Option Desk
  | [] => some d
  | t :: ts => (d.step? i t).bind fun d' => d'.play? i ts

/-- a fresh service and a fresh device can come to this, the device being that of run `i` -/
def Open (i : RunId) (d : Desk) : Prop :=
  ∃ settings approvals mode ts, (fresh settings approvals mode).play? i ts = some d

def after (i : RunId) (d : Desk) (ts : List Turn) : Desk := (d.play? i ts).getD d

section
variable {i : RunId} {d d' d₁ : Desk}

theorem play?_append (ts ts' : List Turn) :
    d.play? i (ts ++ ts') = (d.play? i ts).bind fun d' => d'.play? i ts' := by
  induction ts generalizing d with
  | nil => rfl
  | cons t ts ih =>
    rw [List.cons_append, play?, play?, Option.bind_assoc]
    exact congrArg _ (funext fun _ => ih)

theorem Open.after (h : d.Open i) (ts : List Turn) : (d.after i ts).Open i := by
  unfold Desk.after
  cases hp : d.play? i ts with
  | none => exact h
  | some d' =>
    obtain ⟨settings, approvals, mode, ts₀, h₀⟩ := h
    exact ⟨settings, approvals, mode, ts₀ ++ ts, by rw [play?_append, h₀]; exact hp⟩

theorem Open.invariant {P : Desk → Prop}
    (start : ∀ settings approvals mode, P (fresh settings approvals mode))
    (step : ∀ {d d' : Desk} {t : Turn}, P d → d.step? i t = some d' → P d') (h : d.Open i) :
    P d := by
  obtain ⟨settings, approvals, mode, ts, h⟩ := h
  have hall : ∀ (ts : List Turn) {d₀ : Desk}, P d₀ → d₀.play? i ts = some d → P d := by
    intro ts
    induction ts with
    | nil =>
      intro d₀ h₀ h
      cases h
      exact h₀
    | cons t ts ih =>
      intro d₀ h₀ h
      obtain ⟨d₁, h₁, h₂⟩ := Option.bind_eq_some_iff.1 h
      exact ih (step h₀ h₁) h₂
  exact hall ts (start settings approvals mode) h

/-- a move takes at most an answer from the device; the rest of the desk is left alone -/
theorem take?_eq_some {m : Move} (h : d.take? i m = some d₁) :
    d₁.system = d.system ∧ d₁.device = d.device ∧ d₁.swept = d.swept ∧
      ((d₁.told = d.told ∧ ∀ x, m ≠ .work i (.device x)) ∨
        ∃ x, m = .work i (.device x) ∧ d.told = some x ∧ d₁.told = none) := by
  unfold take? at h
  split at h
  · rename_i j x
    by_cases hj : j = i
    · subst hj
      rw [if_neg (by simp)] at h
      split at h
      · cases h
        exact ⟨rfl, rfl, rfl, Or.inr ⟨x, rfl, by assumption, rfl⟩⟩
      · cases h
    · rw [if_pos hj] at h
      cases h
      exact ⟨rfl, rfl, rfl, Or.inl ⟨rfl, fun _ he => by cases he; exact hj rfl⟩⟩
  · rename_i task x
    split at h
    · cases h
      exact ⟨rfl, rfl, rfl, Or.inl ⟨rfl, by simp⟩⟩
    · split at h
      · cases h
        exact ⟨rfl, rfl, rfl, Or.inl ⟨rfl, by simp⟩⟩
      · cases h
  · rename_i hne _
    cases h
    exact ⟨rfl, rfl, rfl, Or.inl ⟨rfl, fun x he => hne i x he⟩⟩

end

end Desk

/-! ## what goes with a place -/

/-- how what is down at the device goes with the place of the worker and with its record; `told` is
the answer of the device on its way -/
def Place.Minds (p : Place) (held down : Held) (told : Option DeviceReply) (swept : Bool) : Prop :=
  match p with
  | .call _ (.acting i) =>
    if told = some .done then down.Within (held.after i) swept else down.Within held swept
  | .call _ (.hold i) => down.Within (held.after i) swept
  | .unborn | .creating | .registering _ | .loading | .script | .polling _ | .call _ _ =>
    down.Within held swept
  | .releasing rest _ => down.LeftTo rest
  | .letting i rest _ => down.LeftTo (if told.isSome then rest else i :: rest)
  | .rescue => True
  | .rescuing => told.isSome = true → down = {}
  | _ => down = {}

namespace Place

section
variable {p : Place} {held down : Held} {told : Option DeviceReply} {swept : Bool}

theorem Minds.within (h : p.Minds held down told swept) (hw : p.atWork = true)
    (ha : told ≠ some .done) (hh : ∀ f i, p ≠ .call f (.hold i)) : down.Within held swept := by
  cases p with
  | call f q =>
    cases q with
    | acting i =>
      change ite _ _ _ at h
      rw [if_neg ha] at h
      exact h
    | hold i => exact absurd rfl (hh f i)
    | _ => exact h
  | unborn | creating | registering _ | loading | script | polling _ => exact h
  | _ => cases hw

theorem minds_of_within (h : down.Within held swept) (hw : p.atWork = true)
    (hh : ∀ f i, p ≠ .call f (.hold i)) : p.Minds held down none swept := by
  cases p with
  | call f q =>
    cases q with
    | hold i => exact absurd rfl (hh f i)
    | _ => exact h
  | unborn | creating | registering _ | loading | script | polling _ => exact h
  | _ => cases hw

theorem Minds.sweep (h : p.Minds held down told swept) : p.Minds held {} told true := by
  cases p with
  | call f q =>
    cases q with
    | acting i =>
      show ite _ _ _
      split <;> exact Held.within_of_swept _
    | _ => exact Held.within_of_swept _
  | releasing rest e => exact h.empty
  | letting i rest e => exact h.empty
  | rescue => trivial
  | rescuing => exact fun _ => rfl
  | unborn | creating | registering _ | loading | script | polling _ =>
    exact Held.within_of_swept _
  | _ => rfl

theorem Minds.empty (h : p.Minds held down told swept) (hp : p.result?.isSome = true) :
    down = {} := by
  cases p with
  | leaving _ | remembering _ | tellState _ | tellResult _ | tellIdle _ | gone _ => exact h
  | _ => cases hp

end

theorem Minds.serve {p : Place} {held : Held} {swept : Bool} {d : SimulatedDevice}
    {c : DeviceCall} (h : p.Minds held d.down none swept) (hn : d.Named)
    (hc : p.asks? = some c) : p.Minds held (d.call c).2.down (some (d.call c).1) swept := by
  cases p with
  | call f q =>
    cases q with
    | waiting t rest =>
      cases hc
      exact h
    | acting i =>
      cases hc
      have hw : d.down.Within held swept := h
      show ite _ _ _
      rw [SimulatedDevice.call]
      cases hp : d.perform i with
      | ok d' =>
        rw [if_pos rfl, SimulatedDevice.down_of_perform hp]
        exact hw.after i
      | error e =>
        rw [if_neg (by simp)]
        exact hw
    | _ => cases hc
  | letting i rest e =>
    cases hc
    exact SimulatedDevice.leftTo_call hn h
  | rescuing =>
    cases hc
    exact fun _ => rfl
  | _ => cases hc

end Place

section
variable {v : View} {r r' : Run} {f : Frame} {p : CallPoint} {reply : Reply} {ds : List Deed}
  {down : Held} {swept : Bool}

theorem WorkerStep.of_asks (h : WorkerStep v r reply r' ds) {c : DeviceCall}
    (hc : r.place.asks? = some c) : ∃ x, reply = .device x := by
  have hstage {P : Prop} (hp : r.place.isStage = true) : P := by
    obtain hp | ⟨fs, hp⟩ | hp := Place.stage_cases hp <;> rw [hp] at hc <;> cases hc
  cases h with
  | call hp h =>
    rw [hp] at hc
    cases h with
    | atGate hat => rcases hat with rfl | rfl <;> cases hc
    | sliceDone | sliceFailed | sliceBroke | inputDone | inputFailed | inputBroke => exact ⟨_, rfl⟩
    | _ => cases hc
  | staged hp => exact hstage hp
  | unready hp => exact hstage hp
  | stageBroke hp => exact hstage hp
  | letDone | letBroke | rescued | rescueBroke => exact ⟨_, rfl⟩
  | _ hp =>
    rw [hp] at hc
    cases hc

theorem CallStep.minds (h : CallStep v r f p reply r' ds)
    (hm : Place.Minds (.call f p) r.held down reply.device? swept)
    (hb : reply ≠ .device .brokeDown) : r'.place.Minds r'.held down none swept := by
  have hwithin (ha : reply.device? ≠ some .done) (hn : ∀ i, p ≠ .hold i) :
      down.Within r.held swept :=
    hm.within rfl ha fun g i he => by cases he; exact hn i rfl
  cases h with
  | atGate hat h =>
    have hw := hwithin (by simp [Reply.device?]) fun i he => by
      rcases hat with hat | hat <;> rw [hat] at he <;> cases he
    cases h with
    | @passes paused holds x hg hs =>
      refine Place.minds_of_within hw rfl fun g i he => ?_
      rename_i k _
      cases k <;> cases he
    | _ => exact Place.minds_of_within hw rfl (by simp)
  | @announced k =>
    refine Place.minds_of_within (hwithin (by simp [Reply.device?]) (by simp)) rfl
      fun g i he => ?_
    cases k <;> cases he
  | sliceDone => exact hm
  | sliceBroke => exact absurd rfl hb
  | inputDone => exact hm
  | inputBroke => exact absurd rfl hb
  | holds => exact hm
  | _ => exact Place.minds_of_within (hwithin (by simp [Reply.device?]) (by simp)) rfl (by simp)

/-- **A step of the worker keeps the relation**, if an answer it takes is the one on its way. -/
theorem WorkerStep.minds (h : WorkerStep v r reply r' ds)
    (hm : r.place.Minds r.held down reply.device? swept) (hb : reply ≠ .device .brokeDown) :
    r'.place.Minds r'.held down none swept := by
  have hstage (hp : r.place.isStage = true) (ha : reply.device? ≠ some .done) :
      down.Within r.held swept :=
    hm.within (Place.atWork_of_isStage hp) ha fun g i he => by rw [he] at hp; cases hp
  cases h with
  | call hp h => exact h.minds (hp ▸ hm) hb
  | staged hp hn =>
    refine Place.minds_of_within (hstage hp (by simp [Reply.device?]))
      (Place.atWork_of_isStage hn) fun g i he => ?_
    have hq : Place.isStage (.call g (.hold i)) = true := he ▸ hn
    cases hq
  | equipped hp => exact hstage (by rw [hp]; rfl) (by simp [Reply.device?])
  | unready hp => exact (hstage hp (by simp [Reply.device?])).leftTo
  | stageBroke => trivial
  | calls hp => rw [hp] at hm; exact hm
  | garbled hp => rw [hp] at hm; exact hm
  | polls hp => rw [hp] at hm; exact hm
  | finishes hp =>
    rw [hp] at hm
    exact Held.Within.leftTo hm
  | breaks => trivial
  | pollSet hp => rw [hp] at hm; exact hm
  | pollClear hp => rw [hp] at hm; exact hm
  | pollOn hp => rw [hp] at hm; exact hm
  | pollOff hp => rw [hp] at hm; exact hm
  | pollRaises hp => rw [hp] at hm; exact hm
  | lets hp => rw [hp] at hm; exact hm
  | allLet hp =>
    rw [hp] at hm
    exact Held.LeftTo.eq_empty hm
  | letDone hp => rw [hp] at hm; exact hm
  | letBroke => exact absurd rfl hb
  | rescues => exact fun h => by cases h
  | rescued hp =>
    rw [hp] at hm
    exact hm rfl
  | rescueBroke => exact absurd rfl hb
  | _ hp => rw [hp] at hm; exact hm

end

namespace Desk

/-! ## every turn -/

/-- what holds of every desk -/
structure Kept (i : RunId) (d : Desk) : Prop where
  reachable : d.system.Reachable
  named : d.device.Named
  /-- before the run nothing is down -/
  before : d.system.runs[i]? = none → d.told = none ∧ d.device.down = {}
  /-- an answer is on its way to a worker that waits for one -/
  awaited : ∀ r x, d.system.runs[i]? = some r → d.told = some x → ∃ c, r.place.asks? = some c
  whole : d.told ≠ some .brokeDown
  minds : ∀ r, d.system.runs[i]? = some r → r.place.Minds r.held d.device.down d.told d.swept

section
variable {i : RunId} {d d' d₁ : Desk} {t : Turn} {m : Move}

theorem Kept.fresh (settings : Settings) (approvals : Approvals) (mode : InputMode) :
    (fresh settings approvals mode).Kept i where
  reachable := ⟨settings, approvals, [], rfl⟩
  named := fun k hk => by cases hk
  before := fun _ => ⟨rfl, rfl⟩
  awaited := fun r x hr => by simp [Desk.fresh, System.fresh] at hr
  whole := by simp [Desk.fresh]
  minds := fun r hr => by simp [Desk.fresh, System.fresh] at hr

theorem Kept.serve (h : d.Kept i) {r : Run} {c : DeviceCall} (hr : d.system.runs[i]? = some r)
    (hc : r.place.asks? = some c) (ht : d.told = none) :
    Kept i { d with device := (d.device.call c).2, told := some (d.device.call c).1 } where
  reachable := h.reachable
  named := h.named.call c
  before := fun hn => by rw [hr] at hn; cases hn
  awaited := fun r' x hr' _ => by
    rw [hr] at hr'
    cases hr'
    exact ⟨c, hc⟩
  whole := by simpa using d.device.call_ne_brokeDown c
  minds := fun r' hr' => by
    rw [hr] at hr'
    cases hr'
    exact Place.Minds.serve (ht ▸ h.minds r hr) h.named hc

theorem Kept.sweep (h : d.Kept i) (freed : List Nat) :
    Kept i { d with device := d.device.releaseAll, freed := freed, swept := true } where
  reachable := h.reachable
  named := fun k hk => by cases hk
  before := fun hn => ⟨(h.before hn).1, rfl⟩
  awaited := h.awaited
  whole := h.whole
  minds := fun r hr => (h.minds r hr).sweep

theorem Kept.told_eq_none (h : d.Kept i) {r : Run} (hr : d.system.runs[i]? = some r)
    (ha : r.place.asks? = none) : d.told = none := by
  cases hd : d.told with
  | none => rfl
  | some x =>
    obtain ⟨c, hc⟩ := h.awaited r x hr hd
    rw [ha] at hc
    cases hc

/-- the worker takes the answer that is on its way, and none if there is none -/
theorem Kept.told_eq_reply (h : d.Kept i) {r r' : Run} {reply : Reply} {ds : List Deed}
    (hr : d.system.runs[i]? = some r) (ht : d.take? i (.work i reply) = some d₁)
    (hw : WorkerStep d.system.view r reply r' ds) : d.told = reply.device? ∧ d₁.told = none := by
  obtain ⟨_, _, _, ⟨he, hne⟩ | ⟨x, hx, hx', hnone⟩⟩ := take?_eq_some ht
  · have hnone : d.told = none := by
      cases hd : d.told with
      | none => rfl
      | some x =>
        obtain ⟨c, hc⟩ := h.awaited r x hr hd
        obtain ⟨y, rfl⟩ := hw.of_asks hc
        exact absurd rfl (hne y)
    rw [he, hnone]
    refine ⟨?_, rfl⟩
    cases reply with
    | device y => exact absurd rfl (hne y)
    | _ => rfl
  · cases hx
    exact ⟨hx', hnone⟩

theorem Kept.minds_worked (h : d.Kept i) {s' : System} {reply : Reply}
    (ht : d.take? i (.work i reply) = some d₁)
    (hs : d.system.step? (.work i reply) = some s') {r r' : Run}
    (hr : d.system.runs[i]? = some r) (hr' : s'.runs[i]? = some r') :
    d₁.told = none ∧ r'.place.Minds r'.held d.device.down none d.swept := by
  obtain ⟨r₁, ds, hr₁, _, hw⟩ := System.workStep hs hr
  rw [hr₁] at hr'
  cases hr'
  obtain ⟨hreply, hnone⟩ := h.told_eq_reply hr ht hw
  refine ⟨hnone, hw.minds (hreply ▸ h.minds r hr) fun he => h.whole ?_⟩
  rw [hreply, he]
  rfl

/-- the others take no answer to the worker, and let it stand where it stands -/
theorem Kept.minds_aside (h : d.Kept i) {s' : System} (ht : d.take? i m = some d₁)
    (hs : d.system.step? m = some s') (hm : m.isWorkOf i = false) {r r' : Run}
    (hr : d.system.runs[i]? = some r) (hr' : s'.runs[i]? = some r') :
    d₁.told = d.told ∧ r'.place.Minds r'.held d.device.down d.told d.swept ∧
      ∀ x, d.told = some x → ∃ c, r'.place.asks? = some c := by
  have hsame : d₁.told = d.told := by
    obtain ⟨_, _, _, ⟨he, _⟩ | ⟨x, rfl, _⟩⟩ := take?_eq_some ht
    · exact he
    · simp [Move.isWorkOf] at hm
  refine ⟨hsame, ?_⟩
  have hasks : ∀ x, d.told = some x → ∃ c, r.place.asks? = some c := fun x => h.awaited r x hr
  have hminds := h.minds r hr
  obtain ⟨r₁, ds, hr₁, _, hc⟩ := System.runChange hs hr
  rw [hr₁] at hr'
  cases hr'
  cases hc with
  | worked he =>
    rw [he] at hm
    simp [Move.isWorkOf] at hm
  | spawned _ _ hin =>
    have hborn := h.reachable.tidy.unborn_of_spawn hr hin
    rw [hborn] at hminds
    refine ⟨hminds, fun x hx => ?_⟩
    rw [h.told_eq_none hr (by rw [hborn]; rfl)] at hx
    cases hx
  | _ => exact ⟨hminds, hasks⟩

theorem Kept.moved (h : d.Kept i) {s' : System} (ht : d.take? i m = some d₁)
    (hs : d.system.step? m = some s') {r' : Run} (hr' : s'.runs[i]? = some r') :
    r'.place.Minds r'.held d.device.down d₁.told d.swept ∧
      ∀ x, d₁.told = some x → ∃ c, r'.place.asks? = some c := by
  cases hr : d.system.runs[i]? with
  | none =>
    obtain ⟨hnone, hempty⟩ := h.before hr
    have h₁ : d₁.told = none := by
      obtain ⟨_, _, _, ⟨he, _⟩ | ⟨x, _, hx, _⟩⟩ := take?_eq_some ht
      · rw [he, hnone]
      · rw [hnone] at hx
        cases hx
    obtain ⟨_, hn | ⟨_, _, _, hn⟩⟩ := System.newRun hs hr
    · rw [hn] at hr'
      cases hr'
    · rw [hn] at hr'
      cases hr'
      rw [h₁, hempty]
      exact ⟨Held.within_refl _ _, fun x hx => by cases hx⟩
  | some r =>
    cases hm : m.isWorkOf i with
    | true =>
      obtain ⟨reply, rfl⟩ : ∃ reply, m = .work i reply := by
        cases m <;> simp [Move.isWorkOf] at hm
        exact ⟨_, by rw [hm]⟩
      obtain ⟨hnone, hminds⟩ := h.minds_worked ht hs hr hr'
      rw [hnone]
      exact ⟨hminds, fun x hx => by cases hx⟩
    | false =>
      obtain ⟨hsame, hkept⟩ := h.minds_aside ht hs hm hr hr'
      rw [hsame]
      exact hkept

theorem Kept.move (h : d.Kept i) {s' : System} (ht : d.take? i m = some d₁)
    (hs : d.system.step? m = some s') : Kept i { d₁ with system := s' } := by
  obtain ⟨_, hdev, hsw, htold⟩ := take?_eq_some ht
  refine ⟨h.reachable.step hs, ?_, fun hn => ?_, fun r' x hr' hx => ?_, ?_, fun r' hr' => ?_⟩
  · show d₁.device.Named
    rw [hdev]
    exact h.named
  · have hr : d.system.runs[i]? = none := by
      cases hr : d.system.runs[i]? with
      | none => rfl
      | some r =>
        obtain ⟨r₁, ds, hr₁, _⟩ := System.runChange hs hr
        exact absurd (hr₁.symm.trans hn) (by simp)
    obtain ⟨hnone, hempty⟩ := h.before hr
    refine ⟨?_, (congrArg SimulatedDevice.down hdev).trans hempty⟩
    rcases htold with ⟨he, _⟩ | ⟨_, _, _, he⟩
    · exact he.trans hnone
    · exact he
  · exact (h.moved ht hs hr').2 x hx
  · show d₁.told ≠ some .brokeDown
    rcases htold with ⟨he, _⟩ | ⟨_, _, _, he⟩
    · rw [he]
      exact h.whole
    · rw [he]
      simp
  · show r'.place.Minds r'.held d₁.device.down d₁.told d₁.swept
    rw [hdev, hsw]
    exact (h.moved ht hs hr').1

theorem Kept.step (h : d.Kept i) (hs : d.step? i t = some d') : d'.Kept i := by
  cases t with
  | serve =>
    rw [step?] at hs
    split at hs
    · rename_i c htold hc
      cases hs
      obtain ⟨p, hp, hc⟩ := Option.bind_eq_some_iff.1 hc
      obtain ⟨r, hr, rfl⟩ := Option.map_eq_some_iff.1 hp
      exact h.serve hr hc htold
    · cases hs
  | sweep task =>
    rw [step?] at hs
    split at hs
    · cases hs
      exact h.sweep _
    · cases hs
  | move m =>
    obtain ⟨d₁, h₁, hs⟩ := Option.bind_eq_some_iff.1 hs
    obtain ⟨s', hs', rfl⟩ := Option.map_eq_some_iff.1 hs
    have hsys := (take?_eq_some h₁).1
    exact h.move h₁ (hsys ▸ hs')

theorem Open.kept (h : d.Open i) : d.Kept i := h.invariant Kept.fresh Kept.step

/-- what the device holds, measured by what the worker has written down -/
structure Faithful (d : Desk) (r : Run) : Prop where
  /-- between two host calls no button is down that is not written down -/
  buttons : r.place.atWork = true → r.place.inCall = false →
    d.device.down.buttons ⊆ r.held.buttons
  keys : r.place.atWork = true → r.place.inCall = false → d.device.down.keys ⊆ r.held.keys
  /-- and the records are the same if the device has not been swept -/
  equal : r.place.atWork = true → r.place.inCall = false → d.swept = false →
    d.device.down = r.held
  /-- nothing is down once the run is settled -/
  settled : r.session.state.isTerminal = true → d.device.down = {}
  /-- and the run is settled before it is reported -/
  reported : r.place.result?.isSome = true → r.session.state.isTerminal = true

/-- **The record of the device and the record of the worker.**  Whatever the script does, however
requests to terminate and activations of the kill switch come in between, and whenever the device
performs what it is asked. -/
theorem minds_of_open (h : d.Open i) {r : Run} (hr : d.system.runs[i]? = some r) :
    d.Faithful r := by
  have hk := h.kept
  have hm := hk.minds r hr
  have hwithin (hw : r.place.atWork = true) (ho : r.place.inCall = false) :
      d.device.down.Within r.held d.swept := by
    refine hm.within hw (fun ha => ?_) fun f i he => by rw [he] at ho; cases ho
    have hasks : r.place.asks? = none := by
      cases hp : r.place with
      | call f q =>
        rw [hp] at ho
        cases ho
      | letting i rest e =>
        rw [hp] at hw
        cases hw
      | rescuing =>
        rw [hp] at hw
        cases hw
      | _ => rfl
    rw [hk.told_eq_none hr hasks] at ha
    cases ha
  have hfits := hk.reachable.orderly.fits i r hr
  refine ⟨fun hw ho => (hwithin hw ho).buttons, fun hw ho => (hwithin hw ho).keys,
    fun hw ho => (hwithin hw ho).equal, fun ht => ?_, fun hx => ?_⟩
  · exact hm.empty (hfits.isSome_result? ht)
  · obtain ⟨x, hx⟩ := Option.isSome_iff_exists.1 hx
    rw [hfits.eq_state hx]
    exact x.outcome.isTerminal_state

/-- moves with a device that performs what the worker asks just before it answers -/
def served (ms : List Move) : List Turn :=
  ms.flatMap fun m =>
    match m with
    | .work _ (.device _) => [.serve, .move m]
    | _ => [.move m]

/-- run 0 is started, and its script presses a key and a button; while it presses another key it is
terminated, and everything is released before the device performs the press -/
def crossed : List Turn :=
  served ([.request (.start ⟨"s", "s", ""⟩ {}), .proceed 0 .go,
    .proceed 0 (.provision (.ok ()))] ++ List.replicate 5 (.proceed 0 .go) ++
    List.replicate 11 (.work 0 (.stage .ready)) ++
    System.carried .keyDown [.str "a"] ++ System.carried .mouseDown [] ++
    .work 0 (.script (.call .keyDown [.str "b"])) :: List.replicate 7 (.work 0 .go)) ++
  [.move (.request (.control "s" .terminate)), .move (.proceed 1 .go), .move (.proceed 1 .go),
    .sweep 1, .serve, .move (.proceed 1 (.device .done)), .move (.work 0 (.device .done))] ++
  List.replicate 3 (.move (.work 0 .go))

def ended : List Turn :=
  served (.work 0 (.script (.finish .completed)) ::
    (List.replicate 3 [.work 0 .go, .work 0 (.device .done)]).flatten ++
    List.replicate 3 (.work 0 .go))

/-- the press that came after the release is all the device holds; the worker has written down more,
and at the end it lets go of all that -/
theorem minds_of_open_crossed :
    let d := (fresh {} {} .software).after 0 crossed
    let d' := d.after 0 ended
    d.device.down = ⟨[], ["b"]⟩ ∧ d.system.placeOf? 0 = some .script ∧
      d'.system.stateOf? 0 = some .terminated ∧ (∃ r, d.system.runs[0]? = some r ∧
        r.held = ⟨[.left], ["a", "b"]⟩ ∧ d.Faithful r) ∧
      ∃ r, d'.system.runs[0]? = some r ∧ d'.Faithful r := by
  intro d d'
  have ho : d.Open 0 := Open.after ⟨_, _, _, [], rfl⟩ _
  have ho' : d'.Open 0 := ho.after _
  have hheld : (d.system.runs[0]?).map (·.held) = some ⟨[.left], ["a", "b"]⟩ := by decide +kernel
  have hstate : d'.system.stateOf? 0 = some .terminated := by decide +kernel
  obtain ⟨r, hr, hrh⟩ := Option.map_eq_some_iff.1 hheld
  obtain ⟨r', hr', _⟩ := Option.map_eq_some_iff.1 hstate
  exact ⟨by decide +kernel, by decide +kernel, hstate, ⟨r, hr, hrh, minds_of_open ho hr⟩,
    r', hr', minds_of_open ho' hr'⟩

end

end Desk

end ScriptGuard
