import ScriptGuard.Proofs.Lifecycle

/-!
# What is let go of at the end of a run

Whatever has been pressed and not released when the work on a script ends is released before the
run is settled.

* `Deed.pressed`          what is down, read off the deeds of the worker: the last press or release
                          that the device has performed is a press;
* `Held.Recalls`          the record of the worker agrees with that, and `Run.Tracks`: it does so
                          as long as the worker is at work on the script;
* `Place.Lets`            what the worker has done since then;
* `releases_of_concluded` once the run is about to be settled: one release for each button and key
                          that was down and for nothing else, buttons first, or, if the worker has
                          broken down, everything was released at once.

A release that fails does not keep the others from being made.  One that takes the worker down with
it does, and then everything is released at once.
-/

namespace ScriptGuard

/-! ## what is down -/

/-- something that can be held down -/
inductive Grip where
  | button (b : Button)
  | key (k : String)
deriving DecidableEq, Repr

/-- what an input takes hold of (`true`) or lets go of; a plain click does neither -/
def Input.touch? : Input → Option (Grip × Bool)
  | .click b .down => some (.button b, true)
  | .click b .up => some (.button b, false)
  | .key k down => some (.key k, down)
  | _ => none

namespace Deed

def touch? : Deed → Option (Grip × Bool)
  | .ended (.input i) .done => i.touch?
  | _ => none

/-- the last press or release of it that was performed is a press; deeds latest first -/
def pressed (ds : List Deed) (g : Grip) : Bool :=
  match (ds.filterMap touch?).find? fun t => t.1 = g with
  | some t => t.2
  | none => false

def begun? : Deed → Option DeviceCall
  | .began c => some c
  | _ => none

def breaks : Deed → Bool
  | .ended _ .brokeDown => true
  | _ => false

/-- these inputs let go of what is down after these deeds: one for each button, in the order of the
buttons, then one for each key, in the order of the keys -/
def FreedBy (ds : List Deed) (out : List Input) : Prop :=
  ∃ keys : List String, keys.Pairwise (· < ·) ∧ (∀ k, k ∈ keys ↔ pressed ds (.key k) = true) ∧
    out = (Button.all.filter fun b => pressed ds (.button b)).map (Input.click · .up) ++
      keys.map (Input.key · false)

section
variable {d : Deed} {ds old : List Deed} {g : Grip}

theorem pressed_congr (h : ds.filterMap touch? = old.filterMap touch?) (g : Grip) :
    pressed ds g = pressed old g := by
  rw [pressed, h, pressed]

theorem pressed_cons_of_touch {t : Grip × Bool} (h : d.touch? = some t) (g : Grip) :
    pressed (d :: ds) g = if t.1 = g then t.2 else pressed ds g := by
  unfold pressed
  rw [List.filterMap_cons, h, List.find?_cons]
  by_cases hg : t.1 = g
  · simp [hg]
  · simp [hg]

theorem filterMap_quiet {β : Type} {f : Deed → Option β} (h : ∀ d ∈ ds, f d = none) :
    (ds.reverse ++ old).filterMap f = old.filterMap f := by
  have hn : ds.reverse.filterMap f = [] :=
    List.filterMap_eq_nil_iff.2 fun d hd => h d (List.mem_reverse.1 hd)
  rw [List.filterMap_append, hn, List.nil_append]

end

end Deed

/-! ## the record of the worker -/

theorem pairwise_insertKey {k : String} {l : List String} (h : l.Pairwise (· < ·)) :
    (insertKey k l).Pairwise (· < ·) := by
  induction l with
  | nil => exact List.pairwise_singleton _ _
  | cons x r ih =>
    obtain ⟨hx, hr⟩ := List.pairwise_cons.1 h
    unfold insertKey
    by_cases he : k = x
    · rw [if_pos he]
      exact h
    · rw [if_neg he]
      by_cases hlt : k < x
      · rw [if_pos hlt]
        refine List.pairwise_cons.2 ⟨fun y hy => ?_, h⟩
        rcases List.mem_cons.1 hy with rfl | hy
        · exact hlt
        · exact String.lt_trans hlt (hx y hy)
      · rw [if_neg hlt]
        refine List.pairwise_cons.2 ⟨fun y hy => ?_, ih hr⟩
        rcases mem_insertKey.1 hy with rfl | hy
        · exact Std.lt_of_le_of_ne (String.not_lt.1 hlt) (Ne.symm he)
        · exact hx y hy

namespace Held

structure Recalls (h : Held) (ds : List Deed) : Prop where
  buttons : h.buttons = Button.all.filter fun b => Deed.pressed ds (.button b)
  sorted : h.keys.Pairwise (· < ·)
  keys : ∀ k, k ∈ h.keys ↔ Deed.pressed ds (.key k) = true

variable {h : Held} {ds old : List Deed}

theorem Recalls.nil : Recalls {} [] := ⟨rfl, List.Pairwise.nil, by simp [Deed.pressed]⟩

theorem Recalls.congr (hr : h.Recalls old)
    (hd : ds.filterMap Deed.touch? = old.filterMap Deed.touch?) : h.Recalls ds where
  buttons := by
    rw [hr.buttons]
    exact List.filter_congr fun b _ => (Deed.pressed_congr hd _).symm
  sorted := hr.sorted
  keys := fun k => by rw [hr.keys, Deed.pressed_congr hd]

theorem Recalls.button (hr : h.Recalls ds) {d : Deed} {b : Button} {down : Bool}
    (hd : d.touch? = some (.button b, down)) {h' : Held}
    (hb : h'.buttons = Button.all.filter fun x =>
      if b = x then down else Deed.pressed ds (.button x))
    (hk : h'.keys = h.keys) : h'.Recalls (d :: ds) where
  buttons := by
    rw [hb]
    refine List.filter_congr fun x _ => ?_
    rw [Deed.pressed_cons_of_touch hd]
    simp
  sorted := by rw [hk]; exact hr.sorted
  keys := fun k => by
    rw [hk, Deed.pressed_cons_of_touch hd, if_neg (by simp)]
    exact hr.keys k

theorem Recalls.key (hr : h.Recalls ds) {d : Deed} {k : String} {down : Bool}
    (hd : d.touch? = some (.key k, down)) {h' : Held} (hb : h'.buttons = h.buttons)
    (hs : h'.keys.Pairwise (· < ·))
    (hk : ∀ x, x ∈ h'.keys ↔ if k = x then down = true else x ∈ h.keys) :
    h'.Recalls (d :: ds) where
  buttons := by
    rw [hb, hr.buttons]
    refine List.filter_congr fun x _ => ?_
    rw [Deed.pressed_cons_of_touch hd, if_neg (by simp)]
  sorted := hs
  keys := fun x => by
    rw [hk, Deed.pressed_cons_of_touch hd]
    by_cases hx : k = x
    · simp [hx]
    · simp [hx, hr.keys]

theorem Recalls.after (hr : h.Recalls ds) (i : Input) :
    (h.after i).Recalls (.ended (.input i) .done :: ds) := by
  cases i with
  | move p => exact hr.congr rfl
  | text t => exact hr.congr rfl
  | click b phase =>
    cases phase with
    | click => exact hr.congr rfl
    | down =>
      refine hr.button (d := .ended (.input (.click b .down)) .done) rfl ?_ rfl
      refine List.filter_congr fun x hx => ?_
      rw [hr.buttons]
      by_cases hb : b = x
      · simp [hb]
      · have hxb : (x == b) = false := beq_false_of_ne (Ne.symm hb)
        simp [hb, hxb, hx]
    | up =>
      refine hr.button (d := .ended (.input (.click b .up)) .done) rfl ?_ rfl
      show h.buttons.filter (· != b) = _
      rw [hr.buttons, List.filter_filter]
      refine List.filter_congr fun x _ => ?_
      by_cases hb : b = x
      · simp [hb]
      · have hxb : (x != b) = true := bne_iff_ne.2 (Ne.symm hb)
        simp [hb, hxb]
  | key k down =>
    cases down with
    | true =>
      refine hr.key (d := .ended (.input (.key k true)) .done) rfl rfl
        (pairwise_insertKey hr.sorted) fun x => ?_
      show x ∈ insertKey k h.keys ↔ _
      rw [mem_insertKey]
      by_cases hx : k = x
      · simp [hx]
      · simp [hx, Ne.symm hx]
    | false =>
      refine hr.key (d := .ended (.input (.key k false)) .done) rfl rfl
        (hr.sorted.filter _) fun x => ?_
      show x ∈ h.keys.filter (· != k) ↔ _
      rw [List.mem_filter, bne_iff_ne]
      by_cases hx : k = x
      · simp [hx]
      · simp [hx, Ne.symm hx]

theorem Recalls.freedBy (hr : h.Recalls ds) : Deed.FreedBy ds h.releases :=
  ⟨h.keys, hr.sorted, hr.keys, by rw [releases, hr.buttons]⟩

end Held

/-! ## the worker at work -/

def Place.atWork : Place → Bool
  | .unborn | .creating | .registering _ | .loading | .script | .polling _ | .call _ _ => true
  | _ => false

theorem Place.atWork_of_isStage {p : Place} (h : p.isStage = true) : p.atWork = true := by
  obtain rfl | ⟨_, rfl⟩ | rfl := Place.stage_cases h <;> rfl

theorem Place.atWork_of_result? {p : Place} (h : p.result?.isSome = true) : p.atWork = false := by
  cases p with
  | leaving _ | remembering _ | tellState _ | tellResult _ | tellIdle _ | gone _ => rfl
  | _ => cases h

/-- as long as the worker is at work its record is right, but for an input that the device has
performed and that is still to be written down -/
def Run.Tracks (r : Run) (ds : List Deed) : Prop :=
  match r.place with
  | .call _ (.hold i) => (r.held.after i).Recalls ds
  | p => p.atWork = true → r.held.Recalls ds

section
variable {v : View} {r r' : Run} {f : Frame} {p : CallPoint} {reply : Reply}
  {ds old : List Deed}

theorem Run.Tracks.recalls (h : r.Tracks old) (hw : r.place.atWork = true)
    (hn : ∀ f i, r.place ≠ .call f (.hold i)) : r.held.Recalls old := by
  unfold Run.Tracks at h
  split at h
  · rename_i f i hp
    exact absurd hp (hn f i)
  · exact h hw

theorem Run.Tracks.of_recalls (h : r.held.Recalls ds) (hn : ∀ f i, r.place ≠ .call f (.hold i)) :
    r.Tracks ds := by
  unfold Run.Tracks
  split
  · rename_i f i hp
    exact absurd hp (hn f i)
  · exact fun _ => h

theorem Run.Tracks.of_not_atWork (h : r.place.atWork = false) : r.Tracks ds := by
  unfold Run.Tracks
  split
  · rename_i hp
    rw [hp] at h
    cases h
  · intro hw
    rw [h] at hw
    cases hw

theorem CallStep.tracks (h : CallStep v r f p reply r' ds) (hp : r.place = .call f p)
    (ht : r.Tracks old) : r'.Tracks (ds.reverse ++ old) := by
  have hw : r.place.atWork = true := by rw [hp]; rfl
  have hrec (hn : ∀ i, p ≠ .hold i) : r.held.Recalls old :=
    ht.recalls hw fun g i he => by rw [hp] at he; cases he; exact hn i rfl
  cases h with
  | atGate hat h =>
    have hr := hrec fun i he => by rcases hat with hat | hat <;> rw [hat] at he <;> cases he
    cases h with
    | @passes paused holds x hm hs =>
      refine .of_recalls hr fun g i he => ?_
      rename_i k _
      cases k <;> cases he
    | _ => exact .of_recalls (hr.congr rfl) (by simp)
  | @announced k =>
    refine .of_recalls ((hrec (by simp)).congr rfl) fun g i he => ?_
    cases k <;> cases he
  | inputDone => exact (hrec (by simp)).after _
  | holds =>
    unfold Run.Tracks at ht
    rw [hp] at ht
    exact .of_recalls ht (by simp)
  | _ => exact .of_recalls ((hrec (by simp)).congr rfl) (by simp)

theorem WorkerStep.tracks (h : WorkerStep v r reply r' ds) (hw : r.place.atWork = true)
    (ht : r.Tracks old) : r'.Tracks (ds.reverse ++ old) := by
  have hrec (hn : ∀ f i, r.place ≠ .call f (.hold i)) : r.held.Recalls old := ht.recalls hw hn
  cases h with
  | call hp h => exact h.tracks hp ht
  | staged hp hn =>
    refine .of_recalls (hrec fun f i he => ?_) fun f i he => ?_
    · rw [he] at hp
      cases hp
    · have hq : Place.isStage (.call f (.hold i)) = true := he ▸ hn
      cases hq
  | unready => exact .of_not_atWork rfl
  | stageBroke => exact .of_not_atWork rfl
  | finishes => exact .of_not_atWork rfl
  | breaks => exact .of_not_atWork rfl
  | equipped hp => exact .of_recalls (hrec (by simp [hp])) (by simp)
  | calls hp => exact .of_recalls ((hrec (by simp [hp])).congr rfl) (by simp)
  | garbled hp => exact .of_recalls ((hrec (by simp [hp])).congr rfl) (by simp)
  | polls hp => exact .of_recalls ((hrec (by simp [hp])).congr rfl) (by simp)
  | pollSet hp => exact .of_recalls ((hrec (by simp [hp])).congr rfl) (by simp)
  | pollClear hp => exact .of_recalls ((hrec (by simp [hp])).congr rfl) (by simp)
  | pollOn hp => exact .of_recalls ((hrec (by simp [hp])).congr rfl) (by simp)
  | pollOff hp => exact .of_recalls ((hrec (by simp [hp])).congr rfl) (by simp)
  | pollRaises hp => exact .of_recalls ((hrec (by simp [hp])).congr rfl) (by simp)
  | _ hp => rw [hp] at hw; cases hw

theorem WorkerStep.stays_ended (h : WorkerStep v r reply r' ds) (hw : r.place.atWork = false) :
    r'.place.atWork = false := by
  have hstage {P : Prop} (hp : r.place.isStage = true) : P := by
    rw [Place.atWork_of_isStage hp] at hw
    cases hw
  cases h with
  | staged hp => exact hstage hp
  | call hp | equipped hp | calls hp | garbled hp | polls hp | pollSet hp | pollClear hp | pollOn hp
  | pollOff hp | pollRaises hp =>
    rw [hp] at hw
    cases hw
  | _ => rfl

/-- the work on a script ends with the releases of what the record holds, or with a breakdown -/
theorem WorkerStep.endsWork (h : WorkerStep v r reply r' ds) (hw : r.place.atWork = true)
    (hw' : r'.place.atWork = false) :
    ds = [] ∧ (∀ f i, r.place ≠ .call f (.hold i)) ∧
      ((∃ e, r'.place = .releasing r.held.releases e) ∨ r'.place = .rescue) := by
  cases h with
  | call hp h =>
    cases h with
    | atGate _ h => cases h <;> cases hw'
    | _ => cases hw'
  | staged _ hn =>
    have hq := Place.atWork_of_isStage hn
    exact absurd (hq.symm.trans hw') (by simp)
  | unready hp => exact ⟨rfl, fun f i he => (by rw [he] at hp; cases hp), Or.inl ⟨_, rfl⟩⟩
  | stageBroke hp => exact ⟨rfl, fun f i he => (by rw [he] at hp; cases hp), Or.inr rfl⟩
  | finishes hp => exact ⟨rfl, by simp [hp], Or.inl ⟨_, rfl⟩⟩
  | breaks hp => exact ⟨rfl, by simp [hp], Or.inr rfl⟩
  | equipped | calls | garbled | polls | pollSet | pollClear | pollOn | pollOff | pollRaises => cases hw'
  | _ hp =>
    rw [hp] at hw
    cases hw

end

/-! ## the worker lets go -/

namespace Deed

/-- with these deeds, latest first, the worker has let go of the inputs one after the other -/
def LetGo (done : List Input) (since : List Deed) : Prop :=
  since.any breaks = false ∧ since.filterMap begun? = (done.map DeviceCall.input).reverse

/-- the worker has broken down, on the script or while it let go of some of the inputs, and has
released everything at once -/
def Rescued (out : List Input) (broke : Bool) (since : List Deed) : Prop :=
  (broke = true ∨ since.any breaks = true) ∧ ∃ done, done <+: out ∧
    since.filterMap begun? = .releaseAll :: (done.map DeviceCall.input).reverse

end Deed

/-- what a worker that is to let go of the inputs has done since the end of its work, when it has
come to the place; `broke` says that the work ended with a breakdown -/
def Place.Lets (out : List Input) (broke : Bool) (p : Place) (since : List Deed) : Prop :=
  match p with
  | .releasing rest _ | .letting _ rest _ =>
    broke = false ∧ ∃ done, done ++ rest = out ∧ Deed.LetGo done since
  | .rescue =>
    (broke = true ∨ since.any Deed.breaks = true) ∧ ∃ done, done <+: out ∧
      since.filterMap Deed.begun? = (done.map DeviceCall.input).reverse
  | .rescuing | .lost => Deed.Rescued out broke since
  | .finishing _ | .settling _ | .leaving _ | .remembering _ | .tellState _ | .tellResult _
  | .tellIdle _ | .gone _ =>
    broke = false ∧ Deed.LetGo out since ∨ Deed.Rescued out broke since
  | _ => False

section
variable {v : View} {r r' : Run} {reply : Reply} {ds since : List Deed} {out : List Input}
  {broke : Bool}

theorem Place.Lets.not_atWork {p : Place} (h : p.Lets out broke since) : p.atWork = false := by
  cases p with
  | unborn | creating | registering _ | loading | script | polling _ | call _ _ => exact h.elim
  | _ => rfl

theorem Place.lets_of_result? {p : Place} (hp : p.result?.isSome = true) :
    p.Lets out broke since ↔
      broke = false ∧ Deed.LetGo out since ∨ Deed.Rescued out broke since := by
  cases p with
  | leaving _ | remembering _ | tellState _ | tellResult _ | tellIdle _ | gone _ => exact Iff.rfl
  | _ => cases hp

/-- deeds that begin nothing at the device and end nothing there with a breakdown -/
theorem Place.Lets.goes_on {p : Place} (h : broke = false ∧ Deed.LetGo out since ∨
      Deed.Rescued out broke since) (hd : ds.any Deed.breaks = false)
    (hb : ds.filterMap Deed.begun? = []) (hp : p.result?.isSome = true ∨ ∃ o, p = .settling o) :
    p.Lets out broke (ds.reverse ++ since) := by
  have hany : (ds.reverse ++ since).any Deed.breaks = since.any Deed.breaks := by
    rw [List.any_append, List.any_reverse, hd, Bool.false_or]
  have hbegun : (ds.reverse ++ since).filterMap Deed.begun? = since.filterMap Deed.begun? :=
    Deed.filterMap_quiet (List.filterMap_eq_nil_iff.1 hb)
  have h' : broke = false ∧ Deed.LetGo out (ds.reverse ++ since) ∨
      Deed.Rescued out broke (ds.reverse ++ since) := by
    unfold Deed.LetGo Deed.Rescued
    rw [hany, hbegun]
    exact h
  rcases hp with hp | ⟨o, rfl⟩
  · exact (Place.lets_of_result? hp).2 h'
  · exact h'

/-- **A step of a worker that lets go of what is held.** -/
theorem WorkerStep.letsGo (h : WorkerStep v r reply r' ds) (hl : r.place.Lets out broke since) :
    r'.place.Lets out broke (ds.reverse ++ since) := by
  have hout := hl.not_atWork
  have hstage {P : Prop} (hp : r.place.isStage = true) : P := by
    rw [Place.atWork_of_isStage hp] at hout
    cases hout
  cases h with
  | call hp => rw [hp] at hout; cases hout
  | staged hp => exact hstage hp
  | unready hp => exact hstage hp
  | stageBroke hp => exact hstage hp
  | @lets i is e hp =>
    rw [hp] at hl
    obtain ⟨hb, done, rfl, hu, hg⟩ := hl
    refine ⟨hb, done ++ [i], by simp, ?_, ?_⟩
    · simpa [Deed.breaks] using hu
    · simp [Deed.begun?, hg]
  | allLet hp =>
    rw [hp] at hl
    obtain ⟨hb, done, rfl, hg⟩ := hl
    refine Or.inl ⟨hb, ?_⟩
    rw [List.append_nil]
    exact hg
  | @letDone i is e d hp hd =>
    rw [hp] at hl
    obtain ⟨hb, done, rfl, hu, hg⟩ := hl
    refine ⟨hb, done, rfl, ?_, hg⟩
    cases d with
    | brokeDown => exact absurd rfl hd
    | done => simpa [Deed.breaks] using hu
    | failed e => simpa [Deed.breaks] using hu
  | letBroke hp =>
    rw [hp] at hl
    obtain ⟨_, done, rfl, _, hg⟩ := hl
    exact ⟨Or.inr (by simp [Deed.breaks]), done, List.prefix_append _ _, hg⟩
  | rescues hp =>
    rw [hp] at hl
    obtain ⟨hb, done, hd, hg⟩ := hl
    refine ⟨hb.imp id fun hb => ?_, done, hd, ?_⟩
    · simpa [Deed.breaks] using hb
    · simp [Deed.begun?, hg]
  | @rescued d hp =>
    rw [hp] at hl
    obtain ⟨hb, done, hd, hg⟩ := hl
    exact Or.inr ⟨hb.imp id fun hb => (by simp [hb]), done, hd, hg⟩
  | rescueBroke hp =>
    rw [hp] at hl
    obtain ⟨_, done, hd, hg⟩ := hl
    exact ⟨Or.inr (by simp [Deed.breaks]), done, hd, hg⟩
  | concludes hp => rw [hp] at hl; exact .goes_on hl rfl rfl (Or.inr ⟨_, rfl⟩)
  | settles hp => rw [hp] at hl; exact .goes_on hl rfl rfl (Or.inl rfl)
  | leaves hp => rw [hp] at hl; exact .goes_on hl rfl rfl (Or.inl rfl)
  | @remembers x hp =>
    rw [hp] at hl
    refine .goes_on hl ?_ ?_ (Or.inl rfl)
    · split <;> rfl
    · split <;> rfl
  | tellsState hp => rw [hp] at hl; exact .goes_on hl rfl rfl (Or.inl rfl)
  | tellsResult hp => rw [hp] at hl; exact .goes_on hl rfl rfl (Or.inl rfl)
  | tellsIdle hp => rw [hp] at hl; exact .goes_on hl rfl rfl (Or.inl rfl)
  | _ hp => rw [hp] at hout; cases hout

end

namespace System

/-! ## the run -/

/-- the work of a run on its script ended in `s`, with a breakdown or without, and from there the
service has come to `s'` -/
structure Aftermath (s s' : System) (i : RunId) (broke : Bool) : Prop where
  reachable : s.Reachable
  atWork : ∃ p, s.placeOf? i = some p ∧ p.atWork = true
  since : ∃ m s₁ ms p, s.step? m = some s₁ ∧ s₁.play? ms = some s' ∧ s₁.placeOf? i = some p ∧
    p.atWork = false ∧ (broke = true ↔ p = .rescue)

section
variable {s s' : System} {m : Move} {i : RunId} {r : Run} {broke : Bool}

theorem tracks_step (ht : s.Tidy) (h : ∀ r, s.runs[i]? = some r → r.Tracks (s.deeds i))
    (hs : s.step? m = some s') {r' : Run} (hr' : s'.runs[i]? = some r') :
    r'.Tracks (s'.deeds i) := by
  cases hr : s.runs[i]? with
  | none =>
    obtain ⟨hd, hn | ⟨_, _, _, hn⟩⟩ := newRun hs hr
    · rw [hn] at hr'
      cases hr'
    · rw [hn] at hr'
      cases hr'
      rw [hd, ht.blank i hr]
      exact .of_recalls .nil (by simp [enrolled])
  | some r =>
    obtain ⟨r₁, ds, hr₁, hd, hc⟩ := runChange hs hr
    rw [hr₁] at hr'
    cases hr'
    rw [hd]
    have htr := h r hr
    cases hc with
    | worked _ hw =>
      cases hp : r.place.atWork with
      | true => exact hw.tracks hp htr
      | false =>
        -- the work has ended before
        exact .of_not_atWork (hw.stays_ended hp)
    | spawned _ _ hin =>
      have hp := ht.unborn_of_spawn hr hin
      exact .of_recalls (htr.recalls (by rw [hp]; rfl) (by simp [hp])) (by simp)
    | _ => exact htr

theorem Reachable.tracks (hs : s.Reachable) (hr : s.runs[i]? = some r) :
    r.Tracks (s.deeds i) := by
  have h := hs.invariant (P := fun s => s.Tidy ∧
    ∀ r, s.runs[i]? = some r → r.Tracks (s.deeds i)) ?_ ?_
  · exact h.2 r hr
  · exact fun settings approvals => ⟨.fresh settings approvals, by simp [System.fresh]⟩
  · exact fun h hs => ⟨h.1.step hs, fun _ hr' => tracks_step h.1 h.2 hs hr'⟩

theorem aftermath_of_not_atWork (hs : s.Reachable) {p : Place} (hp : s.placeOf? i = some p)
    (hw : p.atWork = false) : ∃ t broke, Aftermath t s i broke := by
  have h := hs.invariant (P := fun s => s.Reachable ∧ ∀ p, s.placeOf? i = some p →
    p.atWork = false → ∃ t broke, Aftermath t s i broke) ?_ ?_
  · exact h.2 p hp hw
  · intro settings approvals
    exact ⟨⟨settings, approvals, [], rfl⟩, by simp [placeOf?, System.fresh]⟩
  · rintro s s' m ⟨hs, ih⟩ hstep
    refine ⟨hs.step hstep, fun p' hp' hw' => ?_⟩
    cases hr : s.runs[i]? with
    | none =>
      obtain ⟨_, hn | ⟨_, _, _, hn⟩⟩ := newRun hstep hr
      · simp [placeOf?, hn] at hp'
      · rw [placeOf?, hn] at hp'
        cases hp'
        cases hw'
    | some r =>
      have hplace := placeOf?_of_run hr
      cases hp : r.place.atWork with
      | true =>
        exact ⟨s, decide (p' = .rescue), hs, ⟨r.place, hplace, hp⟩,
          m, s', [], p', hstep, rfl, hp', hw', by simp⟩
      | false =>
        obtain ⟨t, broke, ht, hat, m₀, s₁, ms, p₁, h₀, hms, h₁⟩ := ih r.place hplace hp
        refine ⟨t, broke, ht, hat, m₀, s₁, ms ++ [m], p₁, h₀, ?_, h₁⟩
        rw [play?_append, hms]
        exact play?_singleton hstep

theorem lets_play {out : List Input} {old : List Deed} {ms : List Move} {since : List Deed}
    (ht : s.Tidy) (hr : s.runs[i]? = some r) (hd : s.deeds i = since ++ old)
    (hl : r.place.Lets out broke since) (hs : s.play? ms = some s') :
    ∃ r' since', s'.runs[i]? = some r' ∧ s'.deeds i = since' ++ old ∧
      r'.place.Lets out broke since' := by
  have h := play?_induction (P := fun t => t.Tidy ∧ ∃ r since, t.runs[i]? = some r ∧
    t.deeds i = since ++ old ∧ r.place.Lets out broke since) ?_ ⟨ht, r, since, hr, hd, hl⟩ hs
  · exact h.2
  · rintro t t' m ⟨ht, r, since, hr, hd, hl⟩ hstep
    obtain ⟨r', ds, hr', hd', hc⟩ := runChange hstep hr
    refine ⟨ht.step hstep, r', ds.reverse ++ since, hr', by rw [hd', hd, List.append_assoc], ?_⟩
    cases hc with
    | worked _ hw => exact hw.letsGo hl
    | spawned _ _ hin =>
      have hout := hl.not_atWork
      rw [ht.unborn_of_spawn hr hin] at hout
      cases hout
    | _ => exact hl

theorem Aftermath.lets (h : Aftermath s s' i broke) :
    ∃ out r' since, Deed.FreedBy (s.deeds i) out ∧ s'.runs[i]? = some r' ∧
      s'.deeds i = since ++ s.deeds i ∧ r'.place.Lets out broke since := by
  obtain ⟨p, hp, hw⟩ := h.atWork
  obtain ⟨m, s₁, ms, p₁, hm, hms, hp₁, hw₁, hb⟩ := h.since
  obtain ⟨r, hr, rfl⟩ := Option.map_eq_some_iff.1 hp
  obtain ⟨r₁, ds, hr₁, hd₁, hc⟩ := runChange hm hr
  have hplace : r₁.place = p₁ := by
    rw [placeOf?, hr₁] at hp₁
    exact Option.some.inj hp₁
  rw [← hplace] at hw₁ hb
  have hend : ds = [] ∧ (∀ f i, r.place ≠ .call f (.hold i)) ∧
      ((∃ e, r₁.place = .releasing r.held.releases e) ∨ r₁.place = .rescue) := by
    cases hc with
    | worked _ hws => exact hws.endsWork hw hw₁
    | spawned => cases hw₁
    | _ => exact absurd (hw.symm.trans hw₁) (by simp)
  obtain ⟨rfl, hn, hat⟩ := hend
  have hfree := (((h.reachable).tracks hr).recalls hw hn).freedBy
  have hl : r₁.place.Lets r.held.releases broke [] := by
    rcases hat with ⟨e, hat⟩ | hat
    · have hfalse : broke = false := by
        cases hbr : broke with
        | false => rfl
        | true => rw [hb.1 hbr] at hat; cases hat
      rw [hat]
      exact ⟨hfalse, [], rfl, rfl, rfl⟩
    · rw [hat]
      exact ⟨Or.inl (hb.2 hat), [], List.nil_prefix, rfl⟩
  obtain ⟨r', since, hr', hd', hl'⟩ := lets_play ((h.reachable.step hm).tidy) hr₁ hd₁ hl hms
  exact ⟨_, r', since, hfree, hr', hd', hl'⟩

/-- **What has been let go of when a run is about to be settled, and ever after.**  Since the work
on its script ended in `s`, its worker has released each button and key that was down then, once and
nothing else, buttons first, whether the device performed it or refused; or it has broken down, in
its work (`broke`) or with one of these releases, and has released everything at once. -/
theorem releases_of_concluded (hs : s'.Reachable) (hr : s'.runs[i]? = some r)
    (hc : (∃ o, r.place = .settling o) ∨ r.session.state.isTerminal = true) :
    ∃ s broke since out, Aftermath s s' i broke ∧ s'.deeds i = since ++ s.deeds i ∧
      Deed.FreedBy (s.deeds i) out ∧
      (broke = false ∧ Deed.LetGo out since ∨ Deed.Rescued out broke since) := by
  have hlate : r.place.result?.isSome = true ∨ ∃ o, r.place = .settling o := by
    rcases hc with hc | hc
    · exact Or.inr hc
    · exact Or.inl ((hs.orderly.fits i r hr).isSome_result? hc)
  have hw : r.place.atWork = false := by
    rcases hlate with h | ⟨o, h⟩
    · exact Place.atWork_of_result? h
    · rw [h]
      rfl
  obtain ⟨s, broke, ha⟩ :=
    aftermath_of_not_atWork hs (p := r.place) (placeOf?_of_run hr) hw
  obtain ⟨out, r', since, hfree, hr', hd, hl⟩ := ha.lets
  rw [hr] at hr'
  cases hr'
  refine ⟨s, broke, since, out, ha, hd, hfree, ?_⟩
  rcases hlate with h | ⟨o, h⟩
  · exact (Place.lets_of_result? h).1 hl
  · rw [h] at hl
    exact hl

/-- the worker of run 0 carries a call with an input through, from the script back to the script -/
def carried (g : HostFunction) (args : List HostValue) : List Move :=
  .work 0 (.script (.call g args)) :: List.replicate 7 (.work 0 .go) ++
    .work 0 (.device .done) :: List.replicate 3 (.work 0 .go)

/-- two buttons and two keys are down when the script fails, and the device refuses one release -/
theorem releases_of_concluded_attended :
    let s' := (attended {}).after
      (carried .keyDown [.str "b"] ++ carried .mouseDown [.str "right"] ++
        carried .keyDown [.str "a"] ++ carried .mouseDown [] ++ carried .mouseClick [.int 3] ++
        carried .keyDown [.str "c"] ++ carried .keyRelease [.str "c"] ++
        [.work 0 (.script (.finish (.failed "oops"))), .work 0 .go, .work 0 (.device .done),
          .work 0 .go, .work 0 (.device (.failed ⟨"d", "stuck"⟩)), .work 0 .go,
          .work 0 (.device .done), .work 0 .go, .work 0 (.device .done)] ++
        List.replicate 3 (.work 0 .go))
    s'.stateOf? 0 = some .failed ∧
      ((s'.deeds 0).filterMap Deed.begun?).take 4 = [.input (.key "b" false),
        .input (.key "a" false), .input (.click .right .up), .input (.click .left .up)] ∧
      ∃ s broke since out, Aftermath s s' 0 broke ∧ s'.deeds 0 = since ++ s.deeds 0 ∧
        Deed.FreedBy (s.deeds 0) out ∧
        (broke = false ∧ Deed.LetGo out since ∨ Deed.Rescued out broke since) := by
  intro s'
  have hs : s'.Reachable := (reachable_attended _).after _
  have hstate : s'.stateOf? 0 = some .failed := by decide +kernel
  obtain ⟨r, hr, hrs⟩ := Option.map_eq_some_iff.1 hstate
  exact ⟨hstate, by decide +kernel, releases_of_concluded hs hr (Or.inr (by rw [hrs]; rfl))⟩

end

end System

end ScriptGuard
