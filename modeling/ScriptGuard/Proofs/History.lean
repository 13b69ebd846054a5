import ScriptGuard.Service

/-!
# Histories

What the log of a service says about one run, and what is said of lists of moves.

* `System.deeds s i`       what the worker of run `i` has done, latest first; read off it are
                           `hostCalls` (the calls of the device that host calls have begun),
                           `calls`, `replies`, `questions`, `progress`;
* `System.slot?`, `System.stateOf?`, `System.indexOf?`   the session of a run;
* `System.Reachable`       the service can come to this from one that has served nobody;
* `System.Accepts`         a move applies a command to a run;
* `System.Throughout`, `System.Without`   something holds at every moment of a list of moves, or
                           no move of the list is of some kind.

The releases at the end of a run are begun by no host call: they stand after the reply of the last
one (`Deed.underWay`).
-/

namespace ScriptGuard

/-! ## deeds of one run -/

/-- what the worker of a run did, if the entry is about that -/
def Entry.deedOf (run : RunId) : Entry → Option Deed
  | .worker i d => if i = run then some d else none
  | .caller _ _ => none

namespace Deed

/-- a host call is under way after these deeds, latest first -/
def underWay : List Deed → Bool
  | [] => false
  | .called _ :: _ => true
  | .replied _ _ :: _ => false
  | _ :: ds => underWay ds

/-- the calls of the device that were begun by host calls, latest first -/
def hostCalls : List Deed → List DeviceCall
  | [] => []
  | .began c :: ds => if underWay ds then c :: hostCalls ds else hostCalls ds
  | _ :: ds => hostCalls ds

def call? : Deed → Option HostFunction
  | .called f => some f
  | _ => none

def reply? : Deed → Option (HostFunction × CallReply)
  | .replied f x => some (f, x)
  | _ => none

def question? : Deed → Option Question
  | .asked q => some q
  | _ => none

def progress? : Deed → Option Nat
  | .told (.progress _ n _) => some n
  | _ => none

end Deed

def Move.isWorkOf (run : RunId) : Move → Bool
  | .work i _ => i == run
  | _ => false

theorem Move.exists_of_isWorkOf {m : Move} {i : RunId} (h : m.isWorkOf i = true) :
    ∃ reply, m = .work i reply := by
  cases m with
  | work j reply =>
    obtain rfl : j = i := by simpa [isWorkOf] using h
    exact ⟨reply, rfl⟩
  | _ => cases h

/-- with the move the script of the run calls a host function -/
def Move.isCallOf (run : RunId) : Move → Bool
  | .work i (.script (.call _ _)) => i == run
  | _ => false

namespace System

def deeds (s : System) (run : RunId) : List Deed := s.log.filterMap (Entry.deedOf run)

def hostCalls (s : System) (run : RunId) : List DeviceCall := Deed.hostCalls (s.deeds run)

def calls (s : System) (run : RunId) : List HostFunction := (s.deeds run).filterMap Deed.call?

def replies (s : System) (run : RunId) : List (HostFunction × CallReply) :=
  (s.deeds run).filterMap Deed.reply?

def questions (s : System) (run : RunId) : List Question :=
  (s.deeds run).filterMap Deed.question?

def progress (s : System) (run : RunId) : List Nat := (s.deeds run).filterMap Deed.progress?

def slot? (s : System) (run : RunId) : Option AbortReason :=
  (s.runs[run]?).bind (·.session.abort)

def stateOf? (s : System) (run : RunId) : Option RunState :=
  (s.runs[run]?).map (·.session.state)

def indexOf? (s : System) (run : RunId) : Option Nat := (s.runs[run]?).map (·.session.index)

def placeOf? (s : System) (run : RunId) : Option Place := (s.runs[run]?).map (·.place)

theorem slot?_of_run {s : System} {i : RunId} {r : Run} (hr : s.runs[i]? = some r) :
    s.slot? i = r.session.abort := by
  rw [slot?, hr, Option.bind_some]

theorem placeOf?_of_run {s : System} {i : RunId} {r : Run} (hr : s.runs[i]? = some r) :
    s.placeOf? i = some r.place := by
  rw [placeOf?, hr, Option.map_some]

/-! ## reachable systems -/

/-- a service that has served nobody -/
def fresh (settings : Settings) (approvals : Approvals) : System :=
  { settings := settings, approvals := approvals }

/-- a fresh service can come to this -/
def Reachable (s : System) : Prop :=
  ∃ settings approvals ms, (fresh settings approvals).play? ms = some s

theorem exists_of_play?_cons {s s' : System} {m : Move} {ms : List Move}
    (h : s.play? (m :: ms) = some s') : ∃ s₁, s.step? m = some s₁ ∧ s₁.play? ms = some s' := by
  rw [play?_cons] at h
  exact Option.bind_eq_some_iff.1 h

theorem play?_singleton {s s' : System} {m : Move} (h : s.step? m = some s') :
    s.play? [m] = some s' := by
  rw [play?_cons, h]
  rfl

theorem Reachable.play {s s' : System} {ms : List Move} (hs : s.Reachable)
    (h : s.play? ms = some s') : s'.Reachable := by
  obtain ⟨settings, approvals, ms₀, h₀⟩ := hs
  refine ⟨settings, approvals, ms₀ ++ ms, ?_⟩
  rw [play?_append, h₀]
  exact h

theorem Reachable.step {s s' : System} {m : Move} (hs : s.Reachable)
    (h : s.step? m = some s') : s'.Reachable :=
  hs.play (play?_singleton h)

/-- what every step keeps holds after every list of moves -/
theorem play?_induction {P : System → Prop}
    (step : ∀ {s s' : System} {m : Move}, P s → s.step? m = some s' → P s')
    {s s' : System} {ms : List Move} (hs : P s) (h : s.play? ms = some s') : P s' := by
  induction ms generalizing s with
  | nil =>
    cases h
    exact hs
  | cons m ms ih =>
    obtain ⟨s₁, h₁, h₂⟩ := exists_of_play?_cons h
    exact ih (step hs h₁) h₂

/-- the system after moves that are possible; as it is after others -/
def after (s : System) (ms : List Move) : System := (s.play? ms).getD s

theorem Reachable.after {s : System} (hs : s.Reachable) (ms : List Move) :
    (s.after ms).Reachable := by
  unfold System.after
  cases h : s.play? ms with
  | none => exact hs
  | some s' => exact hs.play h

theorem play?_after {s : System} {ms : List Move} (h : (s.play? ms).isSome = true) :
    s.play? ms = some (s.after ms) := by
  obtain ⟨s', hs'⟩ := Option.isSome_iff_exists.1 h
  rw [System.after, hs', Option.getD_some]

theorem step?_after {s : System} {m : Move} (h : (s.step? m).isSome = true) :
    s.step? m = some (s.after [m]) := by
  obtain ⟨s', hs'⟩ := Option.isSome_iff_exists.1 h
  rw [System.after, play?_singleton hs', Option.getD_some, hs']

/-- a service without limits that has started one run, with the worker of the run in its script -/
def attended (options : Options) : System :=
  (fresh { limits := ⟨none, none⟩ } {}).after
    ([.request (.install true), .proceed 0 .go, .request (.start ⟨"s", "s", ""⟩ options),
      .proceed 1 .go, .proceed 1 (.provision (.ok ()))] ++
      List.replicate 5 (.proceed 1 .go) ++ List.replicate 11 (.work 0 (.stage .ready)))

theorem reachable_attended (options : Options) : (attended options).Reachable :=
  Reachable.after ⟨_, _, [], rfl⟩ _

/-- the same service with the worker in a call that types text, the handler asked -/
def questioned (options : Options) : System :=
  (attended options).after (.work 0 (.script (.call .typeText [.str "hi"])) ::
    List.replicate 6 (.work 0 .go))

theorem reachable_questioned (options : Options) : (questioned options).Reachable :=
  (reachable_attended options).after _

theorem Reachable.invariant {P : System → Prop}
    (start : ∀ settings approvals, P (fresh settings approvals))
    (step : ∀ {s s' : System} {m : Move}, P s → s.step? m = some s' → P s')
    {s : System} (hs : s.Reachable) : P s := by
  obtain ⟨settings, approvals, ms, h⟩ := hs
  exact play?_induction step (start settings approvals) h

/-! ## kinds of moves -/

def task? (s : System) (task : Nat) : Option Task :=
  (s.tasks.find? fun e => e.1 = task).map (·.2)

/-- the command that a move puts to the session of a run -/
def puts? (s : System) : Move → Option (RunId × Command)
  | .proceed task .go =>
    match s.task? task with
    | some (.apply run c) => some (run, c)
    | some (.cut id) => (s.active? id).map fun run => (run, .terminate)
    | _ => none
  | _ => none

/-- the move applies the command to the run -/
def Accepts (s : System) (m : Move) (run : RunId) (c : Command) : Prop :=
  s.puts? m = some (run, c) ∧
    ∃ r shown, s.runs[run]? = some r ∧ (r.session.control c).1 = .applied shown

/-- the moves leave the worker of the run where it stands -/
def Aside (run : RunId) (ms : List Move) : Prop := ∀ m ∈ ms, m.isWorkOf run = false

/-- whatever the worker of the run does next, it can do something, and this holds then -/
def Next (s : System) (run : RunId) (P : System → Prop) : Prop :=
  (∃ s', s.step? (.work run .go) = some s') ∧
    ∀ reply s', s.step? (.work run reply) = some s' → P s'

/-- it holds now and after each of the moves -/
def Throughout (P : System → Prop) : System → List Move → Prop
  | s, [] => P s
  | s, m :: ms => P s ∧ ∀ s', s.step? m = some s' → Throughout P s' ms

/-- none of the moves is of this kind when its turn comes -/
def Without (K : System → Move → Prop) : System → List Move → Prop
  | _, [] => True
  | s, m :: ms => ¬ K s m ∧ ∀ s', s.step? m = some s' → Without K s' ms

/-- the move lets a held-up run go on: an accepted Resume or Step -/
def Frees (run : RunId) (s : System) (m : Move) : Prop :=
  s.Accepts m run .resume ∨ s.Accepts m run .step

instance decidableThroughout {P : System → Prop} [DecidablePred P] :
    (s : System) → (ms : List Move) → Decidable (s.Throughout P ms)
  | s, [] => inferInstanceAs (Decidable (P s))
  | s, m :: ms =>
    match h : s.step? m with
    | none => decidable_of_iff (P s) ⟨fun hp => ⟨hp, fun s' h' => by simp [h] at h'⟩, And.left⟩
    | some s₁ =>
      have := decidableThroughout (P := P) s₁ ms
      decidable_of_iff (P s ∧ s₁.Throughout P ms)
        ⟨fun hp => ⟨hp.1, fun s' h' => by cases h.symm.trans h'; exact hp.2⟩,
          fun hp => ⟨hp.1, hp.2 s₁ h⟩⟩

theorem Throughout.head {P : System → Prop} {s : System} {ms : List Move}
    (h : s.Throughout P ms) : P s := by
  cases ms with
  | nil => exact h
  | cons m ms => exact h.1

/-- what holds now and is kept by every step that is not of a kind holds throughout -/
theorem Throughout.of_without {P : System → Prop} {K : System → Move → Prop}
    (step : ∀ {s s' : System} {m : Move}, P s → ¬ K s m → s.step? m = some s' → P s')
    {s : System} {ms : List Move} (hs : P s) (h : s.Without K ms) : s.Throughout P ms := by
  induction ms generalizing s with
  | nil => exact hs
  | cons m ms ih => exact ⟨hs, fun s' h' => ih (step hs h.1 h') (h.2 s' h')⟩

theorem Throughout.of_step {P : System → Prop}
    (step : ∀ {s s' : System} {m : Move}, P s → s.step? m = some s' → P s')
    {s : System} {ms : List Move} (hs : P s) : s.Throughout P ms := by
  induction ms generalizing s with
  | nil => exact hs
  | cons m ms ih => exact ⟨hs, fun s' h' => ih (step hs h')⟩

theorem Without.of_forall {K : System → Move → Prop} {s : System} {ms : List Move}
    (h : ∀ m ∈ ms, ∀ t, ¬ K t m) : s.Without K ms := by
  induction ms generalizing s with
  | nil => trivial
  | cons m ms ih => exact ⟨h m (by simp) s, fun s' _ => ih fun m' hm' => h m' (by simp [hm'])⟩

theorem Throughout.mono {P Q : System → Prop} (hpq : ∀ s, P s → Q s) {s : System}
    {ms : List Move} (h : s.Throughout P ms) : s.Throughout Q ms := by
  induction ms generalizing s with
  | nil => exact hpq s h
  | cons m ms ih => exact ⟨hpq s h.1, fun s' h' => ih (h.2 s' h')⟩

theorem Throughout.and {P Q : System → Prop} {s : System} {ms : List Move}
    (h : s.Throughout P ms) (h' : s.Throughout Q ms) :
    s.Throughout (fun t => P t ∧ Q t) ms := by
  induction ms generalizing s with
  | nil => exact ⟨h, h'⟩
  | cons m ms ih => exact ⟨⟨h.1, h'.1⟩, fun s' hs => ih (h.2 s' hs) (h'.2 s' hs)⟩

theorem Throughout.and_step {I P : System → Prop}
    (step : ∀ {s s' : System} {m : Move}, I s → s.step? m = some s' → I s')
    {s : System} {ms : List Move} (hi : I s) (h : s.Throughout P ms) :
    s.Throughout (fun t => I t ∧ P t) ms := by
  induction ms generalizing s with
  | nil => exact ⟨hi, h⟩
  | cons m ms ih => exact ⟨⟨hi, h.1⟩, fun s' h' => ih (step hi h') (h.2 s' h')⟩

theorem Throughout.induction {P Q : System → Prop}
    (step : ∀ {s s' : System} {m : Move}, P s → P s' → Q s → s.step? m = some s' → Q s')
    {s s' : System} {ms : List Move} (hp : s.Throughout P ms) (hq : Q s)
    (h : s.play? ms = some s') : Q s' := by
  induction ms generalizing s with
  | nil =>
    cases h
    exact hq
  | cons m ms ih =>
    obtain ⟨s₁, h₁, h₂⟩ := exists_of_play?_cons h
    have hp₁ := hp.2 s₁ h₁
    exact ih hp₁ (step hp.1 hp₁.head hq h₁) h₂

theorem Throughout.of_append {P : System → Prop} {s v : System} {ms ms' : List Move}
    (h : s.Throughout P (ms ++ ms')) (hv : s.play? ms = some v) :
    s.Throughout P ms ∧ v.Throughout P ms' := by
  induction ms generalizing s with
  | nil =>
    cases hv
    exact ⟨h.head, h⟩
  | cons m ms ih =>
    obtain ⟨s₁, h₁, h₂⟩ := exists_of_play?_cons hv
    obtain ⟨hms, hv⟩ := ih (h.2 s₁ h₁) h₂
    refine ⟨⟨h.1, fun s' h' => ?_⟩, hv⟩
    rw [h₁] at h'
    cases h'
    exact hms

theorem Throughout.last {P : System → Prop} {s s' : System} {ms : List Move}
    (h : s.Throughout P ms) (hs : s.play? ms = some s') : P s' :=
  h.induction (fun _ hp _ _ => hp) h.head hs

end System

end ScriptGuard
