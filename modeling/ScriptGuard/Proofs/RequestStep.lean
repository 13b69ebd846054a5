import ScriptGuard.Proofs.History

/-!
# The steps of a request, one by one

`System.taskStep?` says how a request goes on.  Here the same is said as a relation with one
constructor for each thing that can happen, in the order in which the stages are listed.

* `RequestStep s n t reply s'`   the request of number `n`, which has come to the stage `t`, takes a
                                 step from `s` to `s'`;
* `RequestStep.of_taskStep`      every step of `System.taskStep?` is one of these;
* `System.requestStep`           every move of a request is one of these;
* `RequestStep.course`           the request goes on, or it is over; the others are left alone.
-/

namespace ScriptGuard

/-- the request is about to turn the kill switch on, or to take down the active runs -/
def Task.opens : Task → Bool
  | .engage _ | .survey _ => true
  | _ => false

namespace System

/-! ## the requests under way -/

section
variable (s : System) (task : Nat) (t : Task) (a : Answer)

theorem goOn_tasks :
    (s.goOn task t).tasks = (task, t) :: s.tasks.filter fun e => e.1 ≠ task := rfl

theorem quit_tasks : (s.quit task).tasks = s.tasks.filter fun e => e.1 ≠ task := rfl

theorem close_tasks : (s.close task a).tasks = s.tasks.filter fun e => e.1 ≠ task := rfl

end

def enrolled (s : System) (script : Script) (options : Options) (total : Option Nat) : Run :=
  { session := ⟨script, options, total, s.clock, .idle, 0, none, 0, 0, none⟩ }

section
variable {s s' : System} {n k task : Nat} {t : Task} {reply : CallerReply}

theorem find?_filter_ne (tasks : List (Nat × Task)) (n k : Nat) :
    (tasks.filter fun e => e.1 ≠ k).find? (fun e => e.1 = n)
      = if n = k then none else tasks.find? fun e => e.1 = n := by
  rw [List.find?_filter]
  by_cases hn : n = k
  · rw [if_pos hn, List.find?_eq_none]
    rintro ⟨j, t⟩ _ hj
    simp_all
  · rw [if_neg hn]
    congr 1
    funext ⟨j, t⟩
    by_cases hj : j = n
    · simp [hj, hn]
    · simp [hj]

theorem task?_of_quit (h : s'.tasks = s.tasks.filter fun e => e.1 ≠ k) :
    s'.task? n = if n = k then none else s.task? n := by
  rw [task?, h, find?_filter_ne]
  split <;> rfl

theorem task?_of_goOn (h : s'.tasks = (k, t) :: s.tasks.filter fun e => e.1 ≠ k) :
    s'.task? n = if n = k then some t else s.task? n := by
  rw [task?, h]
  by_cases hn : n = k
  · rw [if_pos hn, List.find?_cons_of_pos (by simp [hn]), Option.map_some]
  · rw [if_neg hn, List.find?_cons_of_neg (by simpa using Ne.symm hn), find?_filter_ne, if_neg hn,
      task?]

theorem mem_of_task? (h : s.task? n = some t) : (n, t) ∈ s.tasks := by
  obtain ⟨⟨j, t'⟩, hf, rfl⟩ := Option.map_eq_some_iff.1 h
  obtain rfl : j = n := by simpa using List.find?_some hf
  exact List.mem_of_find?_eq_some hf

theorem command_eq_some {run : RunId} {c : Command} {a : ControlReply}
    (h : s.command run c = some (a, s')) :
    ∃ r, s.runs[run]? = some r ∧ a = (r.session.control c).1 ∧
      s' = s.onSession run fun _ => (r.session.control c).2 := by
  unfold command at h
  obtain ⟨r, hr, h⟩ := Option.map_eq_some_iff.1 h
  cases h
  exact ⟨r, hr, rfl, rfl⟩

theorem step?_of_task? (h : s.task? task = some t) :
    s.step? (.proceed task reply) = s.taskStep? task t reply := by
  obtain ⟨⟨n, t⟩, hf, rfl⟩ := Option.map_eq_some_iff.1 h
  show s.proceed? task reply = _
  rw [proceed?, hf]

theorem proceed?_eq_some (h : s.step? (.proceed task reply) = some s') :
    ∃ t, s.task? task = some t ∧ (task, t) ∈ s.tasks ∧ s.taskStep? task t reply = some s' := by
  cases ht : s.task? task with
  | none =>
    change s.proceed? task reply = some s' at h
    rw [proceed?, Option.map_eq_none_iff.1 ht] at h
    cases h
  | some t =>
    rw [step?_of_task? ht] at h
    exact ⟨t, rfl, mem_of_task? ht, h⟩

end

end System

/-! ## the steps -/

inductive RequestStep (s : System) (n : Nat) : Task → CallerReply → System → Prop
  -- commands
  | missing {id : String} {c : Command} (ha : s.active? id = none) :
      RequestStep s n (.look id c) .go (s.close n (.refused (.noSession id)))
  | found {id : String} {c : Command} {run : RunId} (ha : s.active? id = some run) :
      RequestStep s n (.look id c) .go (s.goOn n (.apply run c))
  | ignored {run : RunId} {c : Command} {r : Run} (hr : s.runs[run]? = some r)
      (hc : (r.session.control c).1 = .ignored) :
      RequestStep s n (.apply run c) .go
        ((s.onSession run fun _ => (r.session.control c).2).close n (.said false))
  | refused {run : RunId} {c : Command} {r : Run} {state : RunState}
      (hr : s.runs[run]? = some r) (hc : (r.session.control c).1 = .refused state) :
      RequestStep s n (.apply run c) .go
        ((s.onSession run fun _ => (r.session.control c).2).close n
          (.refused (.unavailable c state)))
  | applied {run : RunId} {c : Command} {r : Run} (hr : s.runs[run]? = some r)
      (hc : (r.session.control c).1 = .applied none) :
      RequestStep s n (.apply run c) .go
        ((s.onSession run fun _ => (r.session.control c).2).close n (.said true))
  | shown {run : RunId} {c : Command} {r : Run} {state : RunState} (hr : s.runs[run]? = some r)
      (hc : (r.session.control c).1 = .applied (some state)) :
      RequestStep s n (.apply run c) .go
        ((s.onSession run fun _ => (r.session.control c).2).goOn n (.announce run state))
  | announced {run : RunId} {state : RunState} :
      RequestStep s n (.announce run state) .go
        ((s.note n (.run run (.told (.state (s.idOf run) state)))).close n (.said true))
  -- Terminate
  | cutMissing {id : String} (ha : s.active? id = none) :
      RequestStep s n (.cut id) .go (s.close n (.refused (.noSession id)))
  | cutRefused {id : String} {run : RunId} {r : Run} {state : RunState}
      (ha : s.active? id = some run) (hr : s.runs[run]? = some r)
      (hc : (r.session.control .terminate).1 = .refused state) :
      RequestStep s n (.cut id) .go
        ((s.onSession run fun _ => (r.session.control .terminate).2).close n
          (.refused (.unavailable .terminate state)))
  | cuts {id : String} {run : RunId} {r : Run} (ha : s.active? id = some run)
      (hr : s.runs[run]? = some r)
      (hc : ∀ state, (r.session.control .terminate).1 ≠ .refused state) :
      RequestStep s n (.cut id) .go
        ((s.onSession run fun _ => (r.session.control .terminate).2).goOn n (.free run))
  | frees {run : RunId} :
      RequestStep s n (.free run) .go
        ((s.note n (.run run (.began .releaseAll))).goOn n (.freeing run))
  | freed {run : RunId} {x : DeviceReply} (hx : x ≠ .brokeDown) :
      RequestStep s n (.freeing run) (.device x)
        ((s.note n (.run run (.ended .releaseAll x))).close n (.said true))
  | freeBroke {run : RunId} :
      RequestStep s n (.freeing run) (.device .brokeDown)
        ((s.note n (.run run (.ended .releaseAll .brokeDown))).quit n)
  -- the kill switch
  | engages {reason : String} (hk : s.killSwitch.active = false) :
      RequestStep s n (.engage reason) .go
        (({ s with
            killSwitch := { s.killSwitch with active := true, record := some reason } }).goOn n
          (.survey reason))
  | engagedBefore {reason : String} (hk : s.killSwitch.active = true) :
      RequestStep s n (.engage reason) .go (s.close n (.said false))
  | surveys {reason : String} :
      RequestStep s n (.survey reason) .go (s.goOn n (.sweep reason (s.registry.map (·.2))))
  | swept {reason : String} :
      RequestStep s n (.sweep reason []) .go (s.close n (.said true))
  | sweeps {reason : String} {run : RunId} {runs : List RunId} :
      RequestStep s n (.sweep reason (run :: runs)) .go
        ((s.onSession run fun x => x.request (.killSwitch reason)).goOn n (.clear reason run runs))
  | clears {reason : String} {run : RunId} {runs : List RunId} :
      RequestStep s n (.clear reason run runs) .go
        ((s.note n (.run run (.began .releaseAll))).goOn n (.clearing reason run runs))
  | cleared {reason : String} {run : RunId} {runs : List RunId} {x : DeviceReply}
      (hx : x ≠ .brokeDown) :
      RequestStep s n (.clearing reason run runs) (.device x)
        ((s.note n (.run run (.ended .releaseAll x))).goOn n (.sweep reason runs))
  | clearBroke {reason : String} {run : RunId} {runs : List RunId} :
      RequestStep s n (.clearing reason run runs) (.device .brokeDown)
        ((s.note n (.run run (.ended .releaseAll .brokeDown))).close n (.said true))
  | disengages :
      RequestStep s n .disengage .go
        (({ s with killSwitch := { s.killSwitch with active := false } }).close n
          (.said s.killSwitch.active))
  -- the approvals
  | approves {c : Category} :
      RequestStep s n (.approve c) .go
        (({ s with approvals := s.approvals.approve c }).close n .done)
  | known {q : Question} (ha : s.approvals.has q.category = true) :
      RequestStep s n (.consult q) .go (s.close n (.said true))
  | unknown {q : Question} (ha : s.approvals.has q.category = false) :
      RequestStep s n (.consult q) .go (s.goOn n (.seek q))
  | asks {q : Question} (hh : s.handler = true) :
      RequestStep s n (.seek q) .go ((s.note n (.asked q)).goOn n (.asking q))
  | nobody {q : Question} (hh : s.handler = false) :
      RequestStep s n (.seek q) .go (s.close n (.said false))
  | allowed {q : Question} {v : Verdict} (hv : v.grants = true) :
      RequestStep s n (.asking q) (.verdict v) ((s.note n (.answered q v)).goOn n (.grant q))
  | denied {q : Question} {v : Verdict} (hv : v.grants = false) :
      RequestStep s n (.asking q) (.verdict v)
        ((s.note n (.answered q v)).close n (.said false))
  | grants {q : Question} :
      RequestStep s n (.grant q) .go
        (({ s with approvals := s.approvals.approve q.category }).close n (.said true))
  | installs {h : Bool} :
      RequestStep s n (.install h) .go (({ s with handler := h }).close n .done)
  -- starts
  | invalid {script : Script} {options : Options} {e : OptionsError}
      (ho : options.check? = .error e) :
      RequestStep s n (.vet script options) .go (s.close n (.refused (.invalidOptions e)))
  | barred {script : Script} {options options' : Options}
      (ho : options.check? = .ok options')
      (hk : s.killSwitch.active = true) :
      RequestStep s n (.vet script options) .go
        (s.close n (.refused (.killSwitchActive s.killSwitch.shownReason)))
  | vetted {script : Script} {options options' : Options}
      (ho : options.check? = .ok options')
      (hk : s.killSwitch.active = false) :
      RequestStep s n (.vet script options) .go (s.goOn n (.provide script options))
  | unprovided {script : Script} {options : Options} {e : DeviceError} :
      RequestStep s n (.provide script options) (.provision (.error e))
        (s.close n (.refused (.deviceUnavailable e)))
  | provided {script : Script} {options : Options} {u : Unit} :
      RequestStep s n (.provide script options) (.provision (.ok u))
        (s.goOn n (.recall script options))
  | recalls {script : Script} {options : Options} :
      RequestStep s n (.recall script options) .go
        (s.goOn n (.enroll script options (System.find? s.totals script.id)))
  | taken {script : Script} {options : Options} {total : Option Nat} {run : RunId}
      (ha : s.active? script.id = some run) :
      RequestStep s n (.enroll script options total) .go
        (s.close n (.refused (.alreadyRunning script.name)))
  | enrolls {script : Script} {options : Options} {total : Option Nat}
      (ha : s.active? script.id = none) :
      RequestStep s n (.enroll script options total) .go
        (({ s with
            runs := s.runs ++ [s.enrolled script options total]
            registry := (script.id, s.runs.length) :: s.registry }).goOn n
          (.launch s.runs.length))
  | launches {run : RunId} :
      RequestStep s n (.launch run) .go
        ((s.onSession run fun x => x.settle .running).goOn n (.herald run))
  | heralds {run : RunId} :
      RequestStep s n (.herald run) .go
        ((s.note n (.run run (.told (.state (s.idOf run) .running)))).goOn n (.spawn run))
  | spawns {run : RunId} :
      RequestStep s n (.spawn run) .go
        (({ s with runs := s.runs.modify run fun r => { r with place := .creating } }).close n
          (.started run))

/-! ## every step is one of these -/

section
variable {s s' : System} {n : Nat} {t : Task} {reply : CallerReply}

theorem RequestStep.of_applyTask {run : RunId} {c : Command}
    (h : s.applyTask n run c = some s') : RequestStep s n (.apply run c) .go s' := by
  unfold System.applyTask at h
  obtain ⟨⟨a, s₁⟩, h₁, rfl⟩ := Option.map_eq_some_iff.1 h
  obtain ⟨r, hr, ha, rfl⟩ := System.command_eq_some h₁
  cases a with
  | ignored => exact .ignored hr ha.symm
  | refused state => exact .refused hr ha.symm
  | applied shown =>
    cases shown with
    | none => exact .applied hr ha.symm
    | some state => exact .shown hr ha.symm

theorem RequestStep.of_cutTask {id : String} (h : s.cutTask n id = some s') :
    RequestStep s n (.cut id) .go s' := by
  unfold System.cutTask at h
  cases ha : s.active? id with
  | none =>
    simp only [ha] at h
    cases h
    exact .cutMissing ha
  | some run =>
    simp only [ha] at h
    obtain ⟨⟨a, s₁⟩, h₁, rfl⟩ := Option.map_eq_some_iff.1 h
    obtain ⟨r, hr, hc, rfl⟩ := System.command_eq_some h₁
    cases a with
    | ignored => exact .cuts ha hr fun state => by rw [← hc]; simp
    | refused state => exact .cutRefused ha hr hc.symm
    | applied shown => exact .cuts ha hr fun state => by rw [← hc]; simp

theorem RequestStep.of_vetTask {script : Script} {options : Options} :
    RequestStep s n (.vet script options) .go (s.vetTask n script options) := by
  unfold System.vetTask
  cases ho : options.check? with
  | error e => exact .invalid ho
  | ok u =>
    cases hk : s.killSwitch.active with
    | true => exact .barred ho hk
    | false => exact .vetted ho hk

theorem RequestStep.of_enrollTask {script : Script} {options : Options} {total : Option Nat} :
    RequestStep s n (.enroll script options total) .go
      (s.enrollTask n script options total) := by
  unfold System.enrollTask
  cases ha : s.active? script.id with
  | some run => exact .taken ha
  | none => exact .enrolls ha

theorem RequestStep.of_engage {reason : String}
    (h : s.taskStep? n (.engage reason) .go = some s') :
    RequestStep s n (.engage reason) .go s' := by
  simp only [System.taskStep?, KillSwitch.engage] at h
  cases hk : s.killSwitch.active with
  | true =>
    rw [hk] at h
    cases h
    exact .engagedBefore hk
  | false =>
    rw [hk] at h
    cases h
    exact .engages hk

theorem RequestStep.of_look {id : String} {c : Command}
    (h : s.taskStep? n (.look id c) .go = some s') : RequestStep s n (.look id c) .go s' := by
  simp only [System.taskStep?] at h
  cases ha : s.active? id with
  | none =>
    rw [ha] at h
    cases h
    exact .missing ha
  | some run =>
    rw [ha] at h
    cases h
    exact .found ha

theorem RequestStep.of_consult {q : Question} (h : s.taskStep? n (.consult q) .go = some s') :
    RequestStep s n (.consult q) .go s' := by
  simp only [System.taskStep?] at h
  cases ha : s.approvals.has q.category with
  | true =>
    rw [ha] at h
    cases h
    exact .known ha
  | false =>
    rw [ha] at h
    cases h
    exact .unknown ha

theorem RequestStep.of_seek {q : Question} (h : s.taskStep? n (.seek q) .go = some s') :
    RequestStep s n (.seek q) .go s' := by
  simp only [System.taskStep?] at h
  cases hh : s.handler with
  | true =>
    rw [hh] at h
    cases h
    exact .asks hh
  | false =>
    rw [hh] at h
    cases h
    exact .nobody hh

/-- a step of a request that waits for nothing -/
theorem RequestStep.of_go (h : s.taskStep? n t .go = some s') : RequestStep s n t .go s' := by
  cases t with
  | look id c => exact .of_look h
  | apply run c => exact .of_applyTask h
  | cut id => exact .of_cutTask h
  | engage reason => exact .of_engage h
  | sweep reason runs =>
    cases runs with
    | nil =>
      cases h
      exact .swept
    | cons run runs =>
      cases h
      exact .sweeps
  | consult q => exact .of_consult h
  | seek q => exact .of_seek h
  | vet script options =>
    cases h
    exact .of_vetTask
  | enroll script options total =>
    cases h
    exact .of_enrollTask
  | freeing | clearing | asking | provide => cases h
  | _ =>
    cases h
    constructor

theorem RequestStep.of_device {x : DeviceReply} (h : s.taskStep? n t (.device x) = some s') :
    RequestStep s n t (.device x) s' := by
  cases t with
  | freeing run =>
    cases x with
    | brokeDown =>
      cases h
      exact .freeBroke
    | _ =>
      cases h
      exact .freed nofun
  | clearing reason run runs =>
    cases x with
    | brokeDown =>
      cases h
      exact .clearBroke
    | _ =>
      cases h
      exact .cleared nofun
  | sweep reason runs => cases runs <;> cases h
  | _ => cases h

theorem RequestStep.of_verdict {v : Verdict} (h : s.taskStep? n t (.verdict v) = some s') :
    RequestStep s n t (.verdict v) s' := by
  cases t with
  | asking q =>
    simp only [System.taskStep?] at h
    cases hv : v.grants with
    | true =>
      rw [hv] at h
      cases h
      exact .allowed hv
    | false =>
      rw [hv] at h
      cases h
      exact .denied hv
  | sweep reason runs => cases runs <;> cases h
  | _ => cases h

theorem RequestStep.of_provision {p : Provision} (h : s.taskStep? n t (.provision p) = some s') :
    RequestStep s n t (.provision p) s' := by
  cases t with
  | provide script options =>
    cases p with
    | error e =>
      cases h
      exact .unprovided
    | ok u =>
      cases h
      exact .provided
  | sweep reason runs => cases runs <;> cases h
  | _ => cases h

/-- **Every step of a request is one of those above.** -/
theorem RequestStep.of_taskStep (h : s.taskStep? n t reply = some s') :
    RequestStep s n t reply s' := by
  cases reply with
  | go => exact .of_go h
  | device x => exact .of_device h
  | verdict v => exact .of_verdict h
  | provision p => exact .of_provision h

/-! ## what every step of a request has in common -/

/-- the request goes on, with no answer so far, or it is over -/
theorem RequestStep.course (h : RequestStep s n t reply s') :
    ∃ ds : List CallerDeed, s'.log = ds.map (Entry.caller n) ++ s.log ∧
      ((∃ t' : Task, s'.tasks = (n, t') :: s.tasks.filter (fun e => e.1 ≠ n) ∧
          (∀ a, CallerDeed.closed a ∉ ds) ∧ (t'.opens = true → ds = [] ∧ t.opens = true)) ∨
        s'.tasks = s.tasks.filter fun e => e.1 ≠ n) := by
  cases h with
  | found | shown | cuts | engages | surveys | sweeps | unknown | vetted | provided | recalls
  | enrolls | launches =>
    exact ⟨[], rfl, Or.inl ⟨_, rfl, by simp, by simp [Task.opens]⟩⟩
  | frees | clears | cleared | asks | allowed | heralds =>
    exact ⟨[_], rfl, Or.inl ⟨_, rfl, by simp, by simp [Task.opens]⟩⟩
  | announced | freed | clearBroke | denied => exact ⟨[_, _], rfl, Or.inr rfl⟩
  | _ => exact ⟨[_], rfl, Or.inr rfl⟩

theorem RequestStep.nextTask_eq (h : RequestStep s n t reply s') : s'.nextTask = s.nextTask := by
  cases h <;> rfl

/-- only an entry into the registry changes it -/
theorem RequestStep.registry_eq (h : RequestStep s n t reply s') :
    s'.registry = s.registry ∧ s'.runs.length = s.runs.length ∨
    ∃ script options total, t = .enroll script options total ∧ s.active? script.id = none ∧
      s'.registry = (script.id, s.runs.length) :: s.registry ∧
      s'.runs = s.runs ++ [s.enrolled script options total] := by
  cases h with
  | enrolls ha => exact Or.inr ⟨_, _, _, rfl, ha, rfl, rfl⟩
  | ignored => exact Or.inl ⟨rfl, List.length_modify _ _ _⟩
  | refused => exact Or.inl ⟨rfl, List.length_modify _ _ _⟩
  | applied => exact Or.inl ⟨rfl, List.length_modify _ _ _⟩
  | shown => exact Or.inl ⟨rfl, List.length_modify _ _ _⟩
  | cutRefused => exact Or.inl ⟨rfl, List.length_modify _ _ _⟩
  | cuts => exact Or.inl ⟨rfl, List.length_modify _ _ _⟩
  | sweeps => exact Or.inl ⟨rfl, List.length_modify _ _ _⟩
  | launches => exact Or.inl ⟨rfl, List.length_modify _ _ _⟩
  | spawns => exact Or.inl ⟨rfl, List.length_modify _ _ _⟩
  | _ => exact Or.inl ⟨rfl, rfl⟩

/-- **Every move of a request is one of the steps above.** -/
theorem System.requestStep (h : s.step? (.proceed n reply) = some s') :
    ∃ t, s.task? n = some t ∧ RequestStep s n t reply s' := by
  obtain ⟨t, ht, _, hs⟩ := System.proceed?_eq_some h
  exact ⟨t, ht, .of_taskStep hs⟩

end

end ScriptGuard
