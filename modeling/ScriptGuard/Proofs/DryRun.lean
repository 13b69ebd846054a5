import Mathlib.Data.String.Basic
import ScriptGuard.Program
import ScriptGuard.Proofs.Preparation
import ScriptGuard.Proofs.Validation

/-!
# What a dry run foretells

A dry run looks at the configuration, the script and the options, compiles the script, and shows
what would be run.  It does not look at the names of the categories to be approved.

* `Program.ComesToScript`         a run was started, its worker came to the loaded script, and the
                                  transcript tells how it went on from there;
* `Program.comesToScript_perform` without an interrupt, options that pass and a source that can be
                                  compiled are enough for it;
* `Program.Passes`                the arguments and the files lead there;
* `Program.foretold`              after a dry run that is not refused, the run without it comes to
                                  its script if all names of categories are known, and is refused
                                  with the first one that is not otherwise;
* `Program.not_passes_of_dry`     without the names, a dry run that is not refused is not enough.
-/

namespace ScriptGuard

open Rehearsal (Waiting Vacant Goes Ready)

/-! ## before the start -/

namespace Performance

def later (p : Performance) (t : Nat) : Performance :=
  { p with stage := { p.stage with system := { p.stage.system with clock := t } } }

section
variable {p : Performance}

theorem see_of_cue (h : p.cue = none) (line : String) : p.see line = p := by
  rw [see, h]
  rfl

theorem log_of_cue (h : p.cue = none) (target text : String) : p.log target text = p := by
  unfold log
  rw [see_of_cue h, ite_self]

theorem complain_of_cue (h : p.cue = none) (line : String) :
    p.complain line = { p with err := line :: p.err } :=
  see_of_cue (p := { p with err := line :: p.err }) h line

theorem pass_of_due (h : p.due = none) (d : Duration) :
    p.pass d = p.later (p.stage.system.clock + d.ns) := by
  unfold pass
  rw [h]
  have helapse : p.stage.system.clock + (p.stage.system.clock + d.ns - p.stage.system.clock) =
      p.stage.system.clock + d.ns := by
    rw [Nat.add_sub_cancel_left]
  simp only [later, Rehearsal.elapse, System.step?, Option.getD_some, helapse]

/-- nothing but time passes in a countdown -/
theorem countdown_of_cue (h : p.cue = none) (hd : p.due = none) (n : Nat) (d : Duration) :
    ∃ t, p.countdown n d = p.later t := by
  induction n generalizing p d with
  | zero => exact ⟨p.stage.system.clock, rfl⟩
  | succ n ih =>
    unfold countdown
    split
    · exact ⟨p.stage.system.clock, rfl⟩
    · dsimp only
      rw [log_of_cue h, pass_of_due hd]
      obtain ⟨t, ht⟩ := ih (p := p.later (p.stage.system.clock + (d.least (.ofSeconds 1)).ns)) h hd
        (d - d.least (.ofSeconds 1))
      exact ⟨t, ht⟩

/-! ## between the start and the first step of the worker -/

/-- the run waits for its worker, and no interrupt is to come -/
structure Onset (script : Script) (p : Performance) : Prop where
  waiting : Waiting script p.stage
  cue : p.cue = none
  due : p.due = none

variable {script : Script} {id : String}

theorem Onset.complain (h : Onset script p) (line : String) : Onset script (p.complain line) := by
  rw [complain_of_cue h.cue]
  exact ⟨h.waiting, h.cue, h.due⟩

theorem Onset.command (h : Onset script p) (line : String) : Onset script (p.command id line) := by
  unfold Performance.command
  split
  · exact h
  split
  · exact h.complain _
  · rename_i c _
    have hrequest : Onset script (p.request (.control id c)).1 :=
      ⟨h.waiting.control id c, h.cue, h.due⟩
    generalize p.request (.control id c) = requested at hrequest
    obtain ⟨p', answer⟩ := requested
    cases answer with
    | refused f => exact hrequest.complain _
    | said b =>
      cases b with
      | false => exact hrequest.complain _
      | true => exact hrequest
    | _ => exact hrequest

theorem Onset.commands (h : Onset script p) (input : String) :
    Onset script (p.commands id input) := by
  unfold Performance.commands
  have hfirst := h.complain commandsLine
  generalize p.complain commandsLine = p' at hfirst
  -- each line leaves a run that waits as it found it, so the lines are gone through one by one
  induction input.splitOn "\n" generalizing p' with
  | nil => exact hfirst
  | cons line lines ih => exact ih _ (hfirst.command line)

theorem Onset.finish (h : Onset script p) (run : RunId) : p.finish run =
    { p with stage := p.stage.settle Actors.cast none Rehearsal.enough } := by
  unfold Performance.finish awaitInterrupt awaitCue
  simp only [h.cue, h.due]

end

end Performance

/-! ## the run -/

namespace Program

def opening (l : Launch) (approved : List Category) (showsLog : Bool) (o : Outside) : Performance :=
  let p : Performance := ⟨⟨plan, system l approved, {}, [], 0, [], {}⟩, showsLog, o.cue, none, []⟩
  let p := p.log "macroguard"
    ("kill switch armed (Ctrl-C here; the hotkey is handled by the host) trigger=" ++
      l.config.killSwitchTrigger)
  if l.options.showCountdown then
    Performance.countdown (l.options.countdown.seconds + 1) l.options.countdown p
  else p

def instructed (l : Launch) (o : Outside) (p : Performance) : Performance :=
  if l.options.mode.isInteractive then p.commands l.script.id o.input else p

def closing (p : Performance) (run : RunId) : Transcript :=
  let printed := p.stage.cast.printed run
  match p.result? run with
  | none => ⟨[], p.err.reverse, printed, none⟩
  | some r => ⟨[summary r], p.err.reverse, printed, refusalOf r.outcome⟩

/-- a run was started, its worker came to the loaded script, and the transcript tells how it went on
from there -/
inductive ComesToScript (l : Launch) (approved : List Category) (showsLog : Bool) (o : Outside) :
    Transcript → Prop
  | intro {p : Performance} {r : Rehearsal Actors} {n rest : Nat}
      (started : (opening l approved showsLog o).request (.start l.script l.options) =
        (p, .started 0))
      (goes : Goes n (instructed l o p).stage r) (ready : Ready l.script r)
      (enough : rest + n = Rehearsal.enough) :
      ComesToScript l approved showsLog o
        (closing { instructed l o p with stage := r.settle Actors.cast none rest } 0)

section
variable {l : Launch} {approved : List Category} {showsLog : Bool} {o : Outside}

theorem perform_of_started {p : Performance}
    (h : (opening l approved showsLog o).request (.start l.script l.options) = (p, .started 0)) :
    perform l approved showsLog o = closing ((instructed l o p).finish 0) 0 := by
  unfold opening at h
  unfold perform
  dsimp only at h ⊢
  rw [h]
  rfl

/-- without an interrupt the countdown takes nothing but time -/
theorem vacant_opening (h : o.cue = none) :
    Vacant (opening l approved showsLog o).stage ∧ (opening l approved showsLog o).cue = none ∧
      (opening l approved showsLog o).due = none := by
  have hlater : ∃ t, opening l approved showsLog o =
      (⟨⟨plan, system l approved, {}, [], 0, [], {}⟩, showsLog, o.cue, none, []⟩ :
        Performance).later t := by
    unfold opening
    dsimp only
    rw [Performance.log_of_cue h]
    split
    · exact Performance.countdown_of_cue h rfl _ _
    · exact ⟨0, rfl⟩
  obtain ⟨t, ht⟩ := hlater
  rw [ht]
  exact ⟨⟨rfl, rfl, rfl, rfl, rfl, rfl, rfl⟩, h, rfl⟩

/-- **If the options pass and the source can be compiled, the run comes to its script.** -/
theorem comesToScript_perform {options : Options} {i j : Interpreter} (h : o.cue = none)
    (hoptions : l.options.check? = .ok options)
    (hload : j.load? l.script.source l.script.name = .ok i) :
    ComesToScript l approved showsLog o (perform l approved showsLog o) := by
  obtain ⟨hvacant, hcue, hdue⟩ : Vacant (opening l approved showsLog o).stage ∧ _ ∧ _ :=
    vacant_opening h
  obtain ⟨stage, hrequest, hwaiting⟩ := Rehearsal.waiting_of_start hvacant hoptions l.script
  have hstarted : (opening l approved showsLog o).request (.start l.script l.options) =
      ({ opening l approved showsLog o with stage := stage }, .started 0) := by
    unfold Performance.request
    rw [hrequest]
  have honset : Performance.Onset l.script
      (instructed l o { opening l approved showsLog o with stage := stage }) := by
    have honset : Performance.Onset l.script { opening l approved showsLog o with stage := stage } :=
      ⟨hwaiting, hcue, hdue⟩
    unfold instructed
    split
    · exact honset.commands _
    · exact honset
  obtain ⟨r, hgoes, hready⟩ := honset.waiting.goes hload
  have henough : 999999989 + 11 = Rehearsal.enough := rfl
  rw [perform_of_started hstarted, honset.finish, ← henough, hgoes]
  exact .intro hstarted hgoes hready henough

/-- a run that comes to its script gives up for its outcome only -/
theorem ComesToScript.refusal {t : Transcript} (h : ComesToScript l approved showsLog o t) :
    ∃ outcome, t.refusal = refusalOf outcome := by
  cases h with
  | intro started goes ready enough =>
    unfold closing
    split
    · exact ⟨.completed, rfl⟩
    · rename_i result _
      exact ⟨result.outcome, rfl⟩

end

/-! ## what a dry run looks at -/

def launchIn? (f : Files) (a : CommandLine) : Except Refusal Launch :=
  Launch.of? (Config.ofFiles? f a.config) (Script.ofFiles? f a.script) a

section
variable {f : Files} {a : CommandLine} {level : LogLevel} {o : Outside} {l : Launch}

theorem check?_again {options options' : Options} (h : options.check? = .ok options') :
    options'.check? = .ok options' := by
  unfold Options.check? at h
  split at h
  · rename_i hvalid
    cases h
    exact if_pos hvalid
  · cases h

theorem check?_of_options {options options' : Options} (h : Launch.options? options a = .ok options') :
    options'.check? = .ok options' := by
  unfold Launch.options? at h
  split at h
  · cases h
  generalize hcheck : Options.check? _ = checked at h
  cases checked with
  | error e => cases h
  | ok checked =>
    cases h
    exact check?_again hcheck

theorem options_of_launch {config : Except Fault Config} {script : Except Fault Script}
    (h : Launch.of? config script a = .ok l) : l.options.check? = .ok l.options := by
  unfold Launch.of? at h
  split at h
  · cases h
  split at h
  · cases h
  rename_i c _ _
  cases hoptions : Launch.options? c.options a with
  | error e =>
    rw [hoptions] at h
    cases h
  | ok options =>
    rw [hoptions] at h
    cases h
    exact check?_of_options hoptions

/-- a dry run asks for no more than a launch and a source that can be compiled -/
theorem dry_refusal_eq_none_iff : (runIn f { a with dryRun := true } level o).refusal = none ↔
    ∃ l i, launchIn? f a = .ok l ∧
      ({} : Interpreter).load? l.script.source l.script.name = .ok i := by
  have hlaunch : Launch.of? (Config.ofFiles? f a.config) (Script.ofFiles? f a.script)
      { a with dryRun := true } = launchIn? f a := rfl
  simp only [runIn, run, hlaunch]
  cases hl : launchIn? f a with
  | error e => simp
  | ok l =>
    unfold Launch.dryRun?
    cases hi : ({} : Interpreter).load? l.script.source l.script.name with
    | error e => simp [hi]
    | ok i => simp [hi]

theorem runIn_of_approved {approved : List Category} (hl : launchIn? f a = .ok l)
    (ha : l.approvals? a = .ok approved) :
    runIn f { a with dryRun := false } level o = perform l approved level.showsScript o := by
  have hlaunch : Launch.of? (Config.ofFiles? f a.config) (Script.ofFiles? f a.script)
      { a with dryRun := false } = .ok l := hl
  have happroved : l.approvals? { a with dryRun := false } = .ok approved := ha
  simp only [runIn, run, hlaunch, happroved, Bool.false_eq_true, ↓reduceIte]

theorem runIn_of_refused {e : Refusal} (hl : launchIn? f a = .ok l)
    (ha : l.approvals? a = .error e) :
    runIn f { a with dryRun := false } level o = { refusal := some e } := by
  have hlaunch : Launch.of? (Config.ofFiles? f a.config) (Script.ofFiles? f a.script)
      { a with dryRun := false } = .ok l := hl
  have happroved : l.approvals? { a with dryRun := false } = .error e := ha
  simp only [runIn, run, hlaunch, happroved, Bool.false_eq_true, ↓reduceIte]

end

/-! ## a directory with one script -/

theorem splitOnAux_of_notMem (l r : List Char) (h : '/' ∉ r) :
    (String.ofList (l ++ r)).splitOnAux "/" 0 ⟨String.utf8Len l⟩ 0 [] = [String.ofList (l ++ r)] := by
  -- `l` has been read and `r` has not; the position is what `l` takes in bytes
  induction r generalizing l with
  | nil =>
    rw [String.splitOnAux, if_pos ((String.atEnd_of_valid l []).2 rfl)]
    simpa using String.extract_of_valid [] l []
  | cons c r ih =>
    rw [List.mem_cons, not_or] at h
    have hend : ¬ String.Pos.Raw.atEnd (String.ofList (l ++ c :: r)) ⟨String.utf8Len l⟩ = true := by
      rw [String.atEnd_of_valid]
      exact List.cons_ne_nil c r
    have hget : String.Pos.Raw.get (String.ofList (l ++ c :: r)) ⟨String.utf8Len l⟩ = c :=
      String.get_of_valid l (c :: r)
    have hslash : ¬ (c == String.Pos.Raw.get "/" 0) = true := by
      rw [show String.Pos.Raw.get "/" 0 = '/' from by decide, beq_iff_eq]
      exact Ne.symm h.1
    have hpos : (⟨String.utf8Len l + c.utf8Size⟩ : String.Pos.Raw) = ⟨String.utf8Len (l ++ [c])⟩ := by
      simp
    have hback : (⟨String.utf8Len l⟩ : String.Pos.Raw).unoffsetBy 0 = ⟨String.utf8Len l⟩ := by simp
    have hlist : l ++ c :: r = (l ++ [c]) ++ r := by simp
    rw [String.splitOnAux, if_neg hend, hget, if_neg hslash, hback, String.next_of_valid l c r, hpos,
      hlist, ih (l ++ [c]) h.2]

/-- a text without a slash is a path of one part -/
theorem splitOn_of_notMem {s : String} (h : '/' ∉ s.toList) : s.splitOn "/" = [s] := by
  have hsplit := splitOnAux_of_notMem [] s.toList h
  rw [List.nil_append, String.ofList_toList] at hsplit
  rw [String.splitOn, if_neg (by decide)]
  exact hsplit

/-- a directory with nothing but a script that moves once -/
def moving : Files := ⟨"work", [(["job.lua"], "move(1, 1)".toUTF8)]⟩

/-- the script is asked for, with these categories -/
def move (allow : List String) : CommandLine := { script := "job.lua", allow := allow }

theorem walk?_job : moving.walk? "job.lua" = .ok (.inside ["job.lua"]) := by
  unfold Files.walk?
  rw [if_neg (by decide), if_neg (by decide), if_neg (by decide), splitOn_of_notMem (by decide)]
  rfl

theorem config_moving : Config.ofFiles? moving none = .ok {} := by
  have hcontains : moving.contains Config.defaultPath = false := by
    unfold Files.contains Files.walk?
    rw [if_neg (by decide), if_neg (by decide), if_neg (by decide), splitOn_of_notMem (by decide)]
    decide +kernel
  unfold Config.ofFiles?
  rw [hcontains]
  rfl

theorem script_moving :
    Script.ofFiles? moving "job.lua" = .ok ⟨"work/job.lua", "job", "move(1, 1)"⟩ := by
  have hplace : moving.placeOf "job.lua" = "work/job.lua" := by
    unfold Files.placeOf
    rw [walk?_job]
    decide +kernel
  have htext : moving.text? "job.lua" = .ok "move(1, 1)" := by
    have hdecode : String.fromUTF8? "move(1, 1)".toUTF8 = some "move(1, 1)" := by decide +kernel
    unfold Files.text?
    rw [walk?_job]
    change decodeFile "move(1, 1)".toUTF8 = _
    unfold decodeFile
    rw [hdecode]
  have hname : Script.nameOf "job.lua" = "job" := by
    unfold Script.nameOf Path.stem? Path.parts
    rw [splitOn_of_notMem (by decide)]
    decide +kernel
  unfold Script.ofFiles? Script.ofText?
  rw [hplace, htext, hname]

/-- a dry run of the script is not refused, whatever is to be approved -/
theorem dry_moving (allow : List String) (level : LogLevel) (o : Outside) :
    (runIn moving { move allow with dryRun := true } level o).refusal = none := by
  have hchecked : ({} : Config).options.check? = .ok ({} : Config).options :=
    if_pos (by decide +kernel)
  have hoptions : Launch.options? ({} : Config).options (move allow) =
      ({} : Config).options.check?.mapError .options := rfl
  have hlaunch : launchIn? moving (move allow) =
      .ok ⟨{}, ⟨"work/job.lua", "job", "move(1, 1)"⟩, ({} : Config).options⟩ := by
    rw [launchIn?, show (move allow).config = none from rfl, config_moving,
      show (move allow).script = "job.lua" from rfl, script_moving, Launch.of?, hoptions, hchecked]
    rfl
  have hcompiles : Interpreter.compiles "move(1, 1)" "job" = true := by decide +kernel
  unfold Interpreter.compiles at hcompiles
  rw [dry_refusal_eq_none_iff]
  cases hload : ({} : Interpreter).load? "move(1, 1)" "job" with
  | error e =>
    rw [hload] at hcompiles
    cases hcompiles
  | ok i => exact ⟨_, i, hlaunch, hload⟩

/-! ## what a dry run foretells -/

section
variable {f : Files} {a : CommandLine} {level : LogLevel} {o : Outside}

/-- the arguments and the files lead to a run that comes to its script -/
def Passes (f : Files) (a : CommandLine) (level : LogLevel) (o : Outside) : Prop :=
  ∃ l approved, launchIn? f a = .ok l ∧ l.approvals? a = .ok approved ∧
    ComesToScript l approved level.showsScript o (runIn f { a with dryRun := false } level o)

/-- what is known of a run after a dry run that is not refused -/
structure Foretold (f : Files) (a : CommandLine) (level : LogLevel) (o : Outside) : Prop where
  passes : (∀ name ∈ a.allow, Category.Known name) → Passes f a level o
  stops : ∀ known name rest, a.allow = known ++ name :: rest →
    (∀ x ∈ known, Category.Known x) → ¬ Category.Known name →
    runIn f { a with dryRun := false } level o =
      { refusal := some (.category (.category (Text.keyword name))) }

/-- **After a dry run that is not refused, only the names of categories can keep the run from its
script.** -/
theorem foretold (hcue : o.cue = none)
    (hdry : (runIn f { a with dryRun := true } level o).refusal = none) :
    Foretold f a level o := by
  obtain ⟨l, i, hl, hi⟩ := dry_refusal_eq_none_iff.1 hdry
  rcases categories?_cases a.allow with
    ⟨cs, hcs, hknown, -⟩ | ⟨known, name, rest, hsplit, hk, hn, he⟩
  · have happroved : l.approvals? a = .ok (l.config.preauthorized ++ cs) := by
      unfold Launch.approvals?
      rw [hcs]
      rfl
    refine ⟨fun _ => ⟨l, _, hl, happroved, ?_⟩, fun known name rest hsplit _ hn => ?_⟩
    · rw [runIn_of_approved hl happroved]
      exact comesToScript_perform hcue (options_of_launch hl) hi
    · rw [hsplit] at hknown
      exact absurd (hknown name (by simp)) hn
  · have hrefused : l.approvals? a = .error (.category (.category (Text.keyword name))) := by
      unfold Launch.approvals?
      rw [he]
      rfl
    refine ⟨fun hknown => ?_, fun known' name' rest' hsplit' hk' hn' => ?_⟩
    · rw [hsplit] at hknown
      exact absurd (hknown name (by simp)) hn
    · rw [Rule.unknown_unique (hsplit'.symm.trans hsplit) hk' hk hn' hn]
      exact runIn_of_refused hl hrefused

end

theorem foretold_moving :
    ({} : Outside).cue = none ∧
      (runIn moving { move ["rapid_input"] with dryRun := true } .warn {}).refusal = none ∧
      Passes moving (move ["rapid_input"]) .warn {} ∧
      (runIn moving { move ["rapid_input", "everything"] with dryRun := true } .warn {}).refusal =
        none ∧
      runIn moving { move ["rapid_input", "everything"] with dryRun := false } .warn {} =
        { refusal := some (.category (.category "everything")) } := by
  have hknown : ∀ name ∈ ["rapid_input"], Category.Known name := by
    rw [List.forall_mem_singleton]
    exact ⟨.rapidInput, by decide +kernel⟩
  have hunknown : ¬ Category.Known "everything" := by
    rintro ⟨c, hc⟩
    cases c with
    | textInjection => exact absurd hc (by decide +kernel)
    | rapidInput => exact absurd hc (by decide +kernel)
  have hword : Text.keyword "everything" = "everything" := by decide +kernel
  refine ⟨rfl, dry_moving _ _ _, (foretold rfl (dry_moving _ _ _)).passes hknown, dry_moving _ _ _,
    ?_⟩
  have hstops := (foretold rfl (dry_moving _ .warn {})).stops ["rapid_input"] "everything" [] rfl
    hknown hunknown
  rwa [hword] at hstops

/-- a dry run that is not refused does not foretell that the run comes to its script -/
theorem not_passes_of_dry : ¬ ∀ f a level o, o.cue = none →
    (runIn f { a with dryRun := true } level o).refusal = none → Passes f a level o := by
  intro h
  obtain ⟨l, approved, -, happroved, -⟩ :=
    h moving (move ["everything"]) .warn {} rfl (dry_moving _ _ _)
  have hrefused : (categories? ["everything"]).isOk = false := by decide +kernel
  unfold Launch.approvals? at happroved
  cases hcategories : categories? (move ["everything"]).allow with
  | error e =>
    rw [hcategories] at happroved
    cases happroved
  | ok cs =>
    rw [show categories? ["everything"] = .ok cs from hcategories] at hrefused
    cases hrefused

end Program

end ScriptGuard
