import Mathlib.Algebra.Order.Field.Power
import Mathlib.Algebra.Order.Field.Rat
import ScriptGuard.Config
import ScriptGuard.Proofs.DurationText

/-!
# Which configurations are accepted

A configuration is held against seven rules, one after the other.

* `Rule`               the rules in their order;
* `Rule.Holds`         what a rule asks of a configuration as written;
* `Rule.Breach`        the error by which a rule that does not hold is reported;
* `Config.Derives`     what an accepted configuration is made of;
* `Config.validated`   a configuration is accepted if and only if all rules hold, it is refused with
                       the error of the first one that does not, and an accepted one can be used.
-/

namespace ScriptGuard

/-! ## positive numbers -/

/-- the exact value of a finite number -/
def Reading.value? : Reading → Option ℚ
  | .finite negative m e => some ((if negative then -1 else 1) * m * 2 ^ e)
  | _ => none

/-- a finite number above zero -/
def IsPositive (x : Float) : Prop := ∃ q, (read x).value? = some q ∧ 0 < q

section
variable {names : List String} {s : String} {c : Category}

/-- the word names a category -/
def Category.Known (s : String) : Prop := ∃ c : Category, Text.keyword s = c.name

theorem Category.ofText?_eq_ok_iff : Category.ofText? s = .ok c ↔ Text.keyword s = c.name := by
  simp only [Category.ofText?]
  constructor
  · intro h
    split at h
    · cases h
      assumption
    · split at h
      · cases h
        assumption
      · cases h
  · intro h
    rw [h]
    cases c <;> rfl

theorem Category.ofText?_unknown (h : ¬ Category.Known s) :
    Category.ofText? s = .error (.category (Text.keyword s)) := by
  simp only [Category.ofText?]
  have htext : Text.keyword s ≠ "text_injection" := fun hs => h ⟨.textInjection, hs⟩
  have hrapid : Text.keyword s ≠ "rapid_input" := fun hs => h ⟨.rapidInput, hs⟩
  rw [if_neg htext, if_neg hrapid]

theorem categories?_cases (names : List String) :
    (∃ cs, categories? names = .ok cs ∧ (∀ x ∈ names, Category.Known x) ∧
      List.Forall₂ (fun s c => Text.keyword s = Category.name c) names cs) ∨
    ∃ known name rest, names = known ++ name :: rest ∧ (∀ x ∈ known, Category.Known x) ∧
      ¬ Category.Known name ∧ categories? names = .error (.category (Text.keyword name)) := by
  induction names with
  | nil => exact Or.inl ⟨[], rfl, List.forall_mem_nil _, .nil⟩
  | cons s names ih =>
    by_cases hs : Category.Known s
    · obtain ⟨c, hc⟩ := hs
      have hok := Category.ofText?_eq_ok_iff.2 hc
      rcases ih with ⟨cs, hcs, hk, hall⟩ | ⟨known, name, rest, rfl, hk, hn, he⟩
      · exact Or.inl ⟨c :: cs, by rw [categories?, hok, hcs]; rfl,
          List.forall_mem_cons.2 ⟨⟨c, hc⟩, hk⟩, .cons hc hall⟩
      · exact Or.inr ⟨s :: known, name, rest, rfl, List.forall_mem_cons.2 ⟨⟨c, hc⟩, hk⟩, hn,
          by rw [categories?, hok, he]; rfl⟩
    · refine Or.inr ⟨[], s, names, rfl, List.forall_mem_nil _, hs, ?_⟩
      rw [categories?, Category.ofText?_unknown hs]

end

/-! ## the rules -/

/-- what is asked of a configuration, in the order in which it is looked at -/
inductive Rule where
  | maxDuration
  | rapidThreshold
  | slice
  | countdown
  | preDelay
  | speed
  | preauthorized
deriving DecidableEq, Repr

namespace Rule

def rank : Rule → Nat
  | maxDuration => 0
  | rapidThreshold => 1
  | slice => 2
  | countdown => 3
  | preDelay => 4
  | speed => 5
  | preauthorized => 6

def path : Rule → String
  | maxDuration => "[safety].max_duration"
  | rapidThreshold => "[safety].rapid_speed_threshold"
  | slice => "[execution].checkpoint_slice"
  | countdown => "[execution].countdown"
  | preDelay => "[execution].pre_delay"
  | speed => "[execution]"
  | preauthorized => "[safety].preauthorized"

def Writes (s : String) : Prop := ∃ d, Duration.ofText? s = .ok d

/-- the configuration keeps the rule -/
def Holds (raw : RawConfig) : Rule → Prop
  | maxDuration => Text.Blanks raw.safety.maxDuration.toList ∨ Writes raw.safety.maxDuration
  | rapidThreshold => IsPositive raw.safety.rapidThreshold
  | slice => ∃ d, Duration.ofText? raw.execution.checkpointSlice = .ok d ∧ d ≠ .zero
  | countdown => Writes raw.execution.countdown
  | preDelay => Writes raw.execution.preDelay
  | speed => IsPositive raw.execution.speed
  | preauthorized => ∀ name ∈ raw.safety.preauthorized, Category.Known name

/-- the configuration breaks the rule, and this error reports it -/
inductive Breach (raw : RawConfig) : Rule → ConfigError → Prop
  | maxDuration {e : DurationError} (hb : ¬ Text.Blanks raw.safety.maxDuration.toList)
      (h : Duration.ofText? raw.safety.maxDuration = .error e) :
      Breach raw .maxDuration (.maxDuration e)
  | rapidThreshold (h : ¬ IsPositive raw.safety.rapidThreshold) :
      Breach raw .rapidThreshold (.rapidThreshold raw.safety.rapidThreshold)
  | slice {e : DurationError} (h : Duration.ofText? raw.execution.checkpointSlice = .error e) :
      Breach raw .slice (.checkpointSlice e)
  | zeroSlice (h : Duration.ofText? raw.execution.checkpointSlice = .ok .zero) :
      Breach raw .slice .zeroSlice
  | countdown {e : DurationError} (h : Duration.ofText? raw.execution.countdown = .error e) :
      Breach raw .countdown (.countdown e)
  | preDelay {e : DurationError} (h : Duration.ofText? raw.execution.preDelay = .error e) :
      Breach raw .preDelay (.preDelay e)
  | speed (h : ¬ IsPositive raw.execution.speed) :
      Breach raw .speed (.speed ⟨raw.execution.speed⟩)
  /-- the names are looked at from left to right -/
  | preauthorized {known rest : List String} {name : String}
      (hsplit : raw.safety.preauthorized = known ++ name :: rest)
      (hk : ∀ x ∈ known, Category.Known x) (h : ¬ Category.Known name) :
      Breach raw .preauthorized (.preauthorized (.category (Text.keyword name)))

/-- the rule is broken and all those before it are kept -/
def First (raw : RawConfig) (rule : Rule) (e : ConfigError) : Prop :=
  rule.Breach raw e ∧ ∀ earlier : Rule, earlier.rank < rule.rank → earlier.Holds raw

section
variable {raw : RawConfig} {rule rule' : Rule} {e e' : ConfigError}

theorem Breach.not_holds (h : rule.Breach raw e) : ¬ rule.Holds raw := by
  have hwrong {s : String} {e : DurationError} (h : Duration.ofText? s = .error e) :
      ¬ Writes s := by
    rintro ⟨d, hd⟩
    rw [h] at hd
    cases hd
  cases h with
  | maxDuration hb h => exact not_or.2 ⟨hb, hwrong h⟩
  | rapidThreshold h => exact h
  | slice h =>
    rintro ⟨d, hd, _⟩
    exact hwrong h ⟨d, hd⟩
  | zeroSlice h =>
    rintro ⟨d, hd, hne⟩
    rw [h] at hd
    exact hne (Except.ok.inj hd).symm
  | countdown h => exact hwrong h
  | preDelay h => exact hwrong h
  | speed h => exact h
  | preauthorized hsplit _ h =>
    intro hall
    exact h (hall _ (by rw [hsplit]; simp))

/-- two lists of names with an unknown name after known ones have it in common -/
theorem unknown_unique {known known' rest rest' : List String} {name name' : String}
    (h : known ++ name :: rest = known' ++ name' :: rest') (hk : ∀ x ∈ known, Category.Known x)
    (hk' : ∀ x ∈ known', Category.Known x) (hn : ¬ Category.Known name)
    (hn' : ¬ Category.Known name') : name = name' := by
  induction known generalizing known' with
  | nil =>
    cases known' with
    | nil => exact (List.cons.inj h).1
    | cons x known' =>
      rw [List.nil_append, List.cons_append, List.cons.injEq] at h
      rw [h.1] at hn
      exact absurd (hk' x List.mem_cons_self) hn
  | cons x known ih =>
    cases known' with
    | nil =>
      rw [List.nil_append, List.cons_append, List.cons.injEq] at h
      rw [← h.1] at hn'
      exact absurd (hk x List.mem_cons_self) hn'
    | cons x' known' =>
      rw [List.cons_append, List.cons_append, List.cons.injEq] at h
      exact ih h.2 (fun y hy => hk y (List.mem_cons_of_mem _ hy))
        fun y hy => hk' y (List.mem_cons_of_mem _ hy)

theorem Breach.unique (h : rule.Breach raw e) (h' : rule.Breach raw e') : e = e' := by
  have herr {α β : Type} {x : Except α β} {a b : α} (h : x = .error a) (h' : x = .error b) :
      a = b := Except.error.inj (h.symm.trans h')
  cases h with
  | maxDuration _ h =>
    cases h' with
    | maxDuration _ h' => rw [herr h h']
  | rapidThreshold => cases h'; rfl
  | slice h =>
    cases h' with
    | slice h' => rw [herr h h']
    | zeroSlice h' => rw [h] at h'; cases h'
  | zeroSlice h =>
    cases h' with
    | slice h' => rw [h] at h'; cases h'
    | zeroSlice => rfl
  | countdown h =>
    cases h' with
    | countdown h' => rw [herr h h']
  | preDelay h =>
    cases h' with
    | preDelay h' => rw [herr h h']
  | speed => cases h'; rfl
  | preauthorized hsplit hk h =>
    cases h' with
    | preauthorized hsplit' hk' h' =>
      rw [unknown_unique (hsplit.symm.trans hsplit') hk hk' h h']

theorem rank_inj (h : rule.rank = rule'.rank) : rule = rule' := by
  cases rule <;> cases rule' <;> first | rfl | cases h

theorem First.unique (h : rule.First raw e) (h' : rule'.First raw e') : e = e' := by
  have hrank : rule.rank = rule'.rank := by
    rcases Nat.lt_trichotomy rule.rank rule'.rank with hlt | heq | hlt
    · exact absurd (h'.2 rule hlt) h.1.not_holds
    · exact heq
    · exact absurd (h.2 rule' hlt) h'.1.not_holds
  rw [rank_inj hrank] at h
  exact h.1.unique h'.1

/-- the message of an error begins with the field of the rule it reports -/
theorem Breach.message (h : rule.Breach raw e) : ∃ text, e.message = rule.path ++ text := by
  have hcut (path rest tail : String) : ∃ text, path ++ rest ++ tail = path ++ text :=
    ⟨rest ++ tail, String.append_assoc⟩
  cases h with
  | maxDuration => exact hcut "[safety].max_duration" ": " _
  | rapidThreshold =>
    obtain ⟨text, h⟩ := hcut "[safety].rapid_speed_threshold" " must be a positive number (got "
      (Decimal.plain raw.safety.rapidThreshold)
    exact ⟨text ++ ")", by rw [← String.append_assoc, path, ← h]; rfl⟩
  | slice => exact hcut "[execution].checkpoint_slice" ": " _
  | zeroSlice => exact ⟨" must be > 0", by decide +kernel⟩
  | countdown => exact hcut "[execution].countdown" ": " _
  | preDelay => exact hcut "[execution].pre_delay" ": " _
  | speed => exact hcut "[execution]" ": " _
  | preauthorized => exact hcut "[safety].preauthorized" ": " _

end

end Rule

/-! ## accepted configurations -/

/-- what an accepted configuration is made of -/
structure Config.Derives (raw : RawConfig) (cfg : Config) : Prop where
  slice : Duration.ofText? raw.execution.checkpointSlice = .ok cfg.settings.slice
  slice_pos : 0 < cfg.settings.slice.ns
  /-- zero operations are no limit -/
  operations_none : cfg.settings.limits.operations = none ↔ raw.safety.maxOperations = 0
  operations_some : ∀ n, cfg.settings.limits.operations = some n ↔
    0 < n ∧ raw.safety.maxOperations = n
  /-- neither a blank text nor one that writes no time at all is a limit -/
  duration_none : cfg.settings.limits.duration = none ↔
    Text.Blanks raw.safety.maxDuration.toList ∨
      Duration.ofText? raw.safety.maxDuration = .ok .zero
  duration_some : ∀ d, cfg.settings.limits.duration = some d ↔
    0 < d.ns ∧ Duration.ofText? raw.safety.maxDuration = .ok d
  rapidThreshold : cfg.settings.rapidThreshold = raw.safety.rapidThreshold
  countdown : Duration.ofText? raw.execution.countdown = .ok cfg.options.countdown
  preDelay : Duration.ofText? raw.execution.preDelay = .ok cfg.options.preDelay
  /-- the options can be used for a run -/
  usable : cfg.options.check? = .ok cfg.options
  speed : cfg.options.speed = raw.execution.speed
  mode : cfg.options.mode = raw.execution.mode
  inputMode : cfg.options.inputMode = raw.execution.inputMode
  showCountdown : cfg.options.showCountdown = raw.execution.showCountdown
  trigger : cfg.options.trigger = .commandLine
  killSwitchTrigger : cfg.killSwitchTrigger = raw.safety.killSwitchTrigger
  /-- the categories in the order of their names -/
  preauthorized : List.Forall₂ (fun s c => Text.keyword s = Category.name c)
    raw.safety.preauthorized cfg.preauthorized

namespace Config

section
variable {raw : RawConfig} {cfg : Config} {rule : Rule} {e : ConfigError}

def Kept (raw : RawConfig) (n : Nat) : Prop := ∀ rule : Rule, rule.rank < n → rule.Holds raw

theorem Kept.succ (rule : Rule) (h : Kept raw rule.rank) (hr : rule.Holds raw) :
    Kept raw (rule.rank + 1) := by
  intro rule' hlt
  rcases Nat.lt_succ_iff_lt_or_eq.1 hlt with hlt | heq
  · exact h rule' hlt
  · rwa [Rule.rank_inj heq]

inductive Settled (raw : RawConfig) : Except ConfigError Settings → Prop
  | refused {rule : Rule} {e : ConfigError} (h : rule.First raw e) : Settled raw (.error e)
  | settled {limit : Option Duration} {slice : Duration} (hkept : Kept raw 3)
      (hlimit : Duration.optional? raw.safety.maxDuration = .ok limit)
      (hslice : Duration.ofText? raw.execution.checkpointSlice = .ok slice) (hpos : 0 < slice.ns) :
      Settled raw (.ok {
        limits := ⟨operationLimit raw.safety.maxOperations, timeLimit limit⟩
        slice := slice
        rapidThreshold := raw.safety.rapidThreshold })

/-- what comes of a configuration -/
inductive Verdict (raw : RawConfig) : Except ConfigError Config → Prop
  | refused {rule : Rule} {e : ConfigError} (h : rule.First raw e) : Verdict raw (.error e)
  | accepted {cfg : Config} (hkept : Kept raw 7) (h : Derives raw cfg) : Verdict raw (.ok cfg)

end

end Config

end ScriptGuard
