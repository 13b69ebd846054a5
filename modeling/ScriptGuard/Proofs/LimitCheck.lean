import ScriptGuard.Options

/-!
# The check of the limits is a comparison of whole numbers

The number of the attempted operation is kept within 64 bits.  Only the last number is touched by
this: there is no operation after number `18446744073709551615`, and the attempt that follows it is
counted as that one again.

* `Limits.Finds`    what the limits say of an attempt with a given number, in numbers of any size;
* `Limits.Tighter`  limits that allow no more than others do;
* `Limits.checked`  the check says the same below the last number, and what it reports stays
                    reported; `not_finds_of_last` says why the last number is left out.
-/

namespace ScriptGuard

namespace Limits

/-- what the limits say of the attempted operation with this number, after this time; the count is
looked at first -/
inductive Finds (l : Limits) (attempted : Nat) (elapsed : Duration) : Option Violation → Prop
  | count {limit : Nat} (hl : l.operations = some limit) (h : limit < attempted) :
    Finds l attempted elapsed (some (.operations limit attempted))
  | time {limit : Duration} (hc : ∀ m, l.operations = some m → attempted ≤ m)
    (hl : l.duration = some limit) (h : limit < elapsed) :
    Finds l attempted elapsed (some (.duration limit elapsed))
  | nothing (hc : ∀ m, l.operations = some m → attempted ≤ m)
    (ht : ∀ d, l.duration = some d → elapsed ≤ d) : Finds l attempted elapsed none

/-- every bound that is set is set here too, and is not greater here -/
structure Tighter (tight l : Limits) : Prop where
  operations : ∀ m, l.operations = some m → ∃ m' ≤ m, tight.operations = some m'
  duration : ∀ d, l.duration = some d → ∃ d' ≤ d, tight.duration = some d'

section
variable {l tight : Limits} {n k m : Nat} {t u : Duration} {v w : Option Violation}

/-! ## what is found -/

theorem Finds.unique (hv : l.Finds k t v) (hw : l.Finds k t w) : v = w := by
  cases hv with
  | count hl h =>
    cases hw with
    | count hl' => rw [hl, Option.some.injEq] at hl'; rw [hl']
    | time hc => exact absurd h (Nat.not_lt.2 (hc _ hl))
    | nothing hc => exact absurd h (Nat.not_lt.2 (hc _ hl))
  | time hc hl h =>
    cases hw with
    | count hl' h' => exact absurd h' (Nat.not_lt.2 (hc _ hl'))
    | time _ hl' => rw [hl, Option.some.injEq] at hl'; rw [hl']
    | nothing _ ht => exact absurd h (Nat.not_lt.2 (ht _ hl))
  | nothing hc ht =>
    cases hw with
    | count hl' h' => exact absurd h' (Nat.not_lt.2 (hc _ hl'))
    | time _ hl' h' => exact absurd h' (Nat.not_lt.2 (ht _ hl'))
    | nothing => rfl

theorem Finds.isSome_iff (h : l.Finds k t v) : v.isSome = true ↔
    (∃ m, l.operations = some m ∧ m < k) ∨ ∃ d, l.duration = some d ∧ d < t := by
  cases h with
  | count hl h => exact ⟨fun _ => Or.inl ⟨_, hl, h⟩, fun _ => rfl⟩
  | time _ hl h => exact ⟨fun _ => Or.inr ⟨_, hl, h⟩, fun _ => rfl⟩
  | nothing hc ht =>
    refine ⟨nofun, ?_⟩
    rintro (⟨m, hl, h⟩ | ⟨d, hl, h⟩)
    · exact absurd h (Nat.not_lt.2 (hc m hl))
    · exact absurd h (Nat.not_lt.2 (ht d hl))

theorem Finds.isSome_mono (hv : l.Finds k t v) (hw : tight.Finds m u w) (htight : tight.Tighter l)
    (hk : k ≤ m) (ht : t ≤ u) (h : v.isSome = true) : w.isSome = true := by
  rw [hv.isSome_iff] at h
  rw [hw.isSome_iff]
  rcases h with ⟨a, hl, hlt⟩ | ⟨d, hl, hlt⟩
  · obtain ⟨a', ha, hl'⟩ := htight.operations a hl
    exact Or.inl ⟨a', hl', Nat.lt_of_le_of_lt ha (Nat.lt_of_lt_of_le hlt hk)⟩
  · obtain ⟨d', hd, hl'⟩ := htight.duration d hl
    exact Or.inr ⟨d', hl', Nat.lt_of_le_of_lt hd (Nat.lt_of_lt_of_le hlt ht)⟩

/-! ## the check -/

theorem checkTime_finds (hc : ∀ m, l.operations = some m → k ≤ m) :
    l.Finds k t (l.checkTime t) := by
  unfold checkTime
  split
  · next d hd =>
    split
    · next h => exact .time hc hd h
    · next h =>
      refine .nothing hc fun d' hd' => ?_
      rw [hd, Option.some.injEq] at hd'
      exact hd' ▸ Nat.le_of_not_lt h
  · next hd => exact .nothing hc fun d' hd' => by rw [hd] at hd'; cases hd'

theorem check_finds (l : Limits) (n : Nat) (t : Duration) :
    l.Finds (nextIndex n) t (l.check n t) := by
  unfold check checkCount
  split
  · next m hm =>
    split
    · next h => exact .count hm h
    · next h =>
      refine checkTime_finds fun m' hm' => ?_
      rw [hm, Option.some.injEq] at hm'
      exact hm' ▸ Nat.le_of_not_lt h
  · next hm => exact checkTime_finds fun m' hm' => by rw [hm] at hm'; cases hm'

theorem check_eq_iff : l.check n t = v ↔ l.Finds (nextIndex n) t v :=
  ⟨fun h => h ▸ check_finds l n t, fun h => (check_finds l n t).unique h⟩

theorem nextIndex_of_lt (h : n < 18446744073709551615) : nextIndex n = n + 1 :=
  Nat.min_eq_left h

theorem nextIndex_mono (h : n ≤ m) : nextIndex n ≤ nextIndex m := by
  unfold nextIndex
  omega

end

/-- the check after `n` operations says what is so in numbers of any size; at the last number it
says this of the last operation once more -/
structure Checked (l : Limits) (n : Nat) (t : Duration) : Prop where
  below : n < 18446744073709551615 → ∀ v, l.check n t = v ↔ l.Finds (n + 1) t v
  last : n = 18446744073709551615 → ∀ v, l.check n t = v ↔ l.Finds n t v
  permanent : (l.check n t).isSome = true → ∀ (tight : Limits) (n' : Nat) (t' : Duration),
    tight.Tighter l → n ≤ n' → t ≤ t' → (tight.check n' t').isSome = true

/-- **The check agrees with unbounded arithmetic**, the last number apart, and a violation is
permanent. -/
theorem checked (l : Limits) (n : Nat) (t : Duration) : l.Checked n t where
  below h v := by rw [check_eq_iff, nextIndex_of_lt h]
  last h v := by
    subst h
    exact check_eq_iff
  permanent h tight n' t' htight hn ht :=
    (check_finds l n t).isSome_mono (check_finds tight n' t') htight (nextIndex_mono hn) ht h

theorem not_finds_of_last :
    ¬ ∀ (l : Limits) (n : Nat) (t : Duration) (v : Option Violation),
      n ≤ 18446744073709551615 → (∀ m, l.operations = some m → m ≤ 18446744073709551615) →
      (l.check n t = v ↔ l.Finds (n + 1) t v) := by
  intro h
  let l : Limits := ⟨some 18446744073709551615, none⟩
  have hbound : ∀ m, l.operations = some m → m ≤ 18446744073709551615 := by
    rintro m ⟨⟩
    exact Nat.le_refl _
  have hfinds : l.Finds (18446744073709551615 + 1) .zero
      (some (.operations 18446744073709551615 18446744073709551616)) :=
    .count rfl (Nat.lt_succ_self _)
  have hcheck := (h l _ .zero _ (Nat.le_refl _) hbound).2 hfinds
  cases hcheck

end Limits

end ScriptGuard
