import Mathlib.Data.List.DropRight
import Mathlib.Data.Nat.Digits.Defs
import ScriptGuard.Duration

/-!
# Which texts write durations

* `Text.cutAt?`            a text cut at a byte, if that is the border of two characters;
* `Text.lower_eq_iff`      no character beyond ASCII turns into a letter of a unit in lower case;
* `Duration.TimeUnit`      the four units, with their words, their lengths and what fits them;
* `Duration.Writes n u s`  the text `s` writes `n` of the unit `u`: digits, blanks and the word of
                           the unit in any letter case, with blanks around the whole;
* `Duration.legible`       a text is read as a duration if and only if it writes one that fits, and
                           it is read as that one.
-/

namespace ScriptGuard

namespace Text

def Blanks (s : List Char) : Prop := ∀ c ∈ s, isBlank c = true

def unitLetters : List Char := ['h', 'm', 's']

/-- the first `n` bytes of a text and the rest, unless the cut would go through a character or
lie beyond the end -/
def cutAt? : Nat → List Char → Option (List Char × List Char)
  | 0, s => some ([], s)
  | _ + 1, [] => none
  | n + 1, c :: s =>
    if c.utf8Size ≤ n + 1 then (cutAt? (n + 1 - c.utf8Size) s).map fun p => (c :: p.1, p.2)
    else none

section
variable {s t left right w before digits rest : List Char} {c d : Char} {n : Nat}

/-! ## trimming -/

theorem trim_eq (s : List Char) : trim s = (s.dropWhile isBlank).rdropWhile isBlank := rfl

theorem trim_append (hl : Blanks left) (hr : Blanks right) :
    trim (left ++ t ++ right) = trim t := by
  have hback : ∀ c ∈ right.reverse, isBlank c = true := fun c hc => hr c (List.mem_reverse.1 hc)
  rw [trim_eq, trim_eq, List.append_assoc, List.dropWhile_append_of_pos hl, List.dropWhile_append]
  split
  · rename_i ht
    rw [List.isEmpty_iff.1 ht, List.dropWhile_eq_nil_iff.2 hr]
  · rw [List.rdropWhile, List.reverse_append, List.dropWhile_append_of_pos hback, List.rdropWhile]

theorem exists_trim (s : List Char) :
    ∃ left right, Blanks left ∧ Blanks right ∧ s = left ++ trim s ++ right := by
  refine ⟨s.takeWhile isBlank, (s.dropWhile isBlank).rtakeWhile isBlank,
    fun _ => List.mem_takeWhile_imp, fun _ => List.mem_rtakeWhile_imp, ?_⟩
  rw [List.append_assoc, trim_eq, List.rdropWhile_append_rtakeWhile,
    List.takeWhile_append_dropWhile]

theorem trim_eq_self (hs : s ≠ []) (hh : isBlank (s.head hs) = false)
    (hl : isBlank (s.getLast hs) = false) : trim s = s := by
  obtain ⟨c, rest, rfl⟩ := List.exists_cons_of_ne_nil hs
  rw [trim_eq, List.dropWhile_cons_of_neg (by simpa using hh), List.rdropWhile_eq_self_iff]
  exact fun _ => by simpa using hl

/-! ## cuts -/

theorem utf8Size_of_isDigit (h : c.isDigit = true) : c.utf8Size = 1 := by
  simp only [Char.isDigit, Bool.and_eq_true, decide_eq_true_eq] at h
  rw [Char.utf8Size_eq_one_iff]
  exact UInt32.le_trans h.2 (by decide)

theorem cutAt?_digits (h : ∀ c ∈ digits, c.isDigit = true) :
    cutAt? digits.length (digits ++ rest) = some (digits, rest) := by
  induction digits with
  | nil => simp [cutAt?]
  | cons c digits ih =>
    rw [List.forall_mem_cons] at h
    rw [List.length_cons, List.cons_append, cutAt?, utf8Size_of_isDigit h.1,
      if_pos (Nat.le_add_left _ _), Nat.add_sub_cancel, ih h.2, Option.map_some]

/-- the place of the first character that is no digit, taken for a number of bytes -/
theorem cutAt?_findIdx (s : List Char) : cutAt? (s.findIdx fun c => !c.isDigit) s =
    some (s.takeWhile Char.isDigit, s.dropWhile Char.isDigit) := by
  have hlen : s.findIdx (fun c => !c.isDigit) = (s.takeWhile Char.isDigit).length := by
    rw [List.takeWhile_eq_take_findIdx_not, List.length_take, Nat.min_eq_left List.findIdx_le_length]
  have hcut : cutAt? (s.takeWhile Char.isDigit).length
      (s.takeWhile Char.isDigit ++ s.dropWhile Char.isDigit) =
      some (s.takeWhile Char.isDigit, s.dropWhile Char.isDigit) :=
    cutAt?_digits fun _ => List.mem_takeWhile_imp
  rwa [List.takeWhile_append_dropWhile, ← hlen] at hcut

/-! ## lower case -/

theorem eq_of_toLower (h : c.toLower = d) : c = d ∨ c.toNat + 32 = d.toNat := by
  unfold Char.toLower at h
  split at h
  · rename_i hc
    have hz : c.val.toNat ≤ 90 := hc.2
    have h32 : ('a'.val - 'A'.val).toNat = 32 := rfl
    right
    subst h
    simp only [Char.toNat, UInt32.toNat_add, h32]
    omega
  · exact Or.inl h

theorem toLower_of_le (h : 0x80 ≤ c.toNat) : c.toLower = c := by
  unfold Char.toLower
  rw [dif_neg]
  rintro ⟨_, hz⟩
  have hz : c.toNat ≤ 90 := hz
  omega

/-- the units are written with these letters and with the capitals -/
theorem ascii_of_toLower (h : c.toLower ∈ unitLetters) :
    c = 'h' ∨ c = 'm' ∨ c = 's' ∨ c = 'H' ∨ c = 'M' ∨ c = 'S' := by
  have hcap {d e : Char} (h : c.toNat + 32 = d.toNat) (he : e.toNat + 32 = d.toNat) : c = e :=
    Char.toNat_inj.1 (by omega)
  simp only [unitLetters, List.mem_cons, List.not_mem_nil, or_false] at h
  rcases h with h | h | h <;> rcases eq_of_toLower h with h | h
  · exact Or.inl h
  · exact Or.inr (Or.inr (Or.inr (Or.inl (hcap h rfl))))
  · exact Or.inr (Or.inl h)
  · exact Or.inr (Or.inr (Or.inr (Or.inr (Or.inl (hcap h rfl)))))
  · exact Or.inr (Or.inr (Or.inl h))
  · exact Or.inr (Or.inr (Or.inr (Or.inr (Or.inr (hcap h rfl)))))

theorem toNat_of_ofNat (h : Char.ofNat n = d) (hd : d ∈ unitLetters) : d.toNat = n := by
  subst h
  by_cases hn : n.isValidChar
  · rw [Char.ofNat, dif_pos hn]
    rfl
  · rw [Char.ofNat, dif_neg hn] at hd
    exact absurd hd (by decide)

theorem lowerRuns_clear : (lowerRuns.all fun r => r.2.1 < 0x80 || unitLetters.all fun d =>
    (r.2.1 : Int) + r.2.2.2 < d.toNat || (d.toNat : Int) < r.1 + r.2.2.2) = true := by
  decide +kernel

/-- a character beyond ASCII does not begin a unit in lower case either -/
theorem lowerChar_of_le (h : 0x80 ≤ c.toNat) :
    ∃ d rest, lowerChar c = d :: rest ∧ d ∉ unitLetters := by
  have hself : c ∉ unitLetters := by
    intro hc
    simp only [unitLetters, List.mem_cons, List.not_mem_nil, or_false] at hc
    rcases hc with rfl | rfl | rfl <;> revert h <;> decide
  unfold lowerChar
  rw [if_neg (by omega)]
  split
  · exact ⟨'i', ['\u0307'], rfl, by decide⟩
  · split
    · rename_i r hr
      refine ⟨_, [], rfl, fun hd => ?_⟩
      have hin := Array.all_eq_true_iff_forall_mem.1 lowerRuns_clear r
        (Array.mem_of_find?_eq_some hr)
      have hrun := Array.find?_some hr
      have hn := toNat_of_ofNat rfl hd
      simp only [Bool.or_eq_true, List.all_eq_true, decide_eq_true_eq] at hin
      simp only [Bool.and_eq_true, decide_eq_true_eq] at hrun
      rcases hin with hin | hin
      · omega
      · have hpos : ∀ d ∈ unitLetters, 0 < d.toNat := by simp [unitLetters]
        have hd₀ := hpos _ hd
        have hout := hin _ hd
        omega
    · exact ⟨c, [], rfl, hself⟩

/-- **In lower case a text is a word of such letters if and only if it is that word in some
letter case.** -/
theorem lower_eq_iff (hw : ∀ c ∈ w, c ∈ unitLetters) : lower s = w ↔ s.map Char.toLower = w := by
  unfold lower
  generalize ([] : List Char) = before
  induction s generalizing before w with
  | nil => rfl
  | cons c s ih =>
    rw [lowerAfter, List.map_cons]
    by_cases hc : c.toNat < 0x80
    · have hsigma : c ≠ 'Σ' := by
        rintro rfl
        revert hc
        decide
      have hone : lowerChar c = [c.toLower] := if_pos hc
      rw [if_neg hsigma, hone, List.singleton_append]
      cases w with
      | nil => simp
      | cons d w =>
        rw [List.cons.injEq, List.cons.injEq, ih (fun c hc => hw c (List.mem_cons_of_mem _ hc))]
    · -- neither side begins with a letter of a unit
      have hle : 0x80 ≤ c.toNat := Nat.le_of_not_lt hc
      have hleft : ∃ d rest, (if c = 'Σ' then
          [if leadsToCased before && !leadsToCased s then 'ς' else 'σ'] else lowerChar c) =
            d :: rest ∧ d ∉ unitLetters := by
        split
        · refine ⟨_, [], rfl, ?_⟩
          split <;> decide
        · exact lowerChar_of_le hle
      obtain ⟨d, rest, hd, hnot⟩ := hleft
      rw [hd, toLower_of_le hle]
      refine iff_of_false ?_ ?_
      · rintro rfl
        exact hnot (hw d List.mem_cons_self)
      · rintro rfl
        have hc := hw c List.mem_cons_self
        have hascii := ascii_of_toLower (c := c) (by rwa [toLower_of_le hle])
        rcases hascii with rfl | rfl | rfl | rfl | rfl | rfl <;> revert hle <;> decide

end

end Text

namespace Duration

/-! ## units -/

inductive TimeUnit where
  | millisecond
  | second
  | minute
  | hour
deriving DecidableEq, Repr

namespace TimeUnit

def word : TimeUnit → List Char
  | millisecond => ['m', 's']
  | second => ['s']
  | minute => ['m']
  | hour => ['h']

def ns : TimeUnit → Nat
  | millisecond => 10 ^ 6
  | second => 10 ^ 9
  | minute => 60 * 10 ^ 9
  | hour => 3600 * 10 ^ 9

/-- so many of the unit are a number of seconds within 64 bits; milliseconds always are -/
def Fits (u : TimeUnit) (n : Nat) : Prop :=
  match u with
  | millisecond => True
  | second => n * 1 < 2 ^ 64
  | minute => n * 60 < 2 ^ 64
  | hour => n * 3600 < 2 ^ 64

instance (u : TimeUnit) (n : Nat) : Decidable (u.Fits n) :=
  match u with
  | millisecond => inferInstanceAs (Decidable True)
  | second => inferInstanceAs (Decidable (n * 1 < 2 ^ 64))
  | minute => inferInstanceAs (Decidable (n * 60 < 2 ^ 64))
  | hour => inferInstanceAs (Decidable (n * 3600 < 2 ^ 64))

theorem word_ne_nil (u : TimeUnit) : u.word ≠ [] := by cases u <;> simp [word]

theorem mem_unitLetters (u : TimeUnit) : ∀ c ∈ u.word, c ∈ Text.unitLetters := by
  cases u <;> simp [word, Text.unitLetters]

end TimeUnit

/-- the number that decimal digits denote, the first digit being the highest -/
def denoted (digits : List Char) : Nat :=
  Nat.ofDigits 10 (digits.reverse.map fun c => c.toNat - '0'.toNat)

/-- digits, blanks and the word of the unit in some letter case -/
structure Spells (n : Nat) (u : TimeUnit) (digits gap word : List Char) : Prop where
  digits_ne : digits ≠ []
  digit : ∀ c ∈ digits, c.isDigit = true
  value : n = denoted digits
  blanks : Text.Blanks gap
  word_eq : word.map Char.toLower = u.word

/-- the text writes `n` of the unit `u`, with blanks around -/
def Writes (n : Nat) (u : TimeUnit) (s : List Char) : Prop :=
  ∃ left digits gap word right, Text.Blanks left ∧ Spells n u digits gap word ∧
    Text.Blanks right ∧ s = left ++ (digits ++ (gap ++ word)) ++ right

section
variable {s t digits gap word right : List Char} {n : Nat} {u : TimeUnit} {d : Duration} {c : Char}

theorem digitsValue_eq (digits : List Char) : digitsValue digits = denoted digits := by
  rw [denoted, Nat.ofDigits_eq_foldr, List.foldr_map, List.foldr_reverse, digitsValue]
  congr 1
  funext n c
  exact Nat.add_comm _ _

theorem word64?_eq_ok_iff : word64? digits = .ok n ↔
    digits ≠ [] ∧ n = denoted digits ∧ n < 2 ^ 64 := by
  rw [← digitsValue_eq]
  unfold word64?
  split
  · simp_all
  · rename_i hne
    split
    · rename_i hlt
      constructor
      · rintro ⟨⟩
        exact ⟨hne, rfl, hlt⟩
      · rintro ⟨_, rfl, _⟩
        rfl
    · rename_i hlt
      refine iff_of_false nofun ?_
      rintro ⟨_, rfl, h⟩
      exact hlt h

theorem ofUnit?_word (whole : List Char) (n : Nat) (u : TimeUnit) : ofUnit? whole n u.word =
    if u.Fits n then .ok ⟨n * u.ns⟩ else .error (.tooLarge (String.ofList whole)) := by
  have hspan (k : Nat) : ofSeconds (n * k) = ⟨n * (k * 10 ^ 9)⟩ := by
    rw [← Nat.mul_assoc]
    rfl
  cases u with
  | millisecond => rfl
  | second => rw [TimeUnit.ns, ← Nat.one_mul (10 ^ 9), ← hspan]; rfl
  | minute => rw [TimeUnit.ns, ← hspan]; rfl
  | hour => rw [TimeUnit.ns, ← hspan]; rfl

theorem ofUnit?_unknown {whole : List Char} (h : ∀ u : TimeUnit, word ≠ u.word) :
    ofUnit? whole n word = .error (.unknownUnit (String.ofList word)) :=
  (if_neg (h .millisecond)).trans <| (if_neg (h .second)).trans <|
    (if_neg (h .minute)).trans (if_neg (h .hour))

theorem ofUnit?_eq_ok_iff {whole : List Char} : ofUnit? whole n word = .ok d ↔
    ∃ u : TimeUnit, word = u.word ∧ u.Fits n ∧ d = ⟨n * u.ns⟩ := by
  constructor
  · intro h
    by_cases hu : ∃ u : TimeUnit, word = u.word
    · obtain ⟨u, rfl⟩ := hu
      rw [ofUnit?_word] at h
      split at h
      · rename_i hfits
        exact ⟨u, rfl, hfits, (Except.ok.inj h).symm⟩
      · cases h
    · rw [ofUnit?_unknown (not_exists.1 hu)] at h
      cases h
  · rintro ⟨u, rfl, hfits, rfl⟩
    rw [ofUnit?_word, if_pos hfits]

/-! ## texts -/

namespace Spells

theorem word_ne_nil (h : Spells n u digits gap word) : word ≠ [] := by
  rintro rfl
  exact u.word_ne_nil h.word_eq.symm

theorem of_mem_word (h : Spells n u digits gap word) (hc : c ∈ word) :
    Text.isBlank c = false ∧ c.isDigit = false := by
  have hlow : c.toLower ∈ u.word := by
    rw [← h.word_eq]
    exact List.mem_map_of_mem hc
  rcases Text.ascii_of_toLower (u.mem_unitLetters _ hlow) with
    rfl | rfl | rfl | rfl | rfl | rfl <;> decide

theorem of_mem_gap (h : Spells n u digits gap word) (hc : c ∈ gap) : c.isDigit = false := by
  by_contra hd
  have hb := h.blanks c hc
  simp only [Bool.not_eq_false, Char.isDigit, Bool.and_eq_true, decide_eq_true_eq] at hd
  have h48 : 48 ≤ c.toNat := hd.1
  have h57 : c.toNat ≤ 57 := hd.2
  simp only [Text.isBlank, Bool.or_eq_true, Bool.and_eq_true, decide_eq_true_eq,
    beq_iff_eq] at hb
  omega

theorem of_mem_digits (h : Spells n u digits gap word) (hc : c ∈ digits) :
    Text.isBlank c = false := by
  have hd := h.digit c hc
  simp only [Char.isDigit, Bool.and_eq_true, decide_eq_true_eq] at hd
  have h48 : 48 ≤ c.toNat := hd.1
  have h57 : c.toNat ≤ 57 := hd.2
  rw [← Bool.not_eq_true]
  simp only [Text.isBlank, Bool.or_eq_true, Bool.and_eq_true, decide_eq_true_eq, beq_iff_eq]
  omega

/-- the digits end where the first other character stands -/
theorem split (h : Spells n u digits gap word) (right : List Char) :
    (digits ++ (gap ++ word ++ right)).takeWhile Char.isDigit = digits ∧
      (digits ++ (gap ++ word ++ right)).dropWhile Char.isDigit = gap ++ word ++ right := by
  have hne : gap ++ word ≠ [] := by simp [h.word_ne_nil]
  obtain ⟨c, rest, hcons⟩ := List.exists_cons_of_ne_nil hne
  have hc : ¬ c.isDigit = true := by
    have hin : c ∈ gap ++ word := by simp [hcons]
    rw [Bool.not_eq_true]
    exact (List.mem_append.1 hin).elim h.of_mem_gap fun hw => (h.of_mem_word hw).2
  rw [List.takeWhile_append_of_pos h.digit, List.dropWhile_append_of_pos h.digit, hcons,
    List.cons_append, List.takeWhile_cons_of_neg hc, List.dropWhile_cons_of_neg hc,
    List.append_nil]
  exact ⟨rfl, rfl⟩

theorem trim_eq (h : Spells n u digits gap word) :
    Text.trim (digits ++ (gap ++ word)) = digits ++ (gap ++ word) := by
  have hne : digits ++ (gap ++ word) ≠ [] := by simp [h.digits_ne]
  refine Text.trim_eq_self hne ?_ ?_
  · rw [List.head_append_of_ne_nil h.digits_ne]
    exact h.of_mem_digits (List.head_mem _)
  · have hlast : (digits ++ (gap ++ word)).getLast hne = word.getLast h.word_ne_nil := by
      simp [h.word_ne_nil]
    rw [hlast]
    exact (h.of_mem_word (List.getLast_mem _)).1

theorem trim_word (h : Spells n u digits gap word) (hr : Text.Blanks right) :
    Text.trim (gap ++ word ++ right) = word := by
  rw [Text.trim_append h.blanks hr]
  exact Text.trim_eq_self h.word_ne_nil (h.of_mem_word (List.head_mem _)).1
    (h.of_mem_word (List.getLast_mem _)).1

end Spells

/-- what is read without leading blanks -/
theorem ofTrimmed?_eq_ok_iff : ofTrimmed? t = .ok d ↔
    ∃ n u digits gap word right, Spells n u digits gap word ∧ Text.Blanks right ∧
      t = digits ++ (gap ++ word ++ right) ∧ n < 2 ^ 64 ∧ u.Fits n ∧ d = ⟨n * u.ns⟩ := by
  constructor
  · intro h
    simp only [ofTrimmed?] at h
    split at h
    · cases h
    split at h
    · cases h
    split at h
    · cases h
    · rename_i n hn
      obtain ⟨hne, hval, hlt⟩ := word64?_eq_ok_iff.1 hn
      obtain ⟨u, hword, hfits, rfl⟩ := ofUnit?_eq_ok_iff.1 h
      obtain ⟨gap, right, hg, hr, hrest⟩ := Text.exists_trim (t.dropWhile Char.isDigit)
      refine ⟨n, u, t.takeWhile Char.isDigit, gap, _, right,
        ⟨hne, fun _ => List.mem_takeWhile_imp, hval, hg,
          (Text.lower_eq_iff u.mem_unitLetters).1 hword⟩, hr, ?_, hlt, hfits, rfl⟩
      rw [← hrest, List.takeWhile_append_dropWhile]
  · rintro ⟨n, u, digits, gap, word, right, h, hr, rfl, hlt, hfits, rfl⟩
    obtain ⟨htake, hdrop⟩ := h.split right
    have hn : word64? digits = .ok n := word64?_eq_ok_iff.2 ⟨h.digits_ne, h.value, hlt⟩
    have hunit : Text.lower word = u.word := (Text.lower_eq_iff u.mem_unitLetters).2 h.word_eq
    have hsome : digits ++ (gap ++ word ++ right) ≠ [] := by simp [h.digits_ne]
    have hrest : gap ++ word ++ right ≠ [] := by simp [h.word_ne_nil]
    simp only [ofTrimmed?, htake, hdrop]
    rw [if_neg hsome, if_neg hrest, hn, h.trim_word hr, hunit]
    exact ofUnit?_eq_ok_iff.2 ⟨u, rfl, hfits, rfl⟩

theorem ofText?_eq_ok_iff {s : String} : ofText? s = .ok d ↔
    ∃ n u, Writes n u s.toList ∧ n < 2 ^ 64 ∧ u.Fits n ∧ d = ⟨n * u.ns⟩ := by
  unfold ofText?
  rw [ofTrimmed?_eq_ok_iff]
  constructor
  · rintro ⟨n, u, digits, gap, word, right, h, hr, ht, hfits⟩
    obtain ⟨left, right', hl, hr', hs⟩ := Text.exists_trim s.toList
    refine ⟨n, u, ⟨left, digits, gap, word, right ++ right', hl, h, ?_, ?_⟩, hfits⟩
    · exact fun c hc => (List.mem_append.1 hc).elim (hr c) (hr' c)
    · rw [ht] at hs
      rw [hs]
      simp
  · rintro ⟨n, u, ⟨left, digits, gap, word, right, hl, h, hr, hs⟩, hfits⟩
    refine ⟨n, u, digits, gap, word, [], h, List.forall_mem_nil _, ?_, hfits⟩
    rw [hs, Text.trim_append hl hr, h.trim_eq, List.append_nil]

theorem allBlank_iff {s : String} : Text.allBlank s = true ↔ Text.Blanks s.toList := by
  rw [Text.allBlank, List.all_eq_true]
  rfl

theorem optional?_of_blanks {s : String} (h : Text.Blanks s.toList) : optional? s = .ok none :=
  if_pos (allBlank_iff.2 h)

theorem optional?_of_not_blanks {s : String} (h : ¬ Text.Blanks s.toList) :
    optional? s = (ofText? s).map some := if_neg fun hb => h (allBlank_iff.1 hb)

theorem optional?_eq_ok {s : String} {o : Option Duration} (h : optional? s = .ok o) :
    (Text.Blanks s.toList ∧ o = none) ∨ ∃ d, ofText? s = .ok d ∧ o = some d := by
  by_cases hb : Text.Blanks s.toList
  · rw [optional?_of_blanks hb] at h
    exact Or.inl ⟨hb, (Except.ok.inj h).symm⟩
  · rw [optional?_of_not_blanks hb] at h
    cases hd : ofText? s with
    | error e => rw [hd] at h; cases h
    | ok d => rw [hd] at h; exact Or.inr ⟨d, rfl, (Except.ok.inj h).symm⟩

/-- how a text is read as a duration -/
structure Legible (s : String) : Prop where
  /-- it is one if and only if it writes one that fits, and it is that one -/
  reads : ∀ d, ofText? s = .ok d ↔
    ∃ n u, Writes n u s.toList ∧ n < 2 ^ 64 ∧ u.Fits n ∧ d = ⟨n * u.ns⟩
  /-- the characters before the first one that is no digit are as many bytes, whatever follows:
  between the two parts no character is cut -/
  cut : Text.cutAt? ((Text.trim s.toList).findIdx fun c => !c.isDigit) (Text.trim s.toList) =
    some ((Text.trim s.toList).takeWhile Char.isDigit, (Text.trim s.toList).dropWhile Char.isDigit)
  /-- a blank text is no duration where none is needed, and no other text is -/
  absent : optional? s = .ok none ↔ Text.Blanks s.toList
  present : ¬ Text.Blanks s.toList → optional? s = (ofText? s).map some

/-- **A text is read as a duration if and only if it writes digits, blanks and a unit in any letter
case, with blanks around, and the number fits.** -/
theorem legible (s : String) : Legible s where
  reads := fun _ => ofText?_eq_ok_iff
  cut := Text.cutAt?_findIdx _
  absent := by
    refine ⟨fun h => ?_, optional?_of_blanks⟩
    rcases optional?_eq_ok h with ⟨hb, _⟩ | ⟨_, _, hd⟩
    · exact hb
    · cases hd
  present := optional?_of_not_blanks

/-- capitals and blanks of all kinds; a letter beyond ASCII is no unit -/
example : ofText? "\u3000 90 \u2003M\n" = .ok ⟨5400 * 10 ^ 9⟩ ∧
    ofText? "90\u212a" = .error (.unknownUnit "k") := by decide +kernel

end

end Duration

end ScriptGuard
