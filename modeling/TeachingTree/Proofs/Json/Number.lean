/-
**Written numbers are read back.**

An integer is written in decimal digits without zeros in front, which is a number without a
fraction.  A floating-point number is written with a point or an exponent, so that it is never taken
for an integer; what it denotes is its own text.  Not-a-number and the infinities have names.

The one danger is a zero in front of other digits, which no number has.  It would stand there if the
shortest decimal of a number had no significant digits and yet a scale; but the reals that round to
a positive magnitude are positive, so that no point of a decimal grid among them is zero.

Main definitions:

* `JsonText.IsDecimal` — a number with a fraction or an exponent, without a sign;
* `JsonText.Solid` — a decimal that is zero only without a scale.

Main results:

* `JsonText.word?_renderInteger` — a written integer denotes itself;
* `JsonText.solid_shortest` — the shortest decimal of a magnitude has significant digits, or no
  scale;
* `JsonText.word?_floating` — **a written floating-point number denotes its text**;
* `JsonText.isWordPart_of_mem_renderInteger`, `JsonText.isWordPart_of_mem_floating` — both are
  words.
-/

import Mathlib.Data.List.TakeWhile
import TeachingTree.Json.Printer
import TeachingTree.Proofs.Json.Reading

set_option relaxedAutoImplicit false
set_option autoImplicit false

namespace TeachingTree.JsonText

/-! ### Digits -/

theorem isDigits_iff {cs : List Char} :
    isDigits cs = true ↔ cs ≠ [] ∧ ∀ c ∈ cs, c.isDigit = true := by
  simp [isDigits]

theorem isDigits_toDigits (n : Nat) : isDigits (Nat.toDigits 10 n) = true :=
  isDigits_iff.2 ⟨Nat.toDigits_ne_nil,
    fun _ hc => Nat.isDigit_of_mem_toDigits (by decide) (by decide) hc⟩

/-- The digits of a positive number do not start with a zero. -/
theorem head?_toDigits_ne {n : Nat} (h : n ≠ 0) : (Nat.toDigits 10 n).head? ≠ some '0' := by
  induction n using Nat.strongRecOn with
  | ind n ih =>
      rw [Nat.toDigits_eq_if (by decide)]
      split
      · rename_i hlt
        have hdigit : ∀ d < 10, d ≠ 0 → Nat.digitChar d ≠ '0' := by decide
        exact fun heq => hdigit n hlt h (Option.some.inj heq)
      · rename_i hge
        have hquotient : n / 10 ≠ 0 := by omega
        have hsome : (Nat.toDigits 10 (n / 10)).head?.isSome = true := by
          rw [List.isSome_head?]
          simp [Nat.toDigits_ne_nil]
        rw [List.head?_append, Option.or_of_isSome hsome]
        exact ih (n / 10) (by omega) hquotient

theorem isWhole_of_head?_ne {cs : List Char} (hcs : isDigits cs = true)
    (h : cs.head? ≠ some '0') : isWhole cs = true := by
  simp [isWhole, hcs, h]

theorem isWhole_toDigits (n : Nat) : isWhole (Nat.toDigits 10 n) = true := by
  by_cases h : n = 0
  · rw [h]
    rfl
  · exact isWhole_of_head?_ne (isDigits_toDigits n) (head?_toDigits_ne h)

/-! ### Words with a sign -/

/-- A minus sign or nothing. -/
def signChars (negative : Bool) : List Char := if negative then ['-'] else []

theorem ne_minus_of_isDigit {c : Char} (h : c.isDigit = true) : c ≠ '-' := by
  rintro rfl
  exact absurd h (by decide)

theorem isWordPart_of_isDigit {c : Char} (h : c.isDigit = true) : isWordPart c = true := by
  simp [isWordPart, Char.isAlphanum, h]

/-- A text that starts with a digit has no sign to lose. -/
theorem dropMinus_of_isDigits {cs : List Char} (h : isDigits cs = true) (rest : List Char) :
    dropMinus (cs ++ rest) = cs ++ rest := by
  obtain _ | ⟨c, cs⟩ := cs
  · simp [isDigits] at h
  · have hc := ne_minus_of_isDigit ((isDigits_iff.1 h).2 c (List.mem_cons_self ..))
    rw [List.cons_append, dropMinus.eq_2]
    rintro ds heq
    exact hc (List.cons.inj heq).1

theorem dropMinus_signChars {cs : List Char} (h : isDigits cs = true) (negative : Bool)
    (rest : List Char) : dropMinus (signChars negative ++ (cs ++ rest)) = cs ++ rest := by
  cases negative with
  | true => rfl
  | false => exact dropMinus_of_isDigits h rest

/-! ### Integers -/

/-- Digits after an optional sign denote an integer. -/
theorem number?_digits {cs : List Char} (h : isWhole cs = true) (negative : Bool) :
    number? (signChars negative ++ cs) =
      some (.integer (if negative then -(Nat.ofDigitChars 10 cs 0 : Nat)
        else (Nat.ofDigitChars 10 cs 0 : Nat))) := by
  have hdigits : isDigits cs = true := (Bool.and_eq_true_iff.1 h).1
  have hdrop : dropMinus (signChars negative ++ cs) = cs := by
    have := dropMinus_signChars hdigits negative []
    rwa [List.append_nil] at this
  obtain ⟨htake, hrest⟩ : cs.takeWhile Char.isDigit = cs ∧ cs.dropWhile Char.isDigit = [] := by
    have hboth : (cs ++ []).takeWhile Char.isDigit = cs ∧ (cs ++ []).dropWhile Char.isDigit = [] :=
      takeWhile_dropWhile_append (isDigits_iff.1 hdigits).2 (by simp)
    rwa [List.append_nil] at hboth
  have hsign : (cs = signChars negative ++ cs) ↔ negative = false := by
    cases negative <;> simp [signChars]
  simp only [number?, hdrop, htake, hrest, h, hsign]
  cases negative <;> simp

theorem renderInteger_eq (n : Int) :
    Json.renderInteger n = signChars (decide (n < 0)) ++ Nat.toDigits 10 n.natAbs := by
  by_cases h : n < 0 <;> simp [Json.renderInteger, signChars, h]

/-- **A written integer denotes itself.** -/
theorem word?_renderInteger (n : Int) : word? (Json.renderInteger n) = some (.integer n) := by
  rw [word?, renderInteger_eq, number?_digits (isWhole_toDigits _), Option.some_or,
    Nat.ofDigitChars_ten_toDigits]
  by_cases h : n < 0
  · have hn : (-(n.natAbs : Int)) = n := by omega
    rw [decide_eq_true h, if_pos rfl, hn]
  · have hn : (n.natAbs : Int) = n := by omega
    rw [decide_eq_false h, if_neg Bool.false_ne_true, hn]

theorem isWordPart_of_mem_signChars {negative : Bool} {c : Char} (h : c ∈ signChars negative) :
    isWordPart c = true := by
  cases negative with
  | true =>
      rw [List.mem_singleton.1 h]
      rfl
  | false => simp [signChars] at h

theorem isWordPart_of_mem_renderInteger {n : Int} {c : Char} (h : c ∈ Json.renderInteger n) :
    isWordPart c = true := by
  rw [renderInteger_eq] at h
  rcases List.mem_append.1 h with hsign | hdigit
  · exact isWordPart_of_mem_signChars hsign
  · exact isWordPart_of_isDigit ((isDigits_iff.1 (isDigits_toDigits _)).2 c hdigit)

/-! ### Numbers with a fraction or an exponent -/

theorem isWordPart_of_mem_isDigits {cs : List Char} (h : isDigits cs = true) :
    ∀ c ∈ cs, isWordPart c = true :=
  fun c hc => isWordPart_of_isDigit ((isDigits_iff.1 h).2 c hc)

theorem isWordPart_of_mem_isExponent {cs : List Char} (h : isExponent cs = true) :
    ∀ c ∈ cs, isWordPart c = true := by
  obtain _ | ⟨c, ds⟩ := cs
  · simp [isExponent] at h
  · obtain ⟨hc, hds⟩ := Bool.and_eq_true_iff.1 h
    refine List.forall_mem_cons.2 ⟨?_, ?_⟩
    · simp only [Bool.or_eq_true, beq_iff_eq] at hc
      rcases hc with rfl | rfl <;> rfl
    · unfold isSigned at hds
      split at hds
      · exact List.forall_mem_cons.2 ⟨rfl, isWordPart_of_mem_isDigits hds⟩
      · exact List.forall_mem_cons.2 ⟨rfl, isWordPart_of_mem_isDigits hds⟩
      · exact isWordPart_of_mem_isDigits hds

theorem isWordPart_of_mem_isFraction {cs : List Char} (h : isFraction cs = true) :
    ∀ c ∈ cs, isWordPart c = true := by
  unfold isFraction at h
  split at h
  · rename_i ds
    refine List.forall_mem_cons.2 ⟨rfl, fun c hc => ?_⟩
    obtain ⟨-, hrest⟩ := Bool.and_eq_true_iff.1 h
    rw [← List.takeWhile_append_dropWhile (p := Char.isDigit) (l := ds)] at hc
    rcases List.mem_append.1 hc with hdigit | hc
    · exact isWordPart_of_isDigit (List.mem_takeWhile_imp hdigit)
    · rcases Bool.or_eq_true_iff.1 hrest with hempty | hexponent
      · rw [List.isEmpty_iff.1 hempty] at hc
        simp at hc
      · exact isWordPart_of_mem_isExponent hexponent c hc
  · exact isWordPart_of_mem_isExponent h

/-- An exponent does not start with a digit. -/
theorem isDigit_head?_of_isExponent {cs : List Char} (h : isExponent cs = true) :
    ∀ c ∈ cs.head?, c.isDigit = false := by
  obtain _ | ⟨c, ds⟩ := cs
  · simp
  · have hc := (Bool.and_eq_true_iff.1 h).1
    simp only [Bool.or_eq_true, beq_iff_eq] at hc
    rw [List.head?_cons]
    rintro _ ⟨⟩
    rcases hc with rfl | rfl <;> rfl

/-- Neither does a fraction. -/
theorem isDigit_head?_of_isFraction {cs : List Char} (h : isFraction cs = true) :
    ∀ c ∈ cs.head?, c.isDigit = false := by
  unfold isFraction at h
  split at h
  · rw [List.head?_cons]
    rintro _ ⟨⟩
    rfl
  · exact isDigit_head?_of_isExponent h

/-- A number with a fraction or an exponent, without a sign. -/
def IsDecimal (cs : List Char) : Prop :=
  ∃ whole fraction, cs = whole ++ fraction ∧ isWhole whole = true ∧ isFraction fraction = true

/-- A number with a fraction or an exponent denotes its text. -/
theorem number?_of_isDecimal {cs : List Char} (h : IsDecimal cs) (negative : Bool) :
    number? (signChars negative ++ cs) =
      some (.number (String.ofList (signChars negative ++ cs))) := by
  obtain ⟨whole, fraction, rfl, hwhole, hfraction⟩ := h
  have hdigits : isDigits whole = true := (Bool.and_eq_true_iff.1 hwhole).1
  obtain ⟨htake, hrest⟩ := takeWhile_dropWhile_append (p := Char.isDigit)
    (isDigits_iff.1 hdigits).2 (isDigit_head?_of_isFraction hfraction)
  have hsome : fraction.isEmpty = false := by
    cases fraction with
    | nil => simp [isFraction, isExponent] at hfraction
    | cons c cs => rfl
  simp [number?, dropMinus_signChars hdigits, htake, hrest, hwhole, hfraction, hsome]

theorem isWordPart_of_mem_isDecimal {cs : List Char} (h : IsDecimal cs) :
    ∀ c ∈ cs, isWordPart c = true := by
  obtain ⟨whole, fraction, rfl, hwhole, hfraction⟩ := h
  have hdigits : isDigits whole = true := (Bool.and_eq_true_iff.1 hwhole).1
  exact List.forall_mem_append.2
    ⟨isWordPart_of_mem_isDigits hdigits, isWordPart_of_mem_isFraction hfraction⟩

/-! ### Both notations -/

theorem isFraction_point {digits : List Char} (h : isDigits digits = true) {rest : List Char}
    (hrest : rest = [] ∨ isExponent rest = true) : isFraction ('.' :: (digits ++ rest)) = true := by
  have hhead : ∀ c ∈ rest.head?, c.isDigit = false := by
    rcases hrest with rfl | hrest
    · simp
    · exact isDigit_head?_of_isExponent hrest
  obtain ⟨htake, hdrop⟩ := takeWhile_dropWhile_append (p := Char.isDigit) (isDigits_iff.1 h).2 hhead
  have hsome : digits.isEmpty = false := by
    simpa using (isDigits_iff.1 h).1
  have hend : (rest.isEmpty || isExponent rest) = true := by
    rcases hrest with rfl | hrest
    · rfl
    · rw [hrest, Bool.or_true]
  simp only [isFraction, htake, hdrop, hsome, hend, Bool.not_false, Bool.and_self]

/-- A decimal that is zero only without a scale. -/
def Solid (d : Decimal) : Prop := d.digits ≠ 0 ∨ d.exponent = 0

/-- Digits that start like those of a positive number are a whole number. -/
theorem isWhole_of_head?_eq {n : Nat} (h : n ≠ 0) {cs : List Char}
    (hcs : ∀ c ∈ cs, c.isDigit = true) (hhead : cs.head? = (Nat.toDigits 10 n).head?) :
    isWhole cs = true := by
  refine isWhole_of_head?_ne (isDigits_iff.2 ⟨?_, hcs⟩) (hhead ▸ head?_toDigits_ne h)
  rintro rfl
  exact Nat.toDigits_ne_nil (List.head?_eq_none_iff.1 hhead.symm)

theorem isDigit_of_mem_replicate {n : Nat} {c : Char} (h : c ∈ List.replicate n '0') :
    c.isDigit = true := by
  rw [(List.mem_replicate.1 h).2]
  rfl

/-- Positional notation is a number with a fraction. -/
theorem isDecimal_positionalText {d : Decimal} (h : Solid d) :
    IsDecimal (positionalText d.digitChars d.leadingExponent) := by
  have hdigits : isDigits d.digitChars = true := isDigits_toDigits d.digits
  have hpoint : ∀ {digits : List Char}, isDigits digits = true →
      isFraction ('.' :: digits) = true := by
    intro digits hdigits
    have := isFraction_point hdigits (.inl rfl)
    rwa [List.append_nil] at this
  unfold positionalText
  split
  · -- a number below one
    refine ⟨['0'], _, rfl, rfl, hpoint ?_⟩
    rw [isDigits_iff] at hdigits ⊢
    refine ⟨by simp [hdigits.1], fun c hc => ?_⟩
    rcases List.mem_append.1 hc with hzero | hc
    · exact isDigit_of_mem_replicate hzero
    · exact hdigits.2 c hc
  dsimp only
  split
  · -- a number without a fraction of its own
    refine ⟨_, ['.', '0'], rfl, ?_, rfl⟩
    rcases h with hne | hexponent
    · refine isWhole_of_head?_eq hne (List.forall_mem_append.2
        ⟨(isDigits_iff.1 hdigits).2, fun c hc => isDigit_of_mem_replicate hc⟩) ?_
      rw [List.head?_append, Option.or_of_isSome]
      · rfl
      · rw [List.isSome_head?]
        simpa using (isDigits_iff.1 hdigits).1
    · have hzeros : d.leadingExponent.toNat + 1 - d.digitChars.length = 0 := by
        have hpos := List.length_pos_iff.2 (isDigits_iff.1 hdigits).1
        rw [Decimal.leadingExponent, hexponent]
        omega
      rw [hzeros, List.replicate_zero, List.append_nil]
      exact isWhole_toDigits _
  · -- the point stands between digits
    rename_i hlength
    refine ⟨_, _, rfl, ?_, hpoint ?_⟩
    · rcases h with hne | hexponent
      · refine isWhole_of_head?_eq hne
          (fun c hc => (isDigits_iff.1 hdigits).2 c (List.mem_of_mem_take hc)) ?_
        rw [List.head?_take, if_neg (by omega)]
        rfl
      · rw [Decimal.leadingExponent, hexponent] at hlength
        omega
    · rw [isDigits_iff] at hdigits ⊢
      refine ⟨fun hnil => ?_, fun c hc => hdigits.2 c (List.mem_of_mem_drop hc)⟩
      have := congrArg List.length hnil
      rw [List.length_drop, List.length_nil] at this
      omega

/-- Exponent notation is a number with an exponent, and maybe with a fraction. -/
theorem isDecimal_exponentText {digits : List Char} (h : isDigits digits = true) (leading : Int) :
    IsDecimal (exponentText digits leading) := by
  obtain _ | ⟨first, rest⟩ := digits
  · simp [isDigits] at h
  have hfirst : isWhole [first] = true := by
    have hdigit := (isDigits_iff.1 h).2 first (List.mem_cons_self ..)
    by_cases hzero : first = '0'
    · rw [hzero]
      rfl
    · exact isWhole_of_head?_ne (isDigits_iff.2 ⟨by simp, by simpa using hdigit⟩)
        (by simpa using hzero)
  have hexponent : isExponent ('e' :: (if leading < 0 then '-' else '+') ::
      (List.replicate (2 - (Nat.toDigits 10 leading.natAbs).length) '0' ++
        Nat.toDigits 10 leading.natAbs)) = true := by
    have hsize : isDigits (List.replicate (2 - (Nat.toDigits 10 leading.natAbs).length) '0' ++
        Nat.toDigits 10 leading.natAbs) = true := by
      rw [isDigits_iff]
      refine ⟨by simp [Nat.toDigits_ne_nil], List.forall_mem_append.2 ⟨fun c hc => ?_, ?_⟩⟩
      · exact isDigit_of_mem_replicate hc
      · exact (isDigits_iff.1 (isDigits_toDigits _)).2
    split <;> simpa [isExponent, isSigned] using hsize
  obtain _ | ⟨second, rest⟩ := rest
  · exact ⟨[first], _, rfl, hfirst, by rwa [isFraction.eq_2 _ (by simp)]⟩
  · have hmore : isDigits (second :: rest) = true := isDigits_iff.2
      ⟨by simp, fun c hc => (isDigits_iff.1 h).2 c (List.mem_cons_of_mem _ hc)⟩
    exact ⟨[first], _, rfl, hfirst, isFraction_point hmore (.inr hexponent)⟩

/-! ### The shortest decimal -/

/-- Zeros that move into the exponent leave a significant digit. -/
theorem solid_trimZerosUpTo (fuel : Nat) {d : Decimal} (h : Solid d) :
    Solid (d.trimZerosUpTo fuel) := by
  induction fuel generalizing d with
  | zero => exact h
  | succ fuel ih =>
      rw [Decimal.trimZerosUpTo]
      split
      · rename_i hzero
        refine ih (.inl ?_)
        show d.digits / 10 ≠ 0
        omega
      · exact h

/-- The reals that round to a positive magnitude are positive. -/
theorem lower_interval_pos {x : Magnitude} (h : x.mantissa ≠ 0) : 0 < x.interval.lower := by
  have hstep : 0 < Nat.pow 2 x.exponent := Nat.pow_pos (by decide)
  have hproduct : Nat.pow 2 x.exponent ≤ x.mantissa * Nat.pow 2 x.exponent :=
    Nat.le_mul_of_pos_left _ (Nat.pos_of_ne_zero h)
  have hmiddle : 4 * x.mantissa * Nat.pow 2 x.exponent =
      4 * (x.mantissa * Nat.pow 2 x.exponent) := Nat.mul_assoc ..
  simp only [Magnitude.interval, hmiddle]
  split <;> omega

theorem has_zero_eq_false {i : Magnitude.Interval} (h : 0 < i.lower) {scale : Nat}
    (hscale : 0 < scale) : i.has scale 0 = false := by
  have hpos : 0 < i.lower * scale := Nat.mul_pos h hscale
  unfold Magnitude.Interval.has
  split <;> simp [Nat.not_le.2 hpos]

/-- A point of the grid among positive reals is not zero. -/
theorem digits_ne_zero_of_onGrid? {i : Magnitude.Interval} (h : 0 < i.lower) {exponent : Int}
    {d : Decimal} (hd : i.onGrid? exponent = some d) : d.digits ≠ 0 := by
  have hzero : i.has (Nat.pow 10 (-exponent).toNat) 0 = false :=
    has_zero_eq_false h (Nat.pow_pos (by decide))
  simp only [Magnitude.Interval.onGrid?] at hd
  generalize i.middle * Nat.pow 10 (-exponent).toNat / (4 * Magnitude.unitsOfOne *
    Nat.pow 10 exponent.toNat) = count at hd
  cases count with
  | zero =>
      rw [Nat.zero_mul, hzero] at hd
      split at hd
      · contradiction
      · contradiction
      · rw [← Option.some.inj hd]
        exact Nat.succ_ne_zero 0
      · contradiction
  | succ count =>
      split at hd
      · split at hd <;> rw [← Option.some.inj hd] <;> exact Nat.succ_ne_zero _
      · rw [← Option.some.inj hd]
        exact Nat.succ_ne_zero _
      · rw [← Option.some.inj hd]
        exact Nat.succ_ne_zero _
      · contradiction

/-- The shortest decimal of a magnitude has significant digits, or no scale. -/
theorem solid_shortest (x : Magnitude) : Solid x.shortest := by
  unfold Magnitude.shortest
  split
  · exact .inr rfl
  · rename_i hpos
    refine solid_trimZerosUpTo _ ?_
    cases hfound : (List.range 17).findSome? fun (n : Nat) =>
        x.interval.onGrid? (x.leadingExponent - n) with
    | none => exact .inr rfl
    | some d =>
        obtain ⟨n, -, hd⟩ := List.exists_of_findSome?_eq_some hfound
        exact .inl (digits_ne_zero_of_onGrid? (lower_interval_pos hpos) hd)

/-! ### Floating-point numbers -/

theorem isDecimal_magnitudeText (style : NumberStyle) (x : Magnitude) :
    IsDecimal (style.magnitudeText x) := by
  unfold NumberStyle.magnitudeText
  dsimp only
  split
  · exact isDecimal_positionalText (solid_shortest x)
  · exact isDecimal_exponentText (isDigits_toDigits _) _

theorem toList_text_finite (style : NumberStyle) (negative : Bool) (x : Magnitude) :
    (style.text (.finite negative x)).toList = signChars negative ++ style.magnitudeText x := by
  cases negative <;> simp [NumberStyle.text, signChars]

/-- **A written floating-point number denotes its text.** -/
theorem word?_floating (x : Binary64) :
    word? (NumberStyle.document.text x).toList = some (.number (NumberStyle.document.text x)) := by
  cases x with
  | nan => rfl
  | infinite negative => cases negative <;> rfl
  | finite negative x =>
      rw [word?, toList_text_finite, number?_of_isDecimal (isDecimal_magnitudeText _ x),
        Option.some_or, ← toList_text_finite, String.ofList_toList]

theorem isWordPart_of_mem_floating {x : Binary64} {c : Char}
    (h : c ∈ (NumberStyle.document.text x).toList) : isWordPart c = true := by
  cases x with
  | nan =>
      have hall : "NaN".toList.all isWordPart = true := by decide
      exact List.all_eq_true.1 hall c h
  | infinite negative =>
      have hall : ∀ sign : Bool,
          ((if sign then "-" else "") ++ "Infinity").toList.all isWordPart = true := by decide
      exact List.all_eq_true.1 (hall negative) c h
  | finite negative x =>
      rw [toList_text_finite] at h
      rcases List.mem_append.1 h with hsign | hmagnitude
      · exact isWordPart_of_mem_signChars hsign
      · exact isWordPart_of_mem_isDecimal (isDecimal_magnitudeText _ x) c hmagnitude

end TeachingTree.JsonText
