import Mathlib.Data.Rat.Defs
import Mathlib.Algebra.Field.Rat
import Mathlib.Algebra.Order.Ring.Rat
import Mathlib.Tactic

/-!
Finite numbers of a JSON document, represented by the shortest decimal that
ECMAScript's `Number::toString` prints for them. Each finite double has exactly
one such decimal and negative zero prints as zero, so equality here is the
language's `===`. The printed text determines the number.
-/

namespace JsonText

/-! ### Normalized decimals -/

/-- A decimal with no trailing zero in its significand; zero has one form. -/
structure JsonNumber where
  negative : Bool
  significand : Nat
  exponent : Int
  normal : significand % 10 ≠ 0 ∨ (significand = 0 ∧ exponent = 0 ∧ negative = false)
  deriving DecidableEq

namespace JsonNumber

/-- The integer `n`, for literals whose last digit is not zero. -/
def ofDigit (value : Nat) (normal : value % 10 ≠ 0) : JsonNumber :=
  { negative := false, significand := value, exponent := 0, normal := Or.inl normal }

def zero : JsonNumber :=
  { negative := false, significand := 0, exponent := 0, normal := by simp }

/-- A significand and exponent with the trailing zeros moved to the exponent. -/
def trimZeros : Nat → Nat → Int → Nat × Int
  | 0, significand, exponent => (significand, exponent)
  | fuel + 1, significand, exponent =>
      if significand % 10 = 0 then trimZeros fuel (significand / 10) (exponent + 1)
      else (significand, exponent)

theorem trimZeros_normal {fuel significand : Nat} (exponent : Int) (positive : 0 < significand)
    (enough : significand < 10 ^ fuel) : (trimZeros fuel significand exponent).1 % 10 ≠ 0 := by
  induction fuel generalizing significand exponent with
  | zero =>
      rw [Nat.pow_zero] at enough
      omega
  | succ fuel ih =>
      rw [Nat.pow_succ] at enough
      unfold trimZeros
      split
      · apply ih <;> omega
      · assumption

/-- An integer of any size that a document can hold. -/
def ofInt (value : Int) : JsonNumber :=
  if nonzero : value = 0 then zero
  else
    { negative := decide (value < 0)
      significand := (trimZeros value.natAbs value.natAbs 0).1
      exponent := (trimZeros value.natAbs value.natAbs 0).2
      normal := Or.inl (trimZeros_normal 0 (Int.natAbs_pos.mpr nonzero)
        (Nat.lt_pow_self (by decide))) }

/-- The magnitude as a rational number. -/
def magnitude (number : JsonNumber) : ℚ :=
  number.significand * (10 : ℚ) ^ number.exponent

def toRat (number : JsonNumber) : ℚ :=
  if number.negative then -number.magnitude else number.magnitude

/-- The integer comparison of two decimals brought to one exponent. -/
def scaled (number : JsonNumber) (base : Int) : Int :=
  (if number.negative then -1 else 1) *
    ((number.significand * 10 ^ (number.exponent - base).toNat : Nat) : Int)

def less (left right : JsonNumber) : Bool :=
  let base := min left.exponent right.exponent
  decide (left.scaled base < right.scaled base)

theorem trimZeros_scaled (fuel significand : Nat) (exponent : Int) :
    exponent ≤ (trimZeros fuel significand exponent).2 ∧
      (trimZeros fuel significand exponent).1 *
          10 ^ ((trimZeros fuel significand exponent).2 - exponent).toNat = significand := by
  induction fuel generalizing significand exponent with
  | zero => simp [trimZeros]
  | succ fuel ih =>
      unfold trimZeros
      split
      · rename_i divides
        obtain ⟨grows, value⟩ := ih (significand / 10) (exponent + 1)
        refine ⟨by omega, ?_⟩
        have steps : ((trimZeros fuel (significand / 10) (exponent + 1)).2 - exponent).toNat =
            ((trimZeros fuel (significand / 10) (exponent + 1)).2 - (exponent + 1)).toNat + 1 := by
          omega
        rw [steps, Nat.pow_succ, ← Nat.mul_assoc, value]
        omega
      · simp

theorem ofInt_scaled (value : Int) :
    0 ≤ (ofInt value).exponent ∧ (ofInt value).scaled 0 = value := by
  unfold ofInt
  split
  · rename_i zero
    rw [zero]
    decide
  · obtain ⟨nonneg, magnitude⟩ := trimZeros_scaled value.natAbs value.natAbs 0
    refine ⟨nonneg, ?_⟩
    simp only [scaled, magnitude]
    by_cases negative : value < 0
    · simp only [negative, decide_true, if_true]
      omega
    · simp only [negative, decide_false, Bool.false_eq_true, if_false]
      omega

theorem ofInt_less (left right : Int) :
    (ofInt left).less (ofInt right) = decide (left < right) := by
  obtain ⟨leftWhole, leftValue⟩ := ofInt_scaled left
  obtain ⟨rightWhole, rightValue⟩ := ofInt_scaled right
  have shifted : ∀ value base, 0 ≤ base → base ≤ (ofInt value).exponent →
      (ofInt value).scaled base * 10 ^ base.toNat = (ofInt value).scaled 0 := by
    intro value base positive below
    have split : ((ofInt value).exponent - 0).toNat =
        ((ofInt value).exponent - base).toNat + base.toNat := by omega
    simp only [scaled, split, Nat.pow_add]
    push_cast
    ring
  have base := le_min leftWhole rightWhole
  have leftShift := shifted left _ base (min_le_left _ _)
  have rightShift := shifted right _ base (min_le_right _ _)
  rw [leftValue] at leftShift
  rw [rightValue] at rightShift
  have power : (0 : Int) < 10 ^ (min (ofInt left).exponent (ofInt right).exponent).toNat :=
    pow_pos (by decide) _
  rw [less, decide_eq_decide]
  have scaledLess := mul_lt_mul_iff_left₀ power
    (b := (ofInt left).scaled (min (ofInt left).exponent (ofInt right).exponent))
    (c := (ofInt right).scaled (min (ofInt left).exponent (ofInt right).exponent))
  rw [leftShift, rightShift] at scaledLess
  exact scaledLess.symm

/-! ### Printed text -/

/-- `Number::toString` for a positive magnitude: plain, fractional, leading
zeros, or exponent form, by the place of the decimal point. -/
def magnitudeText (significand : Nat) (exponent : Int) : List Char :=
  let digits := Nat.toDigits 10 significand
  let point : Int := digits.length + exponent
  if 0 ≤ exponent ∧ point ≤ 21 then
    digits ++ List.replicate exponent.toNat '0'
  else if 0 < point ∧ point ≤ 21 then
    digits.take point.toNat ++ '.' :: digits.drop point.toNat
  else if -6 < point ∧ point ≤ 0 then
    '0' :: '.' :: (List.replicate (-point).toNat '0' ++ digits)
  else
    digits.take 1 ++ (if digits.length = 1 then [] else '.' :: digits.drop 1) ++
      'e' :: (if 0 ≤ point - 1 then '+' else '-') :: Nat.toDigits 10 (point - 1).natAbs

def text (number : JsonNumber) : List Char :=
  (if number.negative then ['-'] else []) ++
    magnitudeText number.significand number.exponent

example : (⟨false, 105, -1, by decide⟩ : JsonNumber).text = ['1', '0', '.', '5'] := by
  decide

/-! ### Reading the text back -/

def isDigit (char : Char) : Bool := char.isDigit

/-- The exponent part after the mantissa, absent or signed. -/
def readExponent : List Char → Int
  | 'e' :: '-' :: digits => -(Nat.ofDigitChars 10 digits 0 : Int)
  | 'e' :: _ :: digits => (Nat.ofDigitChars 10 digits 0 : Int)
  | _ => 0

/-- Mantissa without its point, and the exponent that restores its value. -/
def readMagnitude (source : List Char) : Nat × Int :=
  let whole := source.takeWhile isDigit
  match source.dropWhile isDigit with
  | '.' :: rest =>
      let fraction := rest.takeWhile isDigit
      (Nat.ofDigitChars 10 (whole ++ fraction) 0,
        readExponent (rest.dropWhile isDigit) - fraction.length)
  | rest => (Nat.ofDigitChars 10 whole 0, readExponent rest)

def readValue (source : List Char) : ℚ :=
  (readMagnitude source).1 * (10 : ℚ) ^ (readMagnitude source).2

theorem takeWhile_digits (rest : List Char) {digits : List Char}
    (all : ∀ char ∈ digits, isDigit char = true) :
    (digits ++ rest).takeWhile isDigit = digits ++ rest.takeWhile isDigit ∧
      (digits ++ rest).dropWhile isDigit = rest.dropWhile isDigit :=
  ⟨List.takeWhile_append_of_pos all, List.dropWhile_append_of_pos all⟩

theorem isDigit_toDigits {value : Nat} {char : Char}
    (member : char ∈ Nat.toDigits 10 value) : isDigit char = true :=
  Nat.isDigit_of_mem_toDigits (by decide) (by decide) member

theorem isDigit_replicate_zero {count : Nat} {char : Char}
    (member : char ∈ List.replicate count '0') : isDigit char = true := by
  rw [List.eq_of_mem_replicate member]
  decide

theorem readMagnitude_whole {whole : List Char}
    (all : ∀ char ∈ whole, isDigit char = true) :
    readMagnitude whole = (Nat.ofDigitChars 10 whole 0, 0) := by
  have split := takeWhile_digits [] all
  simp only [List.append_nil, List.takeWhile_nil, List.dropWhile_nil] at split
  simp [readMagnitude, split.1, split.2, readExponent]

/-- Whole digits, a point, fraction digits, then anything that is not a digit. -/
theorem readMagnitude_fraction {whole fraction : List Char} (tail : List Char)
    (wholeAll : ∀ char ∈ whole, isDigit char = true)
    (fractionAll : ∀ char ∈ fraction, isDigit char = true)
    (stop : tail.takeWhile isDigit = []) (keep : tail.dropWhile isDigit = tail) :
    readMagnitude (whole ++ '.' :: (fraction ++ tail)) =
      (Nat.ofDigitChars 10 (whole ++ fraction) 0, readExponent tail - fraction.length) := by
  have wholeSplit := takeWhile_digits ('.' :: (fraction ++ tail)) wholeAll
  have fractionSplit := takeWhile_digits tail fractionAll
  have point : isDigit '.' = false := by decide
  simp only [List.takeWhile_cons, List.dropWhile_cons, point] at wholeSplit
  simp only [readMagnitude, wholeSplit.1, wholeSplit.2, fractionSplit.1, fractionSplit.2, stop,
    keep, List.append_nil, Bool.false_eq_true, if_false]

theorem readMagnitude_exponent {whole tail : List Char}
    (all : ∀ char ∈ whole, isDigit char = true) :
    readMagnitude (whole ++ 'e' :: tail) =
      (Nat.ofDigitChars 10 whole 0, readExponent ('e' :: tail)) := by
  have split := takeWhile_digits ('e' :: tail) all
  have mark : isDigit 'e' = false := by decide
  simp only [List.takeWhile_cons, List.dropWhile_cons, mark] at split
  simp only [readMagnitude, split.1, split.2, List.append_nil, Bool.false_eq_true, if_false]
  rfl

theorem readExponent_signed (exponent : Int) :
    readExponent ('e' :: (if 0 ≤ exponent then '+' else '-') ::
      Nat.toDigits 10 exponent.natAbs) = exponent := by
  by_cases sign : 0 ≤ exponent
  · rw [if_pos sign]
    change (Nat.ofDigitChars 10 (Nat.toDigits 10 exponent.natAbs) 0 : Int) = exponent
    rw [Nat.ofDigitChars_ten_toDigits]
    omega
  · rw [if_neg sign]
    change -(Nat.ofDigitChars 10 (Nat.toDigits 10 exponent.natAbs) 0 : Int) = exponent
    rw [Nat.ofDigitChars_ten_toDigits]
    omega

theorem ofDigitChars_leading_zeros (count : Nat) (digits : List Char) :
    Nat.ofDigitChars 10 (List.replicate count '0' ++ digits) 0 =
      Nat.ofDigitChars 10 digits 0 := by
  rw [Nat.ofDigitChars_append, Nat.ofDigitChars_replicate_zero, Nat.mul_zero]

theorem readValue_magnitudeText (significand : Nat) (exponent : Int) :
    readValue (magnitudeText significand exponent) =
      significand * (10 : ℚ) ^ exponent := by
  have digitsAll : ∀ char ∈ Nat.toDigits 10 significand, isDigit char = true :=
    fun _ member => isDigit_toDigits member
  have takeAll : ∀ count, ∀ char ∈ (Nat.toDigits 10 significand).take count,
      isDigit char = true :=
    fun _ char member => digitsAll char (List.mem_of_mem_take member)
  have dropAll : ∀ count, ∀ char ∈ (Nat.toDigits 10 significand).drop count,
      isDigit char = true :=
    fun _ char member => digitsAll char (List.mem_of_mem_drop member)
  have nonempty : 0 < (Nat.toDigits 10 significand).length := Nat.length_toDigits_pos
  unfold magnitudeText
  simp only
  split
  · -- plain integer form
    rename_i plain
    have all : ∀ char ∈ Nat.toDigits 10 significand ++ List.replicate exponent.toNat '0',
        isDigit char = true := by
      intro char member
      rcases List.mem_append.mp member with inDigits | inZeros
      · exact digitsAll char inDigits
      · exact isDigit_replicate_zero inZeros
    have power : (10 : ℚ) ^ exponent = (10 : ℚ) ^ exponent.toNat := by
      rw [← zpow_natCast, Int.toNat_of_nonneg plain.1]
    rw [readValue, readMagnitude_whole all, Nat.ofDigitChars_append,
      Nat.ofDigitChars_ten_toDigits, Nat.ofDigitChars_replicate_zero, power]
    push_cast
    ring
  · rename_i notPlain
    split
    · -- point inside the digits
      rename_i inside
      have form := readMagnitude_fraction []
        (takeAll ((Nat.toDigits 10 significand).length + exponent).toNat)
        (dropAll ((Nat.toDigits 10 significand).length + exponent).toNat) rfl rfl
      rw [List.append_nil] at form
      rw [readValue, form, List.take_append_drop, Nat.ofDigitChars_ten_toDigits]
      simp only [readExponent, List.length_drop]
      congr 2
      omega
    · rename_i notInside
      split
      · -- leading zeros after the point
        rename_i leading
        have zerosAll : ∀ char ∈ List.replicate
            (-((Nat.toDigits 10 significand).length + exponent : Int)).toNat '0' ++
              Nat.toDigits 10 significand, isDigit char = true := by
          intro char member
          rcases List.mem_append.mp member with inZeros | inDigits
          · exact isDigit_replicate_zero inZeros
          · exact digitsAll char inDigits
        have zeroAll : ∀ char ∈ ['0'], isDigit char = true := by
          intro char member
          rw [List.mem_singleton.mp member]
          rfl
        have form := readMagnitude_fraction [] zeroAll zerosAll rfl rfl
        rw [List.append_nil] at form
        rw [readValue]
        change ((readMagnitude (['0'] ++ '.' :: _)).1 : ℚ) *
          10 ^ (readMagnitude (['0'] ++ '.' :: _)).2 = _
        rw [form, ← List.append_assoc]
        have zeros : (['0'] ++ List.replicate
            (-((Nat.toDigits 10 significand).length + exponent : Int)).toNat '0') =
            List.replicate
              ((-((Nat.toDigits 10 significand).length + exponent : Int)).toNat + 1) '0' := by
          rw [List.replicate_succ]
          rfl
        rw [zeros, ofDigitChars_leading_zeros, Nat.ofDigitChars_ten_toDigits]
        simp only [readExponent, List.length_append, List.length_replicate]
        congr 2
        omega
      · -- exponent form
        have signed := readExponent_signed
          ((Nat.toDigits 10 significand).length + exponent - 1)
        by_cases single : (Nat.toDigits 10 significand).length = 1
        · have whole : (Nat.toDigits 10 significand).take 1 = Nat.toDigits 10 significand :=
            List.take_of_length_le (Nat.le_of_eq single)
          rw [if_pos single, List.append_nil, whole, readValue,
            readMagnitude_exponent digitsAll, signed, Nat.ofDigitChars_ten_toDigits]
          congr 2
          omega
        · rw [if_neg single]
          have form := readMagnitude_fraction
            ('e' :: (if 0 ≤ ((Nat.toDigits 10 significand).length + exponent - 1 : Int)
              then '+' else '-') ::
              Nat.toDigits 10 ((Nat.toDigits 10 significand).length + exponent - 1 : Int).natAbs)
            (takeAll 1) (dropAll 1) rfl rfl
          rw [List.append_assoc, List.cons_append, readValue, form, List.take_append_drop,
            Nat.ofDigitChars_ten_toDigits, signed]
          simp only [List.length_drop]
          congr 2
          omega

/-! ### The text determines the number -/

theorem power_cancel {left right : Nat} {shift : Nat} (leftNormal : left % 10 ≠ 0)
    (same : left = right * 10 ^ shift) : shift = 0 := by
  cases shift with
  | zero => rfl
  | succ shift =>
      exfalso
      apply leftNormal
      rw [same, Nat.pow_succ, ← Nat.mul_assoc]
      exact Nat.mul_mod_left _ _

private theorem normal_unique_of_le {left right : Nat} {leftExponent rightExponent : Int}
    (leftNormal : left % 10 ≠ 0) (below : leftExponent ≤ rightExponent)
    (same : (left : ℚ) * 10 ^ leftExponent = right * 10 ^ rightExponent) :
    left = right ∧ leftExponent = rightExponent := by
  have ten : (10 : ℚ) ≠ 0 := by norm_num
  have shifted : (left : ℚ) = right * 10 ^ (rightExponent - leftExponent).toNat := by
    have nonneg : 0 ≤ rightExponent - leftExponent := by omega
    rw [← zpow_natCast, Int.toNat_of_nonneg nonneg, zpow_sub₀ ten]
    field_simp
    linarith
  have natural : left = right * 10 ^ (rightExponent - leftExponent).toNat := by
    exact_mod_cast shifted
  have noShift := power_cancel leftNormal natural
  rw [noShift, Nat.pow_zero, Nat.mul_one] at natural
  exact ⟨natural, by omega⟩

/-- Two significands without trailing zeros and of one value are one decimal. -/
theorem normal_unique {left right : Nat} {leftExponent rightExponent : Int}
    (leftNormal : left % 10 ≠ 0) (rightNormal : right % 10 ≠ 0)
    (same : (left : ℚ) * 10 ^ leftExponent = right * 10 ^ rightExponent) :
    left = right ∧ leftExponent = rightExponent := by
  rcases Int.le_total leftExponent rightExponent with below | above
  · exact normal_unique_of_le leftNormal below same
  · have swapped := normal_unique_of_le rightNormal above same.symm
    exact ⟨swapped.1.symm, swapped.2.symm⟩

theorem magnitude_eq_zero_iff (number : JsonNumber) :
    number.magnitude = 0 ↔ number.significand = 0 := by
  have ten : (10 : ℚ) ^ number.exponent ≠ 0 := zpow_ne_zero _ (by norm_num)
  simp [magnitude, ten]

theorem ext_magnitude {left right : JsonNumber} (sign : left.negative = right.negative)
    (same : left.magnitude = right.magnitude) : left = right := by
  obtain ⟨leftNegative, leftSignificand, leftExponent, leftNormal⟩ := left
  obtain ⟨rightNegative, rightSignificand, rightExponent, rightNormal⟩ := right
  have zeros := (magnitude_eq_zero_iff ⟨leftNegative, leftSignificand, leftExponent,
    leftNormal⟩).symm.trans ((by rw [same]) : _ ↔ _) |>.trans
    (magnitude_eq_zero_iff ⟨rightNegative, rightSignificand, rightExponent, rightNormal⟩)
  simp only at sign zeros
  subst sign
  rcases leftNormal with leftDigit | ⟨leftZero, leftFlat, _⟩
  · rcases rightNormal with rightDigit | ⟨rightZero, _, _⟩
    · obtain ⟨significandEq, exponentEq⟩ := normal_unique leftDigit rightDigit same
      subst significandEq exponentEq
      rfl
    · exact absurd (zeros.mpr rightZero) (fun zero => leftDigit (by rw [zero]))
  · rcases rightNormal with rightDigit | ⟨rightZero, rightFlat, _⟩
    · exact absurd (zeros.mp leftZero) (fun zero => rightDigit (by rw [zero]))
    · subst leftZero rightZero leftFlat rightFlat
      rfl

theorem magnitudeText_head (significand : Nat) (exponent : Int) :
    ∃ head tail, magnitudeText significand exponent = head :: tail ∧ isDigit head = true := by
  obtain ⟨head, tail, digits⟩ := List.exists_cons_of_ne_nil
    (Nat.toDigits_ne_nil (n := significand) (b := 10))
  have headDigit : isDigit head = true :=
    isDigit_toDigits (show head ∈ Nat.toDigits 10 significand by
      rw [digits]
      exact List.mem_cons_self)
  unfold magnitudeText
  simp only [digits]
  split
  · exact ⟨head, _, rfl, headDigit⟩
  · split
    · rename_i inside
      obtain ⟨count, positive⟩ : ∃ count,
          (((head :: tail).length : Int) + exponent).toNat = count + 1 :=
        ⟨(((head :: tail).length : Int) + exponent).toNat - 1, by omega⟩
      rw [positive, List.take_succ_cons]
      exact ⟨head, _, rfl, headDigit⟩
    · split
      · exact ⟨'0', _, rfl, by decide⟩
      · rw [List.take_succ_cons]
        exact ⟨head, _, rfl, headDigit⟩

theorem text_injective {left right : JsonNumber} (same : left.text = right.text) :
    left = right := by
  obtain ⟨leftHead, leftTail, leftText, leftDigit⟩ :=
    magnitudeText_head left.significand left.exponent
  obtain ⟨rightHead, rightTail, rightText, rightDigit⟩ :=
    magnitudeText_head right.significand right.exponent
  have notMinus : isDigit '-' = false := by decide
  have sign : left.negative = right.negative := by
    simp only [text, leftText, rightText] at same
    cases leftSign : left.negative <;> cases rightSign : right.negative
    · rfl
    · simp only [leftSign, rightSign, Bool.false_eq_true, if_false, if_true, List.nil_append,
        List.cons_append, List.cons.injEq] at same
      rw [same.1, notMinus] at leftDigit
      contradiction
    · simp only [leftSign, rightSign, Bool.false_eq_true, if_false, if_true, List.nil_append,
        List.cons_append, List.cons.injEq] at same
      rw [← same.1, notMinus] at rightDigit
      contradiction
    · rfl
  apply ext_magnitude sign
  have magnitudes : magnitudeText left.significand left.exponent =
      magnitudeText right.significand right.exponent := by
    simp only [text, sign] at same
    exact List.append_cancel_left same
  have values := congrArg readValue magnitudes
  rw [readValue_magnitudeText, readValue_magnitudeText] at values
  exact values

/-! ### Characters of the text -/

/-- The characters a printed number may hold. -/
def isNumberChar (char : Char) : Bool :=
  char.isDigit || char == '-' || char == '+' || char == '.' || char == 'e'

private theorem isNumberChar_of_digit {char : Char} (digit : isDigit char = true) :
    isNumberChar char = true := by
  simp only [isNumberChar, isDigit] at digit ⊢
  simp [digit]

theorem isNumberChar_magnitudeText (significand : Nat) (exponent : Int) :
    ∀ char ∈ magnitudeText significand exponent, isNumberChar char = true := by
  have digitsAll : ∀ value, ∀ char ∈ Nat.toDigits 10 value, isNumberChar char = true :=
    fun _ _ member => isNumberChar_of_digit (isDigit_toDigits member)
  intro char member
  unfold magnitudeText at member
  simp only at member
  split at member
  · rcases List.mem_append.mp member with inDigits | inZeros
    · exact digitsAll _ _ inDigits
    · exact isNumberChar_of_digit (isDigit_replicate_zero inZeros)
  · split at member
    · rcases List.mem_append.mp member with inWhole | inRest
      · exact digitsAll _ _ (List.mem_of_mem_take inWhole)
      · rcases List.mem_cons.mp inRest with rfl | inFraction
        · decide
        · exact digitsAll _ _ (List.mem_of_mem_drop inFraction)
    · split at member
      · rcases List.mem_cons.mp member with rfl | afterZero
        · decide
        · rcases List.mem_cons.mp afterZero with rfl | afterPoint
          · decide
          · rcases List.mem_append.mp afterPoint with inZeros | inDigits
            · exact isNumberChar_of_digit (isDigit_replicate_zero inZeros)
            · exact digitsAll _ _ inDigits
      · rcases List.mem_append.mp member with inMantissa | inExponent
        · rcases List.mem_append.mp inMantissa with inHead | inFraction
          · exact digitsAll _ _ (List.mem_of_mem_take inHead)
          · split at inFraction
            · cases inFraction
            · rcases List.mem_cons.mp inFraction with rfl | inDigits
              · decide
              · exact digitsAll _ _ (List.mem_of_mem_drop inDigits)
        · rcases List.mem_cons.mp inExponent with rfl | afterMark
          · decide
          · rcases List.mem_cons.mp afterMark with rfl | inDigits
            · split <;> decide
            · exact digitsAll _ _ inDigits

theorem isNumberChar_text (number : JsonNumber) :
    ∀ char ∈ number.text, isNumberChar char = true := by
  intro char member
  rcases List.mem_append.mp member with inSign | inMagnitude
  · split at inSign
    · rw [List.mem_singleton.mp inSign]
      decide
    · cases inSign
  · exact isNumberChar_magnitudeText _ _ char inMagnitude

theorem text_head (number : JsonNumber) :
    ∃ head tail, number.text = head :: tail ∧ (head = '-' ∨ isDigit head = true) := by
  obtain ⟨head, tail, magnitude, digit⟩ :=
    magnitudeText_head number.significand number.exponent
  cases sign : number.negative
  · exact ⟨head, tail, by simp [text, sign, magnitude], Or.inr digit⟩
  · exact ⟨'-', head :: tail, by simp [text, sign, magnitude], Or.inl rfl⟩

/-! ### Sums -/

/-- A decimal is what it scales to, at any exponent that is not above its own. -/
theorem toRat_scaled {number : JsonNumber} {base : Int} (below : base ≤ number.exponent) :
    number.toRat = (number.scaled base : ℚ) * (10 : ℚ) ^ base := by
  have shift : (10 : ℚ) ^ number.exponent = 10 ^ (number.exponent - base).toNat * 10 ^ base := by
    rw [← zpow_natCast, ← zpow_add₀ (by norm_num)]
    congr 1
    omega
  unfold toRat magnitude scaled
  rw [shift]
  split
  · push_cast
    ring
  · push_cast
    ring

theorem toRat_ofInt (value : Int) : (ofInt value).toRat = value := by
  obtain ⟨whole, scaled⟩ := ofInt_scaled value
  rw [toRat_scaled whole, scaled, zpow_zero, mul_one]

/-- The exact sum of two decimals. -/
def sum (left right : JsonNumber) : JsonNumber :=
  let base := min left.exponent right.exponent
  let total := ofInt (left.scaled base + right.scaled base)
  if zero : total.significand = 0 then total
  else
    { total with
      exponent := total.exponent + base
      normal := Or.inl (total.normal.resolve_right (fun none => zero none.1)) }

end JsonNumber

end JsonText
