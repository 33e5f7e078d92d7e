import Mathlib.Data.List.Basic

/-!
Strings of UTF-16 code units: the units of a text, and the text that an encoder reads out of
units, where a surrogate that no other goes with is replaced.
-/

namespace Utf16

/-- The units of one character. -/
def charUnits (char : Char) : List UInt16 :=
  if char.toNat < 0x10000 then [UInt16.ofNat char.toNat]
  else
    [UInt16.ofNat (0xD800 + (char.toNat - 0x10000) / 0x400),
      UInt16.ofNat (0xDC00 + (char.toNat - 0x10000) % 0x400)]

def encode (text : List Char) : List UInt16 := text.flatMap charUnits

def isHigh (unit : UInt16) : Bool := decide (0xD800 ≤ unit) && decide (unit < 0xDC00)

def isLow (unit : UInt16) : Bool := decide (0xDC00 ≤ unit) && decide (unit < 0xE000)

/-- The character of a surrogate pair. -/
def paired (high low : UInt16) : Char :=
  Char.ofNat (0x10000 + (high.toNat - 0xD800) * 0x400 + (low.toNat - 0xDC00))

/-- The character of a unit on its own. -/
def single (unit : UInt16) : Char :=
  if isHigh unit || isLow unit then '\uFFFD' else Char.ofNat unit.toNat

def decode : List UInt16 → List Char
  | high :: low :: rest =>
      if isHigh high && isLow low then paired high low :: decode rest
      else single high :: decode (low :: rest)
  | [unit] => [single unit]
  | [] => []

/-- Every surrogate is half of a pair. -/
def wellFormed : List UInt16 → Bool
  | high :: low :: rest =>
      if isHigh high && isLow low then wellFormed rest
      else !(isHigh high || isLow high) && wellFormed (low :: rest)
  | [unit] => !(isHigh unit || isLow unit)
  | [] => true

theorem encode_cons (char : Char) (text : List Char) :
    encode (char :: text) = charUnits char ++ encode text :=
  rfl

theorem isHigh_iff (unit : UInt16) :
    isHigh unit = true ↔ 0xD800 ≤ unit.toNat ∧ unit.toNat < 0xDC00 := by
  simp [isHigh, UInt16.le_iff_toNat_le, UInt16.lt_iff_toNat_lt]

theorem isLow_iff (unit : UInt16) :
    isLow unit = true ↔ 0xDC00 ≤ unit.toNat ∧ unit.toNat < 0xE000 := by
  simp [isLow, UInt16.le_iff_toNat_le, UInt16.lt_iff_toNat_lt]

theorem toNat_ofNat_valid {code : Nat} (valid : code.isValidChar) :
    (Char.ofNat code).toNat = code := by
  unfold Char.ofNat
  rw [dif_pos valid]
  rfl

theorem charUnits_single {unit : UInt16} (plain : (isHigh unit || isLow unit) = false) :
    charUnits (single unit) = [unit] := by
  have bound := unit.toNat_lt
  have notHigh : ¬(0xD800 ≤ unit.toNat ∧ unit.toNat < 0xDC00) := by
    rw [← isHigh_iff]
    simp_all
  have notLow : ¬(0xDC00 ≤ unit.toNat ∧ unit.toNat < 0xE000) := by
    rw [← isLow_iff]
    simp_all
  have code : (Char.ofNat unit.toNat).toNat = unit.toNat := by
    apply toNat_ofNat_valid
    unfold Nat.isValidChar
    omega
  unfold single charUnits
  rw [plain, if_neg Bool.false_ne_true, code, if_pos (by omega), UInt16.ofNat_toNat]

theorem charUnits_paired {high low : UInt16} (isPair : (isHigh high && isLow low) = true) :
    charUnits (paired high low) = [high, low] := by
  rw [Bool.and_eq_true, isHigh_iff, isLow_iff] at isPair
  obtain ⟨highBounds, lowBounds⟩ := isPair
  have code : (paired high low).toNat =
      0x10000 + (high.toNat - 0xD800) * 0x400 + (low.toNat - 0xDC00) := by
    apply toNat_ofNat_valid
    unfold Nat.isValidChar
    omega
  have first : 0xD800 + ((paired high low).toNat - 0x10000) / 0x400 = high.toNat := by omega
  have second : 0xDC00 + ((paired high low).toNat - 0x10000) % 0x400 = low.toNat := by omega
  unfold charUnits
  rw [if_neg (by omega), first, second, UInt16.ofNat_toNat, UInt16.ofNat_toNat]

theorem charUnits_replaced {unit : UInt16} (surrogate : (isHigh unit || isLow unit) = true) :
    charUnits (single unit) = [0xFFFD] := by
  unfold single
  rw [surrogate, if_pos rfl]
  decide

theorem replacement_ne {unit : UInt16} (surrogate : (isHigh unit || isLow unit) = true) :
    (0xFFFD : UInt16) ≠ unit := by
  rintro rfl
  exact absurd surrogate (by decide)

theorem encode_decode_iff (units : List UInt16) :
    encode (decode units) = units ↔ wellFormed units = true := by
  induction units using decode.induct with
  | case1 high low rest isPair inductionHypothesis =>
      rw [decode, if_pos isPair, wellFormed, if_pos isPair, encode_cons, charUnits_paired isPair,
        ← inductionHypothesis]
      simp
  | case2 high low rest notPair inductionHypothesis =>
      rw [decode, if_neg notPair, wellFormed, if_neg notPair, encode_cons]
      cases plain : isHigh high || isLow high with
      | false =>
          rw [charUnits_single plain, Bool.not_false, Bool.true_and, ← inductionHypothesis]
          simp
      | true =>
          rw [charUnits_replaced plain]
          simp [replacement_ne plain]
  | case3 unit =>
      rw [decode, wellFormed, encode_cons]
      cases plain : isHigh unit || isLow unit with
      | false =>
          rw [charUnits_single plain]
          simp [encode]
      | true =>
          rw [charUnits_replaced plain]
          simp [encode, replacement_ne plain]
  | case4 => simp [decode, encode, wellFormed]

/-! ### Reading texts back -/

theorem decode_apart {unit : UInt16} {rest : List UInt16}
    (apart : ∀ next ∈ rest.head?, ¬(isHigh unit && isLow next) = true) :
    decode (unit :: rest) = single unit :: decode rest := by
  cases rest with
  | nil => rfl
  | cons next rest => rw [decode, if_neg (apart next rfl)]

theorem decode_cons {unit : UInt16} (plain : (isHigh unit || isLow unit) = false)
    (rest : List UInt16) : decode (unit :: rest) = single unit :: decode rest := by
  apply decode_apart
  intro next _
  rw [(Bool.or_eq_false_iff.mp plain).1, Bool.false_and]
  exact Bool.false_ne_true

theorem decode_pair {high low : UInt16} (isPair : (isHigh high && isLow low) = true)
    (rest : List UInt16) : decode (high :: low :: rest) = paired high low :: decode rest := by
  rw [decode, if_pos isPair]

theorem decode_append_cons {unit : UInt16} (plain : (isHigh unit || isLow unit) = false)
    (before after : List UInt16) :
    decode (before ++ unit :: after) = decode before ++ single unit :: decode after := by
  induction before using decode.induct with
  | case1 high low rest isPair inductionHypothesis =>
      rw [List.cons_append, List.cons_append, decode_pair isPair, decode_pair isPair,
        inductionHypothesis, List.cons_append]
  | case2 high low rest notPair inductionHypothesis =>
      rw [List.cons_append, List.cons_append, decode, if_neg notPair, decode, if_neg notPair,
        ← List.cons_append, inductionHypothesis, List.cons_append]
  | case3 last =>
      have notLow : isLow unit = false := by
        simp_all
      rw [List.cons_append, List.nil_append, decode, if_neg (by simp [notLow]),
        decode_cons plain, decode, List.cons_append, List.nil_append]
  | case4 => rw [List.nil_append, decode_cons plain, decode, List.nil_append]

theorem decode_charUnits (char : Char) (rest : List UInt16) :
    decode (charUnits char ++ rest) = char :: decode rest := by
  have valid : char.toNat < 0xD800 ∨ 0xDFFF < char.toNat ∧ char.toNat < 0x110000 := char.valid
  unfold charUnits
  split_ifs with basic
  · have code : (UInt16.ofNat char.toNat).toNat = char.toNat :=
      UInt16.toNat_ofNat_of_lt' (by simpa [UInt16.size] using basic)
    have plain : (isHigh (UInt16.ofNat char.toNat) || isLow (UInt16.ofNat char.toNat)) = false := by
      rw [Bool.or_eq_false_iff, ← Bool.not_eq_true, ← Bool.not_eq_true, isHigh_iff, isLow_iff, code]
      omega
    rw [List.cons_append, List.nil_append, decode_cons plain, single, plain,
      if_neg Bool.false_ne_true, code, Char.ofNat_toNat]
  · have highCode : (UInt16.ofNat (0xD800 + (char.toNat - 0x10000) / 0x400)).toNat =
        0xD800 + (char.toNat - 0x10000) / 0x400 :=
      UInt16.toNat_ofNat_of_lt' (by simp only [UInt16.size]; omega)
    have lowCode : (UInt16.ofNat (0xDC00 + (char.toNat - 0x10000) % 0x400)).toNat =
        0xDC00 + (char.toNat - 0x10000) % 0x400 :=
      UInt16.toNat_ofNat_of_lt' (by simp only [UInt16.size]; omega)
    have isPair : (isHigh (UInt16.ofNat (0xD800 + (char.toNat - 0x10000) / 0x400)) &&
        isLow (UInt16.ofNat (0xDC00 + (char.toNat - 0x10000) % 0x400))) = true := by
      rw [Bool.and_eq_true, isHigh_iff, isLow_iff, highCode, lowCode]
      omega
    have whole : 0x10000 + (char.toNat - 0x10000) / 0x400 * 0x400 +
        (char.toNat - 0x10000) % 0x400 = char.toNat := by
      omega
    rw [List.cons_append, List.cons_append, List.nil_append, decode_pair isPair, paired, highCode,
      lowCode, Nat.add_sub_cancel_left, Nat.add_sub_cancel_left, whole, Char.ofNat_toNat]

theorem decode_encode (text : List Char) : decode (encode text) = text := by
  induction text with
  | nil => rfl
  | cons char rest inductionHypothesis =>
      rw [encode_cons, decode_charUnits, inductionHypothesis]

theorem wellFormed_encode (text : List Char) : wellFormed (encode text) = true := by
  rw [← encode_decode_iff, decode_encode]

end Utf16
