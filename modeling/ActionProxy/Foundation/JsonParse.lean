import ActionProxy.Foundation.SortedText

/-!
`JSON.parse`, and that it reads back what the serializers print: literals,
string escapes, numbers, arrays and objects, each followed by any rest that does
not continue it. A number literal denotes its decimal; which number of the
language that is, if any, is a parameter.
-/

namespace JsonText

/-! ### Numbers -/

/-- The number of a decimal in any form. -/
def JsonNumber.ofDecimal (negative : Bool) (significand : Nat) (exponent : Int) : JsonNumber :=
  if nonzero : significand = 0 then JsonNumber.zero
  else
    { negative := negative
      significand := (JsonNumber.trimZeros significand significand exponent).1
      exponent := (JsonNumber.trimZeros significand significand exponent).2
      normal := Or.inl (JsonNumber.trimZeros_normal exponent (Nat.pos_of_ne_zero nonzero)
        (Nat.lt_pow_self (by decide))) }

def spanDigits (source : List Char) : List Char × List Char :=
  (source.takeWhile JsonNumber.isDigit, source.dropWhile JsonNumber.isDigit)

/-- The digits before the point: a zero alone, or digits that start with another. -/
def readWhole : List Char → Option (List Char × List Char)
  | '0' :: rest => some (['0'], rest)
  | source =>
      let digits := spanDigits source
      if digits.1 = [] then none else some digits

/-- The digits after the point, if there is one. -/
def readFraction : List Char → Option (List Char × List Char)
  | '.' :: rest =>
      let digits := spanDigits rest
      if digits.1 = [] then none else some digits
  | source => some ([], source)

def readExponentDigits (negative : Bool) (source : List Char) : Option (Int × List Char) :=
  let digits := spanDigits source
  let value : Int := Nat.ofDigitChars 10 digits.1 0
  if digits.1 = [] then none else some (if negative then -value else value, digits.2)

/-- The exponent, if there is one. -/
def readExponentPart : List Char → Option (Int × List Char)
  | mark :: source =>
      if mark = 'e' ∨ mark = 'E' then
        match source with
        | '-' :: digits => readExponentDigits true digits
        | '+' :: digits => readExponentDigits false digits
        | digits => readExponentDigits false digits
      else some (0, mark :: source)
  | [] => some (0, [])

def readMagnitudeLiteral (negative : Bool) (source : List Char) :
    Option (JsonNumber × List Char) := do
  let (whole, rest) ← readWhole source
  let (fraction, rest) ← readFraction rest
  let (exponent, rest) ← readExponentPart rest
  return (JsonNumber.ofDecimal negative (Nat.ofDigitChars 10 (whole ++ fraction) 0)
    (exponent - fraction.length), rest)

def readNumber : List Char → Option (JsonNumber × List Char)
  | '-' :: source => readMagnitudeLiteral true source
  | source => readMagnitudeLiteral false source

/-! ### Strings -/

def hexDigit? (char : Char) : Option Nat :=
  if char.isDigit then some (char.toNat - '0'.toNat)
  else if 'a' ≤ char ∧ char ≤ 'f' then some (char.toNat - 'a'.toNat + 10)
  else if 'A' ≤ char ∧ char ≤ 'F' then some (char.toNat - 'A'.toNat + 10)
  else none

/-- The code unit of an escape. -/
def escapedUnit (first second third fourth : Char) : Option Nat := do
  let first ← hexDigit? first
  let second ← hexDigit? second
  let third ← hexDigit? third
  let fourth ← hexDigit? fourth
  return ((first * 16 + second) * 16 + third) * 16 + fourth

def simpleEscape (char : Char) : Option Char :=
  if char = '"' ∨ char = '\\' ∨ char = '/' then some char
  else if char = 'b' then some '\x08'
  else if char = 'f' then some '\x0c'
  else if char = 'n' then some '\n'
  else if char = 'r' then some '\r'
  else if char = 't' then some '\t'
  else none

/-- The characters up to the closing quote, after the first half of a pair of
code units or not. A text with half a pair is no text of this model. -/
def readStringFrom : Option Nat → List Char → Option (List Char × List Char)
  | pending, '\\' :: 'u' :: first :: second :: third :: fourth :: rest =>
      match escapedUnit first second third fourth, pending with
      | none, _ => none
      | some unit, none =>
          if 0xD800 ≤ unit ∧ unit < 0xDC00 then readStringFrom (some unit) rest
          else if 0xDC00 ≤ unit ∧ unit < 0xE000 then none
          else (readStringFrom none rest).map (Prod.map (Char.ofNat unit :: ·) id)
      | some unit, some high =>
          if 0xDC00 ≤ unit ∧ unit < 0xE000 then
            (readStringFrom none rest).map (Prod.map
              (Char.ofNat (0x10000 + (high - 0xD800) * 0x400 + (unit - 0xDC00)) :: ·) id)
          else none
  | some _, _ => none
  | none, '"' :: rest => some ([], rest)
  | none, '\\' :: char :: rest =>
      match simpleEscape char with
      | none => none
      | some char => (readStringFrom none rest).map (Prod.map (char :: ·) id)
  | none, char :: rest =>
      if char = '\\' ∨ char.toNat < 32 then none
      else (readStringFrom none rest).map (Prod.map (char :: ·) id)
  | none, [] => none

/-- A string after its opening quote. -/
def readString (source : List Char) : Option (String × List Char) :=
  (readStringFrom none source).map (Prod.map String.ofList id)

/-! ### Values -/

def isJsonSpace (char : Char) : Bool :=
  char == ' ' || char == '\t' || char == '\n' || char == '\r'

def skipSpace (source : List Char) : List Char := source.dropWhile isJsonSpace

/-- A member set on an object: in its place when the key is there. -/
def putMember (members : List (String × Option Json)) (key : String) (value : Json) :
    List (String × Option Json) :=
  if members.any (fun member => member.1 == key) then
    members.map (fun member => if member.1 == key then (key, some value) else member)
  else members ++ [(key, some value)]

/-- The object of members read in order; a later member replaces an earlier one. -/
def objectOf (members : List (String × Json)) : Json :=
  .obj (members.foldl (fun object member => putMember object member.1 member.2) [])

section

variable (nearest : JsonNumber → Option JsonNumber)

mutual

def parseValue : Nat → List Char → Option (Json × List Char)
  | 0, _ => none
  | fuel + 1, source =>
      match source with
      | 'n' :: 'u' :: 'l' :: 'l' :: rest => some (.null, rest)
      | 't' :: 'r' :: 'u' :: 'e' :: rest => some (.bool true, rest)
      | 'f' :: 'a' :: 'l' :: 's' :: 'e' :: rest => some (.bool false, rest)
      | '"' :: rest => (readString rest).map (Prod.map .str id)
      | '[' :: rest =>
          match skipSpace rest with
          | ']' :: rest => some (.arr [], rest)
          | _ => (parseItems fuel rest).map (Prod.map .arr id)
      | '{' :: rest =>
          match skipSpace rest with
          | '}' :: rest => some (.obj [], rest)
          | _ => (parseMembers fuel rest).map (Prod.map objectOf id)
      | _ =>
          match readNumber source with
          | none => none
          | some (number, rest) => (nearest number).map (fun number => (.num number, rest))

/-- The items from the next one to the closing bracket. -/
def parseItems : Nat → List Char → Option (List Json × List Char)
  | 0, _ => none
  | fuel + 1, source =>
      match parseValue fuel (skipSpace source) with
      | none => none
      | some (item, rest) =>
          match skipSpace rest with
          | ',' :: rest => (parseItems fuel rest).map (Prod.map (item :: ·) id)
          | ']' :: rest => some ([item], rest)
          | _ => none

/-- The members from the next one to the closing brace. -/
def parseMembers : Nat → List Char → Option (List (String × Json) × List Char)
  | 0, _ => none
  | fuel + 1, source =>
      match skipSpace source with
      | '"' :: rest =>
          match readString rest with
          | none => none
          | some (key, rest) =>
              match skipSpace rest with
              | ':' :: rest =>
                  match parseValue fuel (skipSpace rest) with
                  | none => none
                  | some (value, rest) =>
                      match skipSpace rest with
                      | ',' :: rest => (parseMembers fuel rest).map (Prod.map ((key, value) :: ·) id)
                      | '}' :: rest => some ([(key, value)], rest)
                      | _ => none
              | _ => none
      | _ => none

end

/-- `JSON.parse`; nothing for a text that is not JSON. Every level of a text
takes at least one character, so the fuel is never used up by one that is. -/
def jsonParse (text : String) : Option Json :=
  match parseValue nearest (2 * text.toList.length + 1) (skipSpace text.toList) with
  | some (value, rest) => if skipSpace rest = [] then some value else none
  | none => none

end

/-! ### Reading a printed number -/

/-- What follows a value inside a printed text. -/
def Ends (rest : List Char) : Prop :=
  ∀ char ∈ rest.head?, char = ',' ∨ char = ']' ∨ char = '}'

theorem ends_nil : Ends [] := by
  intro char member
  cases member

theorem ends_cons {char : Char} (rest : List Char)
    (mark : char = ',' ∨ char = ']' ∨ char = '}') : Ends (char :: rest) := by
  intro other member
  cases member
  exact mark

theorem Ends.noDigit {rest : List Char} (ends : Ends rest) :
    ∀ char ∈ rest.head?, JsonNumber.isDigit char = false := by
  intro char member
  rcases ends char member with rfl | rfl | rfl <;> rfl

theorem Ends.noPoint {rest : List Char} (ends : Ends rest) :
    ∀ char ∈ rest.head?, char ≠ '.' := by
  intro char member
  rcases ends char member with rfl | rfl | rfl <;> decide

theorem Ends.noMark {rest : List Char} (ends : Ends rest) :
    ∀ char ∈ rest.head?, char ≠ 'e' ∧ char ≠ 'E' := by
  intro char member
  rcases ends char member with rfl | rfl | rfl <;> decide

namespace JsonNumber

theorem trimZeros_value {fuel significand : Nat} (exponent : Int) :
    ((trimZeros fuel significand exponent).1 : ℚ) *
        (10 : ℚ) ^ (trimZeros fuel significand exponent).2 =
      significand * (10 : ℚ) ^ exponent := by
  induction fuel generalizing significand exponent with
  | zero => rfl
  | succ fuel ih =>
      unfold trimZeros
      split
      · rename_i divides
        have split : (significand : ℚ) = (significand / 10 : Nat) * 10 := by
          exact_mod_cast (Nat.div_mul_cancel (Nat.dvd_of_mod_eq_zero divides)).symm
        rw [ih, split, zpow_add_one₀ (by norm_num)]
        ring
      · rfl

theorem ofDecimal_eq {number : JsonNumber} {significand : Nat} {exponent : Int}
    (value : (significand : ℚ) * (10 : ℚ) ^ exponent = number.magnitude) :
    ofDecimal number.negative significand exponent = number := by
  have ten : (10 : ℚ) ^ exponent ≠ 0 := zpow_ne_zero _ (by norm_num)
  unfold ofDecimal
  split
  · rename_i zero
    have noMagnitude : number.magnitude = 0 := by
      rw [← value, zero]
      simp
    have noSignificand := (magnitude_eq_zero_iff number).mp noMagnitude
    rcases number.normal with digit | ⟨_, exponentZero, positive⟩
    · rw [noSignificand] at digit
      exact absurd rfl digit
    · obtain ⟨negative, significand, exponent, normal⟩ := number
      simp only at noSignificand exponentZero positive
      subst noSignificand exponentZero positive
      rfl
  · apply ext_magnitude
    · rfl
    · rw [← value]
      exact trimZeros_value exponent

/-- The digits before the point of a literal. -/
def IsWhole (whole : List Char) : Prop :=
  whole = ['0'] ∨ ∃ head tail, whole = head :: tail ∧ head ≠ '0' ∧
    ∀ char ∈ whole, isDigit char = true

theorem toDigits_head {value : Nat} (positive : 0 < value) :
    ∃ head tail, Nat.toDigits 10 value = head :: tail ∧ head ≠ '0' := by
  induction value using Nat.strong_induction_on with
  | h value ih =>
      by_cases single : value < 10
      · rw [Nat.toDigits_of_lt_base single]
        refine ⟨_, [], rfl, ?_⟩
        intro zero
        interval_cases value <;> simp [Nat.digitChar] at zero
      · rw [Nat.toDigits_of_base_le (by decide) (Nat.le_of_not_lt single)]
        obtain ⟨head, tail, digits, nonzero⟩ :=
          ih (value / 10) (Nat.div_lt_self positive (by decide)) (by omega)
        rw [digits]
        exact ⟨head, _, rfl, nonzero⟩

theorem isWhole_toDigits (value : Nat) : IsWhole (Nat.toDigits 10 value) := by
  rcases Nat.eq_zero_or_pos value with rfl | positive
  · exact Or.inl (Nat.toDigits_zero 10)
  · obtain ⟨head, tail, digits, nonzero⟩ := toDigits_head positive
    exact Or.inr ⟨head, tail, digits, nonzero, fun _ member => isDigit_toDigits member⟩

theorem spanDigits_append {digits rest : List Char} (all : ∀ char ∈ digits, isDigit char = true)
    (stop : ∀ char ∈ rest.head?, isDigit char = false) :
    spanDigits (digits ++ rest) = (digits, rest) := by
  have split := takeWhile_digits rest all
  have ended : rest.takeWhile isDigit = [] ∧ rest.dropWhile isDigit = rest := by
    cases rest with
    | nil => exact ⟨rfl, rfl⟩
    | cons char tail =>
        have outside : ¬ isDigit char = true := by simp [stop char rfl]
        exact ⟨List.takeWhile_cons_of_neg outside, List.dropWhile_cons_of_neg outside⟩
  rw [spanDigits, split.1, split.2, ended.1, ended.2, List.append_nil]

theorem readWhole_append {whole rest : List Char} (isWhole : IsWhole whole)
    (stop : ∀ char ∈ rest.head?, isDigit char = false) :
    readWhole (whole ++ rest) = some (whole, rest) := by
  rcases isWhole with rfl | ⟨head, tail, rfl, nonzero, all⟩
  · rfl
  · have spanned := spanDigits_append all stop
    rw [List.cons_append] at spanned ⊢
    unfold readWhole
    split
    · rename_i shape
      exact absurd (List.cons.inj shape).1 nonzero
    · simp [spanned]

theorem readFraction_append {fraction rest : List Char} (nonempty : fraction ≠ [])
    (all : ∀ char ∈ fraction, isDigit char = true)
    (stop : ∀ char ∈ rest.head?, isDigit char = false) :
    readFraction ('.' :: (fraction ++ rest)) = some (fraction, rest) := by
  simp [readFraction, spanDigits_append all stop, nonempty]

theorem readFraction_absent {rest : List Char} (noPoint : ∀ char ∈ rest.head?, char ≠ '.') :
    readFraction rest = some ([], rest) := by
  unfold readFraction
  split
  · exact absurd rfl (noPoint '.' rfl)
  · rfl

theorem readExponentPart_absent {rest : List Char}
    (noMark : ∀ char ∈ rest.head?, char ≠ 'e' ∧ char ≠ 'E') :
    readExponentPart rest = some (0, rest) := by
  cases rest with
  | nil => rfl
  | cons char tail =>
      obtain ⟨small, capital⟩ := noMark char rfl
      simp [readExponentPart, small, capital]

theorem readExponentPart_signed (exponent : Int) {rest : List Char}
    (stop : ∀ char ∈ rest.head?, isDigit char = false) :
    readExponentPart ('e' :: (if 0 ≤ exponent then '+' else '-') ::
      (Nat.toDigits 10 exponent.natAbs ++ rest)) = some (exponent, rest) := by
  have spanned : spanDigits (Nat.toDigits 10 exponent.natAbs ++ rest) =
      (Nat.toDigits 10 exponent.natAbs, rest) :=
    spanDigits_append (fun _ member => isDigit_toDigits member) stop
  by_cases sign : 0 ≤ exponent
  · rw [if_pos sign]
    simp only [readExponentPart, true_or, if_true, readExponentDigits, spanned,
      Nat.toDigits_ne_nil, if_false, Bool.false_eq_true, Nat.ofDigitChars_ten_toDigits]
    rw [Int.natAbs_of_nonneg sign]
  · rw [if_neg sign]
    simp only [readExponentPart, true_or, if_true, readExponentDigits, spanned,
      Nat.toDigits_ne_nil, if_false, Nat.ofDigitChars_ten_toDigits]
    congr 2
    omega

theorem readMagnitudeLiteral_whole (negative : Bool) {whole rest : List Char}
    (isWhole : IsWhole whole) (ends : Ends rest) :
    readMagnitudeLiteral negative (whole ++ rest) =
      some (ofDecimal negative (Nat.ofDigitChars 10 whole 0) 0, rest) := by
  simp [readMagnitudeLiteral, readWhole_append isWhole ends.noDigit,
    readFraction_absent ends.noPoint, readExponentPart_absent ends.noMark]

theorem readMagnitudeLiteral_fraction (negative : Bool) {whole fraction rest : List Char}
    (isWhole : IsWhole whole) (nonempty : fraction ≠ [])
    (all : ∀ char ∈ fraction, isDigit char = true) (ends : Ends rest) :
    readMagnitudeLiteral negative (whole ++ '.' :: (fraction ++ rest)) =
      some (ofDecimal negative (Nat.ofDigitChars 10 (whole ++ fraction) 0)
        (0 - fraction.length), rest) := by
  have point : ∀ char ∈ ('.' :: (fraction ++ rest)).head?, isDigit char = false := by
    intro char member
    cases member
    rfl
  simp [readMagnitudeLiteral, readWhole_append isWhole point,
    readFraction_append nonempty all ends.noDigit, readExponentPart_absent ends.noMark]

theorem readMagnitudeLiteral_exponent (negative : Bool) {whole fraction rest : List Char}
    (exponent : Int) (isWhole : IsWhole whole) (all : ∀ char ∈ fraction, isDigit char = true)
    (ends : Ends rest) :
    readMagnitudeLiteral negative (whole ++ (if fraction = [] then [] else '.' :: fraction) ++
        'e' :: (if 0 ≤ exponent then '+' else '-') ::
          (Nat.toDigits 10 exponent.natAbs ++ rest)) =
      some (ofDecimal negative (Nat.ofDigitChars 10 (whole ++ fraction) 0)
        (exponent - fraction.length), rest) := by
  have mark : ∀ tail : List Char, ∀ char ∈ ('e' :: tail).head?, isDigit char = false := by
    intro tail char member
    cases member
    rfl
  have markPoint : ∀ tail : List Char, ∀ char ∈ ('e' :: tail).head?, char ≠ '.' := by
    intro tail char member
    cases member
    decide
  by_cases empty : fraction = []
  · subst empty
    simp [readMagnitudeLiteral, readWhole_append isWhole (mark _),
      readFraction_absent (markPoint _), readExponentPart_signed exponent ends.noDigit]
  · have point : ∀ tail : List Char, ∀ char ∈ ('.' :: tail).head?, isDigit char = false := by
      intro tail char member
      cases member
      rfl
    rw [if_neg empty, List.append_assoc, List.cons_append]
    simp [readMagnitudeLiteral, readWhole_append isWhole (point _),
      readFraction_append empty all (mark _), readExponentPart_signed exponent ends.noDigit]

theorem IsWhole.take {whole : List Char} (isWhole : IsWhole whole) {count : Nat}
    (positive : 0 < count) : IsWhole (whole.take count) := by
  obtain ⟨count, rfl⟩ := Nat.exists_eq_succ_of_ne_zero (Nat.pos_iff_ne_zero.mp positive)
  rcases isWhole with rfl | ⟨head, tail, rfl, nonzero, all⟩
  · exact Or.inl (by simp)
  · exact Or.inr ⟨head, tail.take count, rfl, nonzero,
      fun char member => all char (List.mem_of_mem_take member)⟩

/-- The digits of a number in plain form are the digits of a whole number. -/
theorem isWhole_plain (number : JsonNumber) :
    IsWhole (Nat.toDigits 10 number.significand ++ List.replicate number.exponent.toNat '0') := by
  rcases number.normal with digit | ⟨zero, flat, _⟩
  · have positive : 0 < number.significand := by omega
    obtain ⟨head, tail, digits, nonzero⟩ := toDigits_head positive
    refine Or.inr ⟨head, tail ++ List.replicate number.exponent.toNat '0', ?_, nonzero, ?_⟩
    · rw [digits, List.cons_append]
    · intro char member
      rcases List.mem_append.mp member with inDigits | inZeros
      · exact isDigit_toDigits inDigits
      · exact isDigit_replicate_zero inZeros
  · rw [zero, flat, Nat.toDigits_zero]
    exact Or.inl rfl

theorem IsWhole.all {whole : List Char} (isWhole : IsWhole whole) :
    ∀ char ∈ whole, isDigit char = true := by
  rcases isWhole with rfl | ⟨_, _, _, _, all⟩
  · intro char member
    rw [List.mem_singleton.mp member]
    rfl
  · exact all

theorem readMagnitudeLiteral_text (negative : Bool) (number : JsonNumber) {rest : List Char}
    (ends : Ends rest) :
    ∃ significand exponent,
      readMagnitudeLiteral negative (magnitudeText number.significand number.exponent ++ rest) =
          some (ofDecimal negative significand exponent, rest) ∧
        (significand : ℚ) * (10 : ℚ) ^ exponent = number.magnitude := by
  have value := readValue_magnitudeText number.significand number.exponent
  have isWhole := isWhole_toDigits number.significand
  have dropAll : ∀ count, ∀ char ∈ (Nat.toDigits 10 number.significand).drop count,
      isDigit char = true :=
    fun _ char member => isWhole.all char (List.mem_of_mem_drop member)
  have nonempty : 0 < (Nat.toDigits 10 number.significand).length := Nat.length_toDigits_pos
  unfold magnitudeText at value ⊢
  simp only at value ⊢
  split
  · -- plain integer form
    rename_i plain
    have whole := isWhole_plain number
    rw [if_pos plain, readValue, readMagnitude_whole whole.all] at value
    exact ⟨_, _, readMagnitudeLiteral_whole negative whole ends, value⟩
  · rename_i notPlain
    rw [if_neg notPlain] at value
    split
    · -- point inside the digits
      rename_i inside
      rw [if_pos inside] at value
      have fraction : (Nat.toDigits 10 number.significand).drop
          ((Nat.toDigits 10 number.significand).length + number.exponent).toNat ≠ [] := by
        rw [ne_eq, List.drop_eq_nil_iff]
        omega
      have whole := isWhole.take (show 0 <
        ((Nat.toDigits 10 number.significand).length + number.exponent).toNat by omega)
      have fractionAll := dropAll
        ((Nat.toDigits 10 number.significand).length + number.exponent).toNat
      have form := readMagnitude_fraction [] whole.all fractionAll rfl rfl
      rw [List.append_nil] at form
      rw [readValue, form] at value
      rw [List.append_assoc, List.cons_append]
      exact ⟨_, _, readMagnitudeLiteral_fraction negative whole fraction fractionAll ends, value⟩
    · rename_i notInside
      rw [if_neg notInside] at value
      split
      · -- leading zeros after the point
        rename_i leading
        rw [if_pos leading] at value
        have all : ∀ char ∈ List.replicate
            (-((Nat.toDigits 10 number.significand).length + number.exponent : Int)).toNat '0' ++
              Nat.toDigits 10 number.significand, isDigit char = true := by
          intro char member
          rcases List.mem_append.mp member with inZeros | inDigits
          · exact isDigit_replicate_zero inZeros
          · exact isWhole.all char inDigits
        have zero : IsWhole ['0'] := Or.inl rfl
        have form := readMagnitude_fraction [] zero.all all rfl rfl
        rw [List.append_nil] at form
        rw [readValue] at value
        change ((readMagnitude (['0'] ++ '.' :: _)).1 : ℚ) *
          10 ^ (readMagnitude (['0'] ++ '.' :: _)).2 = _ at value
        rw [form] at value
        refine ⟨_, _, ?_, value⟩
        exact readMagnitudeLiteral_fraction negative zero (by simp [Nat.toDigits_ne_nil]) all ends
      · -- exponent form
        have whole := isWhole.take Nat.one_pos
        have empty : (Nat.toDigits 10 number.significand).length = 1 ↔
            (Nat.toDigits 10 number.significand).drop 1 = [] := by
          rw [List.drop_eq_nil_iff]
          omega
        simp only [empty]
        have literal := readMagnitudeLiteral_exponent negative
          ((Nat.toDigits 10 number.significand).length + number.exponent - 1) whole
          (dropAll 1) ends
        refine ⟨_, _, Eq.trans (congrArg (readMagnitudeLiteral negative) ?_) literal, ?_⟩
        · simp only [List.append_assoc, List.cons_append]
        · rw [List.take_append_drop, Nat.ofDigitChars_ten_toDigits, magnitude, List.length_drop]
          congr 2
          omega

theorem readNumber_text (number : JsonNumber) {rest : List Char} (ends : Ends rest) :
    readNumber (number.text ++ rest) = some (number, rest) := by
  obtain ⟨significand, exponent, read, value⟩ :=
    readMagnitudeLiteral_text number.negative number ends
  rw [ofDecimal_eq value] at read
  obtain ⟨head, tail, magnitude, digit⟩ :=
    magnitudeText_head number.significand number.exponent
  unfold text
  cases sign : number.negative with
  | true =>
      rw [sign] at read
      exact read
  | false =>
      rw [sign] at read
      rw [if_neg Bool.false_ne_true, List.nil_append]
      rw [magnitude] at read ⊢
      unfold readNumber
      split
      · rename_i shape
        rw [(List.cons.inj shape).1] at digit
        cases digit
      · exact read

end JsonNumber

/-! ### Reading a printed string -/

theorem hexDigit?_digitChar {value : Nat} (bound : value < 16) :
    hexDigit? (Nat.digitChar value) = some value := by
  interval_cases value <;> rfl

theorem escapedUnit_control {code : Nat} (control : code < 32) :
    escapedUnit '0' '0' (Nat.digitChar (code / 16)) (Nat.digitChar (code % 16)) = some code := by
  have high := hexDigit?_digitChar (show code / 16 < 16 by omega)
  have low := hexDigit?_digitChar (show code % 16 < 16 by omega)
  have zero : hexDigit? '0' = some 0 := rfl
  simp [escapedUnit, zero, high, low]
  omega

theorem readStringFrom_escapeChar (char : Char) (rest : List Char) :
    readStringFrom none (escapeChar char ++ rest) =
      (readStringFrom none rest).map (Prod.map (char :: ·) id) := by
  unfold escapeChar
  split
  · rename_i quoteMark
    subst quoteMark
    rfl
  split
  · rename_i backslash
    subst backslash
    rfl
  repeat' split
  any_goals
    rename_i control
    subst control
    rfl
  · -- the remaining control characters, by their code unit
    rename_i control
    have unit := escapedUnit_control control
    simp only [List.cons_append, List.nil_append]
    rw [readStringFrom.eq_def]
    simp only [unit, Char.ofNat_toNat]
    rw [if_neg (by omega), if_neg (by omega)]
  · rename_i notQuote notBackslash _ _ _ _ _ printable
    rw [List.cons_append, List.nil_append, readStringFrom.eq_def]
    split <;> simp_all

theorem readStringFrom_quote (chars rest : List Char) :
    readStringFrom none (chars.flatMap escapeChar ++ '"' :: rest) = some (chars, rest) := by
  induction chars with
  | nil => rfl
  | cons char tail ih =>
      rw [List.flatMap_cons, List.append_assoc, readStringFrom_escapeChar, ih]
      rfl

theorem readString_quote (value : String) (rest : List Char) :
    readString (value.toList.flatMap escapeChar ++ '"' :: rest) = some (value, rest) := by
  rw [readString, readStringFrom_quote]
  simp

/-! ### Reading a printed value -/

theorem skipSpace_of_head {char : Char} (rest : List Char) (visible : isJsonSpace char = false) :
    skipSpace (char :: rest) = char :: rest :=
  List.dropWhile_cons_of_neg (by simp [visible])

theorem isJsonSpace_of_shape {char : Char} {shape : Shape} (start : shapeOfHead char = some shape) :
    isJsonSpace char = false := by
  cases space : isJsonSpace char with
  | false => rfl
  | true =>
      simp only [isJsonSpace, Bool.or_eq_true, beq_iff_eq] at space
      rcases space with ((rfl | rfl) | rfl) | rfl <;> cases start

theorem skipSpace_text (order : MemberOrder) (value : Json) (rest : List Char) :
    skipSpace (textWith order value ++ rest) = textWith order value ++ rest := by
  obtain ⟨head, tail, text, start⟩ := textWith_head order value
  rw [text, List.cons_append]
  exact skipSpace_of_head _ (isJsonSpace_of_shape start)

/-- Members put one after the other under distinct keys stay as they are. -/
theorem objectOf_distinct {members : List (String × Json)}
    (distinct : (members.map Prod.fst).Nodup) :
    objectOf members = .obj (members.map (fun member => (member.1, some member.2))) := by
  have folded : ∀ (rest : List (String × Json)) (object : List (String × Option Json)),
      (rest.map Prod.fst).Nodup → (∀ member ∈ rest, ∀ other ∈ object, other.1 ≠ member.1) →
      rest.foldl (fun object member => putMember object member.1 member.2) object =
        object ++ rest.map (fun member => (member.1, some member.2)) := by
    intro rest
    induction rest with
    | nil => simp
    | cons member rest ih =>
        intro object distinct fresh
        obtain ⟨newKey, restDistinct⟩ := List.nodup_cons.mp distinct
        have absent : object.any (fun other => other.1 == member.1) = false := by
          rw [List.any_eq_false]
          intro other listed
          simpa using fresh member List.mem_cons_self other listed
        have put : putMember object member.1 member.2 = object ++ [(member.1, some member.2)] := by
          rw [putMember, absent, if_neg Bool.false_ne_true]
        rw [List.foldl_cons, put, ih _ restDistinct]
        · simp
        · intro later laterListed other otherListed
          rcases List.mem_append.mp otherListed with inObject | atEnd
          · exact fresh later (List.mem_cons_of_mem _ laterListed) other inObject
          · rw [List.mem_singleton.mp atEnd]
            intro same
            exact newKey (List.mem_map.mpr ⟨later, laterListed, same.symm⟩)
  rw [objectOf, folded members [] distinct (fun _ _ _ listed => nomatch listed), List.nil_append]

theorem definedMembers_some_map (members : List (String × Json)) :
    definedMembers (members.map (fun member => (member.1, some member.2))) = members := by
  induction members with
  | nil => rfl
  | cons member rest ih =>
      rw [List.map_cons, definedMembers_some, ih]

section

variable (nearest : JsonNumber → Option JsonNumber)

/-- The numbers of a value are numbers of the language. -/
def exactNumbers : Json → Bool :=
  everyPart (fun value => match value with
    | .num number => nearest number == some number
    | _ => true)

mutual

/-- The value that a printed text spells: members as arranged, the undefined ones left out. -/
def printed (order : MemberOrder) : Json → Json
  | .arr items => .arr (printedItems order items)
  | .obj members => .obj ((order.arrange (printedMembers order members)).map (Prod.map id some))
  | .null => .null
  | .bool value => .bool value
  | .num number => .num number
  | .str text => .str text

def printedItems (order : MemberOrder) : List Json → List Json
  | [] => []
  | item :: rest => printed order item :: printedItems order rest

def printedMembers (order : MemberOrder) : List (String × Option Json) → List (String × Json)
  | [] => []
  | (_, none) :: rest => printedMembers order rest
  | (key, some value) :: rest => (key, printed order value) :: printedMembers order rest

end

omit nearest in
theorem printed_arr (order : MemberOrder) (items : List Json) :
    printed order (.arr items) = .arr (items.map (printed order)) := by
  have each : printedItems order items = items.map (printed order) := by
    induction items with
    | nil => rfl
    | cons item rest ih => rw [printedItems, ih, List.map_cons]
  rw [printed, each]

omit nearest in
theorem printed_obj (order : MemberOrder) (members : List (String × Option Json)) :
    printed order (.obj members) = .obj
      ((order.arrange (definedMembers members)).map
        (fun member => (member.1, some (printed order member.2)))) := by
  have each : printedMembers order members =
      (definedMembers members).map (Prod.map id (printed order)) := by
    induction members with
    | nil => rfl
    | cons member rest ih =>
        obtain ⟨key, value⟩ := member
        cases value with
        | none => rw [printedMembers, ih, definedMembers_none]
        | some value =>
            rw [printedMembers, ih, definedMembers_some, List.map_cons]
            rfl
  rw [printed, each, order.natural, List.map_map]
  rfl

omit nearest in
theorem definedMembers_printed (order : MemberOrder) (members : List (String × Json)) :
    definedMembers (members.map (fun member => (member.1, some (printed order member.2)))) =
      members.map (Prod.map id (printed order)) := by
  induction members with
  | nil => rfl
  | cons member rest ih =>
      rw [List.map_cons, definedMembers_some, ih]
      rfl

omit nearest in
theorem same_printed (order : MemberOrder) (value : Json) : Same value (printed order value) := by
  induction value using treeInduction with
  | null => exact Same.null
  | bool value => exact Same.bool value
  | num number => exact Same.num number
  | str text => exact Same.str text
  | arr items ih =>
      rw [printed_arr]
      apply Same.arr (sameItems_of_forall₂ _)
      rw [List.forall₂_map_right_iff]
      exact List.forall₂_same.mpr ih
  | obj members ih =>
      have perm := order.perm (definedMembers members)
      rw [printed_obj]
      refine Same.obj perm.symm (sameMembers_iff_forall₂.mpr ?_)
        (List.Perm.of_eq (definedMembers_printed order _).symm)
      rw [List.forall₂_map_right_iff]
      apply List.forall₂_same.mpr
      intro member listed
      exact ⟨rfl, ih member (perm.mem_iff.mp listed)⟩

omit nearest in
theorem distinctKeys_printed (order : MemberOrder) {value : Json}
    (distinct : distinctKeys value = true) : distinctKeys (printed order value) = true := by
  induction value using treeInduction with
  | null => rfl
  | bool value => rfl
  | num number => rfl
  | str text => rfl
  | arr items ih =>
      have parts := everyObject_arr.mp distinct
      rw [printed_arr]
      apply everyObject_arr.mpr
      intro item listed
      obtain ⟨source, inside, rfl⟩ := List.mem_map.mp listed
      exact ih source inside (parts source inside)
  | obj members ih =>
      have parts := everyObject_obj.mp distinct
      have perm := order.perm (definedMembers members)
      have keys : ((order.arrange (definedMembers members)).map Prod.fst).Nodup :=
        (perm.map Prod.fst).nodup_iff.mpr
          ((definedMembers_keys members).nodup (of_decide_eq_true parts.1))
      rw [printed_obj]
      apply everyObject_obj.mpr
      constructor
      · rw [List.map_map]
        exact decide_eq_true keys
      · rw [definedMembers_printed]
        intro member listed
        obtain ⟨source, inside, rfl⟩ := List.mem_map.mp listed
        have place := perm.mem_iff.mp inside
        exact ih source place (parts.2 source place)

/-- What parsing a text in front of a rest gives: the value it spells. -/
def Reads (order : MemberOrder) (value : Json) : Prop :=
  ∀ fuel rest, 2 * (textWith order value).length ≤ fuel → Ends rest →
    parseValue nearest fuel (textWith order value ++ rest) = some (printed order value, rest)

theorem commaSeparated_cons (first second : List Char) (rest : List (List Char)) :
    commaSeparated (first :: second :: rest) =
      first ++ ',' :: commaSeparated (second :: rest) := by
  simp [commaSeparated]

variable {nearest}

theorem parseItems_texts (order : MemberOrder) {items : List Json} {first : Json}
    (reads : ∀ item ∈ first :: items, Reads nearest order item) (fuel : Nat) (rest : List Char)
    (enough : 2 * (commaSeparated ((first :: items).map (textWith order))).length + 1 ≤ fuel) :
    parseItems nearest fuel
        (commaSeparated ((first :: items).map (textWith order)) ++ ']' :: rest) =
      some ((first :: items).map (printed order), rest) := by
  induction items generalizing first fuel with
  | nil =>
      obtain ⟨fuel, rfl⟩ := Nat.exists_eq_add_one.mpr (Nat.lt_of_lt_of_le (Nat.succ_pos _) enough)
      have single : commaSeparated ([first].map (textWith order)) = textWith order first := by
        simp [commaSeparated]
      rw [single] at enough ⊢
      have read := reads first List.mem_cons_self fuel (']' :: rest) (by omega)
        (ends_cons rest (by simp))
      rw [parseItems, skipSpace_text, read]
      rfl
  | cons second items ih =>
      obtain ⟨fuel, rfl⟩ := Nat.exists_eq_add_one.mpr (Nat.lt_of_lt_of_le (Nat.succ_pos _) enough)
      have joined : commaSeparated ((first :: second :: items).map (textWith order)) =
          textWith order first ++
            ',' :: commaSeparated ((second :: items).map (textWith order)) :=
        commaSeparated_cons _ _ _
      rw [joined] at enough ⊢
      rw [List.length_append, List.length_cons] at enough
      have read := reads first List.mem_cons_self fuel
        (',' :: commaSeparated ((second :: items).map (textWith order)) ++ ']' :: rest)
        (by omega) (ends_cons _ (by simp))
      have readOthers := ih (fun item listed => reads item (List.mem_cons_of_mem _ listed)) fuel
        (by omega)
      rw [List.append_assoc, parseItems, skipSpace_text, read]
      simp only [List.cons_append]
      rw [skipSpace_of_head _ rfl]
      simp only [readOthers]
      rfl

theorem parseMember_text (order : MemberOrder) {member : String × Json}
    (reads : Reads nearest order member.2) (fuel : Nat) {rest : List Char} (ends : Ends rest)
    (enough : 2 * (memberText order member).length ≤ fuel + 2) :
    ∃ source, memberText order member ++ rest = '"' :: source ∧
      readString source = some (member.1, ':' :: (textWith order member.2 ++ rest)) ∧
      parseValue nearest fuel (textWith order member.2 ++ rest) =
        some (printed order member.2, rest) := by
  have size : (textWith order member.2).length + 1 ≤ (memberText order member).length := by
    simp only [memberText, quote, List.length_append, List.length_cons]
    omega
  refine ⟨member.1.toList.flatMap escapeChar ++ '"' :: ':' :: (textWith order member.2 ++ rest),
    ?_, readString_quote member.1 _, reads fuel rest (by omega) ends⟩
  simp [memberText, quote]

theorem parseMembers_texts (order : MemberOrder) {members : List (String × Json)}
    {first : String × Json} (reads : ∀ member ∈ first :: members, Reads nearest order member.2)
    (fuel : Nat) (rest : List Char)
    (enough : 2 * (commaSeparated ((first :: members).map (memberText order))).length + 1 ≤ fuel) :
    parseMembers nearest fuel
        (commaSeparated ((first :: members).map (memberText order)) ++ '}' :: rest) =
      some ((first :: members).map (Prod.map id (printed order)), rest) := by
  induction members generalizing first fuel with
  | nil =>
      obtain ⟨fuel, rfl⟩ := Nat.exists_eq_add_one.mpr (Nat.lt_of_lt_of_le (Nat.succ_pos _) enough)
      have single : commaSeparated ([first].map (memberText order)) = memberText order first := by
        simp [commaSeparated]
      rw [single] at enough ⊢
      have brace : Ends ('\x7d' :: rest) := ends_cons rest (by simp)
      obtain ⟨source, text, key, value⟩ := parseMember_text order
        (reads first List.mem_cons_self) fuel brace (by omega)
      rw [text, parseMembers, skipSpace_of_head _ rfl]
      simp only [key]
      rw [skipSpace_of_head _ rfl]
      simp only [skipSpace_text, value]
      rfl
  | cons second members ih =>
      obtain ⟨fuel, rfl⟩ := Nat.exists_eq_add_one.mpr (Nat.lt_of_lt_of_le (Nat.succ_pos _) enough)
      have joined : commaSeparated ((first :: second :: members).map (memberText order)) =
          memberText order first ++
            ',' :: commaSeparated ((second :: members).map (memberText order)) :=
        commaSeparated_cons _ _ _
      rw [joined] at enough ⊢
      rw [List.length_append, List.length_cons] at enough
      have comma : Ends (',' :: (commaSeparated ((second :: members).map (memberText order)) ++
          '}' :: rest)) := ends_cons _ (by simp)
      obtain ⟨source, text, key, value⟩ := parseMember_text order
        (reads first List.mem_cons_self) fuel comma (by omega)
      have readOthers := ih (fun member listed => reads member (List.mem_cons_of_mem _ listed)) fuel
        (by omega)
      rw [List.append_assoc, List.cons_append, text, parseMembers, skipSpace_of_head _ rfl]
      simp only [key]
      rw [skipSpace_of_head _ rfl]
      simp only [skipSpace_text, value]
      rw [skipSpace_of_head _ rfl]
      simp only [readOthers]
      rfl

theorem textWith_length_pos (order : MemberOrder) (value : Json) :
    0 < (textWith order value).length := by
  obtain ⟨head, tail, text, _⟩ := textWith_head order value
  rw [text]
  exact Nat.succ_pos _

theorem parseValue_number (number : JsonNumber) (fuel : Nat) {rest : List Char}
    (ends : Ends rest) :
    parseValue nearest (fuel + 1) (number.text ++ rest) =
      (nearest number).map (fun number => (.num number, rest)) := by
  obtain ⟨head, tail, text, start⟩ := number.text_head
  have read := JsonNumber.readNumber_text number ends
  rw [text, List.cons_append] at read ⊢
  have other : head ≠ 'n' ∧ head ≠ 't' ∧ head ≠ 'f' ∧ head ≠ '"' ∧ head ≠ '[' ∧
      head ≠ '\x7b' := by
    rcases start with minus | digit
    · rw [minus]
      decide
    · refine ⟨?_, ?_, ?_, ?_, ?_, ?_⟩ <;>
        · intro letter
          rw [letter] at digit
          cases digit
  rw [parseValue.eq_def]
  split <;> simp_all

/-- After an opening bracket that does not close at once the items are read. -/
theorem parseValue_items {head : Char} (tail : List Char) (fuel : Nat)
    (visible : isJsonSpace head = false) (opens : head ≠ ']') :
    parseValue nearest (fuel + 1) ('[' :: head :: tail) =
      (parseItems nearest fuel (head :: tail)).map (Prod.map .arr id) := by
  rw [parseValue, skipSpace_of_head _ visible]
  split
  · rename_i closes
    exact absurd (List.cons.inj closes).1 opens
  · rfl

/-- After an opening brace that does not close at once the members are read. -/
theorem parseValue_members (tail : List Char) (fuel : Nat) :
    parseValue nearest (fuel + 1) ('\x7b' :: '"' :: tail) =
      (parseMembers nearest fuel ('"' :: tail)).map (Prod.map objectOf id) := by
  rw [parseValue, skipSpace_of_head _ rfl]
  split
  · rename_i closes
    exact absurd (List.cons.inj closes).1 (by decide)
  · rfl

theorem reads_text (order : MemberOrder) {value : Json} (distinct : distinctKeys value = true)
    (exact : exactNumbers nearest value = true) : Reads nearest order value := by
  induction value using treeInduction with
  | null =>
      intro fuel rest enough _
      obtain ⟨fuel, rfl⟩ := Nat.exists_eq_add_one.mpr
        (Nat.lt_of_lt_of_le (by simp [textWith]) enough)
      rfl
  | bool value =>
      intro fuel rest enough _
      obtain ⟨fuel, rfl⟩ := Nat.exists_eq_add_one.mpr (Nat.lt_of_lt_of_le
        (Nat.mul_pos (by decide) (textWith_length_pos order (.bool value))) enough)
      cases value <;> rfl
  | num number =>
      intro fuel rest enough ends
      obtain ⟨fuel, rfl⟩ := Nat.exists_eq_add_one.mpr (Nat.lt_of_lt_of_le
        (Nat.mul_pos (by decide) (textWith_length_pos order (.num number))) enough)
      have held : nearest number = some number := beq_iff_eq.mp exact
      rw [textWith, parseValue_number number fuel ends, held]
      rfl
  | str text =>
      intro fuel rest enough _
      obtain ⟨fuel, rfl⟩ := Nat.exists_eq_add_one.mpr (Nat.lt_of_lt_of_le
        (Nat.mul_pos (by decide) (textWith_length_pos order (.str text))) enough)
      have source : textWith order (.str text) ++ rest =
          '"' :: (text.toList.flatMap escapeChar ++ '"' :: rest) := by
        simp [textWith, quote]
      rw [source, parseValue]
      simp only [readString_quote]
      rfl
  | arr items ih =>
      intro fuel rest enough ends
      have itemsDistinct := everyObject_arr.mp distinct
      have itemsExact := (everyPart_arr.mp exact).2
      rw [textWith_arr, List.length_cons, List.length_append] at enough
      obtain ⟨fuel, rfl⟩ := Nat.exists_eq_add_one.mpr
        (Nat.lt_of_lt_of_le (Nat.mul_pos (by decide) (Nat.succ_pos _)) enough)
      rw [textWith_arr, printed_arr, List.cons_append, List.append_assoc]
      cases items with
      | nil => rfl
      | cons first items =>
          have read := parseItems_texts order
            (fun item listed => ih item listed (itemsDistinct item listed)
              (itemsExact item listed)) fuel rest (by omega)
          obtain ⟨head, tail, text, start⟩ := textWith_head order first
          obtain ⟨rest', joined⟩ : ∃ rest', commaSeparated
              ((first :: items).map (textWith order)) ++ ']' :: rest = head :: rest' := by
            cases items with
            | nil => exact ⟨tail ++ ']' :: rest, by simp [commaSeparated, text]⟩
            | cons second items =>
                rw [List.map_cons, List.map_cons, commaSeparated_cons, text]
                exact ⟨_, rfl⟩
          have opens : head ≠ ']' := by
            rintro rfl
            cases start
          rw [joined] at read
          rw [List.singleton_append, joined,
            parseValue_items _ fuel (isJsonSpace_of_shape start) opens, read]
          rfl
  | obj members ih =>
      intro fuel rest enough ends
      have distinctParts := everyObject_obj.mp distinct
      have exactParts := (everyPart_obj.mp exact).2
      rw [textWith_obj, List.length_cons, List.length_append] at enough
      obtain ⟨fuel, rfl⟩ := Nat.exists_eq_add_one.mpr
        (Nat.lt_of_lt_of_le (Nat.mul_pos (by decide) (Nat.succ_pos _)) enough)
      rw [textWith_obj, printed_obj, List.cons_append, List.append_assoc]
      have perm := order.perm (definedMembers members)
      have keys : ((order.arrange (definedMembers members)).map Prod.fst).Nodup :=
        (perm.map Prod.fst).nodup_iff.mpr
          ((definedMembers_keys members).nodup (of_decide_eq_true distinctParts.1))
      have reads : ∀ member ∈ order.arrange (definedMembers members),
          Reads nearest order member.2 := fun member listed =>
        ih member (perm.mem_iff.mp listed) (distinctParts.2 member (perm.mem_iff.mp listed))
          (exactParts member (perm.mem_iff.mp listed))
      cases arranged : order.arrange (definedMembers members) with
      | nil => rfl
      | cons first others =>
          rw [arranged] at keys reads enough
          have read := parseMembers_texts order reads fuel rest (by omega)
          have parsedKeys :
              (((first :: others).map (Prod.map id (printed order))).map Prod.fst).Nodup := by
            rw [List.map_map]
            exact keys
          obtain ⟨tail, joined⟩ : ∃ tail, commaSeparated
              ((first :: others).map (memberText order)) ++ '}' :: rest = '"' :: tail := by
            cases others with
            | nil => exact ⟨_, rfl⟩
            | cons second others => exact ⟨_, rfl⟩
          rw [joined] at read
          rw [List.singleton_append, joined, parseValue_members, read, Option.map_some,
            Prod.map_apply, objectOf_distinct parsedKeys, List.map_map]
          rfl

/-- `JSON.parse` of a printed value gives the value as it was printed. -/
theorem jsonParse_printed (order : MemberOrder) {value : Json}
    (distinct : distinctKeys value = true) (exact : exactNumbers nearest value = true) :
    jsonParse nearest (String.ofList (textWith order value)) = some (printed order value) := by
  have read := reads_text order distinct exact (2 * (textWith order value).length + 1) []
    (Nat.le_succ _) ends_nil
  have start := skipSpace_text order value []
  rw [List.append_nil] at read start
  rw [jsonParse, String.toList_ofList, start, read]
  rfl

/-- `JSON.parse` of a printed value gives the value. -/
theorem jsonParse_text (order : MemberOrder) {value : Json} (distinct : distinctKeys value = true)
    (exact : exactNumbers nearest value = true) :
    ∃ parsed, jsonParse nearest (String.ofList (textWith order value)) = some parsed ∧
      Same value parsed ∧ distinctKeys parsed = true :=
  ⟨printed order value, jsonParse_printed order distinct exact, same_printed order value,
    distinctKeys_printed order distinct⟩

omit nearest in
/-- Printing with the members as enumerated leaves a complete value as it is. -/
theorem printed_complete {value : Json} (whole : complete value = true) :
    printed insertionOrder value = value := by
  induction value using treeInduction with
  | null => rfl
  | bool value => rfl
  | num number => rfl
  | str text => rfl
  | arr items ih =>
      have parts := everyObject_arr.mp whole
      rw [printed_arr]
      congr 1
      exact (List.map_congr_left (fun item listed => ih item listed (parts item listed))).trans
        (List.map_id items)
  | obj members ih =>
      obtain ⟨defined, parts⟩ := everyObject_obj.mp whole
      rw [printed_obj]
      congr 1
      calc
        (definedMembers members).map (fun member => (member.1, some (printed insertionOrder member.2)))
            = (definedMembers members).map (Prod.map id some) := by
          apply List.map_congr_left
          intro member listed
          rw [ih member listed (parts member listed)]
          rfl
        _ = members := definedMembers_complete defined

theorem exactNumbers_of_same {left right : Json} (same : Same left right)
    (exact : exactNumbers nearest left = true) : exactNumbers nearest right = true := by
  induction left using treeInduction generalizing right with
  | null =>
      cases same
      exact exact
  | bool value =>
      cases same
      exact exact
  | num number =>
      cases same
      exact exact
  | str text =>
      cases same
      exact exact
  | arr items ih =>
      cases same with
      | arr related =>
          refine everyPart_arr.mpr ⟨rfl, fun other listed => ?_⟩
          obtain ⟨item, itemListed, itemSame⟩ :=
            exists_left_of_forall₂ (forall₂_of_sameItems related) listed
          exact ih item itemListed itemSame ((everyPart_arr.mp exact).2 item itemListed)
  | obj members ih =>
      cases same with
      | obj leftPerm related rightPerm =>
          refine everyPart_obj.mpr ⟨rfl, fun other listed => ?_⟩
          obtain ⟨member, memberListed, memberSame⟩ :=
            exists_left_of_forall₂ (sameMembers_iff_forall₂.mp related)
              (rightPerm.mem_iff.mpr listed)
          have inLeft := leftPerm.mem_iff.mpr memberListed
          exact ih member inLeft memberSame.2 ((everyPart_obj.mp exact).2 member inLeft)

end

end JsonText
