import ActionProxy.Foundation.TextScan
import Mathlib.Data.Nat.Digits.Defs

/-!
Integers in base 36, as they are printed and as the start of a text is read.
-/

namespace Base36

def digit (value : Nat) : Char :=
  if value < 10 then Char.ofNat (48 + value) else Char.ofNat (87 + value)

/-- The value of a digit, in either case. -/
def digit? (char : Char) : Option Nat :=
  if '0' ≤ char ∧ char ≤ '9' then some (char.toNat - 48)
  else if 'a' ≤ char ∧ char ≤ 'z' then some (char.toNat - 87)
  else if 'A' ≤ char ∧ char ≤ 'Z' then some (char.toNat - 55)
  else none

def natText (value : Nat) : List Char :=
  if value = 0 then ['0'] else (Nat.digits 36 value).reverse.map digit

/-- `toString(36)` of an integer. -/
def text (value : Int) : List Char :=
  if value < 0 then '-' :: natText value.natAbs else natText value.natAbs

def parseNat (source : List Char) : Option Nat :=
  let digits := (source.takeWhile (fun char => (digit? char).isSome)).filterMap digit?
  if digits = [] then none else some (Nat.ofDigits 36 digits.reverse)

/-- `Number.parseInt(source, 36)`; nothing where no digit is read. -/
def parse (source : List Char) : Option Int :=
  match source.dropWhile TextScan.isSpace with
  | '-' :: rest => (parseNat rest).map (fun value => -Int.ofNat value)
  | '+' :: rest => (parseNat rest).map Int.ofNat
  | rest => (parseNat rest).map Int.ofNat

/-! ### Reading a text back -/

theorem digit_spec : ∀ value < 36, digit? (digit value) = some value ∧
    (('0' ≤ digit value ∧ digit value ≤ '9') ∨ ('a' ≤ digit value ∧ digit value ≤ 'z')) := by
  decide +kernel

theorem natText_digits (value : Nat) :
    ∃ digits : List Nat, natText value = digits.map digit ∧ digits ≠ [] ∧
      (∀ one ∈ digits, one < 36) ∧ Nat.ofDigits 36 digits.reverse = value := by
  unfold natText
  split
  · rename_i zero
    refine ⟨[0], rfl, List.cons_ne_nil _ _, ?_, ?_⟩
    · intro one listed
      rw [List.mem_singleton.mp listed]
      decide
    · rw [zero]
      rfl
  · rename_i nonzero
    refine ⟨(Nat.digits 36 value).reverse, rfl, ?_, ?_, ?_⟩
    · rw [ne_eq, List.reverse_eq_nil_iff]
      exact Nat.digits_ne_nil_iff_ne_zero.mpr nonzero
    · intro one listed
      exact Nat.digits_lt_base (by decide) (List.mem_reverse.mp listed)
    · rw [List.reverse_reverse, Nat.ofDigits_digits]

theorem parseNat_natText (value : Nat) : parseNat (natText value) = some value := by
  obtain ⟨digits, written, nonempty, small, total⟩ := natText_digits value
  have allDigits : ∀ char ∈ digits.map digit, (digit? char).isSome = true := by
    intro char listed
    obtain ⟨one, member, rfl⟩ := List.mem_map.mp listed
    rw [(digit_spec one (small one member)).1]
    rfl
  have back : (digits.map digit).filterMap digit? = digits := by
    rw [List.filterMap_map]
    calc digits.filterMap (digit? ∘ digit) = digits.filterMap some := by
          refine List.filterMap_congr ?_
          intro one member
          exact (digit_spec one (small one member)).1
      _ = digits := List.filterMap_some
  rw [parseNat, written, List.takeWhile_eq_self_iff.mpr allDigits, back]
  simp only [if_neg nonempty, total]

theorem text_chars (value : Int) : ∀ char ∈ text value,
    char = '-' ∨ ('0' ≤ char ∧ char ≤ '9') ∨ ('a' ≤ char ∧ char ≤ 'z') := by
  have digits (number : Nat) : ∀ char ∈ natText number,
      ('0' ≤ char ∧ char ≤ '9') ∨ ('a' ≤ char ∧ char ≤ 'z') := by
    obtain ⟨digits, written, -, small, -⟩ := natText_digits number
    rw [written]
    intro char listed
    obtain ⟨one, member, rfl⟩ := List.mem_map.mp listed
    exact (digit_spec one (small one member)).2
  intro char listed
  unfold text at listed
  split at listed
  · rcases List.mem_cons.mp listed with rfl | later
    · exact Or.inl rfl
    · exact Or.inr (digits _ char later)
  · exact Or.inr (digits _ char listed)

theorem text_ne_nil (value : Int) : text value ≠ [] := by
  obtain ⟨digits, written, nonempty, -⟩ := natText_digits value.natAbs
  unfold text
  split
  · exact List.cons_ne_nil _ _
  · rw [written, ne_eq, List.map_eq_nil_iff]
    exact nonempty

theorem digit_plain : ∀ value < 36, TextScan.isSpace (digit value) = false ∧
    digit value ≠ '-' ∧ digit value ≠ '+' := by
  decide +kernel

theorem parse_text (value : Int) : parse (text value) = some value := by
  unfold text
  split
  · rename_i negative
    have kept : ('-' :: natText value.natAbs).dropWhile TextScan.isSpace =
        '-' :: natText value.natAbs := by
      rw [List.dropWhile_cons_of_neg]
      decide
    rw [parse, kept]
    simp only [parseNat_natText, Option.map_some]
    congr 1
    rw [Int.ofNat_eq_natCast]
    omega
  · rename_i positive
    obtain ⟨digits, written, nonempty, small, -⟩ := natText_digits value.natAbs
    have read := parseNat_natText value.natAbs
    cases digits with
    | nil => exact absurd rfl nonempty
    | cons first rest =>
        obtain ⟨space, minus, plus⟩ := digit_plain first (small first List.mem_cons_self)
        rw [List.map_cons] at written
        rw [written] at read
        rw [parse, written, List.dropWhile_cons_of_neg (by rw [space]; exact Bool.false_ne_true)]
        split
        · rename_i same
          exact absurd (List.cons.inj same).1 minus
        · rename_i same
          exact absurd (List.cons.inj same).1 plus
        · rw [read, Option.map_some, Int.ofNat_eq_natCast]
          congr 1
          omega

end Base36
