import Mathlib.Data.Bool.AllAny
import ActionProxy.Foundation.JsonText

/-!
JSON texts over several lines, each nested value indented by two spaces.
-/

namespace JsonText

/-- The parts of an array or object, each on a line of its own. -/
def indentedBlock (opening closing : Char) (margin : Nat) : List (List Char) → List Char
  | [] => [opening, closing]
  | first :: rest =>
      opening :: '\n' :: (List.replicate (margin + 2) ' ' ++ first ++
        rest.flatMap (fun part => ',' :: '\n' :: (List.replicate (margin + 2) ' ' ++ part)) ++
        '\n' :: (List.replicate margin ' ' ++ [closing]))

mutual

/-- `JSON.stringify(value, null, 2)` for a value that stands behind a margin. -/
def indentedText (margin : Nat) : Json → List Char
  | .arr items => indentedBlock '[' ']' margin (indentedItems (margin + 2) items)
  | .obj members => indentedBlock '{' '}' margin (indentedMembers (margin + 2) members)
  | value => textWith insertionOrder value

def indentedItems (margin : Nat) : List Json → List (List Char)
  | [] => []
  | item :: rest => indentedText margin item :: indentedItems margin rest

def indentedMembers (margin : Nat) : List (String × Option Json) → List (List Char)
  | [] => []
  | (_, none) :: rest => indentedMembers margin rest
  | (key, some value) :: rest =>
      (quote key ++ ':' :: ' ' :: indentedText margin value) :: indentedMembers margin rest

end

/-! ### Line feeds of an indented text -/

/-- Every line feed of the text comes right before a space or a closing bracket. -/
inductive Laid : List Char → Prop where
  | nil : Laid []
  | cons {char : Char} {rest : List Char} (plain : char ≠ '\r' ∧ char ≠ '\n')
      (later : Laid rest) : Laid (char :: rest)
  | feed {char : Char} {rest : List Char} (mark : char = ' ' ∨ char = ']' ∨ char = '}')
      (later : Laid rest) : Laid ('\n' :: char :: rest)

theorem Laid.append {front back : List Char} (left : Laid front) (right : Laid back) :
    Laid (front ++ back) := by
  induction left with
  | nil => exact right
  | cons plain _ inductionHypothesis => exact .cons plain inductionHypothesis
  | feed mark _ inductionHypothesis => exact .feed mark inductionHypothesis

theorem laid_of_plain {text : List Char} (plain : ∀ char ∈ text, char ≠ '\r' ∧ char ≠ '\n') :
    Laid text := by
  induction text with
  | nil => exact .nil
  | cons char rest inductionHypothesis =>
      rw [List.forall_mem_cons] at plain
      exact .cons plain.1 (inductionHypothesis plain.2)

theorem laid_replicate (margin : Nat) : Laid (List.replicate margin ' ') := by
  apply laid_of_plain
  intro char listed
  rw [List.eq_of_mem_replicate listed]
  decide

theorem escapeChar_plain (char : Char) :
    ∀ written ∈ escapeChar char, written ≠ '\r' ∧ written ≠ '\n' := by
  have hex : ∀ value < 16, Nat.digitChar value ≠ '\r' ∧ Nat.digitChar value ≠ '\n' := by decide
  unfold escapeChar
  repeat' split
  all_goals try exact List.all_iff_forall_prop.mp (by decide)
  · rename_i control
    have high := hex (char.toNat / 16) (by omega)
    have low := hex (char.toNat % 16) (by omega)
    simp only [List.forall_mem_cons]
    refine ⟨by decide, by decide, by decide, by decide, high, low, ?_⟩
    exact fun written listed => absurd listed List.not_mem_nil
  · rename_i feed _ isReturn _
    rw [List.forall_mem_singleton]
    exact ⟨isReturn, feed⟩

theorem laid_quote (value : String) : Laid (quote value) := by
  refine .cons (by decide) (Laid.append (laid_of_plain ?_) (.cons (by decide) .nil))
  intro char listed
  obtain ⟨source, -, written⟩ := List.mem_flatMap.mp listed
  exact escapeChar_plain source char written

theorem laid_number (number : JsonNumber) : Laid number.text := by
  apply laid_of_plain
  intro char listed
  have printed := JsonNumber.isNumberChar_text number char listed
  constructor
  · intro same
    rw [same] at printed
    exact absurd printed (by decide)
  · intro same
    rw [same] at printed
    exact absurd printed (by decide)

theorem laid_indentedBlock {opening closing : Char} (opens : opening ≠ '\r' ∧ opening ≠ '\n')
    (closes : closing = ']' ∨ closing = '}') (margin : Nat) {parts : List (List Char)}
    (laid : ∀ part ∈ parts, Laid part) : Laid (indentedBlock opening closing margin parts) := by
  have plain : closing ≠ '\r' ∧ closing ≠ '\n' := by
    rcases closes with rfl | rfl
    · decide
    · decide
  have indented (part : List Char) (inside : Laid part) :
      Laid ('\n' :: (List.replicate (margin + 2) ' ' ++ part)) := by
    rw [List.replicate_succ, List.cons_append]
    exact .feed (Or.inl rfl) ((laid_replicate _).append inside)
  have ending : Laid ('\n' :: (List.replicate margin ' ' ++ [closing])) := by
    cases margin with
    | zero => exact .feed (Or.inr closes) .nil
    | succ margin =>
        rw [List.replicate_succ, List.cons_append]
        exact .feed (Or.inl rfl) ((laid_replicate _).append (.cons plain .nil))
  cases parts with
  | nil => exact .cons opens (.cons plain .nil)
  | cons first rest =>
      rw [List.forall_mem_cons] at laid
      rw [indentedBlock, List.append_assoc, List.append_assoc]
      refine .cons opens (indented _ (laid.1.append (Laid.append ?_ ending)))
      have later := laid.2
      induction rest with
      | nil => exact .nil
      | cons part rest inductionHypothesis =>
          rw [List.forall_mem_cons] at later
          rw [List.flatMap_cons, List.cons_append]
          exact .cons (by decide) ((indented part later.1).append
            (inductionHypothesis ⟨laid.1, later.2⟩ later.2))

theorem laid_indentedText (value : Json) (margin : Nat) : Laid (indentedText margin value) := by
  induction value using treeInduction generalizing margin with
  | null =>
      have letters : ∀ char ∈ ['n', 'u', 'l', 'l'], char ≠ '\r' ∧ char ≠ '\n' :=
        List.all_iff_forall_prop.mp (by decide)
      exact laid_of_plain letters
  | bool value =>
      have letters (value : Bool) :
          ∀ char ∈ textWith insertionOrder (.bool value), char ≠ '\r' ∧ char ≠ '\n' := by
        cases value <;> exact List.all_iff_forall_prop.mp (by decide)
      exact laid_of_plain (letters value)
  | num number => exact laid_number number
  | str text => exact laid_quote text
  | arr items inductionHypothesis =>
      rw [indentedText]
      refine laid_indentedBlock (by decide) (Or.inl rfl) margin ?_
      induction items with
      | nil => exact fun part listed => absurd listed List.not_mem_nil
      | cons item rest onRest =>
          rw [List.forall_mem_cons] at inductionHypothesis
          rw [indentedItems, List.forall_mem_cons]
          exact ⟨inductionHypothesis.1 (margin + 2), onRest inductionHypothesis.2⟩
  | obj members inductionHypothesis =>
      rw [indentedText]
      refine laid_indentedBlock (by decide) (Or.inr rfl) margin ?_
      induction members with
      | nil => exact fun part listed => absurd listed List.not_mem_nil
      | cons member rest onRest =>
          obtain ⟨key, value⟩ := member
          cases value with
          | none => exact onRest inductionHypothesis
          | some value =>
              rw [definedMembers_some, List.forall_mem_cons] at inductionHypothesis
              rw [indentedMembers, List.forall_mem_cons]
              refine ⟨?_, onRest inductionHypothesis.2⟩
              exact (laid_quote key).append (.cons (by decide) (.cons (by decide)
                (inductionHypothesis.1 (margin + 2))))

end JsonText
