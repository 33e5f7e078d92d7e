import ActionProxy.Foundation.JsonValue

/-!
A JSON text is uniquely decodable, whatever order the members are printed in:
two values whose texts agree up to what follows them are the same value up to
member order and undefined members. Numbers are delimited by their character
set, string literals by their escapes, lists by commas and the closing bracket.
-/

namespace JsonText

/-! ### String literals -/

private def hexValue (char : Char) : Nat :=
  if char.isDigit then char.toNat - '0'.toNat else char.toNat - 'a'.toNat + 10

/-- The character that one escape unit stands for, with the rest of the source;
nothing at the closing quote. -/
def readEscape : List Char → Option (Char × List Char)
  | '\\' :: 'b' :: rest => some ('\x08', rest)
  | '\\' :: 't' :: rest => some ('\t', rest)
  | '\\' :: 'n' :: rest => some ('\n', rest)
  | '\\' :: 'f' :: rest => some ('\x0c', rest)
  | '\\' :: 'r' :: rest => some ('\r', rest)
  | '\\' :: 'u' :: _ :: _ :: high :: low :: rest =>
      some (Char.ofNat (16 * hexValue high + hexValue low), rest)
  | '\\' :: char :: rest => some (char, rest)
  | '"' :: _ => none
  | char :: rest => some (char, rest)
  | [] => none

private theorem hexValue_digitChar {value : Nat} (bound : value < 16) :
    hexValue (Nat.digitChar value) = value := by
  interval_cases value <;> rfl

theorem readEscape_escapeChar (char : Char) (rest : List Char) :
    readEscape (escapeChar char ++ rest) = some (char, rest) := by
  unfold escapeChar
  split
  · rename_i quoteMark
    rw [quoteMark]
    rfl
  · rename_i notQuote
    split
    · rename_i backslash
      rw [backslash]
      rfl
    · rename_i notBackslash
      repeat' split
      any_goals
        rename_i control
        rw [control]
        rfl
      · -- the remaining control characters, by their two hex digits
        rename_i control
        have high : hexValue (Nat.digitChar (char.toNat / 16)) = char.toNat / 16 :=
          hexValue_digitChar (by omega)
        have low : hexValue (Nat.digitChar (char.toNat % 16)) = char.toNat % 16 :=
          hexValue_digitChar (by omega)
        simp only [List.cons_append, List.nil_append, readEscape, high, low,
          Nat.div_add_mod, Char.ofNat_toNat]
      · rw [List.cons_append, List.nil_append]
        unfold readEscape
        split <;> simp_all

theorem quotedTail_unique (left right : List Char) {leftRest rightRest : List Char}
    (same : left.flatMap escapeChar ++ '"' :: leftRest =
      right.flatMap escapeChar ++ '"' :: rightRest) :
    left = right ∧ leftRest = rightRest := by
  have atQuote : ∀ rest, readEscape ('"' :: rest) = none := fun _ => rfl
  induction left generalizing right with
  | nil =>
      cases right with
      | nil => exact ⟨rfl, (List.cons.inj same).2⟩
      | cons char tail =>
          have read := congrArg readEscape same
          rw [List.flatMap_cons, List.append_assoc, readEscape_escapeChar] at read
          cases (atQuote leftRest).symm.trans read
  | cons char tail ih =>
      cases right with
      | nil =>
          have read := congrArg readEscape same
          rw [List.flatMap_cons, List.append_assoc, readEscape_escapeChar] at read
          cases read.trans (atQuote rightRest)
      | cons other others =>
          have read := congrArg readEscape same
          rw [List.flatMap_cons, List.flatMap_cons, List.append_assoc, List.append_assoc,
            readEscape_escapeChar, readEscape_escapeChar] at read
          simp only [Option.some.injEq, Prod.mk.injEq] at read
          obtain ⟨tailEq, restEq⟩ := ih others read.2
          rw [read.1, tailEq]
          exact ⟨rfl, restEq⟩

theorem quote_unique {left right : String} {leftRest rightRest : List Char}
    (same : quote left ++ leftRest = quote right ++ rightRest) :
    left = right ∧ leftRest = rightRest := by
  simp only [quote, List.cons_append, List.append_assoc, List.nil_append, List.cons.injEq,
    true_and] at same
  obtain ⟨chars, rest⟩ := quotedTail_unique _ _ same
  exact ⟨String.toList_inj.mp chars, rest⟩

/-! ### Comma-separated lists -/

/-- What may follow a value: nothing that would continue a number. -/
def Stops (rest : List Char) : Prop :=
  ∀ char ∈ rest.head?, JsonNumber.isNumberChar char = false

theorem stops_cons {char : Char} (rest : List Char)
    (outside : JsonNumber.isNumberChar char = false) : Stops (char :: rest) := by
  intro other member
  cases member
  exact outside

section Lists

variable {α : Type} {text : α → List Char} {related : α → α → Prop} {close : Char}

/-- Items of two lists whose texts decode uniquely in front of a stop. -/
def Decodes (text : α → List Char) (related : α → α → Prop) (left right : α) : Prop :=
  ∀ leftRest rightRest, text left ++ leftRest = text right ++ rightRest →
    Stops leftRest → Stops rightRest → related left right ∧ leftRest = rightRest

private theorem stops_tail (items : List α) (rest : List Char)
    (closing : JsonNumber.isNumberChar close = false) :
    Stops (items.flatMap (fun item => ',' :: text item) ++ close :: rest) := by
  cases items with
  | nil => exact stops_cons rest closing
  | cons item items =>
      rw [List.flatMap_cons, List.cons_append, List.cons_append]
      exact stops_cons _ rfl

theorem separatedTail_unique (closing : JsonNumber.isNumberChar close = false)
    (notComma : close ≠ ',') :
    ∀ (left right : List α) {leftRest rightRest : List Char},
      (∀ item ∈ left, ∀ other ∈ right, Decodes text related item other) →
      left.flatMap (fun item => ',' :: text item) ++ close :: leftRest =
        right.flatMap (fun item => ',' :: text item) ++ close :: rightRest →
      List.Forall₂ related left right ∧ leftRest = rightRest := by
  intro left
  induction left with
  | nil =>
      intro right leftRest rightRest _ same
      cases right with
      | nil => exact ⟨List.Forall₂.nil, (List.cons.inj same).2⟩
      | cons item items => exact absurd (List.cons.inj same).1 notComma
  | cons item items ih =>
      intro right leftRest rightRest decodes same
      cases right with
      | nil => exact absurd (List.cons.inj same).1.symm notComma
      | cons other others =>
          simp only [List.flatMap_cons, List.cons_append, List.append_assoc,
            List.cons.injEq, true_and] at same
          obtain ⟨head, rest⟩ := decodes item List.mem_cons_self other List.mem_cons_self
            _ _ same (stops_tail items leftRest closing) (stops_tail others rightRest closing)
          obtain ⟨tail, afterwards⟩ := ih others
            (fun item inLeft other inRight => decodes item (List.mem_cons_of_mem _ inLeft)
              other (List.mem_cons_of_mem _ inRight)) rest
          exact ⟨List.Forall₂.cons head tail, afterwards⟩

theorem commaSeparated_unique (closing : JsonNumber.isNumberChar close = false)
    (notComma : close ≠ ',')
    (opens : ∀ item, ∃ head tail, text item = head :: tail ∧ head ≠ close)
    (left right : List α) {leftRest rightRest : List Char}
    (decodes : ∀ item ∈ left, ∀ other ∈ right, Decodes text related item other)
    (same : commaSeparated (left.map text) ++ close :: leftRest =
      commaSeparated (right.map text) ++ close :: rightRest) :
    List.Forall₂ related left right ∧ leftRest = rightRest := by
  have joined : ∀ (item : α) (items : List α) (rest : List Char),
      commaSeparated ((item :: items).map text) ++ close :: rest =
        text item ++ (items.flatMap (fun item => ',' :: text item) ++ close :: rest) := by
    intro item items rest
    simp only [List.map_cons, commaSeparated, List.flatMap_map, List.append_assoc]
  cases left with
  | nil =>
      cases right with
      | nil => exact ⟨List.Forall₂.nil, (List.cons.inj same).2⟩
      | cons item items =>
          obtain ⟨head, tail, opened, different⟩ := opens item
          rw [joined, opened] at same
          exact absurd (List.cons.inj same).1.symm different
  | cons item items =>
      rw [joined] at same
      cases right with
      | nil =>
          obtain ⟨head, tail, opened, different⟩ := opens item
          rw [opened] at same
          exact absurd (List.cons.inj same).1 different
      | cons other others =>
          rw [joined] at same
          obtain ⟨head, rest⟩ := decodes item List.mem_cons_self other List.mem_cons_self
            _ _ same (stops_tail items leftRest closing) (stops_tail others rightRest closing)
          obtain ⟨tail, afterwards⟩ := separatedTail_unique closing notComma items others
            (fun item inLeft other inRight => decodes item (List.mem_cons_of_mem _ inLeft)
              other (List.mem_cons_of_mem _ inRight)) rest
          exact ⟨List.Forall₂.cons head tail, afterwards⟩

end Lists

/-! ### Numbers -/

private theorem takeWhile_number (number : JsonNumber) {rest : List Char} (stop : Stops rest) :
    (number.text ++ rest).takeWhile JsonNumber.isNumberChar = number.text := by
  rw [List.takeWhile_append_of_pos (JsonNumber.isNumberChar_text number)]
  cases rest with
  | nil => simp
  | cons char tail =>
      rw [List.takeWhile_cons_of_neg (by simp [stop char rfl]), List.append_nil]

theorem number_unique {left right : JsonNumber} {leftRest rightRest : List Char}
    (same : left.text ++ leftRest = right.text ++ rightRest)
    (leftStop : Stops leftRest) (rightStop : Stops rightRest) :
    left = right ∧ leftRest = rightRest := by
  have texts := congrArg (List.takeWhile JsonNumber.isNumberChar) same
  rw [takeWhile_number left leftStop, takeWhile_number right rightStop] at texts
  rw [texts] at same
  exact ⟨JsonNumber.text_injective texts, List.append_cancel_left same⟩

/-! ### Values -/

/-- The shape of a value, which the first character of its text shows. -/
inductive Shape where
  | null | true | false | str | arr | obj | num
  deriving DecidableEq

def shape : Json → Shape
  | .null => .null
  | .bool true => .true
  | .bool false => .false
  | .num _ => .num
  | .str _ => .str
  | .arr _ => .arr
  | .obj _ => .obj

def shapeOfHead (char : Char) : Option Shape :=
  if char = 'n' then some .null
  else if char = 't' then some .true
  else if char = 'f' then some .false
  else if char = '"' then some .str
  else if char = '[' then some .arr
  else if char = '{' then some .obj
  else if char = '-' ∨ JsonNumber.isDigit char = true then some .num
  else none

private theorem shapeOfHead_number {char : Char}
    (start : char = '-' ∨ JsonNumber.isDigit char = true) :
    shapeOfHead char = some .num := by
  rcases start with minus | digit
  · rw [minus]
    rfl
  · unfold shapeOfHead
    repeat' split
    any_goals
      rename_i letter
      rw [letter] at digit
      contradiction
    · rfl
    · rename_i outside
      exact absurd (Or.inr digit) outside

theorem textWith_head (order : MemberOrder) (value : Json) :
    ∃ head tail, textWith order value = head :: tail ∧
      shapeOfHead head = some (shape value) := by
  cases value with
  | null => exact ⟨_, _, rfl, rfl⟩
  | bool value => cases value <;> exact ⟨_, _, rfl, rfl⟩
  | num number =>
      obtain ⟨head, tail, text, start⟩ := number.text_head
      exact ⟨head, tail, text, shapeOfHead_number start⟩
  | str value => exact ⟨_, _, rfl, rfl⟩
  | arr items => exact ⟨_, _, rfl, rfl⟩
  | obj members => exact ⟨_, _, rfl, rfl⟩

theorem textWith_opens (order : MemberOrder) (value : Json) :
    ∃ head tail, textWith order value = head :: tail ∧ head ≠ ']' := by
  obtain ⟨head, tail, text, headShape⟩ := textWith_head order value
  refine ⟨head, tail, text, ?_⟩
  intro bracket
  rw [bracket] at headShape
  cases headShape

private theorem shape_eq_of_text {order : MemberOrder} {left right : Json}
    {leftRest rightRest : List Char}
    (same : textWith order left ++ leftRest = textWith order right ++ rightRest) :
    shape left = shape right := by
  obtain ⟨leftHead, leftTail, leftText, leftShape⟩ := textWith_head order left
  obtain ⟨rightHead, rightTail, rightText, rightShape⟩ := textWith_head order right
  rw [leftText, rightText] at same
  rw [(List.cons.inj same).1, rightShape] at leftShape
  exact (Option.some.inj leftShape).symm

private theorem memberText_decodes {order : MemberOrder} {left right : String × Json}
    (decodes : Decodes (textWith order) Same left.2 right.2) :
    Decodes (memberText order) SameMember left right := by
  intro leftRest rightRest same leftStop rightStop
  simp only [memberText, List.append_assoc, List.cons_append] at same
  obtain ⟨keys, rest⟩ := quote_unique same
  obtain ⟨values, afterwards⟩ := decodes _ _ (List.cons.inj rest).2 leftStop rightStop
  exact ⟨⟨keys, values⟩, afterwards⟩

private theorem bool_decodes (order : MemberOrder) (value : Bool) (right : Json) :
    Decodes (textWith order) Same (.bool value) right := by
  intro leftRest rightRest same _ _
  have shapes := shape_eq_of_text same
  cases right with
  | bool other =>
      cases value <;> cases other <;> cases shapes
      · exact ⟨Same.bool false, List.append_cancel_left same⟩
      · exact ⟨Same.bool true, List.append_cancel_left same⟩
  | null => cases value <;> cases shapes
  | num number => cases value <;> cases shapes
  | str text => cases value <;> cases shapes
  | arr items => cases value <;> cases shapes
  | obj members => cases value <;> cases shapes

private theorem arr_decodes (order : MemberOrder) (items : List Json) (right : Json)
    (decodes : ∀ item ∈ items, ∀ other, Decodes (textWith order) Same item other) :
    Decodes (textWith order) Same (.arr items) right := by
  intro leftRest rightRest same _ _
  have shapes := shape_eq_of_text same
  cases right <;> (try cases ‹Bool›) <;> cases shapes
  rename_i others
  rw [textWith_arr, textWith_arr] at same
  simp only [List.cons_append, List.append_assoc, List.nil_append, List.cons.injEq,
    true_and] at same
  obtain ⟨related, rest⟩ := commaSeparated_unique rfl (by decide) (textWith_opens order)
    items others (fun item member other _ => decodes item member other) same
  exact ⟨Same.arr (sameItems_of_forall₂ related), rest⟩

private theorem obj_decodes (order : MemberOrder) (members : List (String × Option Json))
    (right : Json)
    (decodes : ∀ member ∈ definedMembers members, ∀ other,
      Decodes (textWith order) Same member.2 other) :
    Decodes (textWith order) Same (.obj members) right := by
  intro leftRest rightRest same _ _
  have shapes := shape_eq_of_text same
  cases right <;> (try cases ‹Bool›) <;> cases shapes
  rename_i others
  rw [textWith_obj, textWith_obj] at same
  simp only [List.cons_append, List.append_assoc, List.nil_append, List.cons.injEq,
    true_and] at same
  have leftPerm := order.perm (definedMembers members)
  have rightPerm := order.perm (definedMembers others)
  obtain ⟨related, rest⟩ := commaSeparated_unique rfl (by decide)
    (fun member => ⟨'"', _, rfl, by decide⟩) _ _
    (fun member inside other _ =>
      memberText_decodes (decodes member (leftPerm.mem_iff.mp inside) other.2)) same
  exact ⟨Same.obj leftPerm.symm (sameMembers_iff_forall₂.mpr related) rightPerm, rest⟩

/-- A text followed by a stop has one value and one rest. The recursion is on
the left value; lists and objects use it at their items and members. -/
theorem textWith_unique (order : MemberOrder) :
    ∀ left right, Decodes (textWith order) Same left right
  | .null, right => by
      intro leftRest rightRest same _ _
      have shapes := shape_eq_of_text same
      cases right <;> (try cases ‹Bool›) <;> cases shapes
      exact ⟨Same.null, List.append_cancel_left same⟩
  | .bool value, right => bool_decodes order value right
  | .num number, right => by
      intro leftRest rightRest same leftStop rightStop
      have shapes := shape_eq_of_text same
      cases right <;> (try cases ‹Bool›) <;> cases shapes
      rename_i other
      obtain ⟨numbers, rest⟩ := number_unique same leftStop rightStop
      rw [numbers]
      exact ⟨Same.num other, rest⟩
  | .str value, right => by
      intro leftRest rightRest same _ _
      have shapes := shape_eq_of_text same
      cases right <;> (try cases ‹Bool›) <;> cases shapes
      rename_i other
      obtain ⟨values, rest⟩ := quote_unique same
      rw [values]
      exact ⟨Same.str other, rest⟩
  | .arr items, right =>
      arr_decodes order items right (fun item _ other => textWith_unique order item other)
  | .obj members, right =>
      obj_decodes order members right (fun member _ other => textWith_unique order member.2 other)
termination_by left => sizeOf left
decreasing_by
  · exact sizeOf_item ‹_›
  · exact sizeOf_definedMember ‹_›

/-! ### No control characters -/

/-- No character is a control character. -/
def Visible (chars : List Char) : Prop := ∀ char ∈ chars, 32 ≤ char.toNat

theorem Visible.append {first second : List Char} (one : Visible first) (other : Visible second) :
    Visible (first ++ second) := by
  intro char listed
  exact (List.mem_append.mp listed).elim (one char) (other char)

theorem visible_cons {char : Char} {chars : List Char} :
    Visible (char :: chars) ↔ 32 ≤ char.toNat ∧ Visible chars :=
  List.forall_mem_cons

theorem visible_nil : Visible [] := List.forall_mem_nil _

theorem visible_of_all (chars : List Char) (shown : chars.all (fun char => 32 ≤ char.toNat) = true) :
    Visible chars :=
  fun char listed => of_decide_eq_true (List.all_eq_true.mp shown char listed)

theorem visible_escapeChar (char : Char) : Visible (escapeChar char) := by
  have digit : ∀ value < 16, 32 ≤ (Nat.digitChar value).toNat := by decide
  have escaped {mark : Char} (shown : 32 ≤ mark.toNat) : Visible ['\\', mark] :=
    visible_cons.mpr ⟨by decide, visible_cons.mpr ⟨shown, visible_nil⟩⟩
  unfold escapeChar
  split_ifs with _ _ _ _ _ _ _ control
  · exact escaped (by decide)
  · exact escaped (by decide)
  · exact escaped (by decide)
  · exact escaped (by decide)
  · exact escaped (by decide)
  · exact escaped (by decide)
  · exact escaped (by decide)
  · refine (show Visible ['\\', 'u', '0', '0'] from visible_of_all _ (by decide)).append ?_
    exact visible_cons.mpr ⟨digit _ (by omega),
      visible_cons.mpr ⟨digit _ (Nat.mod_lt _ (by decide)), visible_nil⟩⟩
  · exact visible_cons.mpr ⟨by omega, visible_nil⟩

theorem visible_quote (value : String) : Visible (quote value) := by
  have escaped : Visible (value.toList.flatMap escapeChar) := by
    intro char listed
    obtain ⟨source, _, inside⟩ := List.mem_flatMap.mp listed
    exact visible_escapeChar source char inside
  exact visible_cons.mpr ⟨by decide, escaped.append (visible_cons.mpr ⟨by decide, visible_nil⟩)⟩

theorem visible_commaSeparated {texts : List (List Char)} (each : ∀ text ∈ texts, Visible text) :
    Visible (commaSeparated texts) := by
  cases texts with
  | nil => exact visible_nil
  | cons first rest =>
      refine (each first List.mem_cons_self).append ?_
      intro char listed
      obtain ⟨text, inside, member⟩ := List.mem_flatMap.mp listed
      rcases List.mem_cons.mp member with rfl | member
      · decide
      · exact each text (List.mem_cons_of_mem first inside) char member

private theorem visible_number (number : JsonNumber) : Visible number.text := by
  intro char listed
  have shown := number.isNumberChar_text char listed
  simp only [JsonNumber.isNumberChar, Bool.or_eq_true, beq_iff_eq] at shown
  rcases shown with (((digit | rfl) | rfl) | rfl) | rfl
  · simp only [Char.isDigit, Bool.and_eq_true, decide_eq_true_eq, UInt32.le_iff_toNat_le] at digit
    exact le_trans (by decide) digit.1
  all_goals decide

theorem visible_textWith (order : MemberOrder) (value : Json) : Visible (textWith order value) := by
  have closing {mark : Char} (shown : 32 ≤ mark.toNat) : Visible [mark] :=
    visible_cons.mpr ⟨shown, visible_nil⟩
  induction value using treeInduction with
  | null => exact visible_of_all ("null".toList) (by decide)
  | bool value =>
      cases value
      · exact visible_of_all ("false".toList) (by decide)
      · exact visible_of_all ("true".toList) (by decide)
  | num number => exact visible_number number
  | str value => exact visible_quote value
  | arr items ih =>
      rw [textWith_arr]
      refine visible_cons.mpr ⟨by decide, (visible_commaSeparated ?_).append (closing (by decide))⟩
      intro text listed
      obtain ⟨item, inside, rfl⟩ := List.mem_map.mp listed
      exact ih item inside
  | obj members ih =>
      rw [textWith_obj]
      refine visible_cons.mpr ⟨by decide, (visible_commaSeparated ?_).append (closing (by decide))⟩
      intro text listed
      obtain ⟨member, inside, rfl⟩ := List.mem_map.mp listed
      have value := ih member ((order.perm _).mem_iff.mp inside)
      exact (visible_quote member.1).append (visible_cons.mpr ⟨by decide, value⟩)

/-- The text determines the value up to member order and undefined members. -/
theorem same_of_textWith_eq {order : MemberOrder} {left right : Json}
    (same : textWith order left = textWith order right) : Same left right := by
  have ends : Stops [] := by
    intro char member
    cases member
  exact (textWith_unique order left right [] [] (by rw [same]) ends ends).1

end JsonText
