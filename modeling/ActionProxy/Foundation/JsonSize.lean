import ActionProxy.Foundation.JsonText
import ActionProxy.Foundation.Utf8Stream

/-!
The number of bytes of a JSON text, counted on the value. A string counts each character
as it is escaped; an array or an object counts its parts, a separator for each and the
brackets, so that the count does not depend on the order of the members.
-/

namespace JsonText

open Utf8Stream

/-! ### Characters and strings -/

/-- The bytes of a character in a string literal. -/
def escapedBytes (char : Char) : Nat :=
  if char = '"' ∨ char = '\\' ∨ char = '\x08' ∨ char = '\t' ∨ char = '\n' ∨ char = '\x0c' ∨
      char = '\r' then 2
  else if char.toNat < 32 then 6
  else char.utf8Size

def charsBytes (text : List Char) : Nat := (text.map escapedBytes).sum

def quotedBytes (value : String) : Nat := charsBytes value.toList + 2

theorem byteLength_singleton (char : Char) : byteLength [char] = char.utf8Size := by
  rw [byteLength, utf8_cons, utf8_nil, List.append_nil, String.length_utf8EncodeChar]

theorem byteLength_cons (char : Char) (text : List Char) :
    byteLength (char :: text) = char.utf8Size + byteLength text := by
  rw [← List.singleton_append, byteLength_append, byteLength_singleton]

theorem utf8Size_digitChar {value : Nat} (bound : value < 16) :
    (Nat.digitChar value).utf8Size = 1 := by
  interval_cases value <;> rfl

theorem byteLength_escapeChar (char : Char) :
    byteLength (escapeChar char) = escapedBytes char := by
  unfold escapeChar escapedBytes
  split_ifs with quoteMark backslash backspace tab newline formFeed carriageReturn control escaped <;>
    try rfl
  any_goals simp_all
  · have high : (Nat.digitChar (char.toNat / 16)).utf8Size = 1 := utf8Size_digitChar (by omega)
    have low : (Nat.digitChar (char.toNat % 16)).utf8Size = 1 := utf8Size_digitChar (by omega)
    simp only [byteLength_cons, high, low]
    rfl
  · exact byteLength_singleton char

theorem byteLength_escaped (text : List Char) :
    byteLength (text.flatMap escapeChar) = charsBytes text := by
  induction text with
  | nil => rfl
  | cons char rest ih =>
      rw [List.flatMap_cons, byteLength_append, byteLength_escapeChar, ih]
      rfl

theorem byteLength_quote (value : String) : byteLength (quote value) = quotedBytes value := by
  rw [quote, byteLength_cons, byteLength_append, byteLength_escaped, byteLength_singleton]
  have mark : '"'.utf8Size = 1 := rfl
  rw [mark, quotedBytes]
  omega

theorem charsBytes_append (first second : List Char) :
    charsBytes (first ++ second) = charsBytes first + charsBytes second := by
  rw [charsBytes, List.map_append, List.sum_append]
  rfl

theorem charsBytes_replicate (count : Nat) (char : Char) :
    charsBytes (List.replicate count char) = count * escapedBytes char := by
  rw [charsBytes, List.map_replicate, List.sum_replicate, smul_eq_mul]

/-! ### Numbers -/

theorem utf8Size_numberChar {char : Char} (shown : JsonNumber.isNumberChar char = true) :
    char.utf8Size = 1 := by
  simp only [JsonNumber.isNumberChar, Bool.or_eq_true, beq_iff_eq] at shown
  rcases shown with (((digit | rfl) | rfl) | rfl) | rfl
  · simp only [Char.isDigit, Bool.and_eq_true, decide_eq_true_eq] at digit
    have nine : '9'.val ≤ UInt32.ofNatLT 127 (by decide) := by decide
    exact if_pos (UInt32.le_trans digit.2 nine)
  all_goals rfl

theorem byteLength_number (number : JsonNumber) :
    byteLength number.text = number.text.length :=
  byteLength_ascii fun char listed => utf8Size_numberChar (number.isNumberChar_text char listed)

/-- Moving trailing zeros to the exponent leaves the digits and the zeros after them. -/
theorem toDigits_trimZeros (fuel exponent : Nat) {significand : Nat}
    (positive : 0 < significand) :
    ∃ zeros : Nat, (JsonNumber.trimZeros fuel significand exponent).2 = zeros ∧
      Nat.toDigits 10 (JsonNumber.trimZeros fuel significand exponent).1 ++
        List.replicate zeros '0' =
      Nat.toDigits 10 significand ++ List.replicate exponent '0' := by
  induction fuel generalizing significand exponent with
  | zero => exact ⟨exponent, rfl, rfl⟩
  | succ fuel ih =>
      rw [JsonNumber.trimZeros]
      split
      · rename_i trailing
        have quotient : 0 < significand / 10 := by omega
        obtain ⟨zeros, last, digits⟩ := ih (exponent + 1) quotient
        refine ⟨zeros, last, digits.trans ?_⟩
        have shifted : Nat.toDigits 10 significand = Nat.toDigits 10 (significand / 10) ++ ['0'] := by
          have joined := Nat.toDigits_append_toDigits (b := 10) (d := 0) (by decide) quotient (by decide)
          rw [Nat.toDigits_zero] at joined
          rw [joined]
          congr 1
          omega
        rw [shifted, List.append_assoc, List.replicate_succ]
        rfl
      · exact ⟨exponent, rfl, rfl⟩

theorem magnitudeText_whole (significand zeros : Nat)
    (place : (Nat.toDigits 10 significand).length + zeros ≤ 21) :
    JsonNumber.magnitudeText significand zeros =
      Nat.toDigits 10 significand ++ List.replicate zeros '0' := by
  rw [JsonNumber.magnitudeText, if_pos ⟨by omega, by omega⟩, Int.toNat_natCast]

theorem text_ofNat {value : Nat} (bound : value < 10 ^ 21) :
    (JsonNumber.ofInt value).text = Nat.toDigits 10 value := by
  by_cases zero : value = 0
  · subst zero
    rfl
  · have positive : 0 < value := Nat.pos_of_ne_zero zero
    obtain ⟨zeros, exponent, digits⟩ := toDigits_trimZeros value 0 positive
    rw [List.replicate_zero, List.append_nil] at digits
    have short : (Nat.toDigits 10 value).length ≤ 21 :=
      (Nat.length_toDigits_le_iff (by decide) (by decide)).mpr bound
    have place : (Nat.toDigits 10 (JsonNumber.trimZeros value value 0).1).length + zeros ≤ 21 := by
      have lengths := congrArg List.length digits
      rw [List.length_append, List.length_replicate] at lengths
      exact lengths.trans_le short
    have nonzero : (value : Int) ≠ 0 := by omega
    rw [JsonNumber.ofInt, dif_neg nonzero, JsonNumber.text]
    have notNegative : decide ((value : Int) < 0) = false := decide_eq_false (by omega)
    simp only [Int.natAbs_natCast, notNegative, Bool.false_eq_true, if_false, List.nil_append]
    have printed := magnitudeText_whole _ zeros place
    rw [← exponent] at printed
    exact printed.trans digits

/-! ### Values -/

/-- The parts of an array or an object between its brackets. -/
def bracketed : List Nat → Nat
  | [] => 2
  | size :: sizes => size + (sizes.sum + sizes.length) + 2

mutual

/-- The bytes of the text of a value. -/
def jsonBytes : Json → Nat
  | .null => 4
  | .bool true => 4
  | .bool false => 5
  | .num value => value.text.length
  | .str value => quotedBytes value
  | .arr items => bracketed (itemSizes items)
  | .obj members => bracketed (memberSizes members)

def itemSizes : List Json → List Nat
  | [] => []
  | item :: rest => jsonBytes item :: itemSizes rest

/-- A member counts its key, the colon and its value. -/
def memberSizes : List (String × Option Json) → List Nat
  | [] => []
  | (_, none) :: rest => memberSizes rest
  | (key, some value) :: rest => (quotedBytes key + 1 + jsonBytes value) :: memberSizes rest

end

theorem itemSizes_eq (items : List Json) : itemSizes items = items.map jsonBytes := by
  induction items with
  | nil => rfl
  | cons item rest ih => rw [itemSizes, ih, List.map_cons]

theorem memberSizes_eq (members : List (String × Option Json)) :
    memberSizes members = (definedMembers members).map fun member =>
      quotedBytes member.1 + 1 + jsonBytes member.2 := by
  induction members with
  | nil => rfl
  | cons member rest ih =>
      obtain ⟨key, value⟩ := member
      cases value with
      | none => rw [memberSizes, ih, definedMembers_none]
      | some value => rw [memberSizes, ih, definedMembers_some, List.map_cons]

theorem byteLength_rest (texts : List (List Char)) :
    byteLength (texts.flatMap fun next => ',' :: next) =
      (texts.map byteLength).sum + texts.length := by
  induction texts with
  | nil => rfl
  | cons text rest ih =>
      rw [List.flatMap_cons, byteLength_append, ih, byteLength_cons, List.map_cons, List.sum_cons,
        List.length_cons]
      have comma : ','.utf8Size = 1 := rfl
      omega

theorem byteLength_bracketed {opening closing : Char} (texts : List (List Char))
    (opens : opening.utf8Size = 1) (closes : closing.utf8Size = 1) :
    byteLength (opening :: (commaSeparated texts ++ [closing])) =
      bracketed (texts.map byteLength) := by
  rw [byteLength_cons, byteLength_append, byteLength_singleton, opens, closes]
  cases texts with
  | nil => rfl
  | cons text rest =>
      rw [commaSeparated, byteLength_append, byteLength_rest, List.map_cons, bracketed,
        List.length_map]
      omega

theorem bracketed_perm {left right : List Nat} (perm : left.Perm right) :
    bracketed left = bracketed right := by
  have total : ∀ {sizes : List Nat}, sizes ≠ [] → bracketed sizes = sizes.sum + sizes.length + 1 := by
    intro sizes present
    cases sizes with
    | nil => exact absurd rfl present
    | cons size sizes =>
        rw [bracketed, List.sum_cons, List.length_cons]
        omega
  by_cases empty : left = []
  · subst empty
    rw [List.nil_perm.mp perm]
  · have other : right ≠ [] := fun vanished => empty (List.perm_nil.mp (vanished ▸ perm))
    rw [total empty, total other, perm.sum_eq, perm.length_eq]

/-- The count is the length of the text, in whatever order the members are printed. -/
theorem byteLength_textWith (order : MemberOrder) (value : Json) :
    byteLength (textWith order value) = jsonBytes value := by
  induction value using treeInduction with
  | null => rfl
  | bool value => cases value <;> rfl
  | num number => exact byteLength_number number
  | str value => exact byteLength_quote value
  | arr items ih =>
      rw [textWith_arr, byteLength_bracketed _ rfl rfl, jsonBytes, itemSizes_eq, List.map_map]
      exact congrArg bracketed (List.map_congr_left ih)
  | obj members ih =>
      rw [textWith_obj, byteLength_bracketed _ rfl rfl, jsonBytes, memberSizes_eq, List.map_map]
      have sizes : ∀ member ∈ definedMembers members,
          (byteLength ∘ memberText order) member = quotedBytes member.1 + 1 + jsonBytes member.2 := by
        intro member listed
        have value := ih member listed
        have colon : ':'.utf8Size = 1 := rfl
        rw [Function.comp_apply, memberText, byteLength_append, byteLength_quote, byteLength_cons,
          value, colon]
        omega
      rw [← List.map_congr_left sizes]
      exact bracketed_perm ((order.perm _).map _)

/-! ### Members -/

/-- Members in an object that has others: each with a comma or the closing bracket. -/
def membersBytes (members : List (String × Option Json)) : Nat :=
  (memberSizes members).sum + (memberSizes members).length

@[simp] theorem membersBytes_nil : membersBytes [] = 0 := rfl

@[simp] theorem membersBytes_none (key : String) (members : List (String × Option Json)) :
    membersBytes ((key, none) :: members) = membersBytes members := rfl

@[simp] theorem membersBytes_some (key : String) (value : Json)
    (members : List (String × Option Json)) :
    membersBytes ((key, some value) :: members) =
      quotedBytes key + jsonBytes value + 2 + membersBytes members := by
  rw [membersBytes, memberSizes, List.sum_cons, List.length_cons, membersBytes]
  omega

theorem membersBytes_append (first second : List (String × Option Json)) :
    membersBytes (first ++ second) = membersBytes first + membersBytes second := by
  induction first with
  | nil => rw [List.nil_append, membersBytes_nil, Nat.zero_add]
  | cons member rest ih =>
      obtain ⟨key, value⟩ := member
      cases value with
      | none => rw [List.cons_append, membersBytes_none, membersBytes_none, ih]
      | some value =>
          rw [List.cons_append, membersBytes_some, membersBytes_some, ih]
          omega

theorem jsonBytes_obj {members : List (String × Option Json)} (shown : memberSizes members ≠ []) :
    jsonBytes (.obj members) = membersBytes members + 1 := by
  rw [jsonBytes, membersBytes]
  cases sizes : memberSizes members with
  | nil => exact absurd sizes shown
  | cons size sizes =>
      rw [bracketed, List.sum_cons, List.length_cons]
      omega

theorem jsonBytes_obj_some (key : String) (value : Json) (members : List (String × Option Json)) :
    jsonBytes (.obj ((key, some value) :: members)) =
      membersBytes ((key, some value) :: members) + 1 :=
  jsonBytes_obj (List.cons_ne_nil _ _)

theorem jsonBytes_obj_of_mem {key : String} {value : Json} {members : List (String × Option Json)}
    (listed : (key, some value) ∈ members) :
    jsonBytes (.obj members) = membersBytes members + 1 := by
  apply jsonBytes_obj
  rw [memberSizes_eq]
  have defined : (key, value) ∈ definedMembers members :=
    List.mem_filterMap.mpr ⟨(key, some value), listed, rfl⟩
  exact List.ne_nil_of_mem (List.mem_map_of_mem defined)

theorem jsonBytes_lt_of_mem {key : String} {value : Json} {members : List (String × Option Json)}
    (listed : (key, some value) ∈ members) : jsonBytes value < jsonBytes (.obj members) := by
  have defined : (key, value) ∈ definedMembers members :=
    List.mem_filterMap.mpr ⟨(key, some value), listed, rfl⟩
  have size : quotedBytes key + 1 + jsonBytes value ∈ memberSizes members := by
    rw [memberSizes_eq]
    exact List.mem_map_of_mem defined
  have least := List.le_sum_of_mem size
  rw [jsonBytes_obj_of_mem listed, membersBytes]
  omega

theorem jsonBytes_obj_none (key : String) (members : List (String × Option Json)) :
    jsonBytes (.obj ((key, none) :: members)) = jsonBytes (.obj members) := rfl

/-- The bytes of members in an object that has others, from the bytes of their values. -/
def sizedBytes : List (String × Option Nat) → Nat
  | [] => 0
  | (_, none) :: rest => sizedBytes rest
  | (key, some size) :: rest => quotedBytes key + size + 2 + sizedBytes rest

theorem membersBytes_eq_sized (members : List (String × Option Json)) :
    membersBytes members =
      sizedBytes (members.map fun member => (member.1, member.2.map jsonBytes)) := by
  induction members with
  | nil => rfl
  | cons member rest ih =>
      obtain ⟨key, value⟩ := member
      cases value with
      | none => rw [membersBytes_none, ih, List.map_cons, Option.map_none, sizedBytes]
      | some value =>
          rw [membersBytes_some, ih, List.map_cons, Option.map_some, sizedBytes]

theorem membersBytes_filter (keep : String × Option Json → Bool)
    (members : List (String × Option Json)) :
    membersBytes members =
      membersBytes (members.filter keep) + membersBytes (members.filter fun member => !keep member) := by
  induction members with
  | nil => rfl
  | cons member rest ih =>
      have first : ∀ others, membersBytes (member :: others) =
          membersBytes [member] + membersBytes others := fun others =>
        membersBytes_append [member] others
      rw [List.filter_cons, List.filter_cons, first rest, ih]
      cases keep member with
      | false =>
          rw [if_neg Bool.false_ne_true, Bool.not_false, if_pos rfl,
            first (rest.filter fun member => !keep member)]
          omega
      | true =>
          rw [if_pos rfl, Bool.not_true, if_neg Bool.false_ne_true, first (rest.filter keep)]
          omega

theorem quotedBytes_lines (text : String) (texts : List String) :
    quotedBytes (String.intercalate "\n" (text :: texts)) =
      ((text :: texts).map fun text => charsBytes text.toList).sum + 2 * texts.length + 2 := by
  have joined : charsBytes (String.intercalate "\n" (text :: texts)).toList =
      ((text :: texts).map fun text => charsBytes text.toList).sum + 2 * texts.length := by
    induction texts generalizing text with
    | nil => simp
    | cons next rest ih =>
        have feed : charsBytes "\n".toList = 2 := rfl
        rw [String.intercalate_cons_cons, String.toList_append, String.toList_append,
          charsBytes_append, charsBytes_append, ih next, feed]
        simp only [List.map_cons, List.sum_cons, List.length_cons]
        omega
  rw [quotedBytes, joined]

theorem utf8ByteSize_text (order : MemberOrder) (value : Json) :
    (String.ofList (textWith order value)).utf8ByteSize = jsonBytes value := by
  rw [← byteLength_textWith order value, ← String.size_toByteArray, ← String.utf8Encode_toList,
    String.toList_ofList, List.utf8Encode, List.size_toByteArray]
  rfl

end JsonText
