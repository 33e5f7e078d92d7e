import ActionProxy.Foundation.JsonNumber
import Mathlib.Data.List.Forall2
import Mathlib.Data.List.Perm.Basic
import Mathlib.Data.List.Sort

/-!
JSON values and their texts. An object is its member list in enumeration order;
a member whose value is undefined is kept and carries no value. A text is
produced under a member order, so that one definition covers the enumeration
order of `JSON.stringify` and every sorted serializer. Equality up to member
order and undefined members is a relation of its own, and the text determines a
value up to it, whatever the member order is.
-/

inductive Json where
  | null
  | bool (value : Bool)
  | num (value : JsonText.JsonNumber)
  | str (value : String)
  | arr (items : List Json)
  | obj (members : List (String × Option Json))

namespace JsonText

/-! ### Members and lookups -/

/-- The members that have a value, in enumeration order. -/
def definedMembers (members : List (String × Option Json)) : List (String × Json) :=
  members.filterMap (fun member => member.2.map (fun value => (member.1, value)))

@[simp] theorem definedMembers_nil : definedMembers [] = [] := rfl

@[simp] theorem definedMembers_none (key : String) (members : List (String × Option Json)) :
    definedMembers ((key, none) :: members) = definedMembers members := rfl

@[simp] theorem definedMembers_some (key : String) (value : Json)
    (members : List (String × Option Json)) :
    definedMembers ((key, some value) :: members) =
      (key, value) :: definedMembers members := rfl

theorem mem_of_mem_definedMembers {members : List (String × Option Json)} {key : String}
    {value : Json} (member : (key, value) ∈ definedMembers members) :
    (key, some value) ∈ members := by
  induction members with
  | nil => cases member
  | cons head tail ih =>
      obtain ⟨headKey, headValue⟩ := head
      cases headValue with
      | none => exact List.mem_cons_of_mem _ (ih member)
      | some headValue =>
          rcases List.mem_cons.mp member with atHead | inTail
          · cases atHead
            exact List.mem_cons_self
          · exact List.mem_cons_of_mem _ (ih inTail)

theorem sizeOf_definedMember {members : List (String × Option Json)} {key : String}
    {value : Json} (member : (key, value) ∈ definedMembers members) :
    sizeOf value < sizeOf (Json.obj members) := by
  have listed := List.sizeOf_lt_of_mem (mem_of_mem_definedMembers member)
  simp only [Prod.mk.sizeOf_spec, Option.some.sizeOf_spec] at listed
  simp only [Json.obj.sizeOf_spec]
  omega

theorem sizeOf_item {items : List Json} {item : Json} (member : item ∈ items) :
    sizeOf item < sizeOf (Json.arr items) := by
  have listed := List.sizeOf_lt_of_mem member
  simp only [Json.arr.sizeOf_spec]
  omega

/-- Induction over a value: an array by its items, an object by the members that
have a value. -/
@[elab_as_elim]
theorem treeInduction {motive : Json → Prop} (null : motive .null)
    (bool : ∀ value, motive (.bool value)) (num : ∀ value, motive (.num value))
    (str : ∀ value, motive (.str value))
    (arr : ∀ items, (∀ item ∈ items, motive item) → motive (.arr items))
    (obj : ∀ members, (∀ member ∈ definedMembers members, motive member.2) →
      motive (.obj members)) : ∀ value, motive value
  | .null => null
  | .bool value => bool value
  | .num value => num value
  | .str value => str value
  | .arr items => arr items (fun item _ => treeInduction null bool num str arr obj item)
  | .obj members =>
      obj members (fun member _ => treeInduction null bool num str arr obj member.2)
termination_by value => sizeOf value
decreasing_by
  · exact sizeOf_item ‹_›
  · exact sizeOf_definedMember ‹_›

mutual

/-- The value and every value inside it pass the check. -/
def everyPart (check : Json → Bool) : Json → Bool
  | .arr items => check (.arr items) && everyItem check items
  | .obj members => check (.obj members) && everyMember check members
  | value => check value

def everyItem (check : Json → Bool) : List Json → Bool
  | [] => true
  | item :: rest => everyPart check item && everyItem check rest

def everyMember (check : Json → Bool) : List (String × Option Json) → Bool
  | [] => true
  | (_, none) :: rest => everyMember check rest
  | (_, some value) :: rest => everyPart check value && everyMember check rest

end

theorem everyItem_iff {check : Json → Bool} {items : List Json} :
    everyItem check items = true ↔ ∀ item ∈ items, everyPart check item = true := by
  induction items with
  | nil => simp [everyItem]
  | cons item rest ih => simp [everyItem, ih]

theorem everyMember_iff {check : Json → Bool} {members : List (String × Option Json)} :
    everyMember check members = true ↔
      ∀ member ∈ definedMembers members, everyPart check member.2 = true := by
  induction members with
  | nil => simp [everyMember]
  | cons member rest ih =>
      obtain ⟨key, value⟩ := member
      cases value with
      | none => simp [everyMember, ih]
      | some value => simp [everyMember, ih]

theorem everyPart_arr {check : Json → Bool} {items : List Json} :
    everyPart check (.arr items) = true ↔
      check (.arr items) = true ∧ ∀ item ∈ items, everyPart check item = true := by
  rw [everyPart, Bool.and_eq_true, everyItem_iff]

theorem everyPart_obj {check : Json → Bool} {members : List (String × Option Json)} :
    everyPart check (.obj members) = true ↔ check (.obj members) = true ∧
      ∀ member ∈ definedMembers members, everyPart check member.2 = true := by
  rw [everyPart, Bool.and_eq_true, everyMember_iff]

/-! ### Member orders -/

/-- A way to arrange the members of an object by their keys alone. -/
structure MemberOrder where
  arrange : {α : Type} → List (String × α) → List (String × α)
  perm : ∀ {α : Type} (entries : List (String × α)), (arrange entries).Perm entries
  natural : ∀ {α β : Type} (render : α → β) (entries : List (String × α)),
    arrange (entries.map (Prod.map id render)) = (arrange entries).map (Prod.map id render)

/-- Members as enumerated. -/
def insertionOrder : MemberOrder :=
  { arrange := id
    perm := fun entries => List.Perm.refl entries
    natural := fun _ _ => rfl }

/-- Members stably sorted by a comparison of their keys. -/
def sortedOrder (before : String → String → Bool) : MemberOrder :=
  { arrange := fun entries =>
      entries.insertionSort (fun left right => before left.1 right.1 = true)
    perm := fun entries => List.perm_insertionSort _ entries
    natural := by
      intro source target render entries
      symm
      apply List.map_insertionSort
      intro left _ right _
      rfl }

/-! ### Texts -/

/-- One character of a string literal, escaped as `JSON.stringify` does. -/
def escapeChar (char : Char) : List Char :=
  if char = '"' then ['\\', '"']
  else if char = '\\' then ['\\', '\\']
  else if char = '\x08' then ['\\', 'b']
  else if char = '\t' then ['\\', 't']
  else if char = '\n' then ['\\', 'n']
  else if char = '\x0c' then ['\\', 'f']
  else if char = '\r' then ['\\', 'r']
  else if char.toNat < 32 then
    ['\\', 'u', '0', '0', Nat.digitChar (char.toNat / 16), Nat.digitChar (char.toNat % 16)]
  else [char]

def quote (value : String) : List Char :=
  '"' :: (value.toList.flatMap escapeChar ++ ['"'])

/-- Texts joined by commas. -/
def commaSeparated : List (List Char) → List Char
  | [] => []
  | first :: rest => first ++ rest.flatMap (fun next => ',' :: next)

def entryText (entry : String × List Char) : List Char :=
  quote entry.1 ++ ':' :: entry.2

mutual

/-- The text of a value with object members arranged by the given order. -/
def textWith (order : MemberOrder) : Json → List Char
  | .null => ['n', 'u', 'l', 'l']
  | .bool true => ['t', 'r', 'u', 'e']
  | .bool false => ['f', 'a', 'l', 's', 'e']
  | .num value => value.text
  | .str value => quote value
  | .arr items => '[' :: (commaSeparated (itemTexts order items) ++ [']'])
  | .obj members =>
      '{' :: (commaSeparated ((order.arrange (memberTexts order members)).map entryText) ++ ['}'])

def itemTexts (order : MemberOrder) : List Json → List (List Char)
  | [] => []
  | item :: rest => textWith order item :: itemTexts order rest

def memberTexts (order : MemberOrder) : List (String × Option Json) → List (String × List Char)
  | [] => []
  | (_, none) :: rest => memberTexts order rest
  | (key, some value) :: rest => (key, textWith order value) :: memberTexts order rest

end

theorem itemTexts_eq (order : MemberOrder) (items : List Json) :
    itemTexts order items = items.map (textWith order) := by
  induction items with
  | nil => rfl
  | cons item rest ih => rw [itemTexts, ih, List.map_cons]

theorem memberTexts_eq (order : MemberOrder) (members : List (String × Option Json)) :
    memberTexts order members =
      (definedMembers members).map (Prod.map id (textWith order)) := by
  induction members with
  | nil => rfl
  | cons member rest ih =>
      obtain ⟨key, value⟩ := member
      cases value with
      | none => rw [memberTexts, ih, definedMembers_none]
      | some value => rw [memberTexts, ih, definedMembers_some, List.map_cons]; rfl

theorem memberTexts_cons (order : MemberOrder) (key : String) (value : Option Json)
    (rest : List (String × Option Json)) :
    memberTexts order ((key, value) :: rest) =
      (value.map (fun value => (key, textWith order value))).toList ++ memberTexts order rest := by
  cases value <;> rfl

/-- The text of one member with its value. -/
def memberText (order : MemberOrder) (member : String × Json) : List Char :=
  quote member.1 ++ ':' :: textWith order member.2

theorem textWith_arr (order : MemberOrder) (items : List Json) :
    textWith order (.arr items) =
      '[' :: (commaSeparated (items.map (textWith order)) ++ [']']) := by
  rw [textWith, itemTexts_eq]

theorem textWith_obj (order : MemberOrder) (members : List (String × Option Json)) :
    textWith order (.obj members) =
      '{' :: (commaSeparated
        ((order.arrange (definedMembers members)).map (memberText order)) ++ ['}']) := by
  rw [textWith, memberTexts_eq, order.natural, List.map_map]
  rfl

/-! ### Equality up to member order and undefined members -/

mutual

/-- Two values that differ in the order of members and in undefined members only. -/
inductive Same : Json → Json → Prop where
  | null : Same .null .null
  | bool (value : Bool) : Same (.bool value) (.bool value)
  | num (value : JsonNumber) : Same (.num value) (.num value)
  | str (value : String) : Same (.str value) (.str value)
  | arr {left right : List Json} (items : SameItems left right) :
      Same (.arr left) (.arr right)
  | obj {left right : List (String × Option Json)} {leftArranged rightArranged}
      (leftPerm : (definedMembers left).Perm leftArranged)
      (members : SameMembers leftArranged rightArranged)
      (rightPerm : rightArranged.Perm (definedMembers right)) :
      Same (.obj left) (.obj right)

inductive SameItems : List Json → List Json → Prop where
  | nil : SameItems [] []
  | cons {left right : Json} {leftRest rightRest : List Json}
      (head : Same left right) (tail : SameItems leftRest rightRest) :
      SameItems (left :: leftRest) (right :: rightRest)

inductive SameMembers : List (String × Json) → List (String × Json) → Prop where
  | nil : SameMembers [] []
  | cons {key : String} {left right : Json} {leftRest rightRest : List (String × Json)}
      (head : Same left right) (tail : SameMembers leftRest rightRest) :
      SameMembers ((key, left) :: leftRest) ((key, right) :: rightRest)

end

theorem same_str_iff {left right : String} : Same (.str left) (.str right) ↔ left = right := by
  constructor
  · intro same
    cases same
    rfl
  · intro equal
    rw [equal]
    exact Same.str right

theorem sameItems_of_forall₂ {left right : List Json} (all : List.Forall₂ Same left right) :
    SameItems left right := by
  induction all with
  | nil => exact SameItems.nil
  | cons head _ ih => exact SameItems.cons head ih

theorem forall₂_of_sameItems {left right : List Json} (same : SameItems left right) :
    List.Forall₂ Same left right := by
  induction left generalizing right with
  | nil =>
      cases same
      exact List.Forall₂.nil
  | cons head tail ih =>
      cases same with
      | cons headSame tailSame => exact List.Forall₂.cons headSame (ih tailSame)

theorem map_eq_of_forall₂ {α β : Type} {related : α → α → Prop} {left right : List α}
    {image : α → β} (all : List.Forall₂ related left right)
    (images : ∀ item ∈ left, ∀ other, related item other → image item = image other) :
    left.map image = right.map image := by
  induction all with
  | nil => rfl
  | @cons item other rest others head _ ih =>
      rw [List.map_cons, List.map_cons, images item List.mem_cons_self other head,
        ih (fun item listed => images item (List.mem_cons_of_mem _ listed))]

theorem exists_left_of_forall₂ {α β : Type} {related : α → β → Prop} {left : List α}
    {right : List β} (all : List.Forall₂ related left right) {other : β} (listed : other ∈ right) :
    ∃ item ∈ left, related item other := by
  induction all with
  | nil => cases listed
  | @cons item next rest others head _ ih =>
      rcases List.mem_cons.mp listed with rfl | inTail
      · exact ⟨item, List.mem_cons_self, head⟩
      · obtain ⟨found, foundListed, same⟩ := ih inTail
        exact ⟨found, List.mem_cons_of_mem _ foundListed, same⟩

/-- Members agree in key and value. -/
def SameMember (left right : String × Json) : Prop :=
  left.1 = right.1 ∧ Same left.2 right.2

theorem sameMembers_iff_forall₂ {left right : List (String × Json)} :
    SameMembers left right ↔ List.Forall₂ SameMember left right := by
  constructor
  · intro same
    induction left generalizing right with
    | nil =>
        cases same
        exact List.Forall₂.nil
    | cons head tail ih =>
        cases same with
        | cons headSame tailSame =>
            exact List.Forall₂.cons ⟨rfl, headSame⟩ (ih tailSame)
  · intro all
    induction all with
    | nil => exact SameMembers.nil
    | @cons left right leftRest rightRest head _ ih =>
        obtain ⟨leftKey, leftValue⟩ := left
        obtain ⟨rightKey, rightValue⟩ := right
        obtain ⟨sameKey, sameValue⟩ := head
        simp only at sameKey sameValue
        subst sameKey
        exact SameMembers.cons sameValue ih

theorem sameMember_keys {left right : List (String × Json)}
    (same : List.Forall₂ SameMember left right) : left.map Prod.fst = right.map Prod.fst := by
  induction same with
  | nil => rfl
  | cons head _ ih => rw [List.map_cons, List.map_cons, head.1, ih]

/-! ### Looking a member up -/

/-- The value of a member, absent when there is no such member or it is undefined. -/
def member? (members : List (String × Option Json)) (key : String) : Option Json :=
  (definedMembers members).lookup key

theorem member?_nil (key : String) : member? [] key = none := rfl

theorem member?_cons (name key : String) (value : Option Json) (rest : List (String × Option Json)) :
    member? ((name, value) :: rest) key =
      if name = key then value.or (member? rest key) else member? rest key := by
  cases value with
  | none => simp [member?]
  | some value =>
      by_cases same : name = key
      · simp [member?, same]
      · have other : (key == name) = false := beq_false_of_ne (Ne.symm same)
        simp [member?, List.lookup_cons, other, same]

/-- A member of a value that may not be an object. -/
def field? (value : Json) (key : String) : Option Json :=
  match value with
  | .obj members => member? members key
  | _ => none

def asString? : Json → Option String
  | .str value => some value
  | _ => none

theorem mem_of_lookup {α : Type} {members : List (String × α)} {key : String} {value : α}
    (found : members.lookup key = some value) : (key, value) ∈ members := by
  obtain ⟨before, after, split, _⟩ := List.lookup_eq_some_iff.mp found
  rw [split]
  exact List.mem_append_right before List.mem_cons_self

theorem lookup_of_mem {α : Type} {members : List (String × α)} {key : String} {value : α}
    (distinct : (members.map Prod.fst).Nodup) (member : (key, value) ∈ members) :
    members.lookup key = some value := by
  induction members with
  | nil => cases member
  | cons head tail ih =>
      obtain ⟨headKey, headValue⟩ := head
      rw [List.map_cons, List.nodup_cons] at distinct
      rw [List.lookup_cons]
      rcases List.mem_cons.mp member with atHead | inTail
      · cases atHead
        simp
      · have other : (key == headKey) = false := by
          apply beq_false_of_ne
          intro equal
          apply distinct.1
          rw [← equal]
          exact List.mem_map.mpr ⟨(key, value), inTail, rfl⟩
        rw [other]
        exact ih distinct.2 inTail

private theorem sameMembers_find {left right : List (String × Json)} {key : String} {value : Json}
    (same : List.Forall₂ SameMember left right) (member : (key, value) ∈ left) :
    ∃ other, (key, other) ∈ right ∧ Same value other := by
  induction same with
  | nil => cases member
  | @cons leftHead rightHead leftRest rightRest head _ ih =>
      rcases List.mem_cons.mp member with atHead | inTail
      · obtain ⟨rightKey, rightValue⟩ := rightHead
        subst atHead
        obtain ⟨sameKey, sameValue⟩ := head
        simp only at sameKey sameValue
        subst sameKey
        exact ⟨rightValue, List.mem_cons_self, sameValue⟩
      · obtain ⟨other, found, sameValue⟩ := ih inTail
        exact ⟨other, List.mem_cons_of_mem _ found, sameValue⟩

theorem same_obj_find {left right : List (String × Option Json)} {key : String} {value : Json}
    (same : Same (.obj left) (.obj right)) (member : (key, value) ∈ definedMembers left) :
    ∃ other, (key, other) ∈ definedMembers right ∧ Same value other := by
  cases same with
  | obj leftPerm members rightPerm =>
      obtain ⟨other, found, sameValue⟩ :=
        sameMembers_find (sameMembers_iff_forall₂.mp members) (leftPerm.mem_iff.mp member)
      exact ⟨other, rightPerm.mem_iff.mp found, sameValue⟩

theorem same_obj_keys {left right : List (String × Option Json)}
    (same : Same (.obj left) (.obj right)) :
    ((definedMembers left).map Prod.fst).Perm ((definedMembers right).map Prod.fst) := by
  cases same with
  | obj leftPerm members rightPerm =>
      have middle := sameMember_keys (sameMembers_iff_forall₂.mp members)
      exact (leftPerm.map Prod.fst).trans ((List.Perm.of_eq middle).trans (rightPerm.map Prod.fst))

theorem definedMembers_keys (members : List (String × Option Json)) :
    ((definedMembers members).map Prod.fst).Sublist (members.map Prod.fst) := by
  induction members with
  | nil => exact List.Sublist.slnil
  | cons head tail ih =>
      obtain ⟨headKey, headValue⟩ := head
      cases headValue with
      | none => exact List.Sublist.cons _ ih
      | some value => exact List.Sublist.cons_cons _ ih

theorem member?_of_mem {members : List (String × Option Json)} {key : String}
    {value : Option Json} (distinct : (members.map Prod.fst).Nodup)
    (listed : (key, value) ∈ members) : member? members key = value := by
  cases value with
  | some value =>
      have defined : (key, value) ∈ definedMembers members :=
        List.mem_filterMap.mpr ⟨(key, some value), listed, rfl⟩
      exact lookup_of_mem ((definedMembers_keys members).nodup distinct) defined
  | none =>
      cases found : member? members key with
      | none => rfl
      | some other =>
          have also := mem_of_mem_definedMembers (mem_of_lookup found)
          have unique := List.inj_on_of_nodup_map distinct listed also rfl
          cases unique

theorem same_obj_member {left right : List (String × Option Json)}
    (same : Same (.obj left) (.obj right)) (distinct : (left.map Prod.fst).Nodup)
    (key : String) : Option.Rel Same (member? left key) (member? right key) := by
  have leftDistinct := (definedMembers_keys left).nodup distinct
  have rightDistinct := (same_obj_keys same).nodup_iff.mp leftDistinct
  cases leftFound : member? left key with
  | some value =>
      obtain ⟨other, found, sameValue⟩ := same_obj_find same (mem_of_lookup leftFound)
      rw [member?, lookup_of_mem rightDistinct found]
      exact Option.Rel.some sameValue
  | none =>
      cases rightFound : member? right key with
      | none => exact Option.Rel.none
      | some other =>
          exfalso
          have keyRight : key ∈ (definedMembers right).map Prod.fst :=
            List.mem_map_of_mem (mem_of_lookup rightFound)
          obtain ⟨member, inLeft, memberKey⟩ :=
            List.mem_map.mp ((same_obj_keys same).mem_iff.mpr keyRight)
          obtain ⟨leftKey, leftValue⟩ := member
          simp only at memberKey
          subst memberKey
          rw [member?, lookup_of_mem leftDistinct inLeft] at leftFound
          cases leftFound

theorem same_obj_listed {left right : List (String × Option Json)} {key : String}
    {leftValue rightValue : Option Json} (same : Same (.obj left) (.obj right))
    (leftDistinct : (left.map Prod.fst).Nodup) (rightDistinct : (right.map Prod.fst).Nodup)
    (leftListed : (key, leftValue) ∈ left) (rightListed : (key, rightValue) ∈ right) :
    Option.Rel Same leftValue rightValue := by
  have values := same_obj_member same leftDistinct key
  rwa [member?_of_mem leftDistinct leftListed, member?_of_mem rightDistinct rightListed] at values

theorem text_eq_of_rel {left right : Option String}
    (same : Option.Rel Same (left.map .str) (right.map .str)) : left = right := by
  cases left <;> cases right
  · rfl
  · cases same
  · cases same
  · cases same with
    | some values => rw [same_str_iff.mp values]

theorem required_eq_of_rel {left right : String}
    (same : Option.Rel Same (some (.str left)) (some (.str right))) : left = right :=
  Option.some.inj (text_eq_of_rel same)

theorem same_obj_zip {left right : List (String × Option Json)}
    (same : Same (.obj left) (.obj right)) (distinct : (left.map Prod.fst).Nodup)
    (keys : left.map Prod.fst = right.map Prod.fst) :
    ∀ entry ∈ left.zip right, Option.Rel Same entry.1.2 entry.2.2 := by
  intro entry paired
  obtain ⟨place, bound, found⟩ := List.mem_iff_getElem.mp paired
  rw [List.getElem_zip] at found
  subst found
  rw [List.length_zip, lt_min_iff] at bound
  obtain ⟨inLeft, inRight⟩ := bound
  have sameKey : left[place].1 = right[place].1 := by
    have leftKey : (left.map Prod.fst)[place]? = some left[place].1 := by simp [inLeft]
    have rightKey : (right.map Prod.fst)[place]? = some right[place].1 := by simp [inRight]
    rw [keys, rightKey] at leftKey
    exact (Option.some_inj.mp leftKey).symm
  have leftListed : (left[place].1, left[place].2) ∈ left := List.getElem_mem inLeft
  have rightListed : (left[place].1, right[place].2) ∈ right := by
    rw [sameKey]
    exact List.getElem_mem inRight
  exact same_obj_listed same distinct (keys ▸ distinct) leftListed rightListed

end JsonText
