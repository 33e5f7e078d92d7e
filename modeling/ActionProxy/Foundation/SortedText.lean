import ActionProxy.Foundation.JsonText

/-!
Texts with sorted members. A text printed under a comparison of keys forgets the
member order exactly where no object has two keys that the comparison ties;
tied keys keep the order they are enumerated in.
-/

namespace JsonText

/-! ### Checks on every object of a value -/

/-- A check on the members of an object. -/
def onMembers (check : List (String × Option Json) → Bool) : Json → Bool
  | .obj members => check members
  | _ => true

/-- Every object inside the value passes the check. -/
def everyObject (check : List (String × Option Json) → Bool) : Json → Bool :=
  everyPart (onMembers check)

theorem everyObject_arr {check : List (String × Option Json) → Bool} {items : List Json} :
    everyObject check (.arr items) = true ↔ ∀ item ∈ items, everyObject check item = true := by
  rw [everyObject, everyPart_arr]
  exact and_iff_right rfl

theorem everyObject_obj {check : List (String × Option Json) → Bool}
    {members : List (String × Option Json)} :
    everyObject check (.obj members) = true ↔ check members = true ∧
      ∀ member ∈ definedMembers members, everyObject check member.2 = true := by
  rw [everyObject, everyPart_obj]
  rfl

/-- No object lists a key twice. -/
def distinctKeys : Json → Bool :=
  everyObject (fun members => decide (members.map Prod.fst).Nodup)

/-- No member is undefined. -/
def complete : Json → Bool :=
  everyObject (fun members => members.all (fun member => member.2.isSome))

theorem definedMembers_complete {members : List (String × Option Json)}
    (defined : members.all (fun member => member.2.isSome) = true) :
    (definedMembers members).map (Prod.map id some) = members := by
  induction members with
  | nil => rfl
  | cons member rest ih =>
      obtain ⟨key, value⟩ := member
      rw [List.all_cons, Bool.and_eq_true] at defined
      cases value with
      | none => cases defined.1
      | some value =>
          rw [definedMembers_some, List.map_cons, ih defined.2]
          rfl

/-- No two keys that have a value are tied by the comparison. -/
def untied (before : String → String → Bool) (members : List (String × Option Json)) : Bool :=
  let keys := (definedMembers members).map Prod.fst
  keys.all (fun key => keys.all (fun other =>
    !(before key other && before other key) || key == other))

/-- No object has two tied keys. -/
def tieFree (before : String → String → Bool) : Json → Bool := everyObject (untied before)

theorem untied_iff {before : String → String → Bool} {members : List (String × Option Json)} :
    untied before members = true ↔
      ∀ key ∈ (definedMembers members).map Prod.fst,
        ∀ other ∈ (definedMembers members).map Prod.fst,
          before key other = true → before other key = true → key = other := by
  simp only [untied, List.all_eq_true, Bool.or_eq_true, Bool.not_eq_true', Bool.and_eq_false_iff,
    beq_iff_eq]
  constructor
  · intro free key listed other otherListed first second
    rcases free key listed other otherListed with (refused | refused) | same
    · rw [first] at refused
      cases refused
    · rw [second] at refused
      cases refused
    · exact same
  · intro free key listed other otherListed
    cases first : before key other with
    | false => exact Or.inl (Or.inl rfl)
    | true =>
        cases second : before other key with
        | false => exact Or.inl (Or.inr rfl)
        | true => exact Or.inr (free key listed other otherListed first second)

/-- What a comparison of keys must satisfy for a sort: it relates any two keys,
and it is transitive. Distinct keys may be tied. -/
structure TotalPreorder (before : String → String → Bool) : Prop where
  total : ∀ left right, before left right = true ∨ before right left = true
  trans : ∀ {first second third}, before first second = true → before second third = true →
    before first third = true

/-! ### Texts of values that are the same -/

theorem sorted_keys {before : String → String → Bool} (preorder : TotalPreorder before)
    {α : Type} (entries : List (String × α)) :
    List.Pairwise (fun left right => before left right = true)
      (((sortedOrder before).arrange entries).map Prod.fst) := by
  have _ : Std.Total (fun left right : String × α => before left.1 right.1 = true) :=
    ⟨fun left right => preorder.total left.1 right.1⟩
  have _ : IsTrans (String × α) (fun left right => before left.1 right.1 = true) :=
    ⟨fun _ _ _ first second => preorder.trans first second⟩
  exact List.pairwise_map.mpr (List.pairwise_insertionSort _ entries)

theorem forall₂_of_keys {left right : List (String × Json)}
    (keys : left.map Prod.fst = right.map Prod.fst)
    (values : ∀ key value other, (key, value) ∈ left → (key, other) ∈ right → Same value other) :
    List.Forall₂ SameMember left right := by
  induction left generalizing right with
  | nil =>
      cases right with
      | nil => exact List.Forall₂.nil
      | cons head tail => cases keys
  | cons head tail ih =>
      cases right with
      | nil => cases keys
      | cons other others =>
          obtain ⟨key, value⟩ := head
          obtain ⟨otherKey, otherValue⟩ := other
          obtain ⟨sameKey, sameKeys⟩ := List.cons.inj keys
          simp only at sameKey
          subst sameKey
          refine List.Forall₂.cons ⟨rfl, values key value otherValue List.mem_cons_self
            List.mem_cons_self⟩ (ih sameKeys ?_)
          intro key value other inLeft inRight
          exact values key value other (List.mem_cons_of_mem _ inLeft)
            (List.mem_cons_of_mem _ inRight)

theorem arranged_same {before : String → String → Bool} (preorder : TotalPreorder before)
    {left right : List (String × Option Json)} (same : Same (.obj left) (.obj right))
    (distinct : (left.map Prod.fst).Nodup) (free : untied before left = true) :
    List.Forall₂ SameMember ((sortedOrder before).arrange (definedMembers left))
      ((sortedOrder before).arrange (definedMembers right)) := by
  have leftPerm := (sortedOrder before).perm (definedMembers left)
  have rightPerm := (sortedOrder before).perm (definedMembers right)
  have keys := same_obj_keys same
  have leftDistinct := (definedMembers_keys left).nodup distinct
  have rightDistinct := keys.nodup_iff.mp leftDistinct
  apply forall₂_of_keys
  · refine List.Perm.eq_of_pairwise ?_
      (sorted_keys preorder _) (sorted_keys preorder _)
      ((leftPerm.map _).trans (keys.trans (rightPerm.map _).symm))
    intro key other listed otherListed first second
    have inLeft := (leftPerm.map Prod.fst).mem_iff.mp listed
    have alsoLeft := keys.mem_iff.mpr ((rightPerm.map Prod.fst).mem_iff.mp otherListed)
    exact untied_iff.mp free key inLeft other alsoLeft first second
  · intro key value other inLeft inRight
    obtain ⟨found, listed, related⟩ := same_obj_find same (leftPerm.mem_iff.mp inLeft)
    have unique := List.inj_on_of_nodup_map rightDistinct listed (rightPerm.mem_iff.mp inRight) rfl
    cases unique
    exact related

/-- A comparison without ties arranges entries in one way, however they were listed. -/
theorem arrange_eq_of_perm {before : String → String → Bool} (preorder : TotalPreorder before)
    (antisymm : ∀ left right, before left right = true → before right left = true → left = right)
    {α : Type} {left right : List (String × α)} (perm : left.Perm right)
    (distinct : (left.map Prod.fst).Nodup) :
    (sortedOrder before).arrange left = (sortedOrder before).arrange right := by
  have leftPerm := (sortedOrder before).perm left
  have rightPerm := (sortedOrder before).perm right
  refine List.Perm.eq_of_pairwise ?_
    (List.pairwise_map.mp (sorted_keys preorder left))
    (List.pairwise_map.mp (sorted_keys preorder right))
    (leftPerm.trans (perm.trans rightPerm.symm))
  intro first second firstListed secondListed forward backward
  have inLeft := leftPerm.mem_iff.mp firstListed
  have alsoLeft := perm.mem_iff.mpr (rightPerm.mem_iff.mp secondListed)
  exact List.inj_on_of_nodup_map distinct inLeft alsoLeft (antisymm _ _ forward backward)

theorem tieFree_of_antisymm {before : String → String → Bool}
    (antisymm : ∀ left right, before left right = true → before right left = true → left = right)
    (value : Json) : tieFree before value = true := by
  induction value using treeInduction with
  | null => rfl
  | bool value => rfl
  | num value => rfl
  | str value => rfl
  | arr items ih => exact everyObject_arr.mpr ih
  | obj members ih =>
      exact everyObject_obj.mpr
        ⟨untied_iff.mpr (fun key _ other _ => antisymm key other), ih⟩

/-- Values that are the same have one text when the first has no tied keys. -/
theorem textWith_eq_of_same {before : String → String → Bool} (preorder : TotalPreorder before)
    {left right : Json} (same : Same left right) (distinct : distinctKeys left = true)
    (free : tieFree before left = true) :
    textWith (sortedOrder before) left = textWith (sortedOrder before) right := by
  induction left using treeInduction generalizing right with
  | null =>
      cases same
      rfl
  | bool value =>
      cases same
      rfl
  | num value =>
      cases same
      rfl
  | str value =>
      cases same
      rfl
  | arr items ih =>
      cases same with
      | arr related =>
          have itemsDistinct := everyObject_arr.mp distinct
          have itemsFree := everyObject_arr.mp free
          rw [textWith_arr, textWith_arr, map_eq_of_forall₂ (forall₂_of_sameItems related)]
          intro item listed other sameItem
          exact ih item listed sameItem (itemsDistinct item listed) (itemsFree item listed)
  | obj members ih =>
      cases right with
      | obj others =>
          obtain ⟨keysDistinct, valuesDistinct⟩ := everyObject_obj.mp distinct
          obtain ⟨keysFree, valuesFree⟩ := everyObject_obj.mp free
          have related := arranged_same preorder same (of_decide_eq_true keysDistinct) keysFree
          rw [textWith_obj, textWith_obj, map_eq_of_forall₂ related]
          intro member inside other sameMember
          have listed := ((sortedOrder before).perm _).mem_iff.mp inside
          rw [memberText, memberText, sameMember.1, ih member listed sameMember.2
            (valuesDistinct member listed) (valuesFree member listed)]
      | _ => cases same

/-! ### Tied keys -/

private theorem texts_decode (order : MemberOrder) (left right : Json) :
    Decodes (textWith order) (fun first second => textWith order first = textWith order second)
      left right := by
  intro leftRest rightRest same leftStop rightStop
  obtain ⟨_, rest⟩ := textWith_unique order left right leftRest rightRest same leftStop rightStop
  rw [rest] at same
  exact ⟨List.append_cancel_right same, rest⟩

theorem map_eq_map_of_forall₂ {α β : Type} {image : α → β} {left right : List α}
    (all : List.Forall₂ (fun first second => image first = image second) left right) :
    left.map image = right.map image :=
  map_eq_of_forall₂ all (fun _ _ _ same => same)

theorem items_eq_of_text {order : MemberOrder} {left right : List Json}
    (same : textWith order (.arr left) = textWith order (.arr right)) :
    left.map (textWith order) = right.map (textWith order) := by
  rw [textWith_arr, textWith_arr] at same
  obtain ⟨related, _⟩ := commaSeparated_unique rfl (by decide) (textWith_opens order) left right
    (fun item _ other _ => texts_decode order item other) (List.cons.inj same).2
  exact map_eq_map_of_forall₂ related

theorem members_eq_of_text {order : MemberOrder} {left right : List (String × Option Json)}
    (same : textWith order (.obj left) = textWith order (.obj right)) :
    (order.arrange (definedMembers left)).map (memberText order) =
      (order.arrange (definedMembers right)).map (memberText order) := by
  have decodes : ∀ member other : String × Json, Decodes (memberText order)
      (fun first second => memberText order first = memberText order second) member other := by
    intro member other leftRest rightRest texts leftStop rightStop
    have whole := texts
    simp only [memberText, List.append_assoc, List.cons_append] at texts
    obtain ⟨_, rest⟩ := quote_unique texts
    obtain ⟨_, afterwards⟩ := texts_decode order member.2 other.2 _ _ (List.cons.inj rest).2
      leftStop rightStop
    rw [afterwards] at whole
    exact ⟨List.append_cancel_right whole, afterwards⟩
  rw [textWith_obj, textWith_obj] at same
  obtain ⟨related, _⟩ := commaSeparated_unique rfl (by decide)
    (fun member => ⟨'"', _, rfl, by decide⟩) _ _ (fun member _ other _ => decodes member other)
    (List.cons.inj same).2
  exact map_eq_map_of_forall₂ related

theorem memberText_key {order : MemberOrder} {left right : String × Json}
    (same : memberText order left = memberText order right) : left.1 = right.1 :=
  (quote_unique same).1

theorem memberText_value {order : MemberOrder} {left right : String × Json}
    (same : memberText order left = memberText order right) :
    textWith order left.2 = textWith order right.2 :=
  (List.cons.inj (quote_unique same).2).2

theorem same_refl (value : Json) : Same value value := by
  induction value using treeInduction with
  | null => exact Same.null
  | bool value => exact Same.bool value
  | num value => exact Same.num value
  | str value => exact Same.str value
  | arr items ih =>
      apply Same.arr
      apply sameItems_of_forall₂
      exact List.forall₂_same.mpr ih
  | obj members ih =>
      apply Same.obj (List.Perm.refl _) _ (List.Perm.refl _)
      apply sameMembers_iff_forall₂.mpr
      exact List.forall₂_same.mpr (fun member listed => ⟨rfl, ih member listed⟩)

theorem same_arr_replace (before after : List Json) {item other : Json}
    (same : Same item other) :
    Same (.arr (before ++ item :: after)) (.arr (before ++ other :: after)) := by
  apply Same.arr
  apply sameItems_of_forall₂
  apply List.rel_append (List.forall₂_same.mpr (fun item _ => same_refl item))
  exact List.Forall₂.cons same (List.forall₂_same.mpr (fun item _ => same_refl item))

theorem same_obj_replace (before after : List (String × Option Json)) (key : String)
    {value other : Json} (same : Same value other) :
    Same (.obj (before ++ (key, some value) :: after))
      (.obj (before ++ (key, some other) :: after)) := by
  apply Same.obj (List.Perm.refl _) _ (List.Perm.refl _)
  apply sameMembers_iff_forall₂.mpr
  have kept : ∀ members : List (String × Json), List.Forall₂ SameMember members members :=
    fun members => List.forall₂_same.mpr (fun member _ => ⟨rfl, same_refl member.2⟩)
  simp only [definedMembers, List.filterMap_append, List.filterMap_cons, Option.map_some]
  exact List.rel_append (kept _) (List.Forall₂.cons ⟨rfl, same⟩ (kept _))

/-- Two objects that differ in one value have two texts when the value has. -/
theorem text_obj_replace {order : MemberOrder} (before after : List (String × Option Json))
    (key : String) {value other : Json} (differ : textWith order value ≠ textWith order other) :
    textWith order (.obj (before ++ (key, some value) :: after)) ≠
      textWith order (.obj (before ++ (key, some other) :: after)) := by
  intro same
  -- both member lists are projections of one list of pairs, arranged once
  let paired : List (String × Json × Json) :=
    (definedMembers before).map (fun member => (member.1, member.2, member.2)) ++
      (key, value, other) ::
        (definedMembers after).map (fun member => (member.1, member.2, member.2))
  have first : definedMembers (before ++ (key, some value) :: after) =
      paired.map (Prod.map id Prod.fst) := by
    simp [paired, definedMembers, Function.comp_def]
  have second : definedMembers (before ++ (key, some other) :: after) =
      paired.map (Prod.map id Prod.snd) := by
    simp [paired, definedMembers, Function.comp_def]
  have texts := members_eq_of_text same
  rw [first, second, order.natural, order.natural, List.map_map, List.map_map] at texts
  have listed : (key, value, other) ∈ order.arrange paired :=
    (order.perm paired).mem_iff.mpr (List.mem_append_right _ List.mem_cons_self)
  have one := List.map_inj_left.mp texts _ listed
  exact differ (memberText_value one)

theorem keys_of_memberTexts {order : MemberOrder} {left right : List (String × Json)}
    (texts : left.map (memberText order) = right.map (memberText order)) :
    left.map Prod.fst = right.map Prod.fst := by
  induction left generalizing right with
  | nil =>
      cases right with
      | nil => rfl
      | cons head tail => cases texts
  | cons head tail ih =>
      cases right with
      | nil => cases texts
      | cons other others =>
          obtain ⟨headText, tailTexts⟩ := List.cons.inj texts
          rw [List.map_cons, List.map_cons, memberText_key headText, ih tailTexts]

theorem pair_sublist_of_mem {α : Type} {items : List α} {left right : α}
    (leftListed : left ∈ items) (rightListed : right ∈ items) (differ : left ≠ right) :
    [left, right].Sublist items ∨ [right, left].Sublist items := by
  induction items with
  | nil => cases leftListed
  | cons head tail ih =>
      rcases List.mem_cons.mp leftListed with rfl | leftTail
      · rcases List.mem_cons.mp rightListed with rfl | rightTail
        · exact absurd rfl differ
        · exact Or.inl ((List.singleton_sublist.mpr rightTail).cons_cons left)
      · rcases List.mem_cons.mp rightListed with rfl | rightTail
        · exact Or.inr ((List.singleton_sublist.mpr leftTail).cons_cons right)
        · rcases ih leftTail rightTail with forward | backward
          · exact Or.inl (forward.cons head)
          · exact Or.inr (backward.cons head)

theorem not_both_orders {α : Type} {items : List α} {left right : α} (distinct : items.Nodup)
    (forward : [left, right].Sublist items) : ¬ [right, left].Sublist items := by
  intro backward
  induction items with
  | nil => cases forward
  | cons head tail ih =>
      obtain ⟨fresh, rest⟩ := List.nodup_cons.mp distinct
      cases forward with
      | cons _ inTail =>
          cases backward with
          | cons _ alsoTail => exact ih rest inTail alsoTail
          | cons_cons _ _ => exact fresh (inTail.subset (by simp))
      | cons_cons _ _ =>
          cases backward with
          | cons _ alsoTail => exact fresh (alsoTail.subset (by simp))
          | cons_cons _ alone => exact fresh (List.singleton_sublist.mp alone)

theorem definedMembers_reverse (members : List (String × Option Json)) :
    definedMembers members.reverse = (definedMembers members).reverse :=
  List.filterMap_reverse

theorem arranged_pair {before : String → String → Bool} {left right : String × Json}
    (related : before left.1 right.1 = true) {members : List (String × Json)}
    (listed : [left, right].Sublist members) :
    [left.1, right.1].Sublist (((sortedOrder before).arrange members).map Prod.fst) := by
  have kept := List.pair_sublist_insertionSort
    (r := fun left right : String × Json => before left.1 right.1 = true) related listed
  exact kept.map Prod.fst

/-- Members with tied keys, enumerated in the reverse order, have another text. -/
theorem text_reverse_of_tied {before : String → String → Bool}
    {members : List (String × Option Json)} (distinct : (members.map Prod.fst).Nodup)
    (tied : untied before members = false) :
    textWith (sortedOrder before) (.obj members) ≠
      textWith (sortedOrder before) (.obj members.reverse) := by
  intro same
  have arrangedDistinct :
      (((sortedOrder before).arrange (definedMembers members)).map Prod.fst).Nodup :=
    (((sortedOrder before).perm _).map Prod.fst).nodup_iff.mpr
      ((definedMembers_keys members).nodup distinct)
  have keys := keys_of_memberTexts (members_eq_of_text same)
  rw [definedMembers_reverse] at keys
  -- the arranged keys of both objects are one list, which has tied keys in both orders
  have absurdPair : ∀ {left right : String × Json}, before left.1 right.1 = true →
      before right.1 left.1 = true → ¬ [left, right].Sublist (definedMembers members) := by
    intro left right forward backward listed
    have there := arranged_pair forward listed
    have back := arranged_pair backward listed.reverse
    rw [← keys] at back
    exact not_both_orders arrangedDistinct there back
  have free : untied before members = true := by
    apply untied_iff.mpr
    intro key keyListed other otherListed first second
    obtain ⟨left, leftListed, rfl⟩ := List.mem_map.mp keyListed
    obtain ⟨right, rightListed, rfl⟩ := List.mem_map.mp otherListed
    by_contra differ
    have apart : left ≠ right := fun equal => differ (congrArg Prod.fst equal)
    rcases pair_sublist_of_mem leftListed rightListed apart with forward | backward
    · exact absurdPair first second forward
    · exact absurdPair second first backward
  rw [tied] at free
  cases free

/-- A value with a tie has a text that some other member order changes. -/
theorem text_differs_of_tie {before : String → String → Bool} {value : Json}
    (distinct : distinctKeys value = true) (tied : tieFree before value = false) :
    ∃ other, distinctKeys other = true ∧ Same value other ∧
      textWith (sortedOrder before) value ≠ textWith (sortedOrder before) other := by
  induction value using treeInduction with
  | null => cases tied
  | bool value => cases tied
  | num value => cases tied
  | str value => cases tied
  | arr items ih =>
      have itemsDistinct := everyObject_arr.mp distinct
      have notAll : ¬ ∀ item ∈ items, tieFree before item = true := by
        intro all
        rw [tieFree, everyObject_arr.mpr all] at tied
        cases tied
      push Not at notAll
      obtain ⟨item, listed, itemTied⟩ := notAll
      obtain ⟨other, otherDistinct, same, differ⟩ :=
        ih item listed (itemsDistinct item listed) (Bool.eq_false_of_not_eq_true itemTied)
      obtain ⟨front, back, rfl⟩ := List.append_of_mem listed
      refine ⟨.arr (front ++ other :: back), ?_, same_arr_replace front back same, ?_⟩
      · apply everyObject_arr.mpr
        intro kept inside
        rcases List.mem_append.mp inside with inFront | inBack
        · exact itemsDistinct kept (List.mem_append_left _ inFront)
        · rcases List.mem_cons.mp inBack with rfl | inTail
          · exact otherDistinct
          · exact itemsDistinct kept (List.mem_append_right _ (List.mem_cons_of_mem _ inTail))
      · intro texts
        have parts := items_eq_of_text texts
        rw [List.map_append, List.map_append] at parts
        exact differ (List.cons.inj (List.append_cancel_left parts)).1
  | obj members ih =>
      obtain ⟨keysDistinct, valuesDistinct⟩ := everyObject_obj.mp distinct
      have memberDistinct := of_decide_eq_true keysDistinct
      cases here : untied before members with
      | false =>
          refine ⟨.obj members.reverse, ?_, ?_, text_reverse_of_tied memberDistinct here⟩
          · apply everyObject_obj.mpr
            constructor
            · rw [List.map_reverse]
              exact decide_eq_true (List.nodup_reverse.mpr memberDistinct)
            · intro member listed
              rw [definedMembers_reverse] at listed
              exact valuesDistinct member (List.mem_reverse.mp listed)
          · apply Same.obj (List.Perm.refl _) (sameMembers_iff_forall₂.mpr
              (List.forall₂_same.mpr (fun member _ => ⟨rfl, same_refl member.2⟩)))
            rw [definedMembers_reverse]
            exact (List.reverse_perm _).symm
      | true =>
          have notAll : ¬ ∀ member ∈ definedMembers members, tieFree before member.2 = true := by
            intro all
            rw [tieFree, everyObject_obj.mpr ⟨here, all⟩] at tied
            cases tied
          push Not at notAll
          obtain ⟨⟨key, value⟩, listed, valueTied⟩ := notAll
          obtain ⟨other, otherDistinct, same, differ⟩ := ih (key, value) listed
            (valuesDistinct _ listed) (Bool.eq_false_of_not_eq_true valueTied)
          obtain ⟨front, back, rfl⟩ := List.append_of_mem (mem_of_mem_definedMembers listed)
          refine ⟨.obj (front ++ (key, some other) :: back), ?_,
            same_obj_replace front back key same, text_obj_replace front back key differ⟩
          apply everyObject_obj.mpr
          constructor
          · apply decide_eq_true
            simpa using memberDistinct
          · intro member inside
            simp only [definedMembers, List.filterMap_append, List.filterMap_cons,
              Option.map_some, List.mem_append, List.mem_cons] at inside valuesDistinct
            rcases inside with inFront | rfl | inBack
            · exact valuesDistinct member (Or.inl inFront)
            · exact otherDistinct
            · exact valuesDistinct member (Or.inr (Or.inr inBack))

/-- A sorted text is a canonical form of a value exactly when no object in the
value has two tied keys. -/
theorem canonical_iff_tieFree {before : String → String → Bool} (preorder : TotalPreorder before)
    {value : Json} (distinct : distinctKeys value = true) :
    (∀ other, distinctKeys other = true →
        (textWith (sortedOrder before) value = textWith (sortedOrder before) other ↔
          Same value other)) ↔
      tieFree before value = true := by
  constructor
  · intro canonical
    cases tied : tieFree before value with
    | true => rfl
    | false =>
        obtain ⟨other, otherDistinct, same, differ⟩ := text_differs_of_tie distinct tied
        exact absurd ((canonical other otherDistinct).mpr same) differ
  · intro free other _
    exact ⟨same_of_textWith_eq, fun same => textWith_eq_of_same preorder same distinct free⟩

end JsonText
