import ActionProxy.Foundation.JsonParse

/-!
What a JSON text parses to: a later member replaces an earlier one of its key, so no
object of a parsed value lists a key twice or a member without a value, and its numbers
are those that the numbers of the text round to.
-/

namespace JsonText

/-- An object as it is read: its keys distinct, each with a value whose parts all pass a
check. -/
structure ReadObject (check : Json → Bool) (members : List (String × Option Json)) : Prop where
  keys : (members.map Prod.fst).Nodup
  whole : ∀ member ∈ members, member.2.isSome = true
  inside : ∀ member ∈ definedMembers members, everyPart check member.2 = true

/-- What a check has to pass for every parsed value to pass it in all its parts. -/
structure PassesParsed (nearest : JsonNumber → Option JsonNumber) (check : Json → Bool) :
    Prop where
  null : check .null = true
  bool : ∀ value, check (.bool value) = true
  num : ∀ exact number, nearest exact = some number → check (.num number) = true
  str : ∀ value, check (.str value) = true
  arr : ∀ items, check (.arr items) = true
  obj : ∀ members, ReadObject check members → check (.obj members) = true

variable {check : Json → Bool}

theorem ReadObject.nil : ReadObject check [] :=
  { keys := List.nodup_nil
    whole := List.forall_mem_nil _
    inside := List.forall_mem_nil _ }

theorem ReadObject.put {members : List (String × Option Json)}
    (object : ReadObject check members) (key : String) {value : Json}
    (passes : everyPart check value = true) : ReadObject check (putMember members key value) := by
  unfold putMember
  split
  · have keys : (members.map fun member =>
        if member.1 == key then (key, some value) else member).map Prod.fst =
          members.map Prod.fst := by
      rw [List.map_map]
      apply List.map_congr_left
      intro member _
      by_cases same : member.1 = key
      · simp [same]
      · simp [same]
    constructor
    · rw [keys]
      exact object.keys
    · intro member listed
      obtain ⟨given, inMembers, becomes⟩ := List.mem_map.mp listed
      by_cases same : given.1 = key
      · rw [if_pos (beq_iff_eq.mpr same)] at becomes
        cases becomes
        rfl
      · rw [if_neg (by simpa using same)] at becomes
        subst becomes
        exact object.whole given inMembers
    · intro member listed
      obtain ⟨given, inMembers, becomes⟩ := List.mem_map.mp (mem_of_mem_definedMembers listed)
      by_cases same : given.1 = key
      · rw [if_pos (beq_iff_eq.mpr same)] at becomes
        cases becomes
        exact passes
      · rw [if_neg (by simpa using same)] at becomes
        subst becomes
        exact object.inside member (List.mem_filterMap.mpr ⟨_, inMembers, rfl⟩)
  · rename_i absent
    constructor
    · rw [List.map_append, List.nodup_append]
      refine ⟨object.keys, List.nodup_singleton key, ?_⟩
      intro other listed last atEnd same
      rw [List.mem_singleton.mp atEnd] at same
      obtain ⟨member, inMembers, rfl⟩ := List.mem_map.mp listed
      exact absent (List.any_eq_true.mpr ⟨member, inMembers, beq_iff_eq.mpr same⟩)
    · intro member listed
      rcases List.mem_append.mp listed with before | atEnd
      · exact object.whole member before
      · cases List.mem_singleton.mp atEnd
        rfl
    · intro member listed
      rw [definedMembers, List.filterMap_append] at listed
      rcases List.mem_append.mp listed with before | atEnd
      · exact object.inside member before
      · cases List.mem_singleton.mp atEnd
        exact passes

section

variable {nearest : JsonNumber → Option JsonNumber}

theorem everyPart_objectOf (checks : PassesParsed nearest check) {members : List (String × Json)}
    (inside : ∀ member ∈ members, everyPart check member.2 = true) :
    everyPart check (objectOf members) = true := by
  have folded : ∀ (rest : List (String × Json)) (object : List (String × Option Json)),
      ReadObject check object → (∀ member ∈ rest, everyPart check member.2 = true) →
      ReadObject check
        (rest.foldl (fun object member => putMember object member.1 member.2) object) := by
    intro rest
    induction rest with
    | nil => exact fun object read _ => read
    | cons member rest ih =>
        intro object read each
        apply ih
        · exact read.put member.1 (each member List.mem_cons_self)
        · exact fun other listed => each other (List.mem_cons_of_mem _ listed)
  have object := folded members [] ReadObject.nil inside
  exact everyPart_obj.mpr ⟨checks.obj _ object, object.inside⟩

private theorem of_map_id {α β γ : Type} {found : Option (α × γ)} {image : α → β} {value : β}
    {rest : γ} (mapped : found.map (Prod.map image id) = some (value, rest)) :
    ∃ source, found = some (source, rest) ∧ value = image source := by
  obtain ⟨⟨source, left⟩, present, same⟩ := Option.map_eq_some_iff.mp mapped
  cases same
  exact ⟨source, present, rfl⟩

/-- Within any fuel, values, items and members are read that pass the check. -/
theorem parse_every (checks : PassesParsed nearest check) (fuel : Nat) :
    (∀ source value rest, parseValue nearest fuel source = some (value, rest) →
      everyPart check value = true) ∧
    (∀ source items rest, parseItems nearest fuel source = some (items, rest) →
      ∀ item ∈ items, everyPart check item = true) ∧
    (∀ source members rest, parseMembers nearest fuel source = some (members, rest) →
      ∀ member ∈ members, everyPart check member.2 = true) := by
  induction fuel with
  | zero =>
      refine ⟨?_, ?_, ?_⟩
      all_goals
        intro source found rest read
        cases read
  | succ fuel ih =>
      obtain ⟨values, items, members⟩ := ih
      refine ⟨?_, ?_, ?_⟩
      · intro source value rest read
        unfold parseValue at read
        split at read
        · cases read
          exact checks.null
        · cases read
          exact checks.bool true
        · cases read
          exact checks.bool false
        · obtain ⟨text, -, rfl⟩ := of_map_id read
          exact checks.str text
        · split at read
          · cases read
            exact everyPart_arr.mpr ⟨checks.arr [], List.forall_mem_nil _⟩
          · obtain ⟨parts, found, rfl⟩ := of_map_id read
            exact everyPart_arr.mpr ⟨checks.arr parts, items _ _ _ found⟩
        · split at read
          · cases read
            exact everyPart_objectOf checks (List.forall_mem_nil _)
          · obtain ⟨parts, found, rfl⟩ := of_map_id read
            exact everyPart_objectOf checks (members _ _ _ found)
        · split at read
          · cases read
          · obtain ⟨number, rounded, same⟩ := Option.map_eq_some_iff.mp read
            cases same
            exact checks.num _ number rounded
      · intro source found rest read
        unfold parseItems at read
        split at read
        · cases read
        · rename_i first afterFirst parsed
          have firstPasses := values _ _ _ parsed
          split at read
          · obtain ⟨others, tail, rfl⟩ := of_map_id read
            rw [List.forall_mem_cons]
            exact ⟨firstPasses, items _ _ _ tail⟩
          · cases read
            rw [List.forall_mem_cons]
            exact ⟨firstPasses, List.forall_mem_nil _⟩
          · cases read
      · intro source found rest read
        unfold parseMembers at read
        split at read
        · split at read
          · cases read
          · split at read
            · split at read
              · cases read
              · rename_i first afterFirst parsed
                have firstPasses := values _ _ _ parsed
                split at read
                · obtain ⟨others, tail, rfl⟩ := of_map_id read
                  rw [List.forall_mem_cons]
                  exact ⟨firstPasses, members _ _ _ tail⟩
                · cases read
                  rw [List.forall_mem_cons]
                  exact ⟨firstPasses, List.forall_mem_nil _⟩
                · cases read
            · cases read
        · cases read

theorem jsonParse_every (checks : PassesParsed nearest check) {text : String} {value : Json}
    (parsed : jsonParse nearest text = some value) : everyPart check value = true := by
  unfold jsonParse at parsed
  split at parsed
  · rename_i read
    split at parsed
    · cases parsed
      exact (parse_every checks _).1 _ _ _ read
    · cases parsed
  · cases parsed

theorem jsonParse_distinct {text : String} {value : Json}
    (parsed : jsonParse nearest text = some value) : distinctKeys value = true := by
  refine jsonParse_every
    { null := rfl
      bool := fun _ => rfl
      num := fun _ _ _ => rfl
      str := fun _ => rfl
      arr := fun _ => rfl
      obj := ?_ } parsed
  intro members object
  exact decide_eq_true object.keys

theorem jsonParse_complete {text : String} {value : Json}
    (parsed : jsonParse nearest text = some value) : complete value = true := by
  refine jsonParse_every
    { null := rfl
      bool := fun _ => rfl
      num := fun _ _ _ => rfl
      str := fun _ => rfl
      arr := fun _ => rfl
      obj := ?_ } parsed
  intro members object
  exact List.all_eq_true.mpr object.whole

/-- Where a rounded number is a number, so is every number that a text parses to. -/
theorem jsonParse_exact
    (rounded : ∀ exact number, nearest exact = some number → nearest number = some number)
    {text : String} {value : Json} (parsed : jsonParse nearest text = some value) :
    exactNumbers nearest value = true := by
  refine jsonParse_every
    { null := rfl
      bool := fun _ => rfl
      num := ?_
      str := fun _ => rfl
      arr := fun _ => rfl
      obj := fun _ _ => rfl } parsed
  intro exact number near
  exact beq_iff_eq.mpr (rounded exact number near)

end

end JsonText
