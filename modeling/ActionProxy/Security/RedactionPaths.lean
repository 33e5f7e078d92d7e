import ActionProxy.Security.Redaction

/-!
What a listed path hides. A path is read from the root of what is redacted, as names
of members and indices of array elements; redaction compares the paths of members
only.
-/

namespace ActionProxy

open JsonText

/-- A path as the policy spells it. -/
def dotted (path : List String) : String := ".".intercalate path

/-- The value at a path, read as names of members and indices of elements. -/
inductive At : Json → List String → Json → Prop where
  | here (value : Json) : At value [] value
  | member {members : JsonObject} {key : String} {child : Json} {path : List String}
      {value : Json} (listed : (key, some child) ∈ members) (below : At child path value) :
      At (.obj members) (key :: path) value
  | item {items : List Json} {index : Nat} {child : Json} {path : List String} {value : Json}
      (found : items[index]? = some child) (below : At child path value) :
      At (.arr items) (toString index :: path) value

/-- Whatever an object below a root has at a path is the replacement. -/
def Masked (root : List String) (listed : String) (value : JsonObject) : Prop :=
  ∀ path found, At (.obj value) path found → dotted (root ++ path) = listed →
    found = .str redactedText

section

variable [Runtime] (redactedPaths : List String)

/-- A name that is redacted wherever it stands. -/
def sensitiveName (key : String) : Bool :=
  defaultSensitiveKeys.contains (Runtime.toLowerCase (withoutSeparators key)) ||
    defaultSensitiveKeys.contains (Runtime.toLowerCase key)

/-- A member of this name below the path does not come through. -/
def MemberHides (path : List String) (key : String) : Prop :=
  key = "__proto__" ∨ shouldRedact key (path ++ [key]) redactedPaths = true

/-- A name on the way hides what is below, also where each index is that of an array
element. -/
def HidesBelow : List String → List String → Prop
  | _, [] => False
  | path, key :: rest =>
      ((∀ index : Nat, key ≠ toString index) ∧ MemberHides redactedPaths path key) ∨
        HidesBelow (path ++ [key]) rest

/-- The same below an object, whose members are named. -/
def Hides (root : List String) : List String → Prop
  | [] => False
  | key :: rest =>
      MemberHides redactedPaths root key ∨ HidesBelow redactedPaths (root ++ [key]) rest

/-- However the path is read below the root, a name on the way hides it. -/
def Covered (root : List String) (listed : String) : Prop :=
  ∀ path, dotted (root ++ path) = listed → Hides redactedPaths root path

end

section

variable [Runtime] {redactedPaths : List String}

theorem shouldRedact_iff {key : String} {path : List String} :
    shouldRedact key path redactedPaths = true ↔
      sensitiveName key = true ∨ dotted path ∈ redactedPaths := by
  unfold shouldRedact
  rw [Bool.or_eq_true, List.contains_iff_mem]
  rfl

omit [Runtime] in
theorem at_replaced {text : String} {path : List String} {value : Json}
    (found : At (.str text) path value) : value = .str text := by
  cases found
  rfl

theorem redactItems_getElem? (replacement : String) (path : List String) (items : List Json)
    (start index : Nat) :
    (redactItems redactedPaths replacement path start items)[index]? =
      items[index]?.map (redactValue redactedPaths replacement (path ++ [toString (start + index)])) := by
  induction items generalizing start index with
  | nil => rfl
  | cons item rest ih =>
      rw [redactItems]
      cases index with
      | zero => rfl
      | succ index =>
          rw [List.getElem?_cons_succ, List.getElem?_cons_succ, ih, Nat.add_right_comm,
            Nat.add_assoc]

theorem mem_redactMembers {replacement : String} {path : List String} {members : JsonObject}
    {key : String} {child : Json}
    (listed : (key, some child) ∈ redactMembers redactedPaths replacement path members) :
    key ≠ "__proto__" ∧
      ((shouldRedact key (path ++ [key]) redactedPaths = true ∧ child = .str replacement) ∨
        (shouldRedact key (path ++ [key]) redactedPaths = false ∧
          ∃ value, (key, some value) ∈ members ∧
            child = redactValue redactedPaths replacement (path ++ [key]) value)) := by
  rw [redactMembers_eq] at listed
  obtain ⟨⟨source, value⟩, given, becomes⟩ := List.mem_filterMap.mp listed
  obtain ⟨sameKey, named⟩ := redactMember_key becomes
  cases sameKey
  refine ⟨named, ?_⟩
  unfold redactMember at becomes
  rw [if_neg named] at becomes
  split at becomes
  · rename_i sensitive
    cases becomes
    exact Or.inl ⟨sensitive, rfl⟩
  · rename_i plain
    cases value with
    | none => cases becomes
    | some value =>
        cases becomes
        exact Or.inr ⟨by simpa using plain, value, given, rfl⟩

theorem masked_below {path rest : List String} {value found : Json}
    (located : At (redactValue redactedPaths redactedText path value) rest found)
    (hides : HidesBelow redactedPaths path rest) : found = .str redactedText := by
  induction rest generalizing path value with
  | nil => exact hides.elim
  | cons key rest ih =>
      cases value with
      | obj members =>
          rw [redactValue] at located
          cases located with
          | member listed below =>
              obtain ⟨named, replaced | kept⟩ := mem_redactMembers listed
              · rw [replaced.2] at below
                exact at_replaced below
              · obtain ⟨plain, value, -, rfl⟩ := kept
                rcases hides with ⟨-, proto | sensitive⟩ | later
                · exact absurd proto named
                · rw [plain] at sensitive
                  cases sensitive
                · exact ih below later
      | arr items =>
          rw [redactValue] at located
          cases located with
          | item child below =>
              rw [redactItems_getElem?, Nat.zero_add, Option.map_eq_some_iff] at child
              obtain ⟨item, -, rfl⟩ := child
              rcases hides with ⟨notIndex, -⟩ | later
              · exact absurd rfl (notIndex _)
              · exact ih below later
      | _ =>
          rw [redactValue] at located
          · cases located
          all_goals simp

theorem masked_of_covered {root : List String} {listed : String}
    (covered : Covered redactedPaths root listed) (value : JsonObject) :
    Masked root listed (redactMembers redactedPaths redactedText root value) := by
  intro path found located spelled
  have hides := covered path spelled
  cases path with
  | nil => exact hides.elim
  | cons key rest =>
      cases located with
      | member listed below =>
          obtain ⟨named, replaced | kept⟩ := mem_redactMembers listed
          · rw [replaced.2] at below
            exact at_replaced below
          · obtain ⟨plain, value, -, rfl⟩ := kept
            rcases hides with (proto | sensitive) | later
            · exact absurd proto named
            · rw [plain] at sensitive
              cases sensitive
            · exact masked_below below later

theorem shown_below {path rest : List String} (shown : ¬ HidesBelow redactedPaths path rest) :
    ∃ value, At (redactValue redactedPaths redactedText path value) rest .null := by
  induction rest generalizing path with
  | nil => exact ⟨.null, At.here _⟩
  | cons key rest ih =>
      rw [HidesBelow, not_or, not_and_or] at shown
      obtain ⟨value, located⟩ := ih shown.2
      by_cases named : ∀ index : Nat, key ≠ toString index
      · have through := shown.1.resolve_left (fun not => not named)
        rw [MemberHides, not_or] at through
        refine ⟨.obj [(key, some value)], ?_⟩
        rw [redactValue, redactMembers_eq]
        refine At.member ?_ located
        rw [List.filterMap_cons, redactMember, if_neg through.1, if_neg through.2]
        exact List.mem_cons_self
      · push Not at named
        obtain ⟨index, rfl⟩ := named
        refine ⟨.arr (List.replicate index .null ++ [value]), ?_⟩
        rw [redactValue]
        refine At.item ?_ located
        rw [redactItems_getElem?, Nat.zero_add, List.getElem?_append_right (by simp)]
        simp

theorem masked_iff_covered {root : List String} {listed : String} :
    (∀ value, Masked root listed (redactMembers redactedPaths redactedText root value)) ↔
      Covered redactedPaths root listed := by
  constructor
  · intro masked path spelled
    by_contra shown
    cases path with
    | nil => cases masked [] [] _ (At.here _) spelled
    | cons key rest =>
        rw [Hides, not_or, MemberHides, not_or] at shown
        obtain ⟨⟨named, plain⟩, below⟩ := shown
        obtain ⟨value, located⟩ := shown_below below
        have listed : (key, some (redactValue redactedPaths redactedText (root ++ [key]) value)) ∈
            redactMembers redactedPaths redactedText root [(key, some value)] := by
          rw [redactMembers_eq, List.filterMap_cons, redactMember, if_neg named, if_neg plain]
          exact List.mem_cons_self
        cases masked [(key, some value)] (key :: rest) .null (At.member listed located) spelled
  · exact fun covered value => masked_of_covered covered value

theorem Hides.mono {more : List String} (wider : ∀ path ∈ redactedPaths, path ∈ more)
    {root path : List String} (hides : Hides redactedPaths root path) : Hides more root path := by
  have sensitive : ∀ path key, MemberHides redactedPaths path key → MemberHides more path key := by
    intro path key hidden
    refine hidden.imp_right ?_
    rw [shouldRedact_iff, shouldRedact_iff]
    exact Or.imp_right (wider _)
  have below : ∀ path rest, HidesBelow redactedPaths path rest → HidesBelow more path rest := by
    intro path rest hidden
    induction rest generalizing path with
    | nil => exact hidden
    | cons key rest ih =>
        exact hidden.imp (fun named => ⟨named.1, sensitive path key named.2⟩) (ih _)
  cases path with
  | nil => exact hides
  | cons key rest => exact hides.imp (sensitive root key) (below _ rest)

theorem Covered.mono {more : List String} (wider : ∀ path ∈ redactedPaths, path ∈ more)
    {root : List String} {listed : String} (covered : Covered redactedPaths root listed) :
    Covered more root listed :=
  fun path spelled => (covered path spelled).mono wider

theorem hidesBelow_of_listed {path rest : List String} {last : String}
    (listed : dotted (path ++ (rest ++ [last])) ∈ redactedPaths)
    (named : ∀ index : Nat, last ≠ toString index) :
    HidesBelow redactedPaths path (rest ++ [last]) := by
  induction rest generalizing path with
  | nil =>
      exact Or.inl ⟨named, Or.inr (shouldRedact_iff.mpr (Or.inr listed))⟩
  | cons key rest ih =>
      refine Or.inr (ih ?_)
      rw [List.append_assoc]
      exact listed

/-- A listed path is covered wherever it names a member below the root and not an array
element. -/
theorem covered_of_listed {root : List String} {listed : String} (member : listed ∈ redactedPaths)
    (below : dotted root ≠ listed)
    (named : ∀ path (index : Nat), dotted (root ++ (path ++ [toString index])) ≠ listed) :
    Covered redactedPaths root listed := by
  intro path spelled
  rcases List.eq_nil_or_concat path with rfl | ⟨front, last, rfl⟩
  · rw [List.append_nil] at spelled
    exact absurd spelled below
  · rw [List.concat_eq_append] at spelled ⊢
    have notIndex : ∀ index : Nat, last ≠ toString index := by
      rintro index rfl
      exact named front index spelled
    cases front with
    | nil =>
        rw [← spelled] at member
        exact Or.inl (Or.inr (shouldRedact_iff.mpr (Or.inr member)))
    | cons key rest =>
        refine Or.inr (hidesBelow_of_listed ?_ notIndex)
        rw [List.append_assoc]
        rw [← spelled] at member
        exact member

end

end ActionProxy
