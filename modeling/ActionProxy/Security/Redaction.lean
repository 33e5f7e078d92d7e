import ActionProxy.Foundation.SortedText
import ActionProxy.Policy.PolicyTypes

/-!
Redaction of what clients see: members with a sensitive name, at any depth, and
members at a path that the policy lists are replaced.
-/

namespace ActionProxy

open JsonText

def defaultSensitiveKeys : List String :=
  ["accesstoken", "apikey", "apitoken", "authorization", "bottoken", "clientsecret", "credential",
    "credentials", "password", "privatekey", "refreshtoken", "secret", "sessiontoken",
    "signingsecret", "token", "webhooksecret"]

def toolCallResultAuthorizationPaths : List String :=
  ["grant.nonce", "grant.signature", "receipt.signature"]

structure RedactionOptions where
  fields : Option (List String)
  replacement : Option String

def redactedText : String := "[REDACTED]"

def redactionOptionsFromPolicy (policy : PolicyFile) : RedactionOptions :=
  let rules := policy.default :: policy.tools.entries.map Prod.snd
  { fields := some (rules.flatMap (fun rule =>
      (rule.redaction.bind PolicyRedaction.fields).getD [])).dedup
    replacement := some redactedText }

/-- The paths of the options, trimmed. -/
def pathSet (fields : List String) : List String := fields.filterMap TextScan.content

/-- `key.replaceAll(/[-_\s]/g, '')`. -/
def withoutSeparators (key : String) : String :=
  String.ofList (key.toList.filter (fun char =>
    !(char == '-' || char == '_' || TextScan.isSpace char)))

section

variable [Runtime]

def shouldRedact (key : String) (path : List String) (redactedPaths : List String) : Bool :=
  defaultSensitiveKeys.contains (Runtime.toLowerCase (withoutSeparators key)) ||
    defaultSensitiveKeys.contains (Runtime.toLowerCase key) ||
    redactedPaths.contains (".".intercalate path)

variable (redactedPaths : List String) (replacement : String)

mutual

def redactValue (path : List String) : Json → Json
  | .arr items => .arr (redactItems path 0 items)
  | .obj members => .obj (redactMembers path members)
  | value => value

def redactItems (path : List String) (index : Nat) : List Json → List Json
  | [] => []
  | item :: rest =>
      redactValue (path ++ [toString index]) item :: redactItems path (index + 1) rest

/-- Assigning to `__proto__` makes no member. -/
def redactMembers (path : List String) : List (String × Option Json) → List (String × Option Json)
  | [] => []
  | (key, value) :: rest =>
      let others := redactMembers path rest
      if key = "__proto__" then others
      else if shouldRedact key (path ++ [key]) redactedPaths then
        (key, some (.str replacement)) :: others
      else
        match value with
        | none => (key, none) :: others
        | some value => (key, some (redactValue (path ++ [key]) value)) :: others

end

end

section

variable [Runtime]

/-- The members of an object redacted below a path. -/
def redactJsonObjectAtPath (value : JsonObject) (path : List String) (options : RedactionOptions) :
    JsonObject :=
  redactMembers (pathSet (options.fields.getD [])) (options.replacement.getD redactedText) path value

def redactJsonObject (value : JsonObject) (options : RedactionOptions) : JsonObject :=
  redactJsonObjectAtPath value [] options

def redactToolCallResult (value : JsonObject) (options : RedactionOptions) : JsonObject :=
  redactJsonObject value
    { options with
      fields := some (options.fields.getD [] ++ toolCallResultAuthorizationPaths).dedup }

end

/-! ### What redaction changes -/

section

variable [Runtime] (redactedPaths : List String) (replacement : String)

mutual

/-- Redaction leaves the value: what it would replace spells the replacement already. -/
def unredacted (path : List String) : Json → Bool
  | .arr items => unredactedItems path 0 items
  | .obj members => unredactedMembers path members
  | _ => true

def unredactedItems (path : List String) (index : Nat) : List Json → Bool
  | [] => true
  | item :: rest =>
      unredacted (path ++ [toString index]) item && unredactedItems path (index + 1) rest

def unredactedMembers (path : List String) : List (String × Option Json) → Bool
  | [] => true
  | (key, value) :: rest =>
      (if key = "__proto__" then value.isNone
      else if shouldRedact key (path ++ [key]) redactedPaths then
        match value with
        | some (.str text) => text == replacement
        | _ => false
      else
        match value with
        | none => true
        | some value => unredacted (path ++ [key]) value) &&
        unredactedMembers path rest

end

/-- What becomes of one member. -/
def redactMember (path : List String) (member : String × Option Json) :
    Option (String × Option Json) :=
  if member.1 = "__proto__" then none
  else if shouldRedact member.1 (path ++ [member.1]) redactedPaths then
    some (member.1, some (.str replacement))
  else some (member.1, member.2.map (redactValue redactedPaths replacement (path ++ [member.1])))

def memberUnredacted (path : List String) (member : String × Option Json) : Bool :=
  if member.1 = "__proto__" then member.2.isNone
  else if shouldRedact member.1 (path ++ [member.1]) redactedPaths then
    match member.2 with
    | some (.str text) => text == replacement
    | _ => false
  else member.2.all (unredacted redactedPaths replacement (path ++ [member.1]))

variable {redactedPaths replacement}

theorem redactMembers_eq (path : List String) (members : List (String × Option Json)) :
    redactMembers redactedPaths replacement path members =
      members.filterMap (redactMember redactedPaths replacement path) := by
  induction members with
  | nil => rfl
  | cons member rest ih =>
      obtain ⟨key, value⟩ := member
      rw [List.filterMap_cons, redactMember, ← ih, redactMembers.eq_def]
      by_cases proto : key = "__proto__"
      · simp only [if_pos proto]
      · simp only [if_neg proto]
        by_cases sensitive : shouldRedact key (path ++ [key]) redactedPaths = true
        · simp only [if_pos sensitive]
        · simp only [if_neg sensitive]
          cases value <;> rfl

theorem unredactedMembers_iff (path : List String) (members : List (String × Option Json)) :
    unredactedMembers redactedPaths replacement path members = true ↔
      ∀ member ∈ members, memberUnredacted redactedPaths replacement path member = true := by
  induction members with
  | nil => simp [unredactedMembers]
  | cons member rest ih =>
      obtain ⟨key, value⟩ := member
      rw [List.forall_mem_cons, ← ih, memberUnredacted, unredactedMembers.eq_def, Bool.and_eq_true]
      cases value <;> rfl

theorem redactMember_key {path : List String} {member redacted : String × Option Json}
    (kept : redactMember redactedPaths replacement path member = some redacted) :
    redacted.1 = member.1 ∧ member.1 ≠ "__proto__" := by
  unfold redactMember at kept
  split at kept
  · cases kept
  · rename_i named
    split at kept
    all_goals
      cases kept
      exact ⟨rfl, named⟩

theorem redactMember_defined {path : List String} {member redacted : String × Option Json}
    (kept : redactMember redactedPaths replacement path member = some redacted)
    (defined : member.2.isSome = true) : redacted.2.isSome = true := by
  unfold redactMember at kept
  split at kept
  · cases kept
  · split at kept
    · cases kept
      rfl
    · cases kept
      rw [Option.isSome_map]
      exact defined

theorem redactMembers_keys (path : List String) (members : List (String × Option Json)) :
    ((redactMembers redactedPaths replacement path members).map Prod.fst).Sublist
      (members.map Prod.fst) := by
  rw [redactMembers_eq]
  induction members with
  | nil => exact List.Sublist.slnil
  | cons member rest ih =>
      rw [List.filterMap_cons]
      cases kept : redactMember redactedPaths replacement path member with
      | none => exact List.Sublist.cons _ ih
      | some redacted =>
          rw [List.map_cons, List.map_cons, (redactMember_key kept).1]
          exact List.Sublist.cons_cons _ ih

theorem redactItems_every {check : Json → Bool} {items : List Json} (path : List String)
    (index : Nat) (each : ∀ item ∈ items, ∀ path,
      everyPart check (redactValue redactedPaths replacement path item) = true) :
    ∀ item ∈ redactItems redactedPaths replacement path index items,
      everyPart check item = true := by
  induction items generalizing index with
  | nil => simp [redactItems]
  | cons item rest ih =>
      rw [redactItems, List.forall_mem_cons]
      exact ⟨each item List.mem_cons_self _,
        ih (index + 1) (fun other listed => each other (List.mem_cons_of_mem _ listed))⟩

/-- A check on every part passes after redaction when redaction keeps it where it is made. -/
theorem everyPart_redactValue {check : Json → Bool} (text : check (.str replacement) = true)
    (kept : ∀ path value, check value = true →
      check (redactValue redactedPaths replacement path value) = true)
    {value : Json} (path : List String) (every : everyPart check value = true) :
    everyPart check (redactValue redactedPaths replacement path value) = true := by
  induction value using treeInduction generalizing path with
  | null => exact every
  | bool value => exact every
  | num number => exact every
  | str text => exact every
  | arr items ih =>
      obtain ⟨here, parts⟩ := everyPart_arr.mp every
      have still := kept path (.arr items) here
      rw [redactValue] at still ⊢
      exact everyPart_arr.mpr ⟨still, redactItems_every path 0
        (fun item listed path => ih item listed path (parts item listed))⟩
  | obj members ih =>
      obtain ⟨here, parts⟩ := everyPart_obj.mp every
      have still := kept path (.obj members) here
      rw [redactValue] at still ⊢
      refine everyPart_obj.mpr ⟨still, ?_⟩
      rintro ⟨key, redacted⟩ listed
      have inside := mem_of_mem_definedMembers listed
      rw [redactMembers_eq] at inside
      obtain ⟨⟨source, value⟩, given, becomes⟩ := List.mem_filterMap.mp inside
      unfold redactMember at becomes
      split at becomes
      · cases becomes
      · split at becomes
        · cases becomes
          exact text
        · obtain ⟨value, rfl⟩ : ∃ value', value = some value' := by
            cases value with
            | none => cases becomes
            | some value => exact ⟨value, rfl⟩
          cases becomes
          have defined : (source, value) ∈ definedMembers members :=
            List.mem_filterMap.mpr ⟨(source, some value), given, rfl⟩
          exact ih (source, value) defined _ (parts (source, value) defined)

theorem redactItems_unredacted {items : List Json} (path : List String) (index : Nat)
    (each : ∀ item ∈ items, ∀ path, unredacted redactedPaths replacement path item = true →
      redactValue redactedPaths replacement path item = item)
    (kept : unredactedItems redactedPaths replacement path index items = true) :
    redactItems redactedPaths replacement path index items = items := by
  induction items generalizing index with
  | nil => rfl
  | cons item rest ih =>
      rw [unredactedItems, Bool.and_eq_true] at kept
      rw [redactItems, each item List.mem_cons_self _ kept.1,
        ih (index + 1) (fun other listed => each other (List.mem_cons_of_mem _ listed)) kept.2]

theorem redactValue_unredacted {value : Json} (whole : complete value = true) (path : List String)
    (kept : unredacted redactedPaths replacement path value = true) :
    redactValue redactedPaths replacement path value = value := by
  induction value using treeInduction generalizing path with
  | null => rfl
  | bool value => rfl
  | num number => rfl
  | str text => rfl
  | arr items ih =>
      have parts := everyObject_arr.mp whole
      rw [unredacted] at kept
      rw [redactValue, redactItems_unredacted path 0
        (fun item listed path => ih item listed (parts item listed) path) kept]
  | obj members ih =>
      obtain ⟨defined, parts⟩ := everyObject_obj.mp whole
      rw [unredacted, unredactedMembers_iff] at kept
      rw [redactValue, redactMembers_eq]
      congr 1
      refine (List.filterMap_congr ?_).trans List.filterMap_some
      rintro ⟨key, value⟩ listed
      have passes := kept (key, value) listed
      have given := List.all_eq_true.mp defined (key, value) listed
      obtain ⟨value, rfl⟩ := Option.isSome_iff_exists.mp given
      have inside : (key, value) ∈ definedMembers members :=
        List.mem_filterMap.mpr ⟨(key, some value), listed, rfl⟩
      unfold memberUnredacted at passes
      unfold redactMember
      split at passes
      · cases passes
      · rename_i named
        rw [if_neg named]
        split at passes
        · rename_i sensitive
          rw [if_pos sensitive]
          split at passes
          · rename_i text spelled
            obtain rfl : value = .str text := Option.some_inj.mp spelled
            rw [beq_iff_eq.mp passes]
          · cases passes
        · rename_i plain
          rw [if_neg plain]
          have same := ih (key, value) inside (parts (key, value) inside) (path ++ [key]) passes
          rw [Option.map_some, same]

theorem unredactedItems_of_same {items : List Json} (path : List String) (index : Nat)
    (each : ∀ item ∈ items, ∀ path, Same (redactValue redactedPaths replacement path item) item →
      unredacted redactedPaths replacement path item = true)
    (same : List.Forall₂ Same (redactItems redactedPaths replacement path index items) items) :
    unredactedItems redactedPaths replacement path index items = true := by
  induction items generalizing index with
  | nil => rfl
  | cons item rest ih =>
      rw [redactItems, List.forall₂_cons] at same
      rw [unredactedItems, each item List.mem_cons_self _ same.1,
        ih (index + 1) (fun other listed => each other (List.mem_cons_of_mem _ listed)) same.2]
      rfl

theorem unredacted_of_same {value : Json} (distinct : distinctKeys value = true)
    (path : List String) (same : Same (redactValue redactedPaths replacement path value) value) :
    unredacted redactedPaths replacement path value = true := by
  induction value using treeInduction generalizing path with
  | null => rfl
  | bool value => rfl
  | num number => rfl
  | str text => rfl
  | arr items ih =>
      have parts := everyObject_arr.mp distinct
      rw [redactValue] at same
      rw [unredacted]
      cases same with
      | arr related =>
          exact unredactedItems_of_same path 0
            (fun item listed path => ih item listed (parts item listed) path)
            (forall₂_of_sameItems related)
  | obj members ih =>
      obtain ⟨keys, parts⟩ := everyObject_obj.mp distinct
      have keysDistinct := of_decide_eq_true keys
      rw [redactValue] at same
      rw [unredacted, unredactedMembers_iff]
      rintro ⟨key, value⟩ listed
      have redactedDistinct :
          ((redactMembers redactedPaths replacement path members).map Prod.fst).Nodup :=
        (redactMembers_keys path members).nodup keysDistinct
      have related := same_obj_member same redactedDistinct key
      rw [member?_of_mem keysDistinct listed] at related
      unfold memberUnredacted
      split
      · rename_i proto
        have absent : member? (redactMembers redactedPaths replacement path members) key = none := by
          cases found : member? (redactMembers redactedPaths replacement path members) key with
          | none => rfl
          | some other =>
              have inside := mem_of_mem_definedMembers (mem_of_lookup found)
              rw [redactMembers_eq] at inside
              obtain ⟨member, _, kept⟩ := List.mem_filterMap.mp inside
              obtain ⟨sameKey, named⟩ := redactMember_key kept
              exact absurd (sameKey.symm.trans proto) named
        rw [absent] at related
        cases related
        rfl
      · rename_i named
        have kept : ∀ redacted,
            redactMember redactedPaths replacement path (key, value) = some (key, redacted) →
            Option.Rel Same redacted value := by
          intro redacted becomes
          have inside : (key, redacted) ∈ redactMembers redactedPaths replacement path members := by
            rw [redactMembers_eq]
            exact List.mem_filterMap.mpr ⟨(key, value), listed, becomes⟩
          rwa [member?_of_mem redactedDistinct inside] at related
        unfold redactMember at kept
        rw [if_neg named] at kept
        split
        · rename_i sensitive
          rw [if_pos sensitive] at kept
          cases kept _ rfl with
          | some replaced =>
              cases replaced
              exact beq_self_eq_true replacement
        · rename_i plain
          rw [if_neg plain] at kept
          cases value with
          | none => rfl
          | some value =>
              have inside : (key, value) ∈ definedMembers members :=
                List.mem_filterMap.mpr ⟨(key, some value), listed, rfl⟩
              cases kept _ rfl with
              | some unchanged =>
                  exact ih (key, value) inside (parts (key, value) inside) (path ++ [key]) unchanged

end

end ActionProxy
