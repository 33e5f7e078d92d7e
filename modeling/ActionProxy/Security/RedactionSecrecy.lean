import ActionProxy.Security.RedactionPaths

/-!
What redaction lets through. Two values that differ only where redaction is asked for
should look the same redacted, and what is asked to be kept should stay. Elements of arrays
are never compared with the listed paths, and a member `__proto__` is lost.
-/

namespace ActionProxy

open JsonText

/-! ### Where redaction is asked for -/

section

variable [Runtime] (redactedPaths : List String)

/-- The element of an array is at a listed path. -/
def ListedElement (path : List String) (index : Nat) : Prop :=
  dotted (path ++ [toString index]) ∈ redactedPaths

instance (path : List String) (index : Nat) :
    Decidable (ListedElement redactedPaths path index) := by
  unfold ListedElement
  infer_instance

mutual

/-- The values differ only in members with a sensitive name and in what is at a listed
path; the names of members are the same. -/
inductive Agree : List String → Json → Json → Prop where
  | same (path : List String) (value : Json) : Agree path value value
  | arr {path : List String} {items others : List Json} (each : AgreeItems path 0 items others) :
      Agree path (.arr items) (.arr others)
  | obj {path : List String} {members others : JsonObject}
      (each : AgreeMembers path members others) : Agree path (.obj members) (.obj others)

inductive AgreeItems : List String → Nat → List Json → List Json → Prop where
  | nil (path : List String) (index : Nat) : AgreeItems path index [] []
  | listed {path : List String} {index : Nat} {items others : List Json} (item other : Json)
      (asked : ListedElement redactedPaths path index)
      (rest : AgreeItems path (index + 1) items others) :
      AgreeItems path index (item :: items) (other :: others)
  | cons {path : List String} {index : Nat} {items others : List Json} {item other : Json}
      (here : Agree (path ++ [toString index]) item other)
      (rest : AgreeItems path (index + 1) items others) :
      AgreeItems path index (item :: items) (other :: others)

inductive AgreeMembers : List String → JsonObject → JsonObject → Prop where
  | nil (path : List String) : AgreeMembers path [] []
  | asked {path : List String} {members others : JsonObject} {key : String}
      (value other : Option Json) (asked : shouldRedact key (path ++ [key]) redactedPaths = true)
      (rest : AgreeMembers path members others) :
      AgreeMembers path ((key, value) :: members) ((key, other) :: others)
  | absent {path : List String} {members others : JsonObject} (key : String)
      (rest : AgreeMembers path members others) :
      AgreeMembers path ((key, none) :: members) ((key, none) :: others)
  | cons {path : List String} {members others : JsonObject} {key : String} {value other : Json}
      (here : Agree (path ++ [key]) value other) (rest : AgreeMembers path members others) :
      AgreeMembers path ((key, some value) :: members) ((key, some other) :: others)

end

mutual

/-- Redaction comes to an element of an array at a listed path. -/
def reachesListed (path : List String) : Json → Bool
  | .arr items => reachesListedItem path 0 items
  | .obj members => reachesListedMember path members
  | _ => false

def reachesListedItem (path : List String) (index : Nat) : List Json → Bool
  | [] => false
  | item :: rest =>
      decide (ListedElement redactedPaths path index) ||
        reachesListed (path ++ [toString index]) item || reachesListedItem path (index + 1) rest

def reachesListedMember (path : List String) : List (String × Option Json) → Bool
  | [] => false
  | (key, value) :: rest =>
      (if key = "__proto__" then false
      else if shouldRedact key (path ++ [key]) redactedPaths then false
      else
        match value with
        | none => false
        | some value => reachesListed (path ++ [key]) value) ||
        reachesListedMember path rest

end

end

/-! ### Noninterference -/

section

variable [Runtime] {redactedPaths : List String}

omit [Runtime] in
theorem AgreeItems.same [Runtime] (path : List String) (index : Nat) (items : List Json) :
    AgreeItems redactedPaths path index items items := by
  induction items generalizing index with
  | nil => exact .nil path index
  | cons item rest ih => exact .cons (.same _ item) (ih (index + 1))

theorem AgreeMembers.same (path : List String) (members : JsonObject) :
    AgreeMembers redactedPaths path members members := by
  induction members with
  | nil => exact .nil path
  | cons member rest ih =>
      obtain ⟨key, value⟩ := member
      cases value with
      | none => exact .absent key ih
      | some value => exact .cons (.same _ value) ih

variable {replacement : String}

theorem redactItems_agree {items others : List Json} (path : List String) (index : Nat)
    (each : ∀ item ∈ items, ∀ path other, reachesListed redactedPaths path item = false →
      Agree redactedPaths path item other →
      redactValue redactedPaths replacement path item =
        redactValue redactedPaths replacement path other)
    (clear : reachesListedItem redactedPaths path index items = false)
    (agree : AgreeItems redactedPaths path index items others) :
    redactItems redactedPaths replacement path index items =
      redactItems redactedPaths replacement path index others := by
  induction items generalizing index others with
  | nil =>
      cases agree
      rfl
  | cons item rest ih =>
      simp only [reachesListedItem, Bool.or_eq_false_iff, decide_eq_false_iff_not] at clear
      obtain ⟨⟨unlisted, inside⟩, later⟩ := clear
      have others (tail : List Json)
          (agree : AgreeItems redactedPaths path (index + 1) rest tail) :=
        ih (index + 1) (fun one listed => each one (List.mem_cons_of_mem _ listed)) later agree
      cases agree with
      | listed item other asked tail => exact absurd asked unlisted
      | cons here tail =>
          rw [redactItems, redactItems, each item List.mem_cons_self _ _ inside here,
            others _ tail]

theorem redactMembers_cons (path : List String) (member : String × Option Json)
    (rest : List (String × Option Json)) :
    redactMembers redactedPaths replacement path (member :: rest) =
      (redactMember redactedPaths replacement path member).toList ++
        redactMembers redactedPaths replacement path rest := by
  rw [redactMembers_eq, redactMembers_eq, List.filterMap_cons]
  cases redactMember redactedPaths replacement path member <;> rfl

theorem redactMember_asked {path : List String} {key : String}
    (asked : shouldRedact key (path ++ [key]) redactedPaths = true) (value other : Option Json) :
    redactMember redactedPaths replacement path (key, value) =
      redactMember redactedPaths replacement path (key, other) := by
  unfold redactMember
  rw [if_pos asked, if_pos asked]

theorem redactMembers_agree {members others : JsonObject} (path : List String)
    (each : ∀ member ∈ definedMembers members, ∀ path other,
      reachesListed redactedPaths path member.2 = false →
      Agree redactedPaths path member.2 other →
      redactValue redactedPaths replacement path member.2 =
        redactValue redactedPaths replacement path other)
    (clear : reachesListedMember redactedPaths path members = false)
    (agree : AgreeMembers redactedPaths path members others) :
    redactMembers redactedPaths replacement path members =
      redactMembers redactedPaths replacement path others := by
  induction members generalizing others with
  | nil =>
      cases agree
      rfl
  | cons member rest ih =>
      obtain ⟨key, value⟩ := member
      rw [reachesListedMember.eq_def, Bool.or_eq_false_iff] at clear
      obtain ⟨inside, later⟩ := clear
      have tails (tail : JsonObject) (agree : AgreeMembers redactedPaths path rest tail) :
          redactMembers redactedPaths replacement path rest =
            redactMembers redactedPaths replacement path tail := by
        refine ih ?_ later agree
        intro one listed
        cases value with
        | none => exact each one listed
        | some value => exact each one (List.mem_cons_of_mem _ listed)
      cases agree with
      | asked value other asked tail =>
          rw [redactMembers_cons, redactMembers_cons, tails _ tail,
            redactMember_asked asked value other]
      | absent key tail => rw [redactMembers_cons, redactMembers_cons, tails _ tail]
      | cons here tail =>
          rename_i value other
          rw [redactMembers_cons, redactMembers_cons, tails _ tail]
          congr 2
          unfold redactMember
          by_cases proto : key = "__proto__"
          · rw [if_pos proto, if_pos proto]
          · by_cases asked : shouldRedact key (path ++ [key]) redactedPaths = true
            · rw [if_neg proto, if_neg proto, if_pos asked, if_pos asked]
            · rw [if_neg proto, if_neg asked] at inside
              rw [if_neg proto, if_neg proto, if_neg asked, if_neg asked, Option.map_some,
                Option.map_some, each (key, value) List.mem_cons_self _ _ inside here]

/-- Where redaction comes to no listed element, agreeing values look the same redacted. -/
theorem redactValue_agree {value other : Json} (path : List String)
    (clear : reachesListed redactedPaths path value = false)
    (agree : Agree redactedPaths path value other) :
    redactValue redactedPaths replacement path value =
      redactValue redactedPaths replacement path other := by
  induction value using treeInduction generalizing path other with
  | null => cases agree; rfl
  | bool value => cases agree; rfl
  | num number => cases agree; rfl
  | str text => cases agree; rfl
  | arr items ih =>
      cases agree with
      | same => rfl
      | arr each =>
          rw [redactValue, redactValue, redactItems_agree path 0
            (fun item listed path other => ih item listed path) clear each]
  | obj members ih =>
      cases agree with
      | same => rfl
      | obj each =>
          rw [redactValue, redactValue, redactMembers_agree path
            (fun member listed path other => ih member listed path) clear each]

theorem exists_unlike (path : List String) (value : Json) :
    ∃ other, redactValue redactedPaths replacement path value ≠
      redactValue redactedPaths replacement path other := by
  by_cases null : redactValue redactedPaths replacement path value = .null
  · refine ⟨.bool true, ?_⟩
    rw [null]
    exact Json.noConfusion
  · exact ⟨.null, null⟩

theorem exists_items_unlike {items : List Json} (path : List String) (index : Nat)
    (each : ∀ item ∈ items, ∀ path, reachesListed redactedPaths path item = true →
      ∃ other, Agree redactedPaths path item other ∧
        redactValue redactedPaths replacement path item ≠
          redactValue redactedPaths replacement path other)
    (reaches : reachesListedItem redactedPaths path index items = true) :
    ∃ others, AgreeItems redactedPaths path index items others ∧
      redactItems redactedPaths replacement path index items ≠
        redactItems redactedPaths replacement path index others := by
  induction items generalizing index with
  | nil => cases reaches
  | cons item rest ih =>
      rw [reachesListedItem, Bool.or_eq_true, Bool.or_eq_true, decide_eq_true_iff] at reaches
      rcases reaches with (asked | inside) | later
      · have unlikeItem : ∃ other,
            redactValue redactedPaths replacement (path ++ [toString index]) item ≠
              redactValue redactedPaths replacement (path ++ [toString index]) other :=
          exists_unlike (path ++ [toString index]) item
        obtain ⟨other, unlike⟩ := unlikeItem
        refine ⟨other :: rest, .listed item other asked (.same path (index + 1) rest), ?_⟩
        rw [redactItems, redactItems]
        exact fun same => unlike (List.cons.inj same).1
      · obtain ⟨other, agree, unlike⟩ := each item List.mem_cons_self _ inside
        refine ⟨other :: rest, .cons agree (.same path (index + 1) rest), ?_⟩
        rw [redactItems, redactItems]
        exact fun same => unlike (List.cons.inj same).1
      · obtain ⟨others, agree, unlike⟩ :=
          ih (index + 1) (fun one listed => each one (List.mem_cons_of_mem _ listed)) later
        refine ⟨item :: others, .cons (.same _ item) agree, ?_⟩
        rw [redactItems, redactItems]
        exact fun same => unlike (List.cons.inj same).2

theorem exists_members_unlike {members : JsonObject} (path : List String)
    (each : ∀ member ∈ definedMembers members, ∀ path,
      reachesListed redactedPaths path member.2 = true →
      ∃ other, Agree redactedPaths path member.2 other ∧
        redactValue redactedPaths replacement path member.2 ≠
          redactValue redactedPaths replacement path other)
    (reaches : reachesListedMember redactedPaths path members = true) :
    ∃ others, AgreeMembers redactedPaths path members others ∧
      redactMembers redactedPaths replacement path members ≠
        redactMembers redactedPaths replacement path others := by
  induction members with
  | nil => cases reaches
  | cons member rest ih =>
      obtain ⟨key, value⟩ := member
      rw [reachesListedMember.eq_def, Bool.or_eq_true] at reaches
      rcases reaches with here | later
      · by_cases proto : key = "__proto__"
        · rw [if_pos proto] at here
          cases here
        by_cases asked : shouldRedact key (path ++ [key]) redactedPaths = true
        · rw [if_neg proto, if_pos asked] at here
          cases here
        rw [if_neg proto, if_neg asked] at here
        cases value with
        | none => cases here
        | some value =>
            obtain ⟨other, agree, unlike⟩ := each (key, value) List.mem_cons_self _ here
            refine ⟨(key, some other) :: rest, .cons agree (.same path rest), ?_⟩
            rw [redactMembers_cons, redactMembers_cons, redactMember, redactMember, if_neg proto,
              if_neg proto, if_neg asked, if_neg asked]
            intro same
            have heads := (List.cons.inj same).1
            exact unlike (Option.some.inj (Prod.mk.inj heads).2)
      · obtain ⟨others, agree, unlike⟩ := by
          refine ih ?_ later
          intro one listed
          cases value with
          | none => exact each one listed
          | some value => exact each one (List.mem_cons_of_mem _ listed)
        refine ⟨(key, value) :: others, ?_, ?_⟩
        · cases value with
          | none => exact .absent key agree
          | some value => exact .cons (.same _ value) agree
        · rw [redactMembers_cons, redactMembers_cons]
          exact fun same => unlike (List.append_cancel_left same)

/-- A listed element that redaction comes to shows: another value there looks different. -/
theorem exists_value_unlike {value : Json} (path : List String)
    (reaches : reachesListed redactedPaths path value = true) :
    ∃ other, Agree redactedPaths path value other ∧
      redactValue redactedPaths replacement path value ≠
        redactValue redactedPaths replacement path other := by
  induction value using treeInduction generalizing path with
  | null => cases reaches
  | bool value => cases reaches
  | num number => cases reaches
  | str text => cases reaches
  | arr items ih =>
      obtain ⟨others, agree, unlike⟩ := exists_items_unlike path 0 ih reaches
      refine ⟨.arr others, .arr agree, ?_⟩
      rw [redactValue, redactValue]
      exact fun same => unlike (Json.arr.inj same)
  | obj members ih =>
      obtain ⟨others, agree, unlike⟩ := exists_members_unlike path ih reaches
      refine ⟨.obj others, .obj agree, ?_⟩
      rw [redactValue, redactValue]
      exact fun same => unlike (Json.obj.inj same)

/-! ### Redacting again -/

theorem redactItems_again {items : List Json} (path : List String) (index : Nat)
    (each : ∀ item ∈ items, ∀ path,
      redactValue redactedPaths replacement path (redactValue redactedPaths replacement path item) =
        redactValue redactedPaths replacement path item) :
    redactItems redactedPaths replacement path index
        (redactItems redactedPaths replacement path index items) =
      redactItems redactedPaths replacement path index items := by
  induction items generalizing index with
  | nil => rfl
  | cons item rest ih =>
      rw [redactItems, redactItems, each item List.mem_cons_self,
        ih (index + 1) (fun one listed => each one (List.mem_cons_of_mem _ listed))]

theorem redactValue_again (path : List String) (value : Json) :
    redactValue redactedPaths replacement path (redactValue redactedPaths replacement path value) =
      redactValue redactedPaths replacement path value := by
  induction value using treeInduction generalizing path with
  | null => rfl
  | bool value => rfl
  | num number => rfl
  | str text => rfl
  | arr items ih =>
      rw [redactValue, redactValue,
        redactItems_again path 0 (fun item listed path => ih item listed path)]
  | obj members ih =>
      rw [redactValue, redactValue, redactMembers_eq, redactMembers_eq, List.filterMap_filterMap]
      congr 1
      refine List.filterMap_congr ?_
      rintro ⟨key, value⟩ listed
      unfold redactMember
      by_cases proto : key = "__proto__"
      · rw [if_pos proto]
        rfl
      by_cases asked : shouldRedact key (path ++ [key]) redactedPaths = true
      · rw [if_neg proto, if_pos asked, Option.bind_some, if_neg proto, if_pos asked]
      · rw [if_neg proto, if_neg asked, Option.bind_some, if_neg proto, if_neg asked]
        cases value with
        | none => rfl
        | some value =>
            have inside : (key, value) ∈ definedMembers members :=
              List.mem_filterMap.mpr ⟨(key, some value), listed, rfl⟩
            rw [Option.map_some, Option.map_some, ih (key, value) inside]

end

/-! ### What is kept -/

/-- A step into a value. -/
inductive JsonStep where
  | member (key : String)
  | element (index : Nat)
  deriving DecidableEq

/-- A value with nothing inside. -/
def isLeaf : Json → Bool
  | .arr items => items.isEmpty
  | .obj members => members.isEmpty
  | _ => true

section

variable [Runtime] (redactedPaths : List String)

/-- The value has a leaf behind these steps, and nothing on the way is to be redacted. -/
inductive Shown : List String → Json → List JsonStep → Json → Prop where
  | here {path : List String} {leaf : Json} (last : isLeaf leaf = true) : Shown path leaf [] leaf
  | member {path : List String} {members : JsonObject} {key : String} {child : Json}
      {rest : List JsonStep} {leaf : Json} (listed : (key, some child) ∈ members)
      (plain : shouldRedact key (path ++ [key]) redactedPaths = false)
      (below : Shown (path ++ [key]) child rest leaf) :
      Shown path (.obj members) (.member key :: rest) leaf
  | element {path : List String} {items : List Json} {index : Nat} {child : Json}
      {rest : List JsonStep} {leaf : Json} (found : items[index]? = some child)
      (plain : ¬ ListedElement redactedPaths path index)
      (below : Shown (path ++ [toString index]) child rest leaf) :
      Shown path (.arr items) (.element index :: rest) leaf

end

section

variable [Runtime] {redactedPaths : List String} {replacement : String}

theorem redactValue_leaf {leaf : Json} (last : isLeaf leaf = true) (path : List String) :
    redactValue redactedPaths replacement path leaf = leaf := by
  cases leaf with
  | arr items =>
      cases List.isEmpty_iff.mp last
      rfl
  | obj members =>
      cases List.isEmpty_iff.mp last
      rfl
  | _ => rfl

/-- A leaf that is to be kept is kept, unless a member `__proto__` is on the way. -/
theorem Shown.redacted {path : List String} {value : Json} {steps : List JsonStep} {leaf : Json}
    (shown : Shown redactedPaths path value steps leaf)
    (named : JsonStep.member "__proto__" ∉ steps) :
    Shown redactedPaths path (redactValue redactedPaths replacement path value) steps leaf := by
  induction shown with
  | here last =>
      rw [redactValue_leaf last]
      exact .here last
  | @member path members key child rest leaf listed plain below ih =>
      rw [List.mem_cons, not_or] at named
      have proto : key ≠ "__proto__" := fun same => named.1 (congrArg JsonStep.member same.symm)
      rw [redactValue]
      refine .member ?_ plain (ih named.2)
      rw [redactMembers_eq]
      refine List.mem_filterMap.mpr ⟨(key, some child), listed, ?_⟩
      unfold redactMember
      rw [if_neg proto, if_neg (Bool.eq_false_iff.mp plain)]
      rfl
  | @element path items index child rest leaf found plain below ih =>
      rw [List.mem_cons, not_or] at named
      rw [redactValue]
      refine .element ?_ plain (ih named.2)
      rw [redactItems_getElem?, found, Nat.zero_add]
      rfl

/-- No leaf of a redacted value is behind a member `__proto__`. -/
theorem Shown.not_proto {path : List String} {value : Json} {steps : List JsonStep} {leaf : Json}
    (shown : Shown redactedPaths path (redactValue redactedPaths replacement path value) steps
      leaf) :
    JsonStep.member "__proto__" ∉ steps := by
  induction steps generalizing path value with
  | nil => exact List.not_mem_nil
  | cons step rest ih =>
      rw [List.mem_cons, not_or]
      cases value with
      | arr items =>
          rw [redactValue] at shown
          cases shown with
          | element found plain below =>
              rw [redactItems_getElem?, Nat.zero_add, Option.map_eq_some_iff] at found
              obtain ⟨item, -, rfl⟩ := found
              exact ⟨JsonStep.noConfusion, ih below⟩
      | obj members =>
          rw [redactValue] at shown
          cases shown with
          | member listed plain below =>
              obtain ⟨proto, ⟨asked, -⟩ | ⟨-, child, -, rfl⟩⟩ := mem_redactMembers listed
              · rw [plain] at asked
                cases asked
              · exact ⟨fun same => proto (JsonStep.member.inj same).symm, ih below⟩
      | _ =>
          rw [redactValue] at shown
          · cases shown
          all_goals simp

end

/-! ### Redaction as a whole -/

section

variable [Runtime]

/-- A name of the path itself is to be redacted. -/
def RootAsked (redactedPaths root : List String) : Prop :=
  ∃ (front : List String) (key : String), front ++ [key] <+: root ∧
    shouldRedact key (front ++ [key]) redactedPaths = true

/-- Whatever differs only where redaction is asked for looks the same redacted. -/
def Noninterfering (options : RedactionOptions) (root : List String) (value : JsonObject) : Prop :=
  ∀ other : JsonObject,
    RootAsked (pathSet (options.fields.getD [])) root ∨
      Agree (pathSet (options.fields.getD [])) root (.obj value) (.obj other) →
    redactJsonObjectAtPath value root options = redactJsonObjectAtPath other root options

/-- Every leaf that is not to be redacted is still there. -/
def KeepsLeaves (options : RedactionOptions) (root : List String) (value : JsonObject) : Prop :=
  ∀ steps leaf, ¬ RootAsked (pathSet (options.fields.getD [])) root →
    Shown (pathSet (options.fields.getD [])) root (.obj value) steps leaf →
    Shown (pathSet (options.fields.getD [])) root
      (.obj (redactJsonObjectAtPath value root options)) steps leaf

/-- Redacting again changes nothing. -/
def RedactedOnce (options : RedactionOptions) (root : List String) (value : JsonObject) : Prop :=
  redactJsonObjectAtPath (redactJsonObjectAtPath value root options) root options =
    redactJsonObjectAtPath value root options

theorem redactedOnce (options : RedactionOptions) (root : List String) (value : JsonObject) :
    RedactedOnce options root value := by
  have again : redactValue (pathSet (options.fields.getD []))
      (options.replacement.getD redactedText) root (redactValue (pathSet (options.fields.getD []))
        (options.replacement.getD redactedText) root (.obj value)) =
      redactValue (pathSet (options.fields.getD [])) (options.replacement.getD redactedText) root
        (.obj value) := redactValue_again root (.obj value)
  rw [redactValue, redactValue] at again
  exact Json.obj.inj again

theorem noninterfering_iff (options : RedactionOptions) (root : List String) (value : JsonObject) :
    Noninterfering options root value ↔
      ¬ RootAsked (pathSet (options.fields.getD [])) root ∧
        reachesListed (pathSet (options.fields.getD [])) root (.obj value) = false := by
  constructor
  · intro same
    constructor
    · intro asked
      have empty := same [] (Or.inl asked)
      have single := same [("", none)] (Or.inl asked)
      rw [empty] at single
      unfold redactJsonObjectAtPath at single
      rw [redactMembers_cons, redactMember, if_neg (by decide)] at single
      split at single <;> cases single
    · rw [Bool.eq_false_iff]
      intro reaches
      have unlikeValue : ∃ other, Agree (pathSet (options.fields.getD [])) root (.obj value) other ∧
          redactValue (pathSet (options.fields.getD [])) (options.replacement.getD redactedText) root
              (.obj value) ≠
            redactValue (pathSet (options.fields.getD [])) (options.replacement.getD redactedText)
              root other := exists_value_unlike root reaches
      obtain ⟨other, agree, unlike⟩ := unlikeValue
      cases agree with
      | same => exact unlike rfl
      | obj each =>
          refine unlike ?_
          rw [redactValue, redactValue]
          exact congrArg Json.obj (same _ (Or.inr (.obj each)))
  · rintro ⟨plain, clear⟩ other (asked | agree)
    · exact absurd asked plain
    · have alike : redactValue (pathSet (options.fields.getD []))
          (options.replacement.getD redactedText) root (.obj value) =
          redactValue (pathSet (options.fields.getD [])) (options.replacement.getD redactedText) root
            (.obj other) := redactValue_agree root clear agree
      rw [redactValue, redactValue] at alike
      exact Json.obj.inj alike

theorem keepsLeaves_iff (options : RedactionOptions) (root : List String) (value : JsonObject) :
    KeepsLeaves options root value ↔
      ∀ steps leaf, ¬ RootAsked (pathSet (options.fields.getD [])) root →
        Shown (pathSet (options.fields.getD [])) root (.obj value) steps leaf →
        JsonStep.member "__proto__" ∉ steps := by
  constructor
  · intro kept steps leaf plain shown
    have still := kept steps leaf plain shown
    have object : redactValue (pathSet (options.fields.getD []))
        (options.replacement.getD redactedText) root (.obj value) =
        .obj (redactJsonObjectAtPath value root options) := by
      rw [redactValue]
      rfl
    rw [← object] at still
    exact still.not_proto
  · intro named steps leaf plain shown
    have still : Shown (pathSet (options.fields.getD [])) root (redactValue
        (pathSet (options.fields.getD [])) (options.replacement.getD redactedText) root
          (.obj value)) steps leaf := shown.redacted (named steps leaf plain shown)
    rw [redactValue] at still
    exact still

/-- Redaction hides what differs where it is asked for and keeps the rest exactly when no
name of the root is to be redacted, it comes to no listed element of an array, and no leaf
that is to be kept is behind a member `__proto__`. -/
theorem redaction_exact_iff (options : RedactionOptions) (root : List String)
    (value : JsonObject) :
    (Noninterfering options root value ∧ RedactedOnce options root value ∧
        KeepsLeaves options root value) ↔
      ¬ RootAsked (pathSet (options.fields.getD [])) root ∧
        reachesListed (pathSet (options.fields.getD [])) root (.obj value) = false ∧
        ∀ steps leaf, Shown (pathSet (options.fields.getD [])) root (.obj value) steps leaf →
          JsonStep.member "__proto__" ∉ steps := by
  rw [noninterfering_iff, keepsLeaves_iff]
  constructor
  · rintro ⟨⟨plain, clear⟩, -, named⟩
    exact ⟨plain, clear, fun steps leaf => named steps leaf plain⟩
  · rintro ⟨plain, clear, named⟩
    exact ⟨⟨plain, clear⟩, redactedOnce options root value, fun steps leaf _ => named steps leaf⟩

end

private def firstItemListed : RedactionOptions :=
  { fields := some ["items.0"], replacement := none }

private def itemsOf (first : String) : JsonObject := [("items", some (.arr [.str first]))]

/-- The first element of `items` is listed, and it shows. -/
theorem listed_element_shows :
    @Agree (sampleRuntime []) (pathSet (firstItemListed.fields.getD [])) []
        (.obj (itemsOf "secret")) (.obj (itemsOf "other")) ∧
      @redactJsonObject (sampleRuntime []) (itemsOf "secret") firstItemListed = itemsOf "secret" ∧
      @redactJsonObject (sampleRuntime []) (itemsOf "other") firstItemListed = itemsOf "other" ∧
      itemsOf "secret" ≠ itemsOf "other" := by
  let _ := sampleRuntime []
  have asked : ListedElement (pathSet (firstItemListed.fields.getD [])) ["items"] 0 := by
    decide +kernel
  have named : ¬ "items" = "__proto__" := by decide
  have plain : shouldRedact "items" ([] ++ ["items"])
      (pathSet (firstItemListed.fields.getD [])) = false := by
    decide +kernel
  have shows (first : String) :
      redactJsonObject (itemsOf first) firstItemListed = itemsOf first := by
    unfold redactJsonObject redactJsonObjectAtPath itemsOf
    rw [redactMembers_cons]
    unfold redactMember
    rw [if_neg named, if_neg (Bool.eq_false_iff.mp plain)]
    rfl
  refine ⟨?_, shows "secret", shows "other", ?_⟩
  · exact .obj (.cons (.arr (.listed _ _ asked (.nil _ _))) (.nil _))
  · intro same
    injection same with same
    simp at same

end ActionProxy
