import ActionProxy.Routes.Projections
import ActionProxy.Security.RedactionSecrecy

/-!
What a model sees of a result over MCP. Members whose name has a forbidden fragment are left
out before the result is redacted; the rest of a result shows as redaction shows it, so that
an element of an array at a listed path shows as it is, and a member `__proto__` is lost.
-/

namespace ActionProxy

open JsonText

/-! ### Results that should look the same -/

section

variable [Runtime]

/-- The member may be shown. -/
def allowedMember (member : String × Option Json) : Bool := !forbiddenResultKey member.1

/-- The object that is shown of a result: a result that is none becomes its `value`. -/
def shownObject (result : Json) : JsonObject :=
  match result with
  | .obj members => members
  | other => [("value", some other)]

variable (redactedPaths : List String)

mutual

/-- The results differ only in members with a forbidden name, in members with a sensitive name
and in what is at a listed path. -/
inductive AgreeResult : List String → Json → Json → Prop where
  | same (path : List String) (value : Json) : AgreeResult path value value
  | arr {path : List String} {items others : List Json}
      (each : AgreeResultItems path 0 items others) : AgreeResult path (.arr items) (.arr others)
  | obj {path : List String} {members others : JsonObject}
      (each : AgreeResultMembers path (members.filter allowedMember)
        (others.filter allowedMember)) :
      AgreeResult path (.obj members) (.obj others)

inductive AgreeResultItems : List String → Nat → List Json → List Json → Prop where
  | nil (path : List String) (index : Nat) : AgreeResultItems path index [] []
  | listed {path : List String} {index : Nat} {items others : List Json} (item other : Json)
      (asked : ListedElement redactedPaths path index)
      (rest : AgreeResultItems path (index + 1) items others) :
      AgreeResultItems path index (item :: items) (other :: others)
  | cons {path : List String} {index : Nat} {items others : List Json} {item other : Json}
      (here : AgreeResult (path ++ [toString index]) item other)
      (rest : AgreeResultItems path (index + 1) items others) :
      AgreeResultItems path index (item :: items) (other :: others)

inductive AgreeResultMembers : List String → JsonObject → JsonObject → Prop where
  | nil (path : List String) : AgreeResultMembers path [] []
  | asked {path : List String} {members others : JsonObject} {key : String}
      (value other : Option Json) (asked : shouldRedact key (path ++ [key]) redactedPaths = true)
      (rest : AgreeResultMembers path members others) :
      AgreeResultMembers path ((key, value) :: members) ((key, other) :: others)
  | absent {path : List String} {members others : JsonObject} (key : String)
      (rest : AgreeResultMembers path members others) :
      AgreeResultMembers path ((key, none) :: members) ((key, none) :: others)
  | cons {path : List String} {members others : JsonObject} {key : String} {value other : Json}
      (here : AgreeResult (path ++ [key]) value other)
      (rest : AgreeResultMembers path members others) :
      AgreeResultMembers path ((key, some value) :: members) ((key, some other) :: others)

end

mutual

/-- What may be shown of the result reaches an element of an array at a listed path. -/
def resultReaches (path : List String) : Json → Bool
  | .arr items => resultReachesItem path 0 items
  | .obj members => resultReachesMember path members
  | _ => false

def resultReachesItem (path : List String) (index : Nat) : List Json → Bool
  | [] => false
  | item :: rest =>
      decide (ListedElement redactedPaths path index) ||
        resultReaches (path ++ [toString index]) item || resultReachesItem path (index + 1) rest

def resultReachesMember (path : List String) : List (String × Option Json) → Bool
  | [] => false
  | (key, value) :: rest =>
      (if forbiddenResultKey key || key == "__proto__" then false
      else if shouldRedact key (path ++ [key]) redactedPaths then false
      else
        match value with
        | none => false
        | some value => resultReaches (path ++ [key]) value) ||
        resultReachesMember path rest

end

/-- The result has a leaf behind these steps, and nothing on the way is forbidden or to be
redacted. -/
inductive ShownResult : List String → Json → List JsonStep → Json → Prop where
  | here {path : List String} {leaf : Json} (last : isLeaf leaf = true) :
      ShownResult path leaf [] leaf
  | member {path : List String} {members : JsonObject} {key : String} {child : Json}
      {rest : List JsonStep} {leaf : Json} (listed : (key, some child) ∈ members)
      (allowed : forbiddenResultKey key = false)
      (plain : shouldRedact key (path ++ [key]) redactedPaths = false)
      (below : ShownResult (path ++ [key]) child rest leaf) :
      ShownResult path (.obj members) (.member key :: rest) leaf
  | element {path : List String} {items : List Json} {index : Nat} {child : Json}
      {rest : List JsonStep} {leaf : Json} (found : items[index]? = some child)
      (plain : ¬ ListedElement redactedPaths path index)
      (below : ShownResult (path ++ [toString index]) child rest leaf) :
      ShownResult path (.arr items) (.element index :: rest) leaf

end

/-! ### Members that are left out -/

section

variable [Runtime]

/-- What is shown of one member. -/
def scrubMember (member : String × Option Json) : Option (String × Option Json) :=
  if forbiddenResultKey member.1 || member.1 == "__proto__" then none
  else some (member.1, member.2.map scrubSensitiveResult)

theorem scrubMembers_eq (members : List (String × Option Json)) :
    scrubMembers members = members.filterMap scrubMember := by
  induction members with
  | nil => rfl
  | cons member rest inductionHypothesis =>
      obtain ⟨key, value⟩ := member
      rw [scrubMembers.eq_def, List.filterMap_cons, scrubMember]
      simp only [← inductionHypothesis]
      split
      · rfl
      · cases value <;> rfl

theorem scrubItems_eq (items : List Json) : scrubItems items = items.map scrubSensitiveResult := by
  induction items with
  | nil => rfl
  | cons item rest inductionHypothesis =>
      rw [scrubItems, List.map_cons, inductionHypothesis]

theorem scrubMembers_allowed (members : List (String × Option Json)) :
    scrubMembers (members.filter allowedMember) = scrubMembers members := by
  rw [scrubMembers_eq, scrubMembers_eq, List.filterMap_filter]
  apply List.filterMap_congr
  intro member _
  rw [allowedMember]
  cases forbidden : forbiddenResultKey member.1 with
  | true => simp [scrubMember, forbidden]
  | false => rfl

theorem scrubMembers_cons (member : String × Option Json) (rest : List (String × Option Json)) :
    scrubMembers (member :: rest) = (scrubMember member).toList ++ scrubMembers rest := by
  rw [scrubMembers_eq, scrubMembers_eq, List.filterMap_cons]
  cases scrubMember member <;> rfl

theorem scrubMember_left_out {key : String}
    (left : (forbiddenResultKey key || key == "__proto__") = true) (value : Option Json) :
    scrubMember (key, value) = none := if_pos left

theorem scrubMember_kept {key : String}
    (kept : (forbiddenResultKey key || key == "__proto__") = false) (value : Option Json) :
    scrubMember (key, value) = some (key, value.map scrubSensitiveResult) :=
  if_neg (Bool.eq_false_iff.mp kept)

theorem mem_scrubMembers {members : List (String × Option Json)} {key : String} {child : Json}
    (listed : (key, some child) ∈ scrubMembers members) :
    (forbiddenResultKey key || key == "__proto__") = false ∧
      ∃ value, (key, some value) ∈ members ∧ child = scrubSensitiveResult value := by
  rw [scrubMembers_eq] at listed
  obtain ⟨⟨source, value⟩, given, becomes⟩ := List.mem_filterMap.mp listed
  cases left : (forbiddenResultKey source || source == "__proto__") with
  | true =>
      rw [scrubMember_left_out left] at becomes
      cases becomes
  | false =>
      rw [scrubMember_kept left] at becomes
      cases value with
      | none => cases becomes
      | some value =>
          cases becomes
          exact ⟨left, value, given, rfl⟩

/-- No member has a forbidden name. -/
def noForbidden (members : List (String × Option Json)) : Bool := members.all allowedMember

theorem noForbidden_scrubMembers (members : List (String × Option Json)) :
    noForbidden (scrubMembers members) = true := by
  rw [noForbidden, List.all_eq_true, scrubMembers_eq]
  intro kept listed
  obtain ⟨⟨source, value⟩, -, becomes⟩ := List.mem_filterMap.mp listed
  cases left : (forbiddenResultKey source || source == "__proto__") with
  | true =>
      rw [scrubMember_left_out left] at becomes
      cases becomes
  | false =>
      rw [scrubMember_kept left] at becomes
      cases becomes
      rw [allowedMember, (Bool.or_eq_false_iff.mp left).1]
      rfl

theorem everyObject_scrubbed (value : Json) :
    everyObject noForbidden (scrubSensitiveResult value) = true := by
  induction value using treeInduction with
  | null => rfl
  | bool value => rfl
  | num number => rfl
  | str text => rfl
  | arr items inductionHypothesis =>
      rw [scrubSensitiveResult, everyObject_arr, scrubItems_eq]
      intro item listed
      obtain ⟨source, given, rfl⟩ := List.mem_map.mp listed
      exact inductionHypothesis source given
  | obj members inductionHypothesis =>
      rw [scrubSensitiveResult, everyObject_obj]
      refine ⟨noForbidden_scrubMembers members, ?_⟩
      rintro ⟨key, child⟩ listed
      obtain ⟨-, value, given, rfl⟩ := mem_scrubMembers (mem_of_mem_definedMembers listed)
      exact inductionHypothesis (key, value)
        (List.mem_filterMap.mpr ⟨(key, some value), given, rfl⟩)

theorem scrubSensitiveResult_leaf {leaf : Json} (last : isLeaf leaf = true) :
    scrubSensitiveResult leaf = leaf := by
  cases leaf with
  | arr items =>
      cases List.isEmpty_iff.mp last
      rfl
  | obj members =>
      cases List.isEmpty_iff.mp last
      rfl
  | _ => rfl

end

/-! ### Agreeing results -/

section

variable [Runtime] {redactedPaths : List String}

theorem AgreeResultItems.same (path : List String) (index : Nat) (items : List Json) :
    AgreeResultItems redactedPaths path index items items := by
  induction items generalizing index with
  | nil => exact .nil path index
  | cons item rest inductionHypothesis => exact .cons (.same _ item) (inductionHypothesis (index + 1))

theorem AgreeResultMembers.same (path : List String) (members : JsonObject) :
    AgreeResultMembers redactedPaths path members members := by
  induction members with
  | nil => exact .nil path
  | cons member rest inductionHypothesis =>
      obtain ⟨key, value⟩ := member
      cases value with
      | none => exact .absent key inductionHypothesis
      | some value => exact .cons (.same _ value) inductionHypothesis

theorem scrubItems_agree {items others : List Json} (path : List String) (index : Nat)
    (each : ∀ item ∈ items, ∀ path other, AgreeResult redactedPaths path item other →
      Agree redactedPaths path (scrubSensitiveResult item) (scrubSensitiveResult other))
    (agree : AgreeResultItems redactedPaths path index items others) :
    AgreeItems redactedPaths path index (scrubItems items) (scrubItems others) := by
  induction items generalizing index others with
  | nil =>
      cases agree
      exact .nil path index
  | cons item rest inductionHypothesis =>
      have later (tail : List Json)
          (agree : AgreeResultItems redactedPaths path (index + 1) rest tail) :=
        inductionHypothesis (index + 1)
          (fun one listed => each one (List.mem_cons_of_mem _ listed)) agree
      cases agree with
      | listed item other asked tail => exact .listed _ _ asked (later _ tail)
      | cons here tail =>
          exact .cons (each item List.mem_cons_self _ _ here) (later _ tail)

theorem scrubMembers_agree {members others : JsonObject} (path : List String)
    (each : ∀ member ∈ definedMembers members, ∀ path other,
      AgreeResult redactedPaths path member.2 other →
      Agree redactedPaths path (scrubSensitiveResult member.2) (scrubSensitiveResult other))
    (agree : AgreeResultMembers redactedPaths path members others) :
    AgreeMembers redactedPaths path (scrubMembers members) (scrubMembers others) := by
  induction members generalizing others with
  | nil =>
      cases agree
      exact .nil path
  | cons member rest inductionHypothesis =>
      obtain ⟨key, value⟩ := member
      have later (tail : JsonObject) (agree : AgreeResultMembers redactedPaths path rest tail) :
          AgreeMembers redactedPaths path (scrubMembers rest) (scrubMembers tail) := by
        refine inductionHypothesis ?_ agree
        intro one listed
        cases value with
        | none => exact each one listed
        | some value => exact each one (List.mem_cons_of_mem _ listed)
      cases left : (forbiddenResultKey key || key == "__proto__") with
      | true =>
          cases agree with
          | asked value other asked tail =>
              rw [scrubMembers_cons, scrubMembers_cons, scrubMember_left_out left,
                scrubMember_left_out left]
              exact later _ tail
          | absent key tail =>
              rw [scrubMembers_cons, scrubMembers_cons, scrubMember_left_out left]
              exact later _ tail
          | cons here tail =>
              rw [scrubMembers_cons, scrubMembers_cons, scrubMember_left_out left,
                scrubMember_left_out left]
              exact later _ tail
      | false =>
          cases agree with
          | asked value other asked tail =>
              rw [scrubMembers_cons, scrubMembers_cons, scrubMember_kept left,
                scrubMember_kept left]
              exact .asked _ _ asked (later _ tail)
          | absent key tail =>
              rw [scrubMembers_cons, scrubMembers_cons, scrubMember_kept left]
              exact .absent key (later _ tail)
          | cons here tail =>
              rw [scrubMembers_cons, scrubMembers_cons, scrubMember_kept left,
                scrubMember_kept left]
              exact .cons (each (key, _) List.mem_cons_self _ _ here) (later _ tail)

theorem scrubbed_agree {value other : Json} (path : List String)
    (agree : AgreeResult redactedPaths path value other) :
    Agree redactedPaths path (scrubSensitiveResult value) (scrubSensitiveResult other) := by
  induction value using treeInduction generalizing path other with
  | null => cases agree; exact .same _ _
  | bool value => cases agree; exact .same _ _
  | num number => cases agree; exact .same _ _
  | str text => cases agree; exact .same _ _
  | arr items inductionHypothesis =>
      cases agree with
      | same => exact .same _ _
      | arr each =>
          rw [scrubSensitiveResult, scrubSensitiveResult]
          exact .arr (scrubItems_agree path 0
            (fun item listed path other => inductionHypothesis item listed path) each)
  | obj members inductionHypothesis =>
      cases agree with
      | same => exact .same _ _
      | @obj _ _ others each =>
          rw [scrubSensitiveResult, scrubSensitiveResult, ← scrubMembers_allowed members,
            ← scrubMembers_allowed others]
          refine .obj (scrubMembers_agree path ?_ each)
          rintro ⟨key, child⟩ listed path other
          have given := (List.mem_filter.mp (mem_of_mem_definedMembers listed)).1
          exact inductionHypothesis (key, child)
            (List.mem_filterMap.mpr ⟨(key, some child), given, rfl⟩) path

theorem reachesListedMember_cons (path : List String) (key : String) (value : Option Json)
    (rest : JsonObject) :
    reachesListedMember redactedPaths path ((key, value) :: rest) =
      ((if key = "__proto__" then false
      else if shouldRedact key (path ++ [key]) redactedPaths then false
      else value.any (reachesListed redactedPaths (path ++ [key]))) ||
        reachesListedMember redactedPaths path rest) := by
  rw [reachesListedMember.eq_def]
  cases value <;> rfl

theorem resultReachesMember_cons (path : List String) (key : String) (value : Option Json)
    (rest : JsonObject) :
    resultReachesMember redactedPaths path ((key, value) :: rest) =
      ((if forbiddenResultKey key || key == "__proto__" then false
      else if shouldRedact key (path ++ [key]) redactedPaths then false
      else value.any (resultReaches redactedPaths (path ++ [key]))) ||
        resultReachesMember redactedPaths path rest) := by
  rw [resultReachesMember.eq_def]
  cases value <;> rfl

theorem reachesListed_scrubbed (path : List String) (value : Json) :
    reachesListed redactedPaths path (scrubSensitiveResult value) =
      resultReaches redactedPaths path value := by
  induction value using treeInduction generalizing path with
  | null => rfl
  | bool value => rfl
  | num number => rfl
  | str text => rfl
  | arr items inductionHypothesis =>
      rw [scrubSensitiveResult, reachesListed, resultReaches]
      generalize 0 = index
      induction items generalizing index with
      | nil => rfl
      | cons item rest onRest =>
          rw [scrubItems, reachesListedItem, resultReachesItem,
            inductionHypothesis item List.mem_cons_self,
            onRest (fun one listed => inductionHypothesis one (List.mem_cons_of_mem _ listed))]
  | obj members inductionHypothesis =>
      rw [scrubSensitiveResult, reachesListed, resultReaches]
      induction members with
      | nil => rfl
      | cons member rest onRest =>
          obtain ⟨key, value⟩ := member
          have later : reachesListedMember redactedPaths path (scrubMembers rest) =
              resultReachesMember redactedPaths path rest := by
            refine onRest ?_
            intro one listed
            cases value with
            | none => exact inductionHypothesis one listed
            | some value => exact inductionHypothesis one (List.mem_cons_of_mem _ listed)
          rw [scrubMembers_cons, resultReachesMember_cons]
          cases left : (forbiddenResultKey key || key == "__proto__") with
          | true =>
              rw [scrubMember_left_out left, if_pos rfl, Bool.false_or]
              exact later
          | false =>
              have named : key ≠ "__proto__" := by
                intro same
                exact Bool.eq_false_iff.mp (Bool.or_eq_false_iff.mp left).2 (beq_iff_eq.mpr same)
              rw [scrubMember_kept left, Option.toList_some, List.singleton_append,
                reachesListedMember_cons, later, if_neg named, if_neg Bool.false_ne_true]
              cases value with
              | none => rfl
              | some value =>
                  rw [Option.map_some, Option.any_some, Option.any_some,
                    inductionHypothesis (key, value) List.mem_cons_self]

variable {replacement : String}

theorem redactMembers_append (path : List String) (front back : JsonObject) :
    redactMembers redactedPaths replacement path (front ++ back) =
      redactMembers redactedPaths replacement path front ++
        redactMembers redactedPaths replacement path back := by
  rw [redactMembers_eq, redactMembers_eq, redactMembers_eq, List.filterMap_append]

theorem exists_result_unlike (path : List String) (value : Json) :
    ∃ other, redactValue redactedPaths replacement path (scrubSensitiveResult value) ≠
      redactValue redactedPaths replacement path (scrubSensitiveResult other) := by
  by_cases null : redactValue redactedPaths replacement path (scrubSensitiveResult value) = .null
  · refine ⟨.bool true, ?_⟩
    rw [null]
    exact Json.noConfusion
  · exact ⟨.null, null⟩

theorem exists_resultItems_unlike {items : List Json} (path : List String) (index : Nat)
    (each : ∀ item ∈ items, ∀ path, resultReaches redactedPaths path item = true →
      ∃ other, AgreeResult redactedPaths path item other ∧
        redactValue redactedPaths replacement path (scrubSensitiveResult item) ≠
          redactValue redactedPaths replacement path (scrubSensitiveResult other))
    (reaches : resultReachesItem redactedPaths path index items = true) :
    ∃ others, AgreeResultItems redactedPaths path index items others ∧
      redactItems redactedPaths replacement path index (scrubItems items) ≠
        redactItems redactedPaths replacement path index (scrubItems others) := by
  induction items generalizing index with
  | nil => cases reaches
  | cons item rest inductionHypothesis =>
      rw [resultReachesItem, Bool.or_eq_true, Bool.or_eq_true, decide_eq_true_iff] at reaches
      rcases reaches with (asked | inside) | later
      · have unlikeItem : ∃ other,
            redactValue redactedPaths replacement (path ++ [toString index])
                (scrubSensitiveResult item) ≠
              redactValue redactedPaths replacement (path ++ [toString index])
                (scrubSensitiveResult other) := exists_result_unlike (path ++ [toString index]) item
        obtain ⟨other, unlike⟩ := unlikeItem
        refine ⟨other :: rest, .listed item other asked (.same path (index + 1) rest), ?_⟩
        rw [scrubItems, scrubItems, redactItems, redactItems]
        exact fun same => unlike (List.cons.inj same).1
      · obtain ⟨other, agree, unlike⟩ := each item List.mem_cons_self _ inside
        refine ⟨other :: rest, .cons agree (.same path (index + 1) rest), ?_⟩
        rw [scrubItems, scrubItems, redactItems, redactItems]
        exact fun same => unlike (List.cons.inj same).1
      · obtain ⟨others, agree, unlike⟩ := inductionHypothesis (index + 1)
          (fun one listed => each one (List.mem_cons_of_mem _ listed)) later
        refine ⟨item :: others, .cons (.same _ item) agree, ?_⟩
        rw [scrubItems, scrubItems, redactItems, redactItems]
        exact fun same => unlike (List.cons.inj same).2

theorem AgreeResultMembers.cons_same {path : List String} {members others : JsonObject}
    (member : String × Option Json) (agree : AgreeResultMembers redactedPaths path members others) :
    AgreeResultMembers redactedPaths path (member :: members) (member :: others) := by
  obtain ⟨key, value⟩ := member
  cases value with
  | none => exact .absent key agree
  | some value => exact .cons (.same _ value) agree

theorem exists_resultMembers_unlike {members : JsonObject} (path : List String)
    (each : ∀ member ∈ definedMembers members, ∀ path,
      resultReaches redactedPaths path member.2 = true →
      ∃ other, AgreeResult redactedPaths path member.2 other ∧
        redactValue redactedPaths replacement path (scrubSensitiveResult member.2) ≠
          redactValue redactedPaths replacement path (scrubSensitiveResult other))
    (reaches : resultReachesMember redactedPaths path members = true) :
    ∃ others : JsonObject, AgreeResultMembers redactedPaths path (members.filter allowedMember)
        (others.filter allowedMember) ∧
      redactMembers redactedPaths replacement path (scrubMembers members) ≠
        redactMembers redactedPaths replacement path (scrubMembers others) := by
  induction members with
  | nil => cases reaches
  | cons member rest inductionHypothesis =>
      obtain ⟨key, value⟩ := member
      rw [resultReachesMember_cons, Bool.or_eq_true] at reaches
      rcases reaches with here | later
      · cases left : (forbiddenResultKey key || key == "__proto__") with
        | true =>
            rw [if_pos left] at here
            cases here
        | false =>
            by_cases asked : shouldRedact key (path ++ [key]) redactedPaths = true
            · rw [if_neg (Bool.eq_false_iff.mp left), if_pos asked] at here
              cases here
            rw [if_neg (Bool.eq_false_iff.mp left), if_neg asked] at here
            cases value with
            | none => cases here
            | some value =>
                obtain ⟨forbidden, proto⟩ := Bool.or_eq_false_iff.mp left
                have named : key ≠ "__proto__" :=
                  fun same => Bool.eq_false_iff.mp proto (beq_iff_eq.mpr same)
                have allowed (value : Option Json) : allowedMember (key, value) = true := by
                  rw [allowedMember, forbidden]
                  rfl
                obtain ⟨other, agree, unlike⟩ := each (key, value) List.mem_cons_self _ here
                refine ⟨(key, some other) :: rest, ?_, ?_⟩
                · rw [List.filter_cons_of_pos (allowed _), List.filter_cons_of_pos (allowed _)]
                  exact .cons agree (.same path _)
                · rw [scrubMembers_cons, scrubMembers_cons, scrubMember_kept left,
                    scrubMember_kept left, Option.toList_some, Option.toList_some,
                    List.singleton_append, List.singleton_append, redactMembers_cons,
                    redactMembers_cons, redactMember, redactMember, if_neg named, if_neg named,
                    if_neg asked, if_neg asked]
                  intro same
                  have heads := (List.cons.inj same).1
                  exact unlike (Option.some.inj (Prod.mk.inj heads).2)
      · obtain ⟨others, agree, unlike⟩ := by
          refine inductionHypothesis ?_ later
          intro one listed
          cases value with
          | none => exact each one listed
          | some value => exact each one (List.mem_cons_of_mem _ listed)
        refine ⟨(key, value) :: others, ?_, ?_⟩
        · rw [List.filter_cons, List.filter_cons]
          split
          · exact agree.cons_same (key, value)
          · exact agree
        · rw [scrubMembers_cons, scrubMembers_cons, redactMembers_append, redactMembers_append]
          exact fun same => unlike (List.append_cancel_left same)

theorem exists_shown_unlike {value : Json} (path : List String)
    (reaches : resultReaches redactedPaths path value = true) :
    ∃ other, AgreeResult redactedPaths path value other ∧
      redactValue redactedPaths replacement path (scrubSensitiveResult value) ≠
        redactValue redactedPaths replacement path (scrubSensitiveResult other) := by
  induction value using treeInduction generalizing path with
  | null => cases reaches
  | bool value => cases reaches
  | num number => cases reaches
  | str text => cases reaches
  | arr items inductionHypothesis =>
      obtain ⟨others, agree, unlike⟩ :=
        exists_resultItems_unlike path 0 inductionHypothesis reaches
      refine ⟨.arr others, .arr agree, ?_⟩
      rw [scrubSensitiveResult, scrubSensitiveResult, redactValue, redactValue]
      exact fun same => unlike (Json.arr.inj same)
  | obj members inductionHypothesis =>
      obtain ⟨others, agree, unlike⟩ :=
        exists_resultMembers_unlike path inductionHypothesis reaches
      refine ⟨.obj others, .obj agree, ?_⟩
      rw [scrubSensitiveResult, scrubSensitiveResult, redactValue, redactValue]
      exact fun same => unlike (Json.obj.inj same)

/-- A leaf that may be shown is left by the scrub, unless a member `__proto__` is on the
way. -/
theorem ShownResult.scrubbed {path : List String} {value : Json} {steps : List JsonStep}
    {leaf : Json} (shown : ShownResult redactedPaths path value steps leaf)
    (named : JsonStep.member "__proto__" ∉ steps) :
    Shown redactedPaths path (scrubSensitiveResult value) steps leaf := by
  induction shown with
  | here last =>
      rw [scrubSensitiveResult_leaf last]
      exact .here last
  | @member path members key child rest leaf listed allowed plain below inductionHypothesis =>
      rw [List.mem_cons, not_or] at named
      have kept : (forbiddenResultKey key || key == "__proto__") = false := by
        rw [allowed, Bool.false_or, beq_eq_false_iff_ne]
        exact fun same => named.1 (congrArg JsonStep.member same.symm)
      rw [scrubSensitiveResult]
      refine .member ?_ plain (inductionHypothesis named.2)
      rw [scrubMembers_eq]
      exact List.mem_filterMap.mpr ⟨(key, some child), listed, scrubMember_kept kept (some child)⟩
  | @element path items index child rest leaf found plain below inductionHypothesis =>
      rw [List.mem_cons, not_or] at named
      rw [scrubSensitiveResult, scrubItems_eq]
      refine .element ?_ plain (inductionHypothesis named.2)
      rw [List.getElem?_map, found]
      rfl

end

/-! ### Results as a whole -/

section

variable [Runtime]

/-- No name in what is shown, however deep, has a forbidden fragment. -/
def HidesForbidden (options : RedactionOptions) (result : Json) : Prop :=
  ∃ shown, safeResult (some result) options = some shown ∧
    everyObject noForbidden (.obj shown) = true

/-- Whatever result differs only where it may not be shown looks the same. -/
def ResultNoninterfering (options : RedactionOptions) (result : Json) : Prop :=
  ∀ other : Json,
    AgreeResult (pathSet (options.fields.getD [])) [] (.obj (shownObject result))
      (.obj (shownObject other)) →
    safeResult (some result) options = safeResult (some other) options

/-- Every leaf that may be shown is shown. -/
def KeepsResultLeaves (options : RedactionOptions) (result : Json) : Prop :=
  ∀ steps leaf,
    ShownResult (pathSet (options.fields.getD [])) [] (.obj (shownObject result)) steps leaf →
    ∃ shown, safeResult (some result) options = some shown ∧
      Shown (pathSet (options.fields.getD [])) [] (.obj shown) steps leaf

/-- The platform lower-cases the name under which a result that is no object is shown. -/
def LowersValue : Prop := Runtime.toLowerCase "value" = "value"

theorem forbiddenResultKey_value (lowers : LowersValue) : forbiddenResultKey "value" = false := by
  have plain : withoutSeparators "value" = "value" := by decide +kernel
  unfold forbiddenResultKey
  rw [plain, lowers]
  decide +kernel

theorem safeResult_eq (lowers : LowersValue) (options : RedactionOptions) (result : Json) :
    safeResult (some result) options =
      some (redactJsonObject (scrubMembers (shownObject result)) options) := by
  have kept : (forbiddenResultKey "value" || "value" == "__proto__") = false := by
    rw [forbiddenResultKey_value lowers]
    decide +kernel
  have wrapped (value : Json) : some (redactJsonObject [("value", some (scrubSensitiveResult value))]
      options) = some (redactJsonObject (scrubMembers [("value", some value)]) options) := by
    rw [scrubMembers_cons, scrubMember_kept kept]
    rfl
  unfold safeResult
  rw [Option.map_some]
  cases result with
  | obj members => rfl
  | arr items => exact wrapped (.arr items)
  | null => exact wrapped .null
  | bool value => exact wrapped (.bool value)
  | num number => exact wrapped (.num number)
  | str text => exact wrapped (.str text)

theorem obj_shown (options : RedactionOptions) (members : JsonObject) :
    .obj (redactJsonObject (scrubMembers members) options) =
      redactValue (pathSet (options.fields.getD [])) (options.replacement.getD redactedText) []
        (scrubSensitiveResult (.obj members)) := by
  rw [scrubSensitiveResult, redactValue]
  rfl

theorem hidesForbidden (lowers : LowersValue) (options : RedactionOptions) (result : Json) :
    HidesForbidden options result := by
  refine ⟨_, safeResult_eq lowers options result, ?_⟩
  rw [obj_shown]
  refine everyPart_redactValue rfl ?_ [] (everyObject_scrubbed _)
  intro path value passes
  cases value with
  | obj members =>
      rw [redactValue]
      simp only [onMembers, noForbidden, List.all_eq_true] at passes ⊢
      rintro ⟨key, value⟩ listed
      have kept := (redactMembers_keys path members).subset
        (List.mem_map_of_mem (f := Prod.fst) listed)
      obtain ⟨⟨source, other⟩, given, same⟩ := List.mem_map.mp kept
      cases same
      exact passes (key, other) given
  | arr items =>
      rw [redactValue]
      rfl
  | _ => exact passes

theorem resultNoninterfering_iff (lowers : LowersValue) (options : RedactionOptions)
    (result : Json) :
    ResultNoninterfering options result ↔
      resultReaches (pathSet (options.fields.getD [])) [] (.obj (shownObject result)) = false := by
  constructor
  · intro same
    rw [Bool.eq_false_iff]
    intro reaches
    have unlikeResult : ∃ other,
        AgreeResult (pathSet (options.fields.getD [])) [] (.obj (shownObject result)) other ∧
          redactValue (pathSet (options.fields.getD [])) (options.replacement.getD redactedText) []
              (scrubSensitiveResult (.obj (shownObject result))) ≠
            redactValue (pathSet (options.fields.getD [])) (options.replacement.getD redactedText)
              [] (scrubSensitiveResult other) := exists_shown_unlike [] reaches
    obtain ⟨other, agree, unlike⟩ := unlikeResult
    cases agree with
    | same => exact unlike rfl
    | @obj _ _ others each =>
        have alike := same (.obj others) (.obj each)
        rw [safeResult_eq lowers, safeResult_eq lowers] at alike
        rw [← obj_shown, ← obj_shown] at unlike
        exact unlike (congrArg Json.obj (Option.some.inj alike))
  · intro clear other agree
    have alike : redactValue (pathSet (options.fields.getD []))
        (options.replacement.getD redactedText) []
          (scrubSensitiveResult (.obj (shownObject result))) =
        redactValue (pathSet (options.fields.getD [])) (options.replacement.getD redactedText) []
          (scrubSensitiveResult (.obj (shownObject other))) :=
      redactValue_agree [] ((reachesListed_scrubbed [] _).trans clear) (scrubbed_agree [] agree)
    rw [← obj_shown, ← obj_shown] at alike
    rw [safeResult_eq lowers, safeResult_eq lowers, Json.obj.inj alike]

theorem keepsResultLeaves_iff (lowers : LowersValue) (options : RedactionOptions)
    (result : Json) :
    KeepsResultLeaves options result ↔
      ∀ steps leaf,
        ShownResult (pathSet (options.fields.getD [])) [] (.obj (shownObject result)) steps leaf →
        JsonStep.member "__proto__" ∉ steps := by
  constructor
  · intro kept steps leaf may
    obtain ⟨shown, safe, still⟩ := kept steps leaf may
    rw [safeResult_eq lowers] at safe
    rw [← Option.some.inj safe, obj_shown] at still
    exact still.not_proto
  · intro named steps leaf may
    refine ⟨_, safeResult_eq lowers options result, ?_⟩
    rw [obj_shown]
    exact (may.scrubbed (named steps leaf may)).redacted (named steps leaf may)

/-- Results show no forbidden name, hide what differs where it may not be shown and keep the
rest exactly when what is shown comes to no listed element of an array and no leaf that may be
shown is behind a member `__proto__`. -/
theorem result_projection_exact_iff (lowers : LowersValue) (options : RedactionOptions)
    (result : Json) :
    (HidesForbidden options result ∧ ResultNoninterfering options result ∧
        KeepsResultLeaves options result) ↔
      resultReaches (pathSet (options.fields.getD [])) [] (.obj (shownObject result)) = false ∧
        ∀ steps leaf,
          ShownResult (pathSet (options.fields.getD [])) [] (.obj (shownObject result)) steps leaf →
          JsonStep.member "__proto__" ∉ steps := by
  rw [resultNoninterfering_iff lowers, keepsResultLeaves_iff lowers]
  exact and_iff_right (hidesForbidden lowers options result)

end

private def firstRowListed : RedactionOptions :=
  { fields := some ["rows.0"], replacement := none }

private def namedResult : Json := .obj [("name", some (.str "report")), ("token", some (.str "t"))]

/-- A result with one forbidden member. -/
theorem result_projection_exact_named :
    let _ := sampleRuntime []
    HidesForbidden firstRowListed namedResult ∧
      ResultNoninterfering firstRowListed namedResult ∧
      KeepsResultLeaves firstRowListed namedResult := by
  let _ := sampleRuntime []
  have lowers : LowersValue := by
    unfold LowersValue
    decide +kernel
  have forbidden : forbiddenResultKey "token" = true := by decide +kernel
  refine (result_projection_exact_iff lowers firstRowListed namedResult).mpr ⟨?_, ?_⟩
  · decide +kernel
  · intro steps leaf may
    cases may with
    | here last => exact List.not_mem_nil
    | member listed allowed plain below =>
        rcases List.mem_cons.mp listed with first | later
        · cases first
          cases below
          simp
        · cases List.mem_singleton.mp later
          rw [forbidden] at allowed
          cases allowed

private def rowsOf (first : String) : JsonObject := [("rows", some (.arr [.str first]))]

/-- The first element of `rows` is listed, and a model sees it. -/
theorem listed_row_shows :
    let _ := sampleRuntime []
    AgreeResult (pathSet (firstRowListed.fields.getD [])) [] (.obj (rowsOf "secret"))
        (.obj (rowsOf "other")) ∧
      safeResult (some (.obj (rowsOf "secret"))) firstRowListed = some (rowsOf "secret") ∧
      safeResult (some (.obj (rowsOf "other"))) firstRowListed = some (rowsOf "other") ∧
      rowsOf "secret" ≠ rowsOf "other" := by
  let _ := sampleRuntime []
  have asked : ListedElement (pathSet (firstRowListed.fields.getD [])) ["rows"] 0 := by
    decide +kernel
  have left : (forbiddenResultKey "rows" || "rows" == "__proto__") = false := by decide +kernel
  have allowed (first : String) : (rowsOf first).filter allowedMember = rowsOf first := by
    have kept : allowedMember ("rows", some (.arr [.str first])) = true := by
      rw [allowedMember, (Bool.or_eq_false_iff.mp left).1]
      rfl
    unfold rowsOf
    rw [List.filter_cons_of_pos kept]
    rfl
  have named : ¬ "rows" = "__proto__" := by decide
  have plain : ¬ shouldRedact "rows" ([] ++ ["rows"])
      (pathSet (firstRowListed.fields.getD [])) = true := by
    decide +kernel
  have shows (first : String) :
      safeResult (some (.obj (rowsOf first))) firstRowListed = some (rowsOf first) := by
    unfold safeResult rowsOf redactJsonObject redactJsonObjectAtPath
    rw [Option.map_some, scrubSensitiveResult]
    simp only
    rw [scrubMembers_cons, scrubMember_kept left, Option.toList_some, List.singleton_append,
      redactMembers_cons]
    unfold redactMember
    rw [if_neg named, if_neg plain]
    rfl
  refine ⟨?_, shows "secret", shows "other", ?_⟩
  · refine .obj ?_
    rw [allowed, allowed]
    exact .cons (.arr (.listed _ _ asked (.nil _ _))) (.nil _)
  · intro same
    injection same with same
    simp at same

end ActionProxy
