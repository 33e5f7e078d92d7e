import ActionProxy.Policy.EvaluatePolicy

/-!
What the version hash says about a policy. Policies with one hash have the same
rules up to the order of members, so each rule matches the same contexts; the
wildcard search, however, follows the order of the file, which the hash forgets.
-/

namespace ActionProxy

open JsonText

/-! ### Rules up to member order -/

theorem ApprovalMode.text_injective {left right : ApprovalMode} (same : left.text = right.text) :
    left = right := by
  cases left <;> cases right <;> first | rfl | simp [ApprovalMode.text] at same

mutual

theorem matchesText_same (actual : String) :
    ∀ {left right : Json}, Same left right → matchesText actual left = matchesText actual right
  | _, _, .null => rfl
  | _, _, .bool _ => rfl
  | _, _, .num _ => rfl
  | _, _, .str _ => rfl
  | _, _, .arr items => by
      rw [matchesText, matchesText]
      exact anyMatchesText_same actual items
  | _, _, .obj _ _ _ => rfl

theorem anyMatchesText_same (actual : String) :
    ∀ {left right : List Json}, SameItems left right →
      anyMatchesText actual left = anyMatchesText actual right
  | _, _, .nil => rfl
  | _, _, .cons head tail => by
      rw [anyMatchesText, anyMatchesText, matchesText_same actual head,
        anyMatchesText_same actual tail]

end

theorem matchesOne_same {left right : Json} (same : Same left right) (actual : Option String) :
    matchesOne left actual = matchesOne right actual := by
  unfold matchesOne
  congr 1
  funext text
  exact matchesText_same text same

theorem matchesBoolean_same {left right : Json} (same : Same left right) (actual : Option Bool) :
    matchesBoolean left actual = matchesBoolean right actual := by
  cases same <;> rfl

theorem mem_definedMembers_conditions {conditions : List (String × Json)} {key : String}
    {value : Json} :
    (key, value) ∈ definedMembers (conditions.map (fun condition => (condition.1, some condition.2)))
      ↔ (key, value) ∈ conditions := by
  induction conditions with
  | nil => simp
  | cons condition rest ih => simp [ih]

section

variable [Runtime]

theorem numberContext_rel {left right : Option Json} (same : Option.Rel Same left right) :
    numberContext left = numberContext right := by
  cases same with
  | none => rfl
  | some value => cases value <;> rfl

theorem matchesAmount_same {left right : Json} (same : Same left right)
    (distinct : distinctMembers left = true) (actual : Option JsonNumber) :
    matchesAmount left actual = matchesAmount right actual := by
  cases actual with
  | none => cases same <;> rfl
  | some actual =>
      cases same with
      | null => rfl
      | bool _ => rfl
      | num _ => rfl
      | str _ => rfl
      | arr _ => rfl
      | @obj leftMembers rightMembers _ _ leftPerm members rightPerm =>
          have bounds : ∀ name, numberContext (member? leftMembers name) =
              numberContext (member? rightMembers name) := by
            intro name
            exact numberContext_rel (same_obj_member (Same.obj leftPerm members rightPerm)
              (of_decide_eq_true distinct) name)
          simp only [matchesAmount, bounds]

theorem evaluateConditionOn_same {left right : Json} (same : Same left right)
    (distinct : distinctMembers left = true) (key toolName : String) (values : ConditionValues) :
    (evaluateConditionOn key left toolName values).2 =
      (evaluateConditionOn key right toolName values).2 := by
  unfold evaluateConditionOn
  split
  · exact matchesOne_same same _
  · exact matchesOne_same same _
  · exact matchesAmount_same same distinct _
  · exact matchesAmount_same same distinct _
  · exact matchesOne_same same _
  · exact matchesBoolean_same same _
  · exact matchesOne_same same _
  · exact matchesOne_same same _
  · exact matchesOne_same same _
  · exact matchesOne_same same _
  · exact matchesOne_same same _
  · rfl

theorem conditionsMatch_iff (conditions : Option (List (String × Json))) (toolName : String)
    (context : PolicyEvaluationContext) :
    conditionsMatch conditions toolName context = true ↔
      ∀ condition ∈ conditions.getD [],
        (evaluateCondition condition.1 condition.2 toolName context).2 = true := by
  simp [conditionsMatch, evaluateConditions]

theorem conditionsMatch_of_same {left right : List (String × Json)}
    (same : Same (conditionsJson left) (conditionsJson right))
    (accepted : conditionsAccepted left = true) {toolName : String}
    {context : PolicyEvaluationContext}
    (holds : conditionsMatch (some right) toolName context = true) :
    conditionsMatch (some left) toolName context = true := by
  rw [conditionsMatch_iff] at holds ⊢
  intro condition member
  obtain ⟨key, value⟩ := condition
  obtain ⟨other, found, sameValue⟩ :=
    same_obj_find same (mem_definedMembers_conditions.mpr member)
  simp only [conditionsAccepted, Bool.and_eq_true, List.all_eq_true] at accepted
  have distinct := accepted.2 (key, value) member
  have matched := holds (key, other) (mem_definedMembers_conditions.mp found)
  rw [← matched]
  exact evaluateConditionOn_same sameValue distinct key toolName (conditionValues context)

end

theorem PolicyRule.members_distinct (rule : PolicyRule) :
    (rule.members.map Prod.fst).Nodup := by
  simp [PolicyRule.members]

theorem PolicyRule.listed_conditions (rule : PolicyRule) :
    ("conditions", rule.conditions.map conditionsJson) ∈ rule.members := by
  simp [PolicyRule.members]

theorem PolicyRule.listed_approval (rule : PolicyRule) :
    ("approval", some (.str rule.approval.text)) ∈ rule.members := by
  simp [PolicyRule.members]

theorem PolicyRule.conditionsAccepted_of_accepted {rule : PolicyRule}
    {conditions : List (String × Json)} (accepted : rule.accepted = true)
    (given : rule.conditions = some conditions) : conditionsAccepted conditions = true := by
  simp only [PolicyRule.accepted, Bool.and_eq_true] at accepted
  have checked := accepted.1.1.1.1.1.1.2
  rw [given] at checked
  exact checked

theorem approval_eq_of_same {left right : PolicyRule} (same : Same left.json right.json) :
    left.approval = right.approval := by
  have sameText := same_obj_listed same left.members_distinct right.members_distinct
    left.listed_approval right.listed_approval
  cases sameText with
  | some value => exact ApprovalMode.text_injective (same_str_iff.mp value)

section

variable [Runtime]

theorem ruleConditions_of_same {left right : PolicyRule} (same : Same left.json right.json)
    (accepted : left.accepted = true) {toolName : String} {context : PolicyEvaluationContext}
    (holds : conditionsMatch right.conditions toolName context = true) :
    conditionsMatch left.conditions toolName context = true := by
  have sameConditions := same_obj_listed same left.members_distinct right.members_distinct
    left.listed_conditions right.listed_conditions
  cases given : left.conditions with
  | none => rfl
  | some conditions =>
      cases other : right.conditions with
      | none =>
          rw [given, other] at sameConditions
          cases sameConditions
      | some others =>
          rw [given, other] at sameConditions
          rw [other] at holds
          cases sameConditions with
          | some sameJson =>
              exact conditionsMatch_of_same sameJson
                (PolicyRule.conditionsAccepted_of_accepted accepted given) holds

/-- Two rules that decide alike on every context. -/
structure RulesAgree (left right : PolicyRule) : Prop where
  approval : left.approval = right.approval
  conditions : ∀ toolName context,
    conditionsMatch left.conditions toolName context =
      conditionsMatch right.conditions toolName context

theorem rulesAgree_of_same {left right : PolicyRule} (same : Same left.json right.json)
    (back : Same right.json left.json) (leftAccepted : left.accepted = true)
    (rightAccepted : right.accepted = true) : RulesAgree left right := by
  refine ⟨approval_eq_of_same same, ?_⟩
  intro toolName context
  rw [Bool.eq_iff_iff]
  constructor
  · exact ruleConditions_of_same back rightAccepted
  · exact ruleConditions_of_same same leftAccepted

theorem RulesAgree.decision {left right : PolicyRule} (agree : RulesAgree left right)
    (pattern : String) :
    (toEvaluation (some left) pattern).decision = (toEvaluation (some right) pattern).decision := by
  unfold toEvaluation
  rw [Option.map_some, Option.map_some, agree.approval]
  cases right.approval <;> rfl

theorem RulesAgree.symm {left right : PolicyRule} (agree : RulesAgree left right) :
    RulesAgree right left :=
  ⟨agree.approval.symm, fun toolName context => (agree.conditions toolName context).symm⟩

end

/-! ### Policies of one hash -/

theorem PolicyFile.members_distinct (policy : PolicyFile) :
    (policy.members.map Prod.fst).Nodup := by
  simp [PolicyFile.members]

theorem PolicyFile.listed_default (policy : PolicyFile) :
    ("default", some policy.default.json) ∈ policy.members := by
  simp [PolicyFile.members]

theorem PolicyFile.listed_tools (policy : PolicyFile) :
    ("tools", some (.obj policy.toolMembers)) ∈ policy.members := by
  simp [PolicyFile.members]

theorem PolicyFile.toolMembers_distinct (policy : PolicyFile) :
    (policy.toolMembers.map Prod.fst).Nodup := by
  have names : policy.toolMembers.map Prod.fst = policy.tools.entries.map Prod.fst := by
    simp [PolicyFile.toolMembers]
  rw [names]
  exact policy.tools.distinct

theorem PolicyFile.member?_toolMembers (policy : PolicyFile) (name : String) :
    member? policy.toolMembers name = (policy.tools.get? name).map PolicyRule.json := by
  cases found : policy.tools.get? name with
  | some rule =>
      apply member?_of_mem policy.toolMembers_distinct
      exact List.mem_map.mpr ⟨(name, rule), (policy.tools.get?_eq_some_iff _ _).mp found, rfl⟩
  | none =>
      cases listed : member? policy.toolMembers name with
      | none => rfl
      | some value =>
          obtain ⟨entry, member, same⟩ :=
            List.mem_map.mp (mem_of_mem_definedMembers (mem_of_lookup listed))
          cases same
          rw [(policy.tools.get?_eq_some_iff entry.1 entry.2).mpr member] at found
          cases found

theorem PolicyFile.accepted_tool {policy : PolicyFile} (accepted : policy.accepted = true)
    {name : String} {rule : PolicyRule} (found : policy.tools.get? name = some rule) :
    rule.accepted = true := by
  simp only [PolicyFile.accepted, Bool.and_eq_true, List.all_eq_true] at accepted
  exact (accepted.2 _ ((policy.tools.get?_eq_some_iff name rule).mp found)).2

theorem PolicyFile.accepted_default {policy : PolicyFile} (accepted : policy.accepted = true) :
    policy.default.accepted = true := by
  simp only [PolicyFile.accepted, Bool.and_eq_true] at accepted
  exact accepted.1

theorem tools_rel_of_same {left right : PolicyFile} (same : Same left.json right.json)
    (name : String) :
    Option.Rel Same ((left.tools.get? name).map PolicyRule.json)
      ((right.tools.get? name).map PolicyRule.json) := by
  have sameTools := same_obj_listed same left.members_distinct right.members_distinct
    left.listed_tools right.listed_tools
  cases sameTools with
  | some sameTools =>
      rw [← left.member?_toolMembers, ← right.member?_toolMembers]
      exact same_obj_member sameTools left.toolMembers_distinct name

theorem default_same_of_same {left right : PolicyFile} (same : Same left.json right.json) :
    Same left.default.json right.default.json := by
  have sameDefault := same_obj_listed same left.members_distinct right.members_distinct
    left.listed_default right.listed_default
  cases sameDefault with
  | some sameDefault => exact sameDefault

theorem toEvaluation_matchedRule (rule : Option PolicyRule) (pattern : String) :
    (toEvaluation rule pattern).matchedRule = pattern := by
  unfold toEvaluation
  split <;> rfl

section

variable [Runtime]

/-- Two policies with the same rules under the same names, in whatever order. -/
structure PoliciesAgree (left right : PolicyFile) : Prop where
  tools : ∀ name, Option.Rel RulesAgree (left.tools.get? name) (right.tools.get? name)
  default : RulesAgree left.default right.default

theorem policiesAgree_of_hash (injective : Function.Injective sha256Hex)
    {left right : PolicyFile} (leftAccepted : left.accepted = true)
    (rightAccepted : right.accepted = true) (same : left.versionHash = right.versionHash) :
    PoliciesAgree left right := by
  have forth := same_of_hashJson_eq injective same
  have back := same_of_hashJson_eq injective same.symm
  constructor
  · intro name
    have forthTool := tools_rel_of_same forth name
    have backTool := tools_rel_of_same back name
    cases leftFound : left.tools.get? name with
    | none =>
        cases rightFound : right.tools.get? name with
        | none => exact Option.Rel.none
        | some rule =>
            rw [leftFound, rightFound] at forthTool
            cases forthTool
    | some rule =>
        cases rightFound : right.tools.get? name with
        | none =>
            rw [leftFound, rightFound] at forthTool
            cases forthTool
        | some other =>
            rw [leftFound, rightFound] at forthTool backTool
            cases forthTool with
            | some sameForth =>
                cases backTool with
                | some sameBack =>
                    exact Option.Rel.some (rulesAgree_of_same sameForth sameBack
                      (PolicyFile.accepted_tool leftAccepted leftFound)
                      (PolicyFile.accepted_tool rightAccepted rightFound))
  · exact rulesAgree_of_same (default_same_of_same forth) (default_same_of_same back)
      (PolicyFile.accepted_default leftAccepted) (PolicyFile.accepted_default rightAccepted)

/-! ### The selected rule -/

/-- The rule an evaluation selects and the decision it gives. -/
structure Selection where
  matchType : PolicyTraceMatchType
  matchedRule : String
  decision : PolicyDecision
  deriving DecidableEq

def PolicyEvaluationTrace.selection (trace : PolicyEvaluationTrace) : Selection :=
  { matchType := trace.matchType
    matchedRule := trace.matchedRule
    decision := trace.decision }

/-- The entry is a wildcard rule that covers the tool and whose conditions match. -/
def contends (toolName : String) (context : PolicyEvaluationContext)
    (entry : String × PolicyRule) : Bool :=
  wildcardCovers entry.1 toolName && conditionsMatch entry.2.conditions toolName context

theorem findWildcardRule_eq (toolName : String) (context : PolicyEvaluationContext)
    (entries : List (String × PolicyRule)) :
    (findWildcardRule toolName context entries).2 = entries.find? (contends toolName context) := by
  induction entries with
  | nil => rfl
  | cons entry rest ih =>
      obtain ⟨pattern, rule⟩ := entry
      rw [findWildcardRule, List.find?_cons]
      unfold contends at ih ⊢
      cases covers : wildcardCovers pattern toolName with
      | false => simpa [covers] using ih
      | true =>
          cases conditionsMatch rule.conditions toolName context with
          | false => simpa [covers] using ih
          | true => simp

theorem selection_exact {policy : PolicyFile} {toolName : String}
    {context : PolicyEvaluationContext} (applies : exactApplies policy toolName context = true) :
    (evaluatePolicyTrace policy toolName context).selection =
      { matchType := .exact
        matchedRule := toolName
        decision := (toEvaluation ((findExactRule policy toolName).bind id) toolName).decision } := by
  simp only [evaluatePolicyTrace, if_pos applies, traceOf, PolicyEvaluationTrace.selection,
    toEvaluation_matchedRule]

theorem selection_wildcard {policy : PolicyFile} {toolName pattern : String} {rule : PolicyRule}
    {context : PolicyEvaluationContext} (open_exact : exactApplies policy toolName context = false)
    (found : policy.tools.entries.find? (contends toolName context) = some (pattern, rule)) :
    (evaluatePolicyTrace policy toolName context).selection =
      { matchType := .wildcard
        matchedRule := pattern
        decision := (toEvaluation (some rule) pattern).decision } := by
  rw [← findWildcardRule_eq] at found
  simp only [evaluatePolicyTrace, open_exact, Bool.false_eq_true, if_false, found, traceOf,
    PolicyEvaluationTrace.selection, toEvaluation_matchedRule]

theorem selection_default {policy : PolicyFile} {toolName : String}
    {context : PolicyEvaluationContext} (open_exact : exactApplies policy toolName context = false)
    (missing : policy.tools.entries.find? (contends toolName context) = none) :
    (evaluatePolicyTrace policy toolName context).selection =
      { matchType := .default
        matchedRule := "default"
        decision := (toEvaluation (some policy.default) "default").decision } := by
  rw [← findWildcardRule_eq] at missing
  simp only [evaluatePolicyTrace, open_exact, Bool.false_eq_true, if_false, missing, traceOf,
    PolicyEvaluationTrace.selection, toEvaluation_matchedRule]

/-! ### Agreement of the wildcard order -/

/-- The pattern names a wildcard rule of the policy that covers the tool and matches. -/
def Contends (policy : PolicyFile) (toolName : String) (context : PolicyEvaluationContext)
    (pattern : String) : Prop :=
  ∃ rule, policy.tools.get? pattern = some rule ∧ contends toolName context (pattern, rule) = true

/-- Where no exact rule applies, the first matching wildcard rule of one policy
precedes every other matching one in the other policy too. -/
def WildcardOrderAgrees (left right : PolicyFile) : Prop :=
  ∀ toolName context, exactApplies left toolName context = false →
    ∀ first, Contends left toolName context first →
      (∀ other, Contends left toolName context other →
        left.tools.position first ≤ left.tools.position other) →
      ∀ other, Contends left toolName context other →
        right.tools.position first ≤ right.tools.position other

theorem PoliciesAgree.rule {left right : PolicyFile} (agree : PoliciesAgree left right)
    {name : String} {rule : PolicyRule} (found : left.tools.get? name = some rule) :
    ∃ other, right.tools.get? name = some other ∧ RulesAgree rule other := by
  have related := agree.tools name
  rw [found] at related
  cases rightFound : right.tools.get? name with
  | none =>
      rw [rightFound] at related
      cases related
  | some other =>
      rw [rightFound] at related
      cases related with
      | some rules => exact ⟨other, rfl, rules⟩

theorem PoliciesAgree.symm {left right : PolicyFile} (agree : PoliciesAgree left right) :
    PoliciesAgree right left := by
  refine ⟨?_, agree.default.symm⟩
  intro name
  have related := agree.tools name
  cases leftFound : left.tools.get? name with
  | none =>
      rw [leftFound] at related
      cases rightFound : right.tools.get? name with
      | none => exact Option.Rel.none
      | some other =>
          rw [rightFound] at related
          cases related
  | some rule =>
      obtain ⟨other, rightFound, rules⟩ := agree.rule leftFound
      rw [rightFound]
      exact Option.Rel.some rules.symm

theorem PoliciesAgree.contends {left right : PolicyFile} (agree : PoliciesAgree left right)
    {toolName : String} {context : PolicyEvaluationContext} {pattern : String}
    (contender : Contends left toolName context pattern) :
    Contends right toolName context pattern := by
  obtain ⟨rule, found, passes⟩ := contender
  obtain ⟨other, rightFound, rules⟩ := agree.rule found
  refine ⟨other, rightFound, ?_⟩
  unfold ActionProxy.contends at passes ⊢
  rw [← rules.conditions]
  exact passes

theorem PoliciesAgree.exact {left right : PolicyFile} (agree : PoliciesAgree left right)
    (toolName : String) (context : PolicyEvaluationContext) :
    exactApplies left toolName context = exactApplies right toolName context ∧
      (toEvaluation ((findExactRule left toolName).bind id) toolName).decision =
        (toEvaluation ((findExactRule right toolName).bind id) toolName).decision := by
  have related := agree.tools toolName
  unfold exactApplies findExactRule
  cases leftFound : left.tools.get? toolName with
  | none =>
      cases rightFound : right.tools.get? toolName with
      | none => exact ⟨rfl, rfl⟩
      | some other =>
          rw [leftFound, rightFound] at related
          cases related
  | some rule =>
      obtain ⟨other, rightFound, rules⟩ := agree.rule leftFound
      rw [rightFound]
      exact ⟨rules.conditions toolName context, rules.decision toolName⟩

/-- A policy whose first contender is `pattern` selects that wildcard rule. -/
theorem find?_contends_iff (policy : PolicyFile) (toolName : String)
    (context : PolicyEvaluationContext) (pattern : String) :
    (∃ rule, policy.tools.entries.find? (contends toolName context) = some (pattern, rule)) ↔
      Contends policy toolName context pattern ∧
        ∀ other, Contends policy toolName context other →
          policy.tools.position pattern ≤ policy.tools.position other := by
  constructor
  · rintro ⟨rule, found⟩
    obtain ⟨listed, passes, first⟩ :=
      (policy.tools.find?_eq_some_iff_first _ _ _).mp found
    refine ⟨⟨rule, listed, passes⟩, ?_⟩
    rintro other ⟨otherRule, otherListed, otherPasses⟩
    exact first other otherRule otherListed otherPasses
  · rintro ⟨⟨rule, listed, passes⟩, first⟩
    refine ⟨rule, (policy.tools.find?_eq_some_iff_first _ _ _).mpr ⟨listed, passes, ?_⟩⟩
    intro other otherRule otherListed otherPasses
    exact first other ⟨otherRule, otherListed, otherPasses⟩

/-- Policies of one hash select the same rule and decide alike on every tool and
context exactly when they agree on the order of the wildcard rules that contend. -/
theorem same_hash_selects_iff (injective : Function.Injective sha256Hex)
    {left right : PolicyFile} (leftAccepted : left.accepted = true)
    (rightAccepted : right.accepted = true) (same : left.versionHash = right.versionHash) :
    (∀ toolName context, (evaluatePolicyTrace left toolName context).selection =
        (evaluatePolicyTrace right toolName context).selection) ↔
      WildcardOrderAgrees left right := by
  have agree := policiesAgree_of_hash injective leftAccepted rightAccepted same
  constructor
  · intro selects toolName context open_exact first contender earliest other otherContends
    obtain ⟨rule, found⟩ :=
      (find?_contends_iff left toolName context first).mpr ⟨contender, earliest⟩
    have rightOpen := (agree.exact toolName context).1.symm.trans open_exact
    have selected := selects toolName context
    rw [selection_wildcard open_exact found] at selected
    cases rightFound : right.tools.entries.find? (contends toolName context) with
    | none =>
        rw [selection_default rightOpen rightFound] at selected
        cases congrArg Selection.matchType selected
    | some entry =>
        obtain ⟨pattern, rightRule⟩ := entry
        rw [selection_wildcard rightOpen rightFound] at selected
        obtain rfl : first = pattern := congrArg Selection.matchedRule selected
        exact ((find?_contends_iff right toolName context first).mp ⟨rightRule, rightFound⟩).2
          other (agree.contends otherContends)
  · intro ordered toolName context
    obtain ⟨sameExact, sameDecision⟩ := agree.exact toolName context
    cases applies : exactApplies left toolName context with
    | true => rw [selection_exact applies, selection_exact (sameExact.symm.trans applies),
        sameDecision]
    | false =>
        have rightOpen := sameExact.symm.trans applies
        cases found : left.tools.entries.find? (contends toolName context) with
        | none =>
            have missing : right.tools.entries.find? (contends toolName context) = none := by
              cases rightFound : right.tools.entries.find? (contends toolName context) with
              | none => rfl
              | some entry =>
                  have contender := ((find?_contends_iff right toolName context entry.1).mp
                    ⟨entry.2, rightFound⟩).1
                  obtain ⟨rule, listed, passes⟩ := agree.symm.contends contender
                  have refused := List.find?_eq_none.mp found _
                    ((left.tools.get?_eq_some_iff _ _).mp listed)
                  exact absurd passes refused
            rw [selection_default applies found, selection_default rightOpen missing,
              agree.default.decision]
        | some entry =>
            obtain ⟨pattern, rule⟩ := entry
            obtain ⟨contender, earliest⟩ :=
              (find?_contends_iff left toolName context pattern).mp ⟨rule, found⟩
            have rightFirst := ordered toolName context applies pattern contender earliest
            obtain ⟨rightRule, rightFound⟩ :=
              (find?_contends_iff right toolName context pattern).mpr
                ⟨agree.contends contender, fun other otherContends =>
                  rightFirst other (agree.symm.contends otherContends)⟩
            rw [selection_wildcard applies found, selection_wildcard rightOpen rightFound]
            obtain ⟨listed, _, _⟩ := (left.tools.find?_eq_some_iff_first _ _ _).mp found
            obtain ⟨rightListed, _, _⟩ := (right.tools.find?_eq_some_iff_first _ _ _).mp rightFound
            obtain ⟨other, otherListed, rules⟩ := agree.rule listed
            obtain rfl : rightRule = other :=
              Option.some.inj (rightListed.symm.trans otherListed)
            rw [rules.decision]

/-- Listing overlapping wildcard patterns in one order is enough. -/
theorem wildcardOrderAgrees_of_overlaps {left right : PolicyFile}
    (ordered : ∀ first second, isWildcard first = true → isWildcard second = true →
      TextScan.startsWith second (TextScan.dropLast first) = true ∨
        TextScan.startsWith first (TextScan.dropLast second) = true →
      left.tools.position first ≤ left.tools.position second →
      right.tools.position first ≤ right.tools.position second) :
    WildcardOrderAgrees left right := by
  intro toolName context _ first contender earliest other otherContends
  have before := earliest other otherContends
  obtain ⟨_, _, passes⟩ := contender
  obtain ⟨_, _, otherPasses⟩ := otherContends
  simp only [contends, wildcardCovers, Bool.and_eq_true] at passes otherPasses
  refine ordered first other passes.1.1 otherPasses.1.1 ?_ before
  have firstCovers := passes.1.2
  have otherCovers := otherPasses.1.2
  simp only [TextScan.startsWith, List.isPrefixOf_iff_prefix] at firstCovers otherCovers ⊢
  have shorter : ∀ pattern : String,
      (TextScan.dropLast pattern).toList <+: pattern.toList := by
    intro pattern
    rw [TextScan.dropLast, String.toList_ofList]
    exact List.dropLast_prefix _
  rcases List.prefix_or_prefix_of_prefix firstCovers otherCovers with inside | around
  · exact Or.inl (inside.trans (shorter other))
  · exact Or.inr (around.trans (shorter first))

end

private def narrowFirst : PolicyFile :=
  { version := JsonNumber.ofDigit 1 Nat.one_ne_zero
    default := PolicyRule.plain .required
    tools := (KeyedTable.empty.set "a.b.*" (PolicyRule.plain .deny)).set "a.*"
      (PolicyRule.plain .never) }

private def wideFirst : PolicyFile :=
  { narrowFirst with
    tools := (KeyedTable.empty.set "a.*" (PolicyRule.plain .never)).set "a.b.*"
      (PolicyRule.plain .deny) }

private def policyDigests : List (String × String) :=
  [("\x7b\"default\":\x7b\"approval\":\"required\"\x7d,\"tools\":\x7b\"a.*\":" ++
      "\x7b\"approval\":\"never\"\x7d,\"a.b.*\":\x7b\"approval\":\"deny\"\x7d\x7d," ++
      "\"version\":1\x7d",
    "08b7eaf2ce569a0996ea6179669f0106b695e51dd3fdf101b447e2a37ea4a352")]

private def emptyContext : PolicyEvaluationContext :=
  { amount := none
    approverGroup := none
    currency := none
    customerVisible := none
    input := none
    metadata := none
    operationKind := none
    recipientDomain := none
    risk := none }

set_option maxRecDepth 20000 in
private theorem sameHash_orders : @PolicyFile.versionHash (sampleRuntime policyDigests) wideFirst =
    @PolicyFile.versionHash (sampleRuntime policyDigests) narrowFirst := by
  have sameText : textWith (@localeOrder (sampleRuntime policyDigests)) wideFirst.json =
      textWith (@localeOrder (sampleRuntime policyDigests)) narrowFirst.json := by decide
  exact congrArg (fun text => @sha256Hex (sampleRuntime policyDigests) (String.ofList text))
    sameText

/-- One hash, two orders of the same wildcard rules: allowed by one, denied by the other. -/
theorem same_hash_other_decision :
    Function.Injective (@sha256Hex (sampleRuntime policyDigests)) ∧
      wideFirst.accepted = true ∧ narrowFirst.accepted = true ∧
      @PolicyFile.versionHash (sampleRuntime policyDigests) wideFirst =
        @PolicyFile.versionHash (sampleRuntime policyDigests) narrowFirst ∧
      (@evaluatePolicyTrace (sampleRuntime policyDigests) wideFirst "a.b.c" emptyContext).decision =
        .allow ∧
      (@evaluatePolicyTrace (sampleRuntime policyDigests) narrowFirst "a.b.c"
        emptyContext).decision = .deny :=
  ⟨knownDigest_injective (by decide) (by decide), by decide, by decide, sameHash_orders,
    by decide, by decide⟩

theorem same_hash_selects_iff_orders :
    (∀ toolName context,
        (@evaluatePolicyTrace (sampleRuntime policyDigests) wideFirst toolName context).selection =
        (@evaluatePolicyTrace (sampleRuntime policyDigests) narrowFirst toolName
          context).selection) ↔
      @WildcardOrderAgrees (sampleRuntime policyDigests) wideFirst narrowFirst :=
  @same_hash_selects_iff (sampleRuntime policyDigests)
    (knownDigest_injective (by decide) (by decide)) wideFirst narrowFirst (by decide) (by decide)
    sameHash_orders

end ActionProxy
