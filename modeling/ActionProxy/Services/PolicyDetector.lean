import ActionProxy.Policy.PolicyReference

/-!
The coverage the detector reports for a tool. It reads the kind of the matching rule off
the text of its key, where the evaluator tells it by how the rule was found.
-/

namespace ActionProxy

open JsonText

inductive CoverageStatus where
  | covered
  | uncovered
  deriving DecidableEq

structure ObservedToolCoverage where
  approval : Option ApprovalMode
  decision : PolicyDecision
  matchedRule : String
  matchType : PolicyTraceMatchType
  reason : String
  risk : String
  status : CoverageStatus

/-- The default of the context parameter. -/
def PolicyEvaluationContext.none : PolicyEvaluationContext :=
  { amount := Option.none
    approverGroup := Option.none
    currency := Option.none
    customerVisible := Option.none
    input := Option.none
    metadata := Option.none
    operationKind := Option.none
    recipientDomain := Option.none
    risk := Option.none }

section

variable [Runtime]

def coverageForPolicy (policy : PolicyFile) (toolName : String) : ObservedToolCoverage :=
  let evaluation := evaluatePolicy policy toolName .none
  { approval := evaluation.approval
    decision := evaluation.decision
    matchedRule := evaluation.matchedRule
    matchType :=
      if evaluation.matchedRule = "default" then .default
      else if isWildcard evaluation.matchedRule then .wildcard
      else .exact
    reason := evaluation.reason
    risk := evaluation.risk
    status := if evaluation.matchedRule = "default" then .uncovered else .covered }

/-! ### Rules without conditions -/

/-- The rule that was selected has no conditions. -/
def PolicyEvaluationTrace.Unconditional (trace : PolicyEvaluationTrace) : Prop :=
  (trace.evaluation.rule.bind PolicyRule.conditions).getD [] = []

theorem conditionsMatch_of_none {conditions : Option (List (String × Json))}
    (none : conditions.getD [] = []) (toolName : String) (context : PolicyEvaluationContext) :
    conditionsMatch conditions toolName context = true := by
  rw [conditionsMatch_iff, none]
  intro condition listed
  cases listed

def ConditionValues.none : ConditionValues :=
  { approverGroup := Option.none
    amount := Option.none
    currency := Option.none
    customerVisible := Option.none
    operationKind := Option.none
    recipientDomain := Option.none
    risk := Option.none }

theorem conditionValues_none : conditionValues .none = .none := rfl

omit [Runtime] in
theorem matchesBoolean_none (expected : Json) : matchesBoolean expected none = false := by
  cases expected <;> rfl

/-- Without a context only a condition on the tool itself matches, and it does in every
context. -/
theorem evaluateCondition_of_none {key : String} {expected : Json} {toolName : String}
    (matched : (evaluateCondition key expected toolName .none).2 = true)
    (context : PolicyEvaluationContext) :
    (evaluateCondition key expected toolName context).2 = true := by
  have unmatched : ∀ {text : Option String}, text = none → matchesOne expected text = false := by
    rintro _ rfl
    rfl
  unfold evaluateCondition at matched ⊢
  rw [conditionValues_none] at matched
  unfold evaluateConditionOn at matched ⊢
  split at matched
  · exact matched
  · cases (unmatched rfl).symm.trans matched
  · cases matched
  · cases matched
  · cases (unmatched rfl).symm.trans matched
  · cases (matchesBoolean_none expected).symm.trans matched
  · cases (unmatched rfl).symm.trans matched
  · cases (unmatched rfl).symm.trans matched
  · cases (unmatched rfl).symm.trans matched
  · cases (unmatched rfl).symm.trans matched
  · cases (unmatched rfl).symm.trans matched
  · cases matched

theorem conditionsMatch_of_contextless {conditions : Option (List (String × Json))}
    {toolName : String} (matched : conditionsMatch conditions toolName .none = true)
    (context : PolicyEvaluationContext) : conditionsMatch conditions toolName context = true := by
  rw [conditionsMatch_iff] at matched ⊢
  intro condition listed
  exact evaluateCondition_of_none (matched condition listed) context

/-! ### The same rule without the context -/

theorem exactApplies_of_contextless {policy : PolicyFile} {toolName : String}
    (applies : exactApplies policy toolName .none = true) (context : PolicyEvaluationContext) :
    exactApplies policy toolName context = true := by
  unfold exactApplies at applies ⊢
  cases found : findExactRule policy toolName with
  | none =>
      rw [found] at applies
      cases applies
  | some rule =>
      rw [found] at applies
      exact conditionsMatch_of_contextless applies context

omit [Runtime] in
/-- The first entry a weaker test finds is the first of a stronger one that it passes. -/
theorem find?_of_weaker {α : Type} {strong weak : α → Bool} {entries : List α} {entry : α}
    (weaker : ∀ entry, strong entry = true → weak entry = true)
    (found : entries.find? weak = some entry) (passes : strong entry = true) :
    entries.find? strong = some entry := by
  induction entries with
  | nil => cases found
  | cons head rest ih =>
      by_cases tests : weak head = true
      · rw [List.find?_cons_of_pos tests] at found
        cases found
        rw [List.find?_cons_of_pos passes]
      · have fails : ¬ strong head = true := fun holds => tests (weaker head holds)
        rw [List.find?_cons_of_neg tests] at found
        rw [List.find?_cons_of_neg fails]
        exact ih found

theorem contends_of_contextless {toolName : String} {entry : String × PolicyRule}
    (passes : contends toolName .none entry = true) (context : PolicyEvaluationContext) :
    contends toolName context entry = true := by
  unfold contends at passes ⊢
  rw [Bool.and_eq_true] at passes ⊢
  exact ⟨passes.1, conditionsMatch_of_contextless passes.2 context⟩

/-- How the rule of a trace was found, with the trace's evaluation. -/
inductive Found (policy : PolicyFile) (toolName : String) (context : PolicyEvaluationContext) :
    PolicyTraceMatchType → PolicyEvaluation → Prop where
  | exact (applies : exactApplies policy toolName context = true) :
      Found policy toolName context .exact
        (toEvaluation ((findExactRule policy toolName).bind id) toolName)
  | wildcard (pattern : String) (rule : PolicyRule)
      (unapplied : exactApplies policy toolName context = false)
      (found : policy.tools.entries.find? (contends toolName context) = some (pattern, rule)) :
      Found policy toolName context .wildcard (toEvaluation (some rule) pattern)
  | default (unapplied : exactApplies policy toolName context = false)
      (missing : policy.tools.entries.find? (contends toolName context) = none) :
      Found policy toolName context .default (toEvaluation (some policy.default) "default")

theorem found (policy : PolicyFile) (toolName : String) (context : PolicyEvaluationContext) :
    Found policy toolName context (evaluatePolicyTrace policy toolName context).matchType
      (evaluatePolicyTrace policy toolName context).evaluation := by
  unfold evaluatePolicyTrace
  dsimp only
  rw [findWildcardRule_eq]
  cases applies : exactApplies policy toolName context with
  | true =>
      rw [if_pos rfl]
      exact .exact applies
  | false =>
      rw [if_neg Bool.false_ne_true]
      cases search : policy.tools.entries.find? (contends toolName context) with
      | none => exact .default applies search
      | some entry => exact .wildcard entry.1 entry.2 applies search

theorem Found.unique {policy : PolicyFile} {toolName : String} {context : PolicyEvaluationContext}
    {matchType otherType : PolicyTraceMatchType} {evaluation otherEvaluation : PolicyEvaluation}
    (one : Found policy toolName context matchType evaluation)
    (other : Found policy toolName context otherType otherEvaluation) :
    matchType = otherType ∧ evaluation = otherEvaluation := by
  cases one with
  | exact applies =>
      cases other with
      | exact => exact ⟨rfl, rfl⟩
      | wildcard _ _ unapplied => cases applies.symm.trans unapplied
      | default unapplied => cases applies.symm.trans unapplied
  | wildcard pattern rule unapplied found =>
      cases other with
      | exact applies => cases applies.symm.trans unapplied
      | wildcard _ _ _ also =>
          cases found.symm.trans also
          exact ⟨rfl, rfl⟩
      | default _ missing => cases found.symm.trans missing
  | default unapplied missing =>
      cases other with
      | exact applies => cases applies.symm.trans unapplied
      | wildcard _ _ _ found => cases found.symm.trans missing
      | default => exact ⟨rfl, rfl⟩

/-- A rule without conditions that is found in some context is found without one. -/
theorem Found.contextless {policy : PolicyFile} {toolName : String}
    {context : PolicyEvaluationContext} {matchType : PolicyTraceMatchType}
    {evaluation : PolicyEvaluation} (found : Found policy toolName context matchType evaluation)
    (unconditional : (evaluation.rule.bind PolicyRule.conditions).getD [] = []) :
    Found policy toolName .none matchType evaluation := by
  have still (unapplied : exactApplies policy toolName context = false) :
      exactApplies policy toolName .none = false := by
    rw [← Bool.not_eq_true] at unapplied ⊢
    exact fun applies => unapplied (exactApplies_of_contextless applies context)
  cases found with
  | exact applies =>
      refine .exact ?_
      rw [toEvaluation_rule] at unconditional
      unfold exactApplies at applies ⊢
      cases own : findExactRule policy toolName with
      | none =>
          rw [own] at applies
          cases applies
      | some rule =>
          rw [own] at unconditional
          exact conditionsMatch_of_none unconditional toolName .none
  | wildcard pattern rule unapplied found =>
      refine .wildcard pattern rule (still unapplied) ?_
      rw [toEvaluation_rule] at unconditional
      have passes := List.find?_some found
      refine find?_of_weaker (fun entry holds => contends_of_contextless holds context) found ?_
      unfold contends at passes ⊢
      rw [Bool.and_eq_true] at passes ⊢
      exact ⟨passes.1, conditionsMatch_of_none unconditional toolName .none⟩
  | default unapplied missing =>
      refine .default (still unapplied) ?_
      rw [List.find?_eq_none] at missing ⊢
      intro entry listed holds
      exact missing entry listed (contends_of_contextless holds context)

/-! ### Coverage and evaluation -/

/-- The report says of the tool what the evaluation does of the call. -/
structure Agrees (coverage : ObservedToolCoverage) (trace : PolicyEvaluationTrace) : Prop where
  matchType : coverage.matchType = trace.matchType
  status : coverage.status = .covered ↔ trace.matchType ≠ .default
  decision : coverage.decision = trace.decision

/-- The rule of the tool's own name applies, and the name reads as a wildcard or as the
default. -/
def Misread (policy : PolicyFile) (toolName : String) (context : PolicyEvaluationContext) : Prop :=
  exactApplies policy toolName context = true ∧
    (toolName = "default" ∨ isWildcard toolName = true)

theorem decision_trace (policy : PolicyFile) (toolName : String)
    (context : PolicyEvaluationContext) :
    (evaluatePolicyTrace policy toolName context).decision =
      (evaluatePolicyTrace policy toolName context).evaluation.decision := by
  unfold evaluatePolicyTrace
  dsimp only
  split
  · rfl
  · split
    · rfl
    · rfl

theorem read_kind_iff {policy : PolicyFile} {toolName : String}
    {context : PolicyEvaluationContext} {matchType : PolicyTraceMatchType}
    {evaluation : PolicyEvaluation} (found : Found policy toolName context matchType evaluation) :
    ((if evaluation.matchedRule = "default" then PolicyTraceMatchType.default
        else if isWildcard evaluation.matchedRule then .wildcard else .exact) = matchType) ↔
      ¬ Misread policy toolName context := by
  unfold Misread
  cases found with
  | exact applies =>
      rw [toEvaluation_matchedRule, applies]
      by_cases default : toolName = "default"
      · simp [default]
      · rw [if_neg default]
        by_cases wildcard : isWildcard toolName = true
        · simp [wildcard]
        · simp [default, wildcard]
  | wildcard pattern rule unapplied found =>
      have passes := List.find?_some found
      simp only [contends, wildcardCovers, Bool.and_eq_true] at passes
      have other : pattern ≠ "default" := by
        rintro rfl
        exact absurd passes.1.1 (by decide)
      rw [toEvaluation_matchedRule, if_neg other, if_pos passes.1.1, unapplied]
      simp
  | default unapplied =>
      rw [toEvaluation_matchedRule, if_pos rfl, unapplied]
      simp

/-- The report agrees with every call whose rule has no conditions, but for a tool whose
own rule applies and whose name reads as a key of another kind. -/
theorem coverage_agrees_iff (policy : PolicyFile) (toolName : String)
    (context : PolicyEvaluationContext)
    (unconditional : (evaluatePolicyTrace policy toolName context).Unconditional) :
    Agrees (coverageForPolicy policy toolName) (evaluatePolicyTrace policy toolName context) ↔
      ¬ Misread policy toolName context := by
  have called := found policy toolName context
  obtain ⟨-, same⟩ := (called.contextless unconditional).unique (found policy toolName .none)
  have evaluation : evaluatePolicy policy toolName .none =
      (evaluatePolicyTrace policy toolName context).evaluation := same.symm
  have reported : (coverageForPolicy policy toolName).decision =
      (evaluatePolicyTrace policy toolName context).decision := by
    rw [decision_trace, ← evaluation]
    rfl
  have kind : (coverageForPolicy policy toolName).matchType =
      (evaluatePolicyTrace policy toolName context).matchType ↔
        ¬ Misread policy toolName context := by
    rw [← read_kind_iff called, ← evaluation]
    rfl
  have status : (coverageForPolicy policy toolName).status = .covered ↔
      (coverageForPolicy policy toolName).matchType ≠ .default := by
    dsimp only [coverageForPolicy]
    split
    · simp
    · split
      · simp
      · simp
  constructor
  · exact fun agrees => kind.mp agrees.matchType
  · intro read
    have matchType := kind.mpr read
    exact ⟨matchType, matchType ▸ status, reported⟩

end

section

private def starredPolicy : PolicyFile :=
  { version := JsonNumber.ofDigit 1 Nat.one_ne_zero
    default := PolicyRule.plain .deny
    tools := KeyedTable.empty.set "docs.*" (PolicyRule.plain .never) }

/-- The rule of the tool `docs.*` itself is reported as a wildcard. -/
theorem starred_tool_misread :
    starredPolicy.accepted = true ∧
      (@evaluatePolicyTrace (sampleRuntime []) starredPolicy "docs.*" .none).Unconditional ∧
      ¬ @Agrees (@coverageForPolicy (sampleRuntime []) starredPolicy "docs.*")
        (@evaluatePolicyTrace (sampleRuntime []) starredPolicy "docs.*" .none) := by
  refine ⟨by decide, rfl, ?_⟩
  intro agrees
  exact absurd agrees.matchType (by decide)

theorem listed_tool_agrees :
    Agrees (@coverageForPolicy (sampleRuntime []) starredPolicy "docs.search")
      (@evaluatePolicyTrace (sampleRuntime []) starredPolicy "docs.search" .none) :=
  (@coverage_agrees_iff (sampleRuntime []) starredPolicy "docs.search" .none rfl).mpr
    (fun misread => absurd misread.1 (by decide))

end

end ActionProxy
