import ActionProxy.Policy.ContentInfluenceGuard
import ActionProxy.Policy.PolicyHash

/-!
The documented precedence of policy rules, stated of a policy and not of its
evaluator, and where the evaluator meets it: everywhere but for a tool that has
no rule of its own and the name of a member that every object inherits.
-/

namespace ActionProxy

open JsonText

/-! ### The reference -/

/-- A terminal wildcard: a namespace, a point and a star, and the tool is in the namespace. -/
def CoversTool (pattern toolName : String) : Prop :=
  ∃ space, pattern.toList = space ++ ['.', '*'] ∧ space ++ ['.'] <+: toolName.toList

/-- A rule evaluation is marked as selected, it alone, and it is the last. -/
structure LastSelected (evaluations : List PolicyTraceRuleEvaluation)
    (matchType : PolicyTraceMatchType) (pattern : String) : Prop where
  split : ∃ before last, evaluations = before ++ [last] ∧ last.selected = true ∧
    last.matchType = matchType ∧ last.pattern = pattern ∧
    ∀ evaluation ∈ before, evaluation.selected = false

section

variable [Runtime]

/-- All conditions of the rule match. -/
def RuleHolds (rule : PolicyRule) (toolName : String) (context : PolicyEvaluationContext) : Prop :=
  ∀ condition ∈ rule.conditions.getD [],
    (evaluateCondition condition.1 condition.2 toolName context).2 = true

def WildcardHolds (toolName : String) (context : PolicyEvaluationContext)
    (entry : String × PolicyRule) : Prop :=
  CoversTool entry.1 toolName ∧ RuleHolds entry.2 toolName context

def ExactHolds (policy : PolicyFile) (toolName : String) (context : PolicyEvaluationContext) :
    Prop :=
  ∃ rule, policy.tools.get? toolName = some rule ∧ RuleHolds rule toolName context

/-- The rule a policy documents for a tool and a context, and how it is found. -/
inductive ReferenceSelects (policy : PolicyFile) (toolName : String)
    (context : PolicyEvaluationContext) : PolicyTraceMatchType → String → PolicyRule → Prop where
  | exact {rule : PolicyRule} (listed : policy.tools.get? toolName = some rule)
      (holds : RuleHolds rule toolName context) :
      ReferenceSelects policy toolName context .exact toolName rule
  | wildcard {before after : List (String × PolicyRule)} {pattern : String} {rule : PolicyRule}
      (noExact : ¬ ExactHolds policy toolName context)
      (listed : policy.tools.entries = before ++ (pattern, rule) :: after)
      (holds : WildcardHolds toolName context (pattern, rule))
      (first : ∀ entry ∈ before, ¬ WildcardHolds toolName context entry) :
      ReferenceSelects policy toolName context .wildcard pattern rule
  | default (noExact : ¬ ExactHolds policy toolName context)
      (noWildcard : ∀ entry ∈ policy.tools.entries, ¬ WildcardHolds toolName context entry) :
      ReferenceSelects policy toolName context .default "default" policy.default

/-- What an evaluation says of the selected rule is what the reference says. -/
structure MeetsReference (policy : PolicyFile) (toolName : String)
    (context : PolicyEvaluationContext) (trace : PolicyEvaluationTrace) : Prop where
  selected : ∃ rule,
    ReferenceSelects policy toolName context trace.matchType trace.matchedRule rule ∧
      trace.evaluation.rule = some rule ∧ trace.decision = decisionForApproval (some rule.approval)
  marked : LastSelected trace.ruleEvaluations trace.matchType trace.matchedRule

/-! ### The evaluator's tests -/

theorem ruleHolds_iff (rule : PolicyRule) (toolName : String) (context : PolicyEvaluationContext) :
    RuleHolds rule toolName context ↔ conditionsMatch rule.conditions toolName context = true :=
  (conditionsMatch_iff rule.conditions toolName context).symm

omit [Runtime] in
theorem coversTool_iff (pattern toolName : String) :
    CoversTool pattern toolName ↔ wildcardCovers pattern toolName = true := by
  simp only [wildcardCovers, isWildcard, TextScan.endsWith, TextScan.startsWith, TextScan.dropLast,
    Bool.and_eq_true, List.isSuffixOf_iff_suffix, List.isPrefixOf_iff_prefix, String.toList_ofList]
  have shorter : ∀ space : List Char, (space ++ ['.', '*']).dropLast = space ++ ['.'] := by
    intro space
    rw [show space ++ ['.', '*'] = (space ++ ['.']) ++ ['*'] by simp, List.dropLast_concat]
  constructor
  · rintro ⟨space, ends, starts⟩
    rw [ends, shorter]
    exact ⟨⟨space, rfl⟩, starts⟩
  · rintro ⟨⟨space, ends⟩, starts⟩
    refine ⟨space, ends.symm, ?_⟩
    rw [← ends] at starts
    exact (shorter space) ▸ starts

theorem wildcardHolds_iff (toolName : String) (context : PolicyEvaluationContext)
    (entry : String × PolicyRule) :
    WildcardHolds toolName context entry ↔ contends toolName context entry = true := by
  rw [WildcardHolds, contends, Bool.and_eq_true, coversTool_iff, ruleHolds_iff]

theorem findWildcardRule_marks (toolName : String) (context : PolicyEvaluationContext)
    (entries : List (String × PolicyRule)) :
    ((findWildcardRule toolName context entries).2 = none →
        ∀ evaluation ∈ (findWildcardRule toolName context entries).1,
          evaluation.selected = false) ∧
      ∀ pattern rule, (findWildcardRule toolName context entries).2 = some (pattern, rule) →
        LastSelected (findWildcardRule toolName context entries).1 .wildcard pattern := by
  induction entries with
  | nil =>
      constructor
      · intro _ evaluation listed
        cases listed
      · intro pattern rule found
        cases found
  | cons entry rest ih =>
      obtain ⟨pattern, rule⟩ := entry
      rw [findWildcardRule]
      cases covers : wildcardCovers pattern toolName with
      | false => exact ih
      | true =>
          cases matched : conditionsMatch rule.conditions toolName context with
          | true =>
              constructor
              · intro missing
                cases missing
              intro _ _ found
              cases found
              refine ⟨[], _, rfl, matched, rfl, rfl, ?_⟩
              intro evaluation listed
              cases listed
          | false =>
              constructor
              · intro missing evaluation listed
                rcases List.mem_cons.mp listed with rfl | later
                · exact matched
                · exact ih.1 missing evaluation later
              · intro other otherRule found
                obtain ⟨before, last, split, selected, kind, named, unmarked⟩ :=
                  (ih.2 other otherRule found).split
                refine ⟨wildcardEvaluation pattern rule toolName context :: before, last,
                  congrArg _ split, selected, kind, named, ?_⟩
                intro evaluation listed
                rcases List.mem_cons.mp listed with rfl | later
                · exact matched
                · exact unmarked evaluation later

omit [Runtime] in
theorem LastSelected.after {evaluations tried : List PolicyTraceRuleEvaluation}
    {matchType : PolicyTraceMatchType} {pattern : String}
    (marked : LastSelected evaluations matchType pattern)
    (unmarked : ∀ evaluation ∈ tried, evaluation.selected = false) :
    LastSelected (tried ++ evaluations) matchType pattern := by
  obtain ⟨before, last, split, selected, kind, named, others⟩ := marked.split
  refine ⟨tried ++ before, last, ?_, selected, kind, named, ?_⟩
  · rw [split, List.append_assoc]
  · intro evaluation listed
    rcases List.mem_append.mp listed with early | late
    · exact unmarked evaluation early
    · exact others evaluation late

omit [Runtime] in
theorem toEvaluation_rule (rule : Option PolicyRule) (pattern : String) :
    (toEvaluation rule pattern).rule = rule := by
  unfold toEvaluation
  split <;> rfl

/-! ### Where the evaluator meets it -/

/-- The lookup finds only what the policy lists. -/
def OwnRuleOnly (policy : PolicyFile) (toolName : String) : Prop :=
  toolName ∈ prototypeNames → (policy.tools.get? toolName).isSome = true

omit [Runtime] in
theorem findExactRule_own {policy : PolicyFile} {toolName : String}
    (own : OwnRuleOnly policy toolName) :
    findExactRule policy toolName = (policy.tools.get? toolName).map some := by
  unfold findExactRule
  cases found : policy.tools.get? toolName with
  | some rule => rfl
  | none =>
      have unnamed : prototypeNames.contains toolName = false := by
        rw [Bool.eq_false_iff]
        intro named
        have listed := own (List.contains_iff_mem.mp named)
        rw [found] at listed
        cases listed
      rw [unnamed]
      rfl

theorem exactHolds_iff {policy : PolicyFile} {toolName : String}
    {context : PolicyEvaluationContext} (own : OwnRuleOnly policy toolName) :
    ExactHolds policy toolName context ↔ exactApplies policy toolName context = true := by
  rw [exactApplies, findExactRule_own own, ExactHolds]
  cases policy.tools.get? toolName with
  | none => simp
  | some rule => simp [ruleHolds_iff]

theorem exact_unmarked {policy : PolicyFile} {toolName : String}
    {context : PolicyEvaluationContext} (open_exact : exactApplies policy toolName context = false) :
    ∀ evaluation ∈ ((findExactRule policy toolName).map (fun rule =>
        exactEvaluation rule toolName context)).toList, evaluation.selected = false := by
  intro evaluation listed
  cases found : findExactRule policy toolName with
  | none =>
      rw [found] at listed
      cases listed
  | some rule =>
      rw [found] at listed
      rw [exactApplies, found] at open_exact
      obtain rfl := List.mem_singleton.mp listed
      exact open_exact

theorem meetsReference_of_own {policy : PolicyFile} {toolName : String}
    (own : OwnRuleOnly policy toolName) (context : PolicyEvaluationContext) :
    MeetsReference policy toolName context (evaluatePolicyTrace policy toolName context) := by
  unfold evaluatePolicyTrace
  cases applies : exactApplies policy toolName context with
  | true =>
      obtain ⟨rule, listed, holds⟩ := (exactHolds_iff own).mpr applies
      have found : findExactRule policy toolName = some (some rule) := by
        rw [findExactRule_own own, listed]
        rfl
      simp only [found, if_true]
      constructor
      · refine ⟨rule, ?_, toEvaluation_rule _ _, (toEvaluation_decision rule toolName).1⟩
        simp only [traceOf, toEvaluation_matchedRule]
        exact ReferenceSelects.exact listed holds
      · simp only [traceOf, toEvaluation_matchedRule]
        refine ⟨[], _, rfl, (ruleHolds_iff rule toolName context).mp holds, rfl, rfl, ?_⟩
        intro evaluation unlisted
        cases unlisted
  | false =>
      have noExact : ¬ ExactHolds policy toolName context := by
        rw [exactHolds_iff own, applies]
        exact Bool.false_ne_true
      have marks := findWildcardRule_marks toolName context policy.tools.entries
      have search := findWildcardRule_eq toolName context policy.tools.entries
      have tried := exact_unmarked applies
      simp only [Bool.false_eq_true, if_false]
      cases found : (findWildcardRule toolName context policy.tools.entries).2 with
      | some entry =>
          obtain ⟨pattern, rule⟩ := entry
          rw [found] at search
          obtain ⟨contender, before, after, listed, first⟩ :=
            List.find?_eq_some_iff_append.mp search.symm
          constructor
          · refine ⟨rule, ?_, toEvaluation_rule _ _, (toEvaluation_decision rule pattern).1⟩
            simp only [traceOf, toEvaluation_matchedRule]
            refine ReferenceSelects.wildcard noExact listed
              ((wildcardHolds_iff toolName context _).mpr contender) ?_
            intro entry earlier
            rw [wildcardHolds_iff]
            simpa using first entry earlier
          · simp only [traceOf, toEvaluation_matchedRule]
            exact (marks.2 pattern rule found).after tried
      | none =>
          rw [found] at search
          have missing := List.find?_eq_none.mp search.symm
          constructor
          · refine ⟨policy.default, ?_, toEvaluation_rule _ _,
              (toEvaluation_decision policy.default "default").1⟩
            simp only [traceOf, toEvaluation_matchedRule]
            refine ReferenceSelects.default noExact ?_
            intro entry listed
            rw [wildcardHolds_iff]
            exact missing entry listed
          · simp only [traceOf, toEvaluation_matchedRule]
            have last : LastSelected [defaultEvaluation] .default "default" :=
              ⟨[], _, rfl, rfl, rfl, rfl, fun _ unlisted => absurd unlisted List.not_mem_nil⟩
            apply last.after
            intro evaluation listed
            rcases List.mem_append.mp listed with early | late
            · exact tried evaluation early
            · exact marks.1 found evaluation late

/-- A name found on the object prototype denies without any rule of the policy. -/
theorem evaluation_inherited {policy : PolicyFile} {toolName : String}
    (inherited : toolName ∈ prototypeNames) (missing : policy.tools.get? toolName = none)
    (context : PolicyEvaluationContext) :
    (evaluatePolicyTrace policy toolName context).evaluation.rule = none := by
  have found : findExactRule policy toolName = some none := by
    rw [findExactRule, missing, List.contains_iff_mem.mpr inherited]
    rfl
  have applies : exactApplies policy toolName context = true := by
    rw [exactApplies, found]
    rfl
  rw [evaluatePolicyTrace, if_pos applies, found]
  exact toEvaluation_rule _ _

/-- The evaluator meets the documented reference on every context exactly for the
tools whose name, if every object inherits it, is one the policy lists. -/
theorem evaluation_meets_reference_iff (policy : PolicyFile) (toolName : String)
    (context : PolicyEvaluationContext) :
    MeetsReference policy toolName context (evaluatePolicyTrace policy toolName context) ↔
      OwnRuleOnly policy toolName := by
  constructor
  · intro meets inherited
    obtain ⟨rule, _, selected, _⟩ := meets.selected
    cases found : policy.tools.get? toolName with
    | some own => rfl
    | none =>
        rw [evaluation_inherited inherited found context] at selected
        cases selected
  · intro own
    exact meetsReference_of_own own context

end

def permissivePolicy : PolicyFile :=
  { version := JsonNumber.ofDigit 1 Nat.one_ne_zero
    default := PolicyRule.plain .never
    tools := KeyedTable.empty }

def contextless : PolicyEvaluationContext :=
  { amount := none
    approverGroup := none
    currency := none
    customerVisible := none
    input := none
    metadata := none
    operationKind := none
    recipientDomain := none
    risk := none }

/-- A policy of a permissive default rule alone denies the tool `constructor`. -/
theorem constructor_misses_reference :
    permissivePolicy.accepted = true ∧
      (@evaluatePolicyTrace (sampleRuntime []) permissivePolicy "constructor" contextless).decision =
        .deny ∧
      @ReferenceSelects (sampleRuntime []) permissivePolicy "constructor" contextless .default "default"
        permissivePolicy.default ∧
      ¬ @MeetsReference (sampleRuntime []) permissivePolicy "constructor" contextless
        (@evaluatePolicyTrace (sampleRuntime []) permissivePolicy "constructor" contextless) := by
  let _ := sampleRuntime []
  refine ⟨by decide, by decide, ?_, ?_⟩
  · refine ReferenceSelects.default ?_ ?_
    · rintro ⟨rule, listed, _⟩
      cases listed
    · intro entry unlisted
      cases unlisted
  · intro meets
    obtain ⟨rule, _, selected, _⟩ := meets.selected
    cases selected

end ActionProxy
