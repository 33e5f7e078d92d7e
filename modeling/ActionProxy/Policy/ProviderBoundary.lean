import ActionProxy.Policy.AnyProvider

/-!
What the provider boundary lets through. A policy that the schema accepts always passes
the hand-written checks of its own provider, and a provider of any kind either denies or
returns a trace that decides what the approval of its own rule maps to.
-/

namespace ActionProxy

open JsonText

/-! ### The policy of the server -/

theorem isPolicyRule_of_accepted {rule : PolicyRule} (accepted : rule.accepted = true) :
    isPolicyRule rule = true := by
  simp only [PolicyRule.accepted, Bool.and_eq_true] at accepted
  obtain ⟨⟨⟨⟨⟨⟨⟨approvers, _⟩, execution⟩, influence⟩, _⟩, _⟩, source⟩, openWorld⟩ := accepted
  have counts : rule.approvers.all (fun approvers =>
      approvers.requiredApprovals.all (fun count => decide (1 ≤ count))) = true := by
    cases given : rule.approvers with
    | none => rfl
    | some approvers' =>
        rw [given] at approvers
        simp only [Option.all_some, PolicyApprovers.accepted, Bool.and_eq_true] at approvers ⊢
        cases required : approvers'.requiredApprovals with
        | none => rfl
        | some count =>
            have bounded := approvers.2
            rw [required, Option.all_some, decide_eq_true_eq] at bounded
            rw [Option.all_some, decide_eq_true_eq]
            exact bounded.1
  have seconds : rule.externalExecution.all (fun execution =>
      execution.grantTtlSeconds.all (fun seconds => decide (1 ≤ seconds))) = true := by
    cases given : rule.externalExecution with
    | none => rfl
    | some execution' =>
        rw [given] at execution
        simp only [Option.all_some] at execution ⊢
        cases stated : execution'.grantTtlSeconds with
        | none => rfl
        | some seconds =>
            rw [stated, Option.all_some, decide_eq_true_eq] at execution
            rw [Option.all_some, decide_eq_true_eq]
            exact execution.1
  have openWorldValid : openWorldReadResultSourceValid rule.risk rule = true := openWorld
  rw [isPolicyRule, counts, seconds, source, influence, openWorldValid]
  rfl

section

variable [Runtime]

theorem findWildcardRule_listed {toolName : String} {context : PolicyEvaluationContext}
    {entries : List (String × PolicyRule)} {found : String × PolicyRule}
    (selected : (findWildcardRule toolName context entries).2 = some found) :
    found ∈ entries := by
  induction entries with
  | nil => cases selected
  | cons entry rest ih =>
      obtain ⟨pattern, rule⟩ := entry
      rw [findWildcardRule] at selected
      split at selected
      · exact List.mem_cons_of_mem _ (ih selected)
      · split at selected
        · cases selected
          exact List.mem_cons_self
        · exact List.mem_cons_of_mem _ (ih selected)

theorem evaluatePolicyTrace_ruled {policy : PolicyFile} (accepted : policy.accepted = true)
    {toolName : String} (plain : toolName ∉ prototypeNames) (context : PolicyEvaluationContext) :
    ∃ rule pattern kind path tried, rule.accepted = true ∧
      kind ≠ PolicyTraceMatchType.providerFailure ∧
      evaluatePolicyTrace policy toolName context =
        traceOf (toEvaluation (some rule) pattern) kind path tried := by
  simp only [PolicyFile.accepted, Bool.and_eq_true, List.all_eq_true] at accepted
  obtain ⟨byDefault, listed⟩ := accepted
  rw [evaluatePolicyTrace]
  simp only
  split
  · rename_i applies
    have own : findExactRule policy toolName = (policy.tools.get? toolName).map some :=
      findExactRule_own (fun named => absurd named plain)
    rw [exactApplies, own] at applies
    cases found : policy.tools.get? toolName with
    | none =>
        rw [found] at applies
        cases applies
    | some rule =>
        rw [own, found]
        have entry := (policy.tools.get?_eq_some_iff toolName rule).mp found
        exact ⟨rule, toolName, .exact, _, _, (listed _ entry).2, by decide, rfl⟩
  · split
    · rename_i pattern rule selected
      exact ⟨rule, pattern, .wildcard, _, _,
        (listed _ (findWildcardRule_listed selected)).2, by decide, rfl⟩
    · exact ⟨policy.default, "default", .default, _, _, byDefault, by decide, rfl⟩

omit [Runtime] in
theorem toEvaluation_risk (rule : PolicyRule) (pattern : String) :
    (toEvaluation (some rule) pattern).risk = rule.risk.getD "unknown" := by
  unfold toEvaluation
  split <;> rfl

omit [Runtime] in
theorem openWorldReadResultSourceValid_evaluated {rule : PolicyRule} (pattern : String)
    (shaped : isPolicyRule rule = true) :
    openWorldReadResultSourceValid (some (toEvaluation (some rule) pattern).risk) rule = true := by
  rw [toEvaluation_risk]
  cases stated : rule.risk with
  | none => rfl
  | some risk =>
      simp only [isPolicyRule, Bool.and_eq_true] at shaped
      rw [stated] at shaped
      exact shaped.1.2

theorem validTrace_of_accepted {policy : PolicyFile} (accepted : policy.accepted = true)
    {toolName : String} (plain : toolName ∉ prototypeNames) (context : PolicyEvaluationContext) :
    validTrace (evaluatePolicyTrace policy toolName context) = true := by
  obtain ⟨rule, pattern, kind, path, tried, ruleAccepted, regular, traced⟩ :=
    evaluatePolicyTrace_ruled accepted plain context
  have shaped := isPolicyRule_of_accepted ruleAccepted
  have decided := toEvaluation_decision rule pattern
  have openWorld := openWorldReadResultSourceValid_evaluated pattern shaped
  rw [traced, validTrace, traceOf, toEvaluation_rule]
  simp only [decided.1, decided.2, shaped, openWorld]
  simp [regular]

omit [Runtime] in
theorem isSpace_of_digit {char : Char} (digit : char.isDigit = true) :
    TextScan.isSpace char = false := by
  have low : 48 ≤ char.toNat := by
    simp only [Char.isDigit, Bool.and_eq_true, decide_eq_true_eq] at digit
    exact digit.1
  have high : char.toNat ≤ 57 := by
    simp only [Char.isDigit, Bool.and_eq_true, decide_eq_true_eq] at digit
    exact digit.2
  simp only [TextScan.isSpace]
  grind

omit [Runtime] in
theorem notBlank_number (number : JsonNumber) : notBlank (String.ofList number.text) = true := by
  obtain ⟨head, tail, text, shape⟩ := number.text_head
  refine TextScan.content_isSome (?_ : head ∈ _) ?_
  · rw [String.toList_ofList, text]
    exact List.mem_cons_self
  · cases shape with
    | inl sign =>
        rw [sign]
        decide
    | inr digit => exact isSpace_of_digit digit

omit [Runtime] in
theorem notBlank_policyVersionId (digest : String) :
    notBlank (currentPolicyVersionId digest) = true := by
  refine TextScan.content_isSome (?_ : 'p' ∈ _) ?_
  · rw [currentPolicyVersionId, String.toList_append]
    exact List.mem_append_left _ List.mem_cons_self
  · decide

/-- The identity a caller gives, where it gives one, is a digest and a name. -/
structure Identifies (policyVersionHash policyVersionId : Option String) : Prop where
  hash : ∀ given ∈ policyVersionHash, isSha256Hex given = true
  id : ∀ given ∈ policyVersionId, notBlank given = true

theorem validDescriptor_yaml (digests : ∀ text, isSha256Hex (sha256Hex text) = true)
    (policy : PolicyFile) {policyVersionHash policyVersionId : Option String}
    (identifies : Identifies policyVersionHash policyVersionId) :
    validDescriptor (createYamlPolicyProvider policy policyVersionHash policyVersionId).descriptor =
      true := by
  have digest : isSha256Hex (policyVersionHash.getD policy.versionHash) = true := by
    cases policyVersionHash with
    | none => exact digests _
    | some given => exact identifies.hash given rfl
  have version : notBlank (policyVersionId.getD
      (currentPolicyVersionId (policyVersionHash.getD policy.versionHash))) = true := by
    cases policyVersionId with
    | none => exact notBlank_policyVersionId _
    | some given => exact identifies.id given rfl
  simp only [validDescriptor, createYamlPolicyProvider, digest, version, notBlank_number,
    Bool.and_true]
  decide

/-- Over the server's policy the boundary returns what the policy evaluates to. -/
theorem evaluatePolicyProvider_yaml (digests : ∀ text, isSha256Hex (sha256Hex text) = true)
    {policy : PolicyFile} (accepted : policy.accepted = true) {toolName : String}
    (plain : toolName ∉ prototypeNames) {policyVersionHash policyVersionId : Option String}
    (identifies : Identifies policyVersionHash policyVersionId) (context : PolicyEvaluationContext) :
    let evaluation := evaluatePolicyProvider
      (some (createYamlPolicyProvider policy policyVersionHash policyVersionId)) toolName context
    evaluation.status = .ok ∧ evaluation.trace = evaluatePolicyTrace policy toolName context := by
  have identified := validDescriptor_yaml digests policy identifies
  have valid := validTrace_of_accepted accepted plain context
  simp only [evaluatePolicyProvider, identified, Bool.not_true, Bool.false_eq_true, if_false]
  simp only [createYamlPolicyProvider, valid, Bool.not_true, Bool.false_eq_true, if_false,
    and_self]

end

/-! ### Any provider -/

namespace AnyProvider

/-- The trace decides what the approval of its own rule maps to. -/
def DecidesByItsRule (trace : Json) : Prop :=
  ∃ approval : ApprovalMode,
    optionalProperty (optionalProperty (field? trace "evaluation") "rule") "approval" =
      some (.str approval.text) ∧
    field? trace "decision" = some (.str (decisionForApproval (some approval)).text)

theorem equalsText_iff {value : Option Json} {text : String} :
    equalsText value text = true ↔ value = some (.str text) := by
  cases value with
  | none => simp [equalsText]
  | some value => cases value <;> simp [equalsText]

theorem decision?_eq_some {value : Option Json} {decision : PolicyDecision}
    (read : decision? value = some decision) : value = some (.str decision.text) := by
  have hit : equalsText value decision.text = true := by
    unfold decision? at read
    exact List.find?_some (p := fun decision : PolicyDecision => equalsText value decision.text) read
  exact equalsText_iff.mp hit

theorem asRecord?_eq_some {value : Option Json} {members : JsonObject}
    (read : asRecord? value = some members) : value = some (.obj members) := by
  cases value with
  | none => cases read
  | some value =>
      cases value with
      | obj listed =>
          cases read
          rfl
      | _ => cases read

theorem decidesByItsRule_of_valid {value : Option Json} (valid : validTrace value = true) :
    ∃ trace, value = some trace ∧ DecidesByItsRule trace := by
  rw [validTrace] at valid
  split at valid
  · cases valid
  · rename_i trace traced
    split at valid
    · cases valid
    · rename_i evaluation evaluated
      rw [validParts] at valid
      split at valid
      · rename_i decision approval decided approved
        simp only [Bool.and_eq_true, beq_iff_eq] at valid
        obtain ⟨⟨⟨⟨⟨⟨⟨⟨⟨⟨⟨_, mapped⟩, _⟩, _⟩, ruled⟩, _⟩, _⟩, _⟩, _⟩, _⟩, _⟩, _⟩ := valid
        refine ⟨.obj trace, asRecord?_eq_some traced, approval, ?_, ?_⟩
        · have nested : field? (.obj trace) "evaluation" = some (.obj evaluation) :=
            asRecord?_eq_some evaluated
          rw [nested]
          exact equalsText_iff.mp ruled
        · rw [mapped]
          exact decision?_eq_some decided
      · cases valid

theorem evaluatePolicyProvider_cases (provider : Option Provider) (toolName : String)
    (context : PolicyEvaluationContext) :
    (evaluatePolicyProvider provider toolName context).decision =
        some (.str PolicyDecision.deny.text) ∨
      ∃ given trace, provider = some given ∧ given.evaluate toolName context = .ok trace ∧
        validTrace trace = true ∧
        (evaluatePolicyProvider provider toolName context).trace = trace := by
  cases provider with
  | none => exact Or.inl rfl
  | some provider =>
      rw [evaluatePolicyProvider]
      cases provider.descriptor with
      | error thrown => exact Or.inl rfl
      | ok rawDescriptor =>
          cases identified : validDescriptor rawDescriptor with
          | false =>
              simp only [identified, Bool.not_false, if_true]
              exact Or.inl rfl
          | true =>
              simp only [identified, Bool.not_true, Bool.false_eq_true, if_false]
              cases evaluated : provider.evaluate toolName context with
              | error thrown => exact Or.inl rfl
              | ok trace =>
                  cases valid : validTrace trace with
                  | false =>
                      simp only [Bool.not_false, if_true, valid]
                      exact Or.inl rfl
                  | true =>
                      simp only [Bool.not_true, Bool.false_eq_true, if_false, valid]
                      exact Or.inr ⟨provider, trace, rfl, evaluated, valid, rfl⟩

end AnyProvider

section

variable [Runtime]

/-- The provider boundary is transparent for the server's policy and denies whatever a
provider does that is not a trace deciding by its own rule. -/
theorem provider_boundary_transparent_and_closed
    (digests : ∀ text, isSha256Hex (sha256Hex text) = true) :
    (∀ policy : PolicyFile, policy.accepted = true → ∀ toolName ∉ prototypeNames,
      ∀ policyVersionHash policyVersionId, Identifies policyVersionHash policyVersionId →
      ∀ context,
        let evaluation := AnyProvider.evaluatePolicyProvider (some (AnyProvider.ofTyped
          (createYamlPolicyProvider policy policyVersionHash policyVersionId))) toolName context
        evaluation.status = .ok ∧
          evaluation.trace = some (evaluatePolicyTrace policy toolName context).json) ∧
    ∀ (provider : Option AnyProvider.Provider) (toolName : String)
      (context : PolicyEvaluationContext),
      let evaluation := AnyProvider.evaluatePolicyProvider provider toolName context
      evaluation.decision = some (.str PolicyDecision.deny.text) ∨
        ∃ given trace, provider = some given ∧
          given.evaluate toolName context = .ok (some trace) ∧
          evaluation.trace = some trace ∧ AnyProvider.DecidesByItsRule trace := by
  constructor
  · intro policy accepted toolName plain policyVersionHash policyVersionId identifies context
    have same := AnyProvider.evaluatePolicyProvider_ofTyped
      (some (createYamlPolicyProvider policy policyVersionHash policyVersionId)) toolName context
    obtain ⟨succeeded, traced⟩ :=
      evaluatePolicyProvider_yaml digests accepted plain identifies context
    refine ⟨same.status.trans succeeded, ?_⟩
    rw [← traced]
    exact same.trace
  · intro provider toolName context
    rcases AnyProvider.evaluatePolicyProvider_cases provider toolName context with
      denied | ⟨given, value, provided, evaluated, valid, returned⟩
    · exact Or.inl denied
    · obtain ⟨trace, rfl, decides⟩ := AnyProvider.decidesByItsRule_of_valid valid
      exact Or.inr ⟨given, trace, provided, evaluated, returned, decides⟩

end

/-- The digest of the permissive policy, and one digest for every other text. -/
def permissiveDigest (text : String) : String :=
  if text = "\x7b\"default\":\x7b\"approval\":\"never\"\x7d,\"tools\":\x7b\x7d,\"version\":1\x7d" then
    "21ccbc0fa2e45683df48f303036b6634b0562f85554f980d71ec3134aea02704"
  else "e3b0c44298fc1c149afbf4c8996fb92427ae41e4649b934ca495991b7852b855"

theorem permissiveDigest_hex (text : String) : isSha256Hex (permissiveDigest text) = true := by
  unfold permissiveDigest
  split
  · decide
  · decide

abbrev hexRuntime : Runtime := { sampleRuntime [] with sha256Hex := permissiveDigest }

theorem permissive_policy_transparent :
    let _ := hexRuntime
    let evaluation := AnyProvider.evaluatePolicyProvider (some (AnyProvider.ofTyped
      (createYamlPolicyProvider permissivePolicy none none))) "crm.update" contextless
    evaluation.status = .ok ∧
      evaluation.trace = some (evaluatePolicyTrace permissivePolicy "crm.update" contextless).json := by
  let _ := hexRuntime
  have unidentified : Identifies none none :=
    { hash := by simp, id := by simp }
  exact (provider_boundary_transparent_and_closed permissiveDigest_hex).1 permissivePolicy (by decide)
    "crm.update" (by decide) none none unidentified contextless

end ActionProxy
