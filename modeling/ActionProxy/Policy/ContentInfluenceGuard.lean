import ActionProxy.Policy.EvaluatePolicy
import ActionProxy.Storage.ContentExposures

/-!
The content-influence guard of a rule: what was observed in a scope is compared
with what the rule allows, and the base decision can only become stricter. The
order law of the decision over the exposures of a scope is at the end.
-/

namespace ActionProxy

open JsonText

/-- `allow < require_approval < deny`. -/
def PolicyDecision.strictness : PolicyDecision → Nat
  | .allow => 1
  | .requireApproval => 2
  | .deny => 3

/-! ### Evaluating a guard -/

structure ContentInfluenceEvaluation where
  baseDecision : PolicyDecision
  effectiveApproval : Option ApprovalMode
  effectiveDecision : PolicyDecision
  observedSources : List ContentInfluenceSource
  reason : String
  restrictionApplied : Bool
  sourcesAllowed : Bool

def contentIntegrityValues : List ContentIntegrity :=
  [.organizationManaged, .verifiedPublisher, .authenticatedExternal, .publicUntrusted, .unknown]

def sourceOrder : List ContentInfluenceSource := none :: contentIntegrityValues.map some

def normalizedObservedSources (observedIntegrities : List ContentIntegrity)
    (scopeVerified : Bool) : List ContentInfluenceSource :=
  if !scopeVerified then [some .unknown]
  else
    let unique : List ContentInfluenceSource :=
      if observedIntegrities.isEmpty then [none] else observedIntegrities.map some
    sourceOrder.filter unique.contains

/-- An approval mode that is absent is the least strict. -/
def approvalStrictness (approval : Option ApprovalMode) : Nat :=
  match approval with
  | some .deny => 3
  | some .required => 2
  | _ => 1

def stricterApproval (base : Option ApprovalMode) (restriction : ApprovalMode) :
    Option ApprovalMode :=
  if approvalStrictness base < approvalStrictness (some restriction) then some restriction else base

def decisionForApproval (approval : Option ApprovalMode) : PolicyDecision :=
  match approval with
  | some .never => .allow
  | some .required => .requireApproval
  | _ => .deny

def evaluateContentInfluence (base : PolicyEvaluation) (observedIntegrities : List ContentIntegrity)
    (scopeVerified : Bool) : ContentInfluenceEvaluation :=
  let observedSources := normalizedObservedSources observedIntegrities scopeVerified
  let unrestricted (reason : String) : ContentInfluenceEvaluation :=
    { baseDecision := base.decision
      effectiveApproval := base.approval
      effectiveDecision := base.decision
      observedSources := observedSources
      reason := reason
      restrictionApplied := false
      sourcesAllowed := true }
  match base.rule.bind PolicyRule.influence with
  | none => unrestricted "No content-influence guard is configured for the matched policy rule."
  | some selected =>
      if observedSources.all selected.allowFrom.contains then
        unrestricted "Observed content sources satisfy the matched policy rule."
      else
        let effectiveApproval := stricterApproval base.approval selected.otherwise
        { baseDecision := base.decision
          effectiveApproval := effectiveApproval
          effectiveDecision := decisionForApproval effectiveApproval
          observedSources := observedSources
          reason :=
            "Observed content sources are outside the rule allowFrom set; policy " ++
              (if selected.otherwise = .deny then "denies execution" else "requires approval") ++ "."
          restrictionApplied := effectiveApproval != base.approval
          sourcesAllowed := false }

/-! ### Evidence -/

def maxInfluenceExposures : Int := 256

def maxInfluenceSourceReferences : Nat := 32

section

variable [Runtime]

def sortedRecords (records : List ContentExposureRecord) : List ContentExposureRecord :=
  records.insertionSort (fun left right =>
    ((Runtime.localeCompare left.sourceToolCallId right.sourceToolCallId).then
      (Runtime.localeCompare left.observedAt right.observedAt)).isLE = true)

def exposureSnapshotMaterial (exposureLookup : Option ListContentExposuresResult)
    (influenceScopeId : Option String) (records : List ContentExposureRecord) : Json :=
  .obj [
    ("exposureRevision",
      some (.num (JsonNumber.ofInt ((exposureLookup.map (·.revision)).getD 0)))),
    ("influenceScopeId", nullable influenceScopeId),
    ("overflow", some (.bool ((exposureLookup.map (·.overflow)).getD false))),
    ("records", some (.arr (records.map (fun record => .obj [
      ("integrity", some (.str record.integrity.text)),
      ("observedAt", some (.str record.observedAt)),
      ("policyVersionHash", some (.str record.policyVersionHash)),
      ("sourceId", nullable record.sourceId),
      ("sourceToolCallId", some (.str record.sourceToolCallId))])))),
    ("verified", some (.bool (nonEmpty influenceScopeId).isSome)),
    ("version", some (.str "actionproxy.content-exposure-snapshot.v1"))]

structure ContentInfluenceEvidenceInput where
  evaluatedAt : String
  evaluation : ContentInfluenceEvaluation
  exposureLookup : Option ListContentExposuresResult
  influenceScopeId : Option String
  policyVersionHash : String
  policyVersionId : Option String
  selectedRule : PolicyInfluenceGuard

def buildContentInfluenceEvidence (input : ContentInfluenceEvidenceInput) :
    ContentInfluenceEvidenceV1 :=
  let records := sortedRecords ((input.exposureLookup.map (·.records)).getD [])
  let core : ContentInfluenceEvidenceV1 :=
    { baseDecision := input.evaluation.baseDecision
      bindingHash := ""
      effectiveDecision := input.evaluation.effectiveDecision
      evaluatedAt := input.evaluatedAt
      exposureRevision := (input.exposureLookup.map (·.revision)).getD 0
      exposureSnapshotHash :=
        hashCanonicalJson
          (exposureSnapshotMaterial input.exposureLookup input.influenceScopeId records)
      influenceScope :=
        { id := input.influenceScopeId, verified := (nonEmpty input.influenceScopeId).isSome }
      observedSources := input.evaluation.observedSources
      policy := { versionHash := input.policyVersionHash, versionId := input.policyVersionId }
      selectedRule := input.selectedRule
      sourceCount := records.length
      sourceCountIsLowerBound := (input.exposureLookup.map (·.overflow)).getD false
      sourceReferences := (records.take maxInfluenceSourceReferences).map (fun record =>
        { integrity := record.integrity
          sourceId := record.sourceId
          sourceToolCallId := record.sourceToolCallId })
      version := contentInfluenceEvidenceVersion }
  { core with bindingHash := hashCanonicalJson (contentInfluenceBindingCore core) }

/-! ### The gate -/

structure InfluenceInput where
  baseEvaluation : PolicyEvaluation
  evaluatedAt : String
  influenceScopeId : Option String
  policyVersionHash : String
  policyVersionId : Option String
  workspaceId : String

/-- What the gate knows of a scope: a listing, one that overflows when the store
fails, or nothing without a scope. -/
def exposureLookup (list : ListContentExposuresInput → Option ListContentExposuresResult)
    (input : InfluenceInput) : Option ListContentExposuresResult :=
  (nonEmpty input.influenceScopeId).map (fun influenceScopeId =>
    (list
      { influenceScopeId := influenceScopeId
        limit := maxInfluenceExposures
        workspaceId := input.workspaceId }).getD
      { overflow := true, records := [], revision := -1 })

def observedIntegrities (lookup : Option ListContentExposuresResult) : List ContentIntegrity :=
  match lookup with
  | none => []
  | some lookup =>
      if lookup.overflow then [.unknown] else lookup.records.map ContentExposureRecord.integrity

def evaluateInfluence (list : ListContentExposuresInput → Option ListContentExposuresResult)
    (input : InfluenceInput) : Option ContentInfluenceEvidenceV1 :=
  (input.baseEvaluation.rule.bind PolicyRule.influence).map (fun selectedRule =>
    let lookup := exposureLookup list input
    buildContentInfluenceEvidence
      { evaluatedAt := input.evaluatedAt
        evaluation :=
          evaluateContentInfluence input.baseEvaluation (observedIntegrities lookup)
            (nonEmpty input.influenceScopeId).isSome
        exposureLookup := lookup
        influenceScopeId := input.influenceScopeId
        policyVersionHash := input.policyVersionHash
        policyVersionId := input.policyVersionId
        selectedRule := selectedRule })

def effectivePolicyEvaluation (base : PolicyEvaluation)
    (influence : Option ContentInfluenceEvidenceV1) : PolicyEvaluation :=
  match influence with
  | none => base
  | some influence =>
      let approval : ApprovalMode :=
        match influence.effectiveDecision with
        | .allow => .never
        | .requireApproval => .required
        | .deny => .deny
      { base with
        approval := some approval
        decision := influence.effectiveDecision
        reason :=
          if influence.effectiveDecision ≠ influence.baseDecision then
            base.reason ++
              " Content observed in this verified influence scope requires a stricter decision."
          else base.reason
        rule := base.rule.map (fun rule => { rule with approval := approval }) }

/-- The decision the gate goes by, with what a store has recorded. -/
def effectiveDecision (store : MemoryStore) (input : InfluenceInput) : PolicyDecision :=
  (effectivePolicyEvaluation input.baseEvaluation
    (evaluateInfluence (fun listing => some (store.listContentExposures listing)) input)).decision

/-! ### What is allowed -/

omit [Runtime] in
theorem mem_sourceOrder (source : ContentInfluenceSource) : source ∈ sourceOrder := by
  cases source with
  | none => decide
  | some integrity => cases integrity <;> decide

omit [Runtime] in
/-- In a verified scope every observed class is tested, or `none` when there is none. -/
theorem normalizedObservedSources_all (observed : List ContentIntegrity)
    (test : ContentInfluenceSource → Bool) :
    (normalizedObservedSources observed true).all test =
      if observed.isEmpty then test none else observed.all (fun integrity => test (some integrity)) := by
  rw [Bool.eq_iff_iff]
  simp only [normalizedObservedSources, Bool.not_true, Bool.false_eq_true, if_false,
    List.all_eq_true, List.mem_filter, mem_sourceOrder, true_and]
  cases observed with
  | nil => simp
  | cons first rest =>
      simp only [List.isEmpty_cons, Bool.false_eq_true, if_false, List.contains_iff_mem,
        List.mem_map, List.all_eq_true]
      exact ⟨fun each integrity listed => each _ ⟨integrity, listed, rfl⟩,
        fun each source ⟨integrity, listed, same⟩ => same ▸ each integrity listed⟩

/-- The guard allows a scope in which this was recorded. -/
def scopeAllowed (allowFrom : List ContentInfluenceSource)
    (recorded : List ContentExposureRecord) : Bool :=
  if maxInfluenceExposures < recorded.length then allowFrom.contains (some .unknown)
  else if recorded.isEmpty then allowFrom.contains none
  else recorded.all (fun record => allowFrom.contains (some record.integrity))

/-- The guard allows what the gate observes; without a scope that is `unknown`. -/
def guardAllows (store : MemoryStore) (input : InfluenceInput)
    (allowFrom : List ContentInfluenceSource) : Bool :=
  match nonEmpty input.influenceScopeId with
  | none => allowFrom.contains (some .unknown)
  | some scopeId => scopeAllowed allowFrom (store.exposures (input.workspaceId, scopeId))

omit [Runtime] in
theorem observedSources_allowed {store : MemoryStore} (kept : store.ExposuresKept)
    (input : InfluenceInput) (allowFrom : List ContentInfluenceSource) :
    (normalizedObservedSources
        (observedIntegrities (exposureLookup
          (fun listing => some (store.listContentExposures listing)) input))
        (nonEmpty input.influenceScopeId).isSome).all allowFrom.contains =
      guardAllows store input allowFrom := by
  unfold guardAllows exposureLookup
  cases scope : nonEmpty input.influenceScopeId with
  | none =>
      show [some ContentIntegrity.unknown].all allowFrom.contains = _
      simp
  | some scopeId =>
      obtain ⟨overflow, complete⟩ := kept.listing
        { influenceScopeId := scopeId
          limit := maxInfluenceExposures
          workspaceId := input.workspaceId }
      have limit : MemoryStore.contentExposureLimit maxInfluenceExposures = 256 := by decide
      simp only [limit] at overflow complete
      rw [Option.isSome_some, normalizedObservedSources_all, Option.map_some, Option.getD_some,
        observedIntegrities]
      simp only [overflow, scopeAllowed, decide_eq_true_eq]
      have bound : maxInfluenceExposures <
          ((store.exposures (input.workspaceId, scopeId)).length : Int) ↔
            256 < (store.exposures (input.workspaceId, scopeId)).length := by
        rw [maxInfluenceExposures]
        omega
      simp only [bound]
      split
      · simp
      · rename_i within
        have same := complete (by omega)
        rw [List.isEmpty_map, List.all_map]
        have empty : (store.listContentExposures
            { influenceScopeId := scopeId
              limit := maxInfluenceExposures
              workspaceId := input.workspaceId }).records.isEmpty =
            (store.exposures (input.workspaceId, scopeId)).isEmpty := by
          rw [Bool.eq_iff_iff, List.isEmpty_iff, List.isEmpty_iff]
          constructor
          · intro none
            rw [none] at same
            exact same.symm.eq_nil
          · intro none
            rw [none] at same
            exact same.eq_nil
        rw [empty]
        split
        · rfl
        · exact same.all_eq

/-! ### The effective decision -/

/-- What a guard makes of a base evaluation it does not allow. -/
def restrictedDecision (base : PolicyEvaluation) (selected : PolicyInfluenceGuard) :
    PolicyDecision :=
  decisionForApproval (stricterApproval base.approval selected.otherwise)

theorem effectiveDecision_unguarded (store : MemoryStore) {input : InfluenceInput}
    (unguarded : input.baseEvaluation.rule.bind PolicyRule.influence = none) :
    effectiveDecision store input = input.baseEvaluation.decision := by
  rw [effectiveDecision, evaluateInfluence, unguarded]
  rfl

theorem effectiveDecision_guarded {store : MemoryStore} (kept : store.ExposuresKept)
    {input : InfluenceInput} {selected : PolicyInfluenceGuard}
    (guarded : input.baseEvaluation.rule.bind PolicyRule.influence = some selected) :
    effectiveDecision store input =
      if guardAllows store input selected.allowFrom then input.baseEvaluation.decision
      else restrictedDecision input.baseEvaluation selected := by
  have projected : effectiveDecision store input =
      (evaluateContentInfluence input.baseEvaluation
        (observedIntegrities (exposureLookup
          (fun listing => some (store.listContentExposures listing)) input))
        (nonEmpty input.influenceScopeId).isSome).effectiveDecision := by
    rw [effectiveDecision, evaluateInfluence, guarded]
    rfl
  rw [projected, evaluateContentInfluence, guarded]
  simp only [observedSources_allowed kept]
  split <;> rfl

theorem evaluatePolicy_toEvaluation (policy : PolicyFile) (toolName : String)
    (context : PolicyEvaluationContext) :
    ∃ rule matchedRule, evaluatePolicy policy toolName context = toEvaluation rule matchedRule := by
  rw [evaluatePolicy, evaluatePolicyTrace]
  simp only
  split
  · exact ⟨_, _, rfl⟩
  · split
    · exact ⟨_, _, rfl⟩
    · exact ⟨_, _, rfl⟩

omit [Runtime] in
theorem toEvaluation_decision (rule : PolicyRule) (matchedRule : String) :
    (toEvaluation (some rule) matchedRule).decision = decisionForApproval (some rule.approval) ∧
      (toEvaluation (some rule) matchedRule).approval = some rule.approval := by
  rw [toEvaluation]
  simp only [Option.map_some]
  cases rule.approval <;> exact ⟨rfl, rfl⟩

omit [Runtime] in
theorem stricterApproval_stricter (base restriction : ApprovalMode) :
    (decisionForApproval (some base)).strictness ≤
      (decisionForApproval (stricterApproval (some base) restriction)).strictness := by
  cases base <;> cases restriction <;> decide

theorem restrictedDecision_stricter {policy : PolicyFile} {toolName : String}
    {context : PolicyEvaluationContext} {selected : PolicyInfluenceGuard}
    (guarded : (evaluatePolicy policy toolName context).rule.bind PolicyRule.influence =
      some selected) :
    (evaluatePolicy policy toolName context).decision.strictness ≤
      (restrictedDecision (evaluatePolicy policy toolName context) selected).strictness := by
  obtain ⟨rule, matchedRule, evaluation⟩ := evaluatePolicy_toEvaluation policy toolName context
  rw [evaluation] at guarded ⊢
  cases rule with
  | none => cases guarded
  | some rule =>
      obtain ⟨decision, approval⟩ := toEvaluation_decision rule matchedRule
      rw [restrictedDecision, decision, approval]
      exact stricterApproval_stricter rule.approval selected.otherwise

/-! ### The order law -/

/-- The exposures of a scope grew without leaving what an `allowFrom` judges them
by: a scope that was empty counts as the class `none`, one that overflows as
`unknown`. -/
structure OrderKept (allowFrom : List ContentInfluenceSource)
    (before after : List ContentExposureRecord) : Prop where
  notEmpty : before = [] → none ∈ allowFrom
  noOverflow : (before.length : Int) ≤ maxInfluenceExposures →
    maxInfluenceExposures < after.length → some .unknown ∉ allowFrom

omit [Runtime] in
theorem scopeAllowed_of_grown {allowFrom : List ContentInfluenceSource}
    {before after : List ContentExposureRecord} (grown : before <+: after)
    (kept : OrderKept allowFrom before after) (allowed : scopeAllowed allowFrom after = true) :
    scopeAllowed allowFrom before = true := by
  obtain ⟨added, rfl⟩ := grown
  unfold scopeAllowed at allowed ⊢
  split at allowed
  · rename_i overflow
    split
    · exact allowed
    · rename_i within
      exact absurd (List.contains_iff_mem.mp allowed) (kept.noOverflow (by omega) overflow)
  · rename_i within
    have within' : ¬ maxInfluenceExposures < (before.length : Int) := by
      rw [List.length_append] at within
      omega
    rw [if_neg within']
    cases before with
    | nil => exact List.contains_iff_mem.mpr (kept.notEmpty rfl)
    | cons first rest =>
        simp only [List.cons_append, List.isEmpty_cons, Bool.false_eq_true, if_false,
          List.all_cons, List.all_append, Bool.and_eq_true] at allowed ⊢
        exact ⟨allowed.1, allowed.2.1⟩

/-- The effective decision is at least as strict as the base decision, and more
exposures never loosen it while the classes keep their order. -/
theorem effectiveDecision_never_loosens (policy : PolicyFile) (toolName : String)
    (context : PolicyEvaluationContext) {store : MemoryStore}
    (unused : store.contentExposureScopes = .empty) {input : InfluenceInput}
    (base : input.baseEvaluation = evaluatePolicy policy toolName context) :
    (∀ history, input.baseEvaluation.decision.strictness ≤
      (effectiveDecision (store.recordExposures history) input).strictness) ∧
    ∀ history more,
      (∀ selected scopeId, input.baseEvaluation.rule.bind PolicyRule.influence = some selected →
        nonEmpty input.influenceScopeId = some scopeId →
        OrderKept selected.allowFrom
          ((store.recordExposures history).exposures (input.workspaceId, scopeId))
          ((store.recordExposures (history ++ more)).exposures (input.workspaceId, scopeId))) →
      (effectiveDecision (store.recordExposures history) input).strictness ≤
        (effectiveDecision (store.recordExposures (history ++ more)) input).strictness := by
  have kept := fun history => (MemoryStore.exposuresKept_of_empty unused).run history
  cases guarded : input.baseEvaluation.rule.bind PolicyRule.influence with
  | none =>
      simp only [effectiveDecision_unguarded _ guarded, Nat.le_refl, implies_true, and_self]
  | some selected =>
      have stricter : input.baseEvaluation.decision.strictness ≤
          (restrictedDecision input.baseEvaluation selected).strictness := by
        rw [base] at guarded ⊢
        exact restrictedDecision_stricter guarded
      have spec := fun history => effectiveDecision_guarded (kept history) guarded
      refine ⟨fun history => ?_, fun history more orderKept => ?_⟩
      · rw [spec]
        split
        · exact Nat.le_refl _
        · exact stricter
      · rw [spec, spec]
        have allowed : guardAllows (store.recordExposures (history ++ more)) input
            selected.allowFrom = true →
              guardAllows (store.recordExposures history) input selected.allowFrom = true := by
          unfold guardAllows
          cases scope : nonEmpty input.influenceScopeId with
          | none => exact id
          | some scopeId =>
              have grown := (kept history).run_extends more (input.workspaceId, scopeId)
              rw [← MemoryStore.recordExposures_append] at grown
              exact scopeAllowed_of_grown grown (orderKept selected scopeId rfl scope)
        by_cases after : guardAllows (store.recordExposures (history ++ more)) input
            selected.allowFrom = true
        · rw [if_pos after, if_pos (allowed after)]
        · rw [if_neg after]
          split
          · exact stricter
          · exact Nat.le_refl _

end

section

private def guardedBy (allowFrom : List ContentInfluenceSource) : PolicyFile :=
  { version := JsonNumber.ofInt 1
    default :=
      { PolicyRule.plain .never with
        influence := some { allowFrom := allowFrom, otherwise := .deny, narrows := by decide } }
    tools := .empty }

private def emptyStore : MemoryStore :=
  { toolCalls := .empty
    contentExposureScopes := .empty
    approvals := .empty
    executionGrants := .empty
    executionAttempts := .empty
    executionAttemptByToolCall := .empty
    actionReceipts := .empty }

private def noContext : PolicyEvaluationContext :=
  { amount := none
    approverGroup := none
    currency := none
    customerVisible := none
    input := none
    metadata := none
    operationKind := none
    recipientDomain := none
    risk := none }

private def guardInput (allowFrom : List ContentInfluenceSource) : InfluenceInput :=
  letI := sampleRuntime []
  { baseEvaluation := evaluatePolicy (guardedBy allowFrom) "memory.write" noContext
    evaluatedAt := "2026-01-01T00:00:00.000Z"
    influenceScopeId := some "influence_0"
    policyVersionHash := "policy"
    policyVersionId := none
    workspaceId := "default" }

/-- The exposure of one numbered source call. -/
private def numberedExposure (integrity : ContentIntegrity) (number : Nat) :
    ContentExposureRecord :=
  { influenceScopeId := "influence_0"
    integrity := integrity
    observedAt := "2026-01-01T00:00:00.000Z"
    policyVersionHash := "policy"
    sourceId := none
    sourceToolCallId := String.ofList (List.replicate number 'a')
    workspaceId := "default" }

private def numberedHistory (integrity : ContentIntegrity) (numbers : List Nat) :
    List ContentExposureRecord :=
  numbers.map (numberedExposure integrity)

private theorem numberedHistory_recorded (integrity : ContentIntegrity) {numbers : List Nat}
    (distinct : numbers.Nodup) :
    (@MemoryStore.recordExposures (sampleRuntime []) emptyStore
        (numberedHistory integrity numbers)).exposures ("default", "influence_0") =
      numberedHistory integrity numbers := by
  let _ := sampleRuntime []
  have kept : MemoryStore.ExposuresKept emptyStore := MemoryStore.exposuresKept_of_empty rfl
  have oneScope : ∀ record ∈ numberedHistory integrity numbers,
      MemoryStore.exposureKey record = ("default", "influence_0") := by
    intro record listed
    obtain ⟨number, _, rfl⟩ := List.mem_map.mp listed
    rfl
  have sources : ((numberedHistory integrity numbers).map
      ContentExposureRecord.sourceToolCallId).Nodup := by
    rw [numberedHistory, List.map_map]
    refine distinct.map ?_
    intro left right same
    have lengths := congrArg String.length same
    simpa [numberedExposure] using lengths
  exact MemoryStore.exposures_of_new kept oneScope sources (fun _ _ => rfl)

private theorem numbered_decision (allowFrom : List ContentInfluenceSource)
    (integrity : ContentIntegrity) {numbers : List Nat} (distinct : numbers.Nodup) :
    @effectiveDecision (sampleRuntime [])
        (@MemoryStore.recordExposures (sampleRuntime []) emptyStore
          (numberedHistory integrity numbers)) (guardInput allowFrom) =
      if scopeAllowed allowFrom (numberedHistory integrity numbers) then .allow else .deny := by
  let _ := sampleRuntime []
  have kept : MemoryStore.ExposuresKept emptyStore := MemoryStore.exposuresKept_of_empty rfl
  have guarded : (guardInput allowFrom).baseEvaluation.rule.bind PolicyRule.influence =
      some { allowFrom := allowFrom, otherwise := .deny, narrows := by decide } := rfl
  have scope : nonEmpty (guardInput allowFrom).influenceScopeId = some "influence_0" := rfl
  rw [effectiveDecision_guarded (kept.run _) guarded, guardAllows, scope]
  show (if scopeAllowed allowFrom ((emptyStore.recordExposures
    (numberedHistory integrity numbers)).exposures ("default", "influence_0")) then _ else _) = _
  rw [numberedHistory_recorded integrity distinct]
  rfl

/-- A first trusted exposure lifts the denial of an empty scope, and 256 more lift
the denial of an untrusted one. -/
theorem exposure_loosens :
    (guardedBy [some .organizationManaged]).accepted = true ∧
      (guardedBy [none, some .unknown]).accepted = true ∧
      (@effectiveDecision (sampleRuntime [])
          (@MemoryStore.recordExposures (sampleRuntime []) emptyStore
            ([] ++ numberedHistory .organizationManaged [0]))
          (guardInput [some .organizationManaged])).strictness <
        (@effectiveDecision (sampleRuntime [])
          (@MemoryStore.recordExposures (sampleRuntime []) emptyStore [])
          (guardInput [some .organizationManaged])).strictness ∧
      (@effectiveDecision (sampleRuntime [])
          (@MemoryStore.recordExposures (sampleRuntime []) emptyStore
            (numberedHistory .publicUntrusted [0] ++
              numberedHistory .publicUntrusted (List.range' 1 256)))
          (guardInput [none, some .unknown])).strictness <
        (@effectiveDecision (sampleRuntime [])
          (@MemoryStore.recordExposures (sampleRuntime []) emptyStore
            (numberedHistory .publicUntrusted [0]))
          (guardInput [none, some .unknown])).strictness := by
  have nothing : [] = numberedHistory .organizationManaged [] := rfl
  have joined : numberedHistory .publicUntrusted [0] ++
      numberedHistory .publicUntrusted (List.range' 1 256) =
        numberedHistory .publicUntrusted (List.range' 0 257) := by
    rw [numberedHistory, numberedHistory, ← List.map_append]
    rfl
  have full : scopeAllowed [none, some .unknown]
      (numberedHistory .publicUntrusted (List.range' 0 257)) = true := by
    rw [scopeAllowed, numberedHistory, List.length_map, List.length_range']
    rfl
  refine ⟨by decide, by decide, ?_, ?_⟩
  · rw [List.nil_append, numbered_decision _ _ (List.nodup_singleton 0), nothing,
      numbered_decision _ _ List.nodup_nil]
    decide
  · rw [joined, numbered_decision _ _ List.nodup_range', full,
      numbered_decision _ _ (List.nodup_singleton 0)]
    decide

/-- A rule that allows `none` and not `unknown` keeps the order of the histories. -/
theorem effectiveDecision_never_loosens_trusted :
    (@effectiveDecision (sampleRuntime [])
        (@MemoryStore.recordExposures (sampleRuntime []) emptyStore
          (numberedHistory .organizationManaged [0]))
        (guardInput [none, some .organizationManaged])).strictness ≤
      (@effectiveDecision (sampleRuntime [])
        (@MemoryStore.recordExposures (sampleRuntime []) emptyStore
          (numberedHistory .organizationManaged [0] ++ numberedHistory .publicUntrusted [1]))
        (guardInput [none, some .organizationManaged])).strictness := by
  refine (@effectiveDecision_never_loosens (sampleRuntime [])
    (guardedBy [none, some .organizationManaged]) "memory.write" noContext emptyStore rfl
    (guardInput [none, some .organizationManaged]) rfl).2 _ _ ?_
  intro selected scopeId guarded _
  cases guarded
  exact { notEmpty := fun _ => by decide, noOverflow := fun _ _ => by decide }

end

end ActionProxy
