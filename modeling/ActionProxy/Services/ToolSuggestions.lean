import ActionProxy.Services.PolicyDetector

/-!
The rules the detector suggests for observed tools. A suggested rule has no conditions and comes
last, so that only the tool of the pattern's own name can be decided by it although another rule
decided before.
-/

namespace ActionProxy

open JsonText

/-! ### Observed tools -/

inductive ObservedToolSource where
  | local_demo | mcp_discovery | runtime
  deriving DecidableEq

inductive ObservedToolStatus where
  | dismissed | resolved | unresolved
  deriving DecidableEq

inductive SuggestionConfidence where
  | high | low | medium
  deriving DecidableEq

inductive SuggestionPatternType where
  | exact | wildcard
  deriving DecidableEq

structure ObservedToolSuggestion where
  approval : ApprovalMode
  confidence : SuggestionConfidence
  pattern : String
  patternType : SuggestionPatternType
  reason : String
  resultSource : Option PolicyResultSource
  risk : String

inductive SchemaReviewState where
  | needs_review | reviewed
  deriving DecidableEq

structure SchemaChange where
  currentSchemaHash : String
  previousSchemaHash : String
  reviewState : SchemaReviewState
  deriving DecidableEq

structure ObservedToolSourceIds where
  agentIds : Option (List String)
  mcpProfileIds : Option (List String)
  mcpServerNames : Option (List String)

structure ObservedToolRecord where
  id : String
  workspaceId : String
  toolName : String
  sources : List ObservedToolSource
  sourceIds : ObservedToolSourceIds
  firstSeenAt : String
  lastSeenAt : String
  callCount : Nat
  schemaChange : Option SchemaChange
  schemaHash : Option String
  coverage : ObservedToolCoverage
  status : ObservedToolStatus
  suggestion : ObservedToolSuggestion
  createdAt : String
  updatedAt : String

/-! ### Suggestions -/

/-- A space between a small letter or digit and the capital letter after it. -/
def spaceCapitals : List Char → List Char
  | first :: second :: rest =>
      if (first.isLower || first.isDigit) && second.isUpper then
        first :: ' ' :: spaceCapitals (second :: rest)
      else first :: spaceCapitals (second :: rest)
  | rest => rest

section

variable [Runtime]

def tokenizeToolName (toolName : String) : List String :=
  let text := (Runtime.toLowerCase (String.ofList (spaceCapitals toolName.toList))).toList
  ((text.splitOnP (fun char => !(char.isLower || char.isDigit))).filter
    (fun token => decide (token ≠ []))).map String.ofList

def suggestionForToolName (toolName : String) : ObservedToolSuggestion :=
  let tokens := tokenizeToolName toolName
  let names (words : List String) : Bool := tokens.any (fun token => words.contains token)
  let exact (approval : ApprovalMode) (confidence : SuggestionConfidence) (reason : String)
      (resultSource : Option PolicyResultSource) (risk : String) : ObservedToolSuggestion :=
    { approval := approval, confidence := confidence, pattern := toolName, patternType := .exact
      reason := reason, resultSource := resultSource, risk := risk }
  if names ["credential", "credentials", "secret", "secrets", "token", "tokens"] then
    exact .deny .high "Credential-sensitive tools should be blocked until reviewed explicitly."
      none "credential_sensitive"
  else if names ["delete", "destroy", "drop", "purge", "remove"] then
    exact .deny .high "Destructive tools should be denied by default." none "destructive"
  else if names ["email", "message", "post", "send"] then
    exact .required .high "External communication should require human approval." none
      "external_communication"
  else if names ["create", "modify", "update", "write"] then
    exact .required .medium "Data-changing tools should require human approval." none "data_change"
  else if names ["browse", "browser", "fetch", "http", "url", "web"] then
    exact .required .medium ("Open-world reads can return untrusted content and should require " ++
      "review until their source handling is configured.")
      (some (.classified .publicUntrusted none)) "open_world_read"
  else if names ["get", "list", "lookup", "query", "read", "search"] then
    exact .required .medium
      "Read-like tools should require review until their source integrity is classified."
      (some (.classified .unknown none)) "unreviewed_read"
  else
    exact .required .low "Unknown tool behavior should require approval until reviewed."
      (some (.classified .unknown none)) "unknown"

def reviewedSchemaChange (schemaChange : Option SchemaChange) : Option SchemaChange :=
  schemaChange.map (fun change => { change with reviewState := .reviewed })

def SchemaChange.needsReview (schemaChange : Option SchemaChange) : Bool :=
  schemaChange.any (fun change => decide (change.reviewState = .needs_review))

def refreshRecordView (resolveCovered : Bool) (record : ObservedToolRecord) (policy : PolicyFile) :
    ObservedToolRecord :=
  let coverage := coverageForPolicy policy record.toolName
  let resolves : Bool := resolveCovered && decide (coverage.status = .covered)
  let schemaChange :=
    if resolves then reviewedSchemaChange record.schemaChange else record.schemaChange
  let reviewNeeded : Bool :=
    decide (record.status ≠ .dismissed) && SchemaChange.needsReview schemaChange
  { record with
    coverage := coverage
    schemaChange := schemaChange
    status :=
      if reviewNeeded then .unresolved else if resolves then .resolved else record.status
    suggestion := suggestionForToolName record.toolName }

/-- The text before the first dot of `toolName.split('.', 2)`, if the piece after it is not
empty either. -/
def providerPrefix (toolName : String) : Option String :=
  match toolName.toList.splitOn '.' with
  | start :: rest :: _ => if start ≠ [] ∧ rest ≠ [] then some (String.ofList start) else none
  | _ => none

/-- Waits for a decision about its policy. -/
def ObservedToolRecord.undecided (record : ObservedToolRecord) : Bool :=
  decide (record.status = .unresolved) && decide (record.coverage.status = .uncovered)

/-- Another rule stands under the prefix, or its wildcard decides otherwise. -/
def hasConflictingExplicitRule (policy : PolicyFile) (provider : String) (base : ApprovalMode) :
    Bool :=
  policy.tools.entries.any (fun entry => TextScan.startsWith entry.1 (provider ++ ".") &&
    (decide (entry.1 ≠ provider ++ ".*") || decide (entry.2.approval ≠ base)))

def withWildcardSuggestion (policy : PolicyFile) (candidates : List ObservedToolRecord)
    (record : ObservedToolRecord) : ObservedToolRecord :=
  match providerPrefix record.toolName with
  | none => record
  | some provider =>
      if record.undecided then
        let base := suggestionForToolName record.toolName
        let group := candidates.filter (fun candidate =>
          let suggestion := suggestionForToolName candidate.toolName
          decide (providerPrefix candidate.toolName = some provider) &&
            decide (suggestion.approval = base.approval) && decide (suggestion.risk = base.risk))
        if group.length < 3 ∨ hasConflictingExplicitRule policy provider base.approval then record
        else
          { record with suggestion := { base with
              confidence := if base.confidence = .low then .medium else base.confidence
              pattern := provider ++ ".*"
              patternType := .wildcard
              reason := "Three or more uncovered " ++ provider ++
                " tools share the same recommendation." } }
      else record

def withWildcardSuggestions (records : List ObservedToolRecord) (policy : PolicyFile)
    (allRecords : List ObservedToolRecord) : List ObservedToolRecord :=
  let candidates := (allRecords.map (fun record => refreshRecordView false record policy)).filter
    ObservedToolRecord.undecided
  records.map (withWildcardSuggestion policy candidates)

/-- The tools of `list`. -/
def listedTools (records : List ObservedToolRecord) (policy : PolicyFile) :
    List ObservedToolRecord :=
  let refreshed := records.map (fun record => refreshRecordView false record policy)
  withWildcardSuggestions refreshed policy refreshed

/-! ### Rules -/

structure ApplyDetectorPolicyInput where
  approval : Option ApprovalMode
  pattern : Option String
  reason : Option String
  risk : Option String

def ApplyDetectorPolicyInput.none : ApplyDetectorPolicyInput :=
  { approval := Option.none, pattern := Option.none, reason := Option.none, risk := Option.none }

omit [Runtime] in
/-- The pattern and its rule, or the message of the conflict. -/
def buildRule (record : ObservedToolRecord) (input : ApplyDetectorPolicyInput)
    (policy : PolicyFile) : Except String (String × PolicyRule) :=
  let suggestion := record.suggestion
  let pattern := (input.pattern.bind TextScan.content).getD suggestion.pattern
  if (findExactRule policy pattern).isSome then
    .error ("Policy rule already exists for " ++ pattern ++ ".")
  else
    .ok (pattern, { PolicyRule.plain (input.approval.getD suggestion.approval) with
      reason := some ((input.reason.bind TextScan.content).getD suggestion.reason)
      resultSource := suggestion.resultSource
      risk := some ((input.risk.bind TextScan.content).getD suggestion.risk) })

end

/-- The rule of a suggestion nobody changed. -/
def ObservedToolSuggestion.rule (suggestion : ObservedToolSuggestion) : PolicyRule :=
  { PolicyRule.plain suggestion.approval with
    reason := some suggestion.reason
    resultSource := suggestion.resultSource
    risk := some suggestion.risk }

theorem buildRule_of_new {record : ObservedToolRecord} {policy : PolicyFile}
    (missing : findExactRule policy record.suggestion.pattern = none) :
    buildRule record .none policy = .ok (record.suggestion.pattern, record.suggestion.rule) := by
  have new : (findExactRule policy record.suggestion.pattern).isSome = false := by
    rw [missing]
    rfl
  unfold buildRule
  dsimp only
  rw [if_neg (by rw [Bool.not_eq_true]; exact new)]
  rfl

/-- The policy with a rule set in its tools, last if its pattern is new. -/
def PolicyFile.withRule (policy : PolicyFile) (pattern : String) (rule : PolicyRule) : PolicyFile :=
  { policy with tools := policy.tools.set pattern rule }

@[simp] theorem tools_withRule (policy : PolicyFile) (pattern : String) (rule : PolicyRule) :
    (policy.withRule pattern rule).tools = policy.tools.set pattern rule := rfl

theorem findExactRule_withRule_other (policy : PolicyFile) {pattern toolName : String}
    (different : toolName ≠ pattern) (rule : PolicyRule) :
    findExactRule (policy.withRule pattern rule) toolName = findExactRule policy toolName := by
  unfold findExactRule
  rw [tools_withRule, KeyedTable.get?_set_other _ different]

theorem findExactRule_withRule_self (policy : PolicyFile) (pattern : String) (rule : PolicyRule) :
    findExactRule (policy.withRule pattern rule) pattern = some (some rule) := by
  unfold findExactRule
  rw [tools_withRule, KeyedTable.get?_set_self]

theorem get?_of_no_exact {policy : PolicyFile} {pattern : String}
    (missing : findExactRule policy pattern = none) : policy.tools.get? pattern = none := by
  unfold findExactRule at missing
  cases own : policy.tools.get? pattern with
  | none => rfl
  | some rule =>
      rw [own] at missing
      cases missing

section

variable [Runtime]

/-! ### A rule that comes last -/

/-- Every call that a rule other than the default decided is decided by the same rule. -/
def KeepsDecided (policy : PolicyFile) (pattern : String) (rule : PolicyRule) : Prop :=
  ∀ toolName context,
    (evaluatePolicyTrace policy toolName context).matchType ≠ .default →
      (evaluatePolicyTrace (policy.withRule pattern rule) toolName context).matchType =
          (evaluatePolicyTrace policy toolName context).matchType ∧
        (evaluatePolicyTrace (policy.withRule pattern rule) toolName context).evaluation =
          (evaluatePolicyTrace policy toolName context).evaluation

theorem Found.withRule {policy : PolicyFile} {toolName pattern : String}
    {context : PolicyEvaluationContext} {matchType : PolicyTraceMatchType}
    {evaluation : PolicyEvaluation} (new : policy.tools.get? pattern = none)
    (different : toolName ≠ pattern) (rule : PolicyRule)
    (found : Found policy toolName context matchType evaluation)
    (decided : matchType ≠ .default) :
    Found (policy.withRule pattern rule) toolName context matchType evaluation := by
  have same := findExactRule_withRule_other policy different rule
  have applies : exactApplies (policy.withRule pattern rule) toolName context =
      exactApplies policy toolName context := by
    unfold exactApplies
    rw [same]
  cases found with
  | exact own =>
      rw [← same]
      exact .exact (applies.trans own)
  | wildcard earlier other unapplied first =>
      refine .wildcard earlier other (applies.trans unapplied) ?_
      rw [tools_withRule, KeyedTable.entries_set_new policy.tools new, List.find?_append, first]
      rfl
  | default => exact absurd rfl decided

theorem found_withRule_self (policy : PolicyFile) (pattern : String) {rule : PolicyRule}
    (unconditional : rule.conditions = none) (context : PolicyEvaluationContext) :
    Found (policy.withRule pattern rule) pattern context .exact (toEvaluation (some rule) pattern) := by
  have own := findExactRule_withRule_self policy pattern rule
  have applies : exactApplies (policy.withRule pattern rule) pattern context = true := by
    unfold exactApplies
    rw [own]
    exact conditionsMatch_of_none (by rw [Option.bind_some, unconditional]; rfl) pattern context
  have found := Found.exact applies
  rw [own] at found
  exact found

/-- A rule without conditions under a new pattern keeps what was decided exactly if no wildcard rule
decides the tool that the pattern names, in any context. -/
theorem keepsDecided_iff {policy : PolicyFile} {pattern : String} {rule : PolicyRule}
    (missing : findExactRule policy pattern = none) (unconditional : rule.conditions = none) :
    KeepsDecided policy pattern rule ↔
      ∀ context, ∀ entry ∈ policy.tools.entries, contends pattern context entry = false := by
  have new := get?_of_no_exact missing
  have unapplied : ∀ context, exactApplies policy pattern context = false := by
    intro context
    unfold exactApplies
    rw [missing]
    rfl
  constructor
  · intro keeps context entry member
    rw [← Bool.not_eq_true]
    intro passes
    have old := found policy pattern context
    cases search : policy.tools.entries.find? (contends pattern context) with
    | none => exact absurd passes (List.find?_eq_none.mp search entry member)
    | some first =>
        have wildcard := Found.wildcard first.1 first.2 (unapplied context) search
        have kind := (old.unique wildcard).1
        have kept := keeps pattern context (by rw [kind]; exact PolicyTraceMatchType.noConfusion)
        have exact' := found_withRule_self policy pattern unconditional context
        have now := ((found (policy.withRule pattern rule) pattern context).unique exact').1
        rw [now, kind] at kept
        cases kept.1
  · intro apart toolName context decided
    have old := found policy toolName context
    by_cases same : toolName = pattern
    · subst same
      have search : policy.tools.entries.find? (contends toolName context) = none := by
        rw [List.find?_eq_none]
        intro entry member
        rw [apart context entry member]
        exact Bool.false_ne_true
      have default := Found.default (unapplied context) search
      exact absurd (old.unique default).1 decided
    · have kept := old.withRule new same rule decided
      exact (found (policy.withRule pattern rule) toolName context).unique kept

omit [Runtime] in
/-- No wildcard but the provider's own covers a tool of the name of the provider's wildcard. -/
theorem uncovered_provider_wildcard {provider toolName pattern : String}
    (named : providerPrefix toolName = some provider)
    (covers : wildcardCovers pattern (provider ++ ".*") = true) : pattern = provider ++ ".*" := by
  have undotted : '.' ∉ provider.toList := by
    unfold providerPrefix at named
    split at named
    · rename_i start rest others split'
      split at named
      · cases named
        rw [String.toList_ofList]
        exact TextScan.not_mem_piece (by rw [split']; exact List.mem_cons_self)
      · cases named
    · cases named
  obtain ⟨space, ends, start⟩ := (coversTool_iff pattern (provider ++ ".*")).mpr covers
  obtain ⟨rest, whole⟩ := start
  rw [String.toList_append] at whole
  -- the only dot of the covered name ends the space
  have spaces : space = provider.toList := by
    have stars : ".*".toList = ['.', '*'] := by decide
    rw [stars, List.append_assoc] at whole
    rcases List.append_eq_append_iff.mp whole with ⟨more, same, tail⟩ | ⟨more, same, tail⟩
    · cases more with
      | nil => simpa using same.symm
      | cons char chars =>
          obtain rfl : '.' = char := (List.cons.inj tail).1
          exact absurd (by rw [same]; simp) undotted
    · cases more with
      | nil => simpa using same
      | cons char chars =>
          have star : ['*'] = chars ++ '.' :: rest := (List.cons.inj tail).2
          cases chars <;> simp at star
  rw [← String.toList_inj, ends, spaces, String.toList_append]
  rfl

/-! ### Suggested rules -/

omit [Runtime] in
theorem buildRule_ok {record : ObservedToolRecord} {policy : PolicyFile} {pattern : String}
    {rule : PolicyRule} (built : buildRule record .none policy = .ok (pattern, rule)) :
    pattern = record.suggestion.pattern ∧ findExactRule policy pattern = none ∧
      rule.conditions = none := by
  unfold buildRule at built
  dsimp only at built
  split at built
  · cases built
  · rename_i missing
    cases built
    exact ⟨rfl, Option.not_isSome_iff_eq_none.mp missing, rfl⟩

theorem suggestionForToolName_pattern (toolName : String) :
    (suggestionForToolName toolName).pattern = toolName ∧
      (suggestionForToolName toolName).patternType = .exact := by
  unfold suggestionForToolName
  dsimp only
  repeat' split
  all_goals exact ⟨rfl, rfl⟩

theorem withWildcardSuggestion_few {candidates : List ObservedToolRecord}
    (few : candidates.length < 3) (policy : PolicyFile) (record : ObservedToolRecord) :
    withWildcardSuggestion policy candidates record = record := by
  unfold withWildcardSuggestion
  split
  · rfl
  · split
    · dsimp only
      rw [if_pos (.inl (Nat.lt_of_le_of_lt (List.length_filter_le _ _) few))]
    · rfl

/-- A listed tool's suggestion is its own name, or the wildcard of its provider. -/
theorem listed_suggestion {records : List ObservedToolRecord} {policy : PolicyFile}
    {record : ObservedToolRecord} (listed : record ∈ listedTools records policy) :
    (record.suggestion.patternType = .exact ∧ record.suggestion.pattern = record.toolName) ∨
      (record.suggestion.patternType = .wildcard ∧
        ∃ provider, providerPrefix record.toolName = some provider ∧
          record.suggestion.pattern = provider ++ ".*") := by
  obtain ⟨refreshed, member, rfl⟩ := List.mem_map.mp listed
  obtain ⟨stored, _, rfl⟩ := List.mem_map.mp member
  have base := suggestionForToolName_pattern stored.toolName
  unfold withWildcardSuggestion
  cases named : providerPrefix (refreshRecordView false stored policy).toolName with
  | none => exact .inl ⟨base.2, base.1⟩
  | some provider =>
      dsimp only
      split
      · split
        · exact .inl ⟨base.2, base.1⟩
        · exact .inr ⟨rfl, provider, named, rfl⟩
      · exact .inl ⟨base.2, base.1⟩

/-- The rule made of a listed tool's suggestion keeps what other rules decided exactly if it is a
wildcard, or no wildcard rule of the policy decides a call of the tool, in any context. -/
theorem suggestion_keeps_decided_iff {records : List ObservedToolRecord} {policy : PolicyFile}
    {record : ObservedToolRecord} {pattern : String} {rule : PolicyRule}
    (listed : record ∈ listedTools records policy)
    (built : buildRule record .none policy = .ok (pattern, rule)) :
    KeepsDecided policy pattern rule ↔
      record.suggestion.patternType = .wildcard ∨
        ∀ context, ∀ entry ∈ policy.tools.entries,
          ¬ (wildcardCovers entry.1 record.toolName = true ∧
            conditionsMatch entry.2.conditions record.toolName context = true) := by
  obtain ⟨named, missing, unconditional⟩ := buildRule_ok built
  rw [keepsDecided_iff missing unconditional, named]
  have split' : ∀ toolName context (entry : String × PolicyRule),
      contends toolName context entry = false ↔
        ¬ (wildcardCovers entry.1 toolName = true ∧
          conditionsMatch entry.2.conditions toolName context = true) := by
    intro toolName context entry
    rw [← Bool.not_eq_true, contends, Bool.and_eq_true]
  rcases listed_suggestion listed with ⟨exact', own⟩ | ⟨wildcard, provider, prefixed, own⟩
  · rw [own]
    have other : record.suggestion.patternType ≠ .wildcard := by
      rw [exact']
      exact SuggestionPatternType.noConfusion
    simp only [split']
    exact ⟨.inr, fun either => either.resolve_left other⟩
  · refine ⟨fun _ => .inl wildcard, fun _ context entry member => ?_⟩
    rw [split']
    rintro ⟨covers, _⟩
    rw [own] at covers named
    have same := uncovered_provider_wildcard prefixed covers
    have held := (policy.tools.get?_eq_some_iff entry.1 entry.2).mpr member
    rw [same, ← named, get?_of_no_exact missing] at held
    cases held

end

/-! ### A conditional wildcard -/

def observedTool (toolName : String) : ObservedToolRecord :=
  { id := "observed_1", workspaceId := "default", toolName := toolName, sources := [.runtime]
    sourceIds := ⟨none, none, none⟩, firstSeenAt := "", lastSeenAt := "", callCount := 1
    schemaChange := none, schemaHash := none
    coverage := { approval := none, decision := .deny, matchedRule := "default"
                  matchType := .default, reason := "", risk := "unknown", status := .uncovered }
    status := .unresolved
    suggestion := { approval := .required, confidence := .low, pattern := toolName
                    patternType := .exact, reason := "", resultSource := none, risk := "unknown" }
    createdAt := "", updatedAt := "" }

/-- Mail that customers see is denied. -/
def visibleMailDenied : PolicyFile :=
  { version := JsonNumber.ofDigit 1 Nat.one_ne_zero
    default := PolicyRule.plain .required
    tools := KeyedTable.empty.set "mail.*"
      { PolicyRule.plain .deny with conditions := some [("customerVisible", .bool true)] } }

def visibleContext : PolicyEvaluationContext := { PolicyEvaluationContext.none with
  customerVisible := some true }

/-- The tool as it is listed. -/
def listedMail : ObservedToolRecord :=
  @refreshRecordView (sampleRuntime []) false (observedTool "mail.send") visibleMailDenied

theorem listedMail_listed :
    listedMail ∈ @listedTools (sampleRuntime []) [observedTool "mail.send"] visibleMailDenied := by
  refine List.mem_map.mpr ⟨listedMail, List.mem_map.mpr ⟨_, List.mem_cons_self, rfl⟩, ?_⟩
  refine @withWildcardSuggestion_few (sampleRuntime []) _ ?_ visibleMailDenied listedMail
  refine Nat.lt_of_le_of_lt (List.length_filter_le _ _) ?_
  decide

theorem listedMail_rule :
    buildRule listedMail .none visibleMailDenied =
      .ok ("mail.send", listedMail.suggestion.rule) := by
  have pattern : listedMail.suggestion.pattern = "mail.send" :=
    (@suggestionForToolName_pattern (sampleRuntime []) "mail.send").1
  have missing : findExactRule visibleMailDenied "mail.send" = none :=
    Option.not_isSome_iff_eq_none.mp (by decide +kernel)
  rw [buildRule_of_new (by rw [pattern]; exact missing), pattern]

theorem suggestion_keeps_decided_iff_mail :
    @KeepsDecided (sampleRuntime []) visibleMailDenied "mail.send" listedMail.suggestion.rule ↔
      listedMail.suggestion.patternType = .wildcard ∨
        ∀ context, ∀ entry ∈ visibleMailDenied.tools.entries,
          ¬ (wildcardCovers entry.1 listedMail.toolName = true ∧
            @conditionsMatch (sampleRuntime []) entry.2.conditions listedMail.toolName context =
              true) :=
  @suggestion_keeps_decided_iff (sampleRuntime []) _ _ _ _ _ listedMail_listed listedMail_rule

/-- The tool is listed as uncovered; the rule of its suggestion lets a mail that was denied wait for
an approval. -/
theorem suggestion_overrides_deny :
    visibleMailDenied.accepted = true ∧
      listedMail ∈ @listedTools (sampleRuntime []) [observedTool "mail.send"] visibleMailDenied ∧
      listedMail.coverage.status = .uncovered ∧
      buildRule listedMail .none visibleMailDenied =
        .ok ("mail.send", listedMail.suggestion.rule) ∧
      (@evaluatePolicyTrace (sampleRuntime []) visibleMailDenied "mail.send"
        visibleContext).decision = .deny ∧
      (@evaluatePolicyTrace (sampleRuntime [])
        (visibleMailDenied.withRule "mail.send" listedMail.suggestion.rule) "mail.send"
        visibleContext).decision = .requireApproval ∧
      ¬ @KeepsDecided (sampleRuntime []) visibleMailDenied "mail.send"
        listedMail.suggestion.rule := by
  have old : (@evaluatePolicyTrace (sampleRuntime []) visibleMailDenied "mail.send"
      visibleContext).matchType = .wildcard := by decide +kernel
  have new : (@evaluatePolicyTrace (sampleRuntime [])
      (visibleMailDenied.withRule "mail.send" listedMail.suggestion.rule) "mail.send"
      visibleContext).matchType = .exact := by decide +kernel
  refine ⟨by decide +kernel, listedMail_listed, by decide +kernel, listedMail_rule,
    by decide +kernel, by decide +kernel, ?_⟩
  intro keeps
  have kept := (keeps "mail.send" visibleContext (by rw [old]; decide)).1
  rw [old, new] at kept
  cases kept

end ActionProxy
