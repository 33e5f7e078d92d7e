import ActionProxy.Policy.ParsePolicy
import ActionProxy.Services.ApproverDirectory
import ActionProxy.Services.PolicyDetector

/-!
`PUT /v1/policy`: the steps of an update in their order, each with the ways it can fail,
and what a failure leaves of the policy in memory and in its file.
-/

namespace ActionProxy

open JsonText

/-- The policy in memory and the text of its file, when there is one. -/
structure PolicyManager where
  policy : PolicyFile
  file : Option String

def PolicyManager.versionHash [Runtime] (manager : PolicyManager) : String :=
  manager.policy.versionHash

/-- How `writeFileSync` ends; one that fails leaves a file of some text, or none. -/
inductive FileWrite where
  | written
  | failed (message : String) (left : Option String)

/-- The data of a `policy.updated` event. -/
structure PolicyUpdatedData where
  addedRules : List String
  removedRules : List String
  ruleCount : Nat
  version : JsonNumber

/-- How the steps outside of the route end, in one request. -/
structure PolicyUpdateSteps where
  /-- What an approver directory, when there is one, lists. -/
  directory : Option (Except String (List ApproverUserRecord × List ApproverGroupRecord))
  mkdir : Except String Unit
  write : FileWrite
  refreshPolicyCoverage : PolicyFile → Except String Unit
  appendAudit : PolicyUpdatedData → Except String Unit

/-- What the libraries print: a policy as YAML, and the issues of a value that is none. -/
structure PolicyPrinting where
  yaml : Json → String
  issues : Option Json → String

structure PolicySummaryRule where
  approval : ApprovalMode
  decision : PolicyDecision
  influence : Option PolicyInfluenceGuard
  matchType : PolicyTraceMatchType
  pattern : String
  reason : String
  resultSource : Option PolicyResultSource
  risk : String

structure PolicySummary where
  defaultRule : PolicySummaryRule
  rules : List PolicySummaryRule
  version : JsonNumber

inductive PolicyReply where
  | updated (policy : PolicyFile) (summary : PolicySummary)
  | invalidPolicy (message : String)

/-! ### Summaries -/

def fallbackReason : ApprovalMode → String
  | .never => "Policy allowed this tool."
  | .required => "Policy requires approval for this tool."
  | .deny => "Policy denied this tool."

def summarizeRule (pattern : String) (rule : PolicyRule) : PolicySummaryRule :=
  { approval := rule.approval
    decision := decisionForApproval (some rule.approval)
    influence := rule.influence
    matchType := if isWildcard pattern then .wildcard else .exact
    pattern := pattern
    reason := rule.reason.getD (fallbackReason rule.approval)
    resultSource := rule.resultSource
    risk := rule.risk.getD "unknown" }

def summarizePolicy [Runtime] (policy : PolicyFile) : PolicySummary :=
  let defaultEvaluation := evaluatePolicy { policy with tools := KeyedTable.empty }
    "__actionproxy_unknown_tool__" .none
  { defaultRule :=
      { approval := policy.default.approval
        decision := defaultEvaluation.decision
        influence := policy.default.influence
        matchType := .default
        pattern := "default"
        reason := defaultEvaluation.reason
        resultSource := policy.default.resultSource
        risk := defaultEvaluation.risk }
    rules := policy.tools.entries.map (fun entry => summarizeRule entry.1 entry.2)
    version := policy.version }

/-! ### Approvers -/

def policyRules (policy : PolicyFile) : List (String × PolicyRule) :=
  ("default", policy.default) :: policy.tools.entries

/-- The first approver of a rule that is not enabled, users before groups. -/
def unknownApprover (enabledUsers enabledGroups : List String) (entry : String × PolicyRule) :
    Option String :=
  let users := (entry.2.approvers.bind PolicyApprovers.users).getD []
  let groups := (entry.2.approvers.bind PolicyApprovers.groups).getD []
  let refused (kind id : String) : String :=
    "Policy rule " ++ entry.1 ++ " references unknown or disabled approver " ++ kind ++ ": " ++ id
  (users.find? (fun id => !enabledUsers.contains id)).map (refused "user") <|>
    (groups.find? (fun id => !enabledGroups.contains id)).map (refused "group")

def validatePolicy
    (directory : Except String (List ApproverUserRecord × List ApproverGroupRecord))
    (policy : PolicyFile) : Except String Unit :=
  match directory with
  | .error message => .error message
  | .ok (users, groups) =>
      let enabledUsers := (users.filter ApproverUserRecord.enabled).map ApproverUserRecord.id
      let enabledGroups := (groups.filter ApproverGroupRecord.enabled).map ApproverGroupRecord.id
      match (policyRules policy).findSome? (unknownApprover enabledUsers enabledGroups) with
      | some message => .error message
      | none => .ok ()

/-! ### The update -/

section

variable (printing : PolicyPrinting) (steps : PolicyUpdateSteps)

def parsedPolicy (input : Option Json) : Except String PolicyFile :=
  match parsePolicy input with
  | some policy => .ok policy
  | none => .error ("Invalid policy file: " ++ printing.issues input)

/-- The file after the write, and the policy that was written. -/
def writePolicy (file : Option String) (policy : PolicyFile) :
    Option String × Except String PolicyFile :=
  match parsedPolicy printing (some policy.json) with
  | .error message => (file, .error message)
  | .ok parsed =>
      match steps.mkdir with
      | .error message => (file, .error message)
      | .ok _ =>
          match steps.write with
          | .failed message left => (left, .error message)
          | .written => (some (printing.yaml parsed.json), .ok parsed)

def PolicyManager.replacePolicy (manager : PolicyManager) (input : Option Json) :
    PolicyManager × Except String PolicyFile :=
  match parsedPolicy printing input with
  | .error message => (manager, .error message)
  | .ok parsed =>
      match writePolicy printing steps manager.file parsed with
      | (file, .error message) => ({ manager with file := file }, .error message)
      | (file, .ok nextPolicy) =>
          let policy : PolicyFile :=
            { version := nextPolicy.version
              default := nextPolicy.default
              tools := nextPolicy.tools }
          ({ policy := policy, file := file }, .ok policy)

def PolicyFile.patterns (policy : PolicyFile) : List String := policy.tools.entries.map Prod.fst

def policyUpdatedData (previous policy : PolicyFile) : PolicyUpdatedData :=
  { addedRules := policy.patterns.filter (fun pattern => !previous.patterns.contains pattern)
    removedRules := previous.patterns.filter (fun pattern => !policy.patterns.contains pattern)
    ruleCount := policy.patterns.length
    version := policy.version }

/-- The handler: what was thrown by any step is answered the same. -/
def PolicyManager.putPolicy [Runtime] (manager : PolicyManager) (body : Option Json) :
    PolicyManager × PolicyReply :=
  match parsedPolicy printing body with
  | .error message => (manager, .invalidPolicy message)
  | .ok nextPolicy =>
      match steps.directory.elim (.ok ()) (fun directory => validatePolicy directory nextPolicy) with
      | .error message => (manager, .invalidPolicy message)
      | .ok _ =>
          match manager.replacePolicy printing steps (some nextPolicy.json) with
          | (manager, .error message) => (manager, .invalidPolicy message)
          | (replaced, .ok policy) =>
              match steps.refreshPolicyCoverage policy with
              | .error message => (replaced, .invalidPolicy message)
              | .ok _ =>
                  match steps.appendAudit (policyUpdatedData manager.policy policy) with
                  | .error message => (replaced, .invalidPolicy message)
                  | .ok _ => (replaced, .updated policy (summarizePolicy policy))

/-! ### What a rejection leaves -/

/-- The policy in memory, its file and its version hash are the same. -/
structure SamePolicy [Runtime] (before after : PolicyManager) : Prop where
  policy : after.policy = before.policy
  file : after.file = before.file
  versionHash : after.versionHash = before.versionHash

/-- The body is a policy, and its approvers are known. -/
structure Submitted (body : Option Json) (nextPolicy : PolicyFile) : Prop where
  parsed : parsePolicy body = some nextPolicy
  approvers : steps.directory.elim (.ok ()) (fun directory =>
    validatePolicy directory nextPolicy) = .ok ()

theorem parsedPolicy_eq {input : Option Json} {policy : PolicyFile}
    (parsed : parsePolicy input = some policy) : parsedPolicy printing input = .ok policy := by
  rw [parsedPolicy, parsed]

theorem replacePolicy_parsed {manager : PolicyManager} {body : Option Json}
    {nextPolicy : PolicyFile} (parsed : parsePolicy body = some nextPolicy) :
    manager.replacePolicy printing steps (some nextPolicy.json) =
      match steps.mkdir, steps.write with
      | .error message, _ => (manager, .error message)
      | .ok _, .failed message left => ({ manager with file := left }, .error message)
      | .ok _, .written =>
          ({ policy := nextPolicy, file := some (printing.yaml nextPolicy.json) }, .ok nextPolicy) := by
  have again := parsedPolicy_eq printing (parsePolicy_idempotent parsed)
  unfold PolicyManager.replacePolicy writePolicy
  simp only [again]
  cases steps.mkdir with
  | error message => rfl
  | ok _ =>
      cases steps.write with
      | written => rfl
      | failed message left => rfl

variable [Runtime]

/-- A rejection changes nothing. -/
def RejectionKeeps (manager : PolicyManager) (body : Option Json) : Prop :=
  ∀ message, (manager.putPolicy printing steps body).2 = .invalidPolicy message →
    SamePolicy manager (manager.putPolicy printing steps body).1

/-- Whatever is written is followed by steps that do not fail, or is in force already; and
a write that fails leaves the file. -/
structure RejectsBeforeWriting (manager : PolicyManager) (body : Option Json) : Prop where
  unwritten : ∀ nextPolicy, Submitted steps body nextPolicy → steps.mkdir = .ok () →
    ∀ message left, steps.write = .failed message left → left = manager.file
  written : ∀ nextPolicy, Submitted steps body nextPolicy → steps.mkdir = .ok () →
    steps.write = .written →
      (steps.refreshPolicyCoverage nextPolicy = .ok () ∧
        steps.appendAudit (policyUpdatedData manager.policy nextPolicy) = .ok ()) ∨
      (nextPolicy = manager.policy ∧ manager.file = some (printing.yaml nextPolicy.json))

theorem samePolicy_refl (manager : PolicyManager) : SamePolicy manager manager :=
  { policy := rfl, file := rfl, versionHash := rfl }

theorem putPolicy_refused {manager : PolicyManager} {body : Option Json}
    (refused : ∀ nextPolicy, ¬Submitted steps body nextPolicy) :
    (manager.putPolicy printing steps body).1 = manager := by
  unfold PolicyManager.putPolicy
  cases parsed : parsePolicy body with
  | none => simp only [parsedPolicy, parsed]
  | some nextPolicy =>
      simp only [parsedPolicy, parsed]
      cases checked : steps.directory.elim (.ok ()) (fun directory =>
          validatePolicy directory nextPolicy) with
      | error message => rfl
      | ok _ => exact absurd { parsed := parsed, approvers := checked } (refused nextPolicy)

theorem putPolicy_submitted (manager : PolicyManager) {body : Option Json}
    {nextPolicy : PolicyFile} (submitted : Submitted steps body nextPolicy) :
    manager.putPolicy printing steps body =
      match steps.mkdir, steps.write with
      | .error message, _ => (manager, .invalidPolicy message)
      | .ok _, .failed message left => ({ manager with file := left }, .invalidPolicy message)
      | .ok _, .written =>
          let replaced : PolicyManager :=
            { policy := nextPolicy, file := some (printing.yaml nextPolicy.json) }
          match steps.refreshPolicyCoverage nextPolicy,
              steps.appendAudit (policyUpdatedData manager.policy nextPolicy) with
          | .error message, _ => (replaced, .invalidPolicy message)
          | .ok _, .error message => (replaced, .invalidPolicy message)
          | .ok _, .ok _ => (replaced, .updated nextPolicy (summarizePolicy nextPolicy)) := by
  unfold PolicyManager.putPolicy
  simp only [parsedPolicy_eq printing submitted.parsed, submitted.approvers,
    replacePolicy_parsed printing steps submitted.parsed]
  cases steps.mkdir with
  | error message => rfl
  | ok _ =>
      cases steps.write with
      | failed message left => rfl
      | written =>
          simp only
          cases steps.refreshPolicyCoverage nextPolicy with
          | error message => rfl
          | ok _ =>
              simp only
              cases steps.appendAudit (policyUpdatedData manager.policy nextPolicy) with
              | error message => rfl
              | ok _ => rfl

/-- A rejected update changes nothing exactly when nothing fails after the file is written,
a policy that is in force already apart. -/
theorem rejection_keeps_policy_iff (manager : PolicyManager) (body : Option Json) :
    RejectionKeeps printing steps manager body ↔
      RejectsBeforeWriting printing steps manager body := by
  by_cases some' : ∃ nextPolicy, Submitted steps body nextPolicy
  · obtain ⟨nextPolicy, submitted⟩ := some'
    have only : ∀ other, Submitted steps body other → other = nextPolicy := by
      intro other also
      exact Option.some_inj.mp (also.parsed.symm.trans submitted.parsed)
    have result := putPolicy_submitted printing steps manager submitted
    constructor
    · intro keeps
      constructor
      · intro other also made message left failed
        simp only [made, failed] at result
        have kept := keeps message (by rw [result])
        simpa only [result] using kept.file
      · intro other also made written
        obtain rfl := only other also
        simp only [made, written] at result
        cases refreshed : steps.refreshPolicyCoverage other with
        | error message =>
            simp only [refreshed] at result
            have kept := keeps message (by rw [result])
            rw [result] at kept
            exact Or.inr ⟨kept.policy, kept.file.symm⟩
        | ok _ =>
            cases appended : steps.appendAudit (policyUpdatedData manager.policy other) with
            | error message =>
                simp only [refreshed, appended] at result
                have kept := keeps message (by rw [result])
                rw [result] at kept
                exact Or.inr ⟨kept.policy, kept.file.symm⟩
            | ok _ => exact Or.inl ⟨rfl, rfl⟩
    · intro rejects message answered
      cases made : steps.mkdir with
      | error message =>
          simp only [made] at result
          rw [result]
          exact samePolicy_refl manager
      | ok _ =>
          cases wrote : steps.write with
          | failed message left =>
              have left_eq := rejects.unwritten nextPolicy submitted made message left wrote
              simp only [made, wrote, left_eq] at result
              rw [result]
              exact samePolicy_refl manager
          | written =>
              simp only [made, wrote] at result
              rcases rejects.written nextPolicy submitted made wrote with
                ⟨refreshed, appended⟩ | ⟨inForce, inFile⟩
              · simp only [refreshed, appended] at result
                rw [result] at answered
                exact absurd answered (by simp)
              · have same : ({ policy := nextPolicy
                               file := some (printing.yaml nextPolicy.json) } : PolicyManager) =
                    manager := by
                  rw [← inFile, inForce]
                rw [same] at result
                cases refreshed : steps.refreshPolicyCoverage nextPolicy with
                | error message =>
                    simp only [refreshed] at result
                    rw [result]
                    exact samePolicy_refl manager
                | ok _ =>
                    simp only [refreshed] at result
                    cases appended : steps.appendAudit
                        (policyUpdatedData manager.policy nextPolicy) with
                    | error message =>
                        simp only [appended] at result
                        rw [result]
                        exact samePolicy_refl manager
                    | ok _ =>
                        simp only [appended] at result
                        rw [result]
                        exact samePolicy_refl manager
  · have refused : ∀ nextPolicy, ¬Submitted steps body nextPolicy :=
      fun nextPolicy submitted => some' ⟨nextPolicy, submitted⟩
    constructor
    · intro _
      exact
        { unwritten := fun nextPolicy submitted => absurd submitted (refused nextPolicy)
          written := fun nextPolicy submitted => absurd submitted (refused nextPolicy) }
    · intro _ message _
      rw [putPolicy_refused printing steps refused]
      exact samePolicy_refl manager

end

/-- A policy without rules, that denies every tool. -/
def withdrawnPolicy : PolicyFile :=
  { version := JsonNumber.ofDigit 1 Nat.one_ne_zero
    default := PolicyRule.plain .deny
    tools := KeyedTable.empty }

theorem withdrawnPolicy_readable : withdrawnPolicy.readable = true := by decide

/-- Every step succeeds but the last: the event cannot be appended. -/
def auditFailure : PolicyUpdateSteps :=
  { directory := none
    mkdir := .ok ()
    write := .written
    refreshPolicyCoverage := fun _ => .ok ()
    appendAudit := fun _ => .error "SQLite error: database is locked" }

/-- The update is answered as an invalid policy, and is in force. -/
theorem failed_append_replaces_policy :
    ∃ (printing : PolicyPrinting) (manager : PolicyManager) (body : Option Json)
      (message : String),
      (@PolicyManager.putPolicy printing auditFailure (sampleRuntime []) manager body).2 =
          .invalidPolicy message ∧
        ¬ @SamePolicy (sampleRuntime []) manager
          (@PolicyManager.putPolicy printing auditFailure (sampleRuntime []) manager body).1 := by
  let _ := sampleRuntime []
  let printing : PolicyPrinting :=
    { yaml := fun value => String.ofList (textWith insertionOrder value)
      issues := fun _ => "issues" }
  let manager : PolicyManager := { policy := permissivePolicy, file := some (printing.yaml permissivePolicy.json) }
  have submitted : Submitted auditFailure (some withdrawnPolicy.json) withdrawnPolicy :=
    { parsed := parsePolicy_json withdrawnPolicy_readable
      approvers := rfl }
  have result := putPolicy_submitted printing auditFailure manager submitted
  simp only [auditFailure] at result
  refine ⟨printing, manager, some withdrawnPolicy.json, "SQLite error: database is locked", ?_, ?_⟩
  · exact congrArg Prod.snd result
  · intro same
    have policies : withdrawnPolicy = permissivePolicy :=
      (congrArg (fun outcome => outcome.1.policy) result).symm.trans same.policy
    have approvals := congrArg (fun policy : PolicyFile => policy.default.approval) policies
    exact absurd approvals (by decide)

end ActionProxy
