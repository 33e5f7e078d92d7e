import ActionProxy.Foundation.ContractRules
import ActionProxy.Services.ExecutionTruth
import ActionProxy.Services.SubmitToolCall

/-!
What the calls of the gate keep of the stored approvals and idempotency records while they
run beside each other: an approval is decided by eligible principals alone, and a record that
was made for a key stays.
-/

namespace ActionProxy

open JsonText Interleaving MemoryStore

/-! ### Who may decide -/

/-- The principal meets the requirements that are frozen in an authorization. -/
structure Eligible (authorization : ApprovalAuthorizationV1) (principal : AuthContext) :
    Prop where
  workspace : principal.workspaceId = authorization.binding.approval.tenantId
  named : ∀ users, authorization.binding.requirements.eligibleUsers = some users →
    principal.principalId ∈ users
  claims : authorization.binding.requirements.eligibleUsers = none →
    authorization.binding.requirements.eligibleGroups = [] ∨
      ∃ group ∈ authorization.binding.requirements.eligibleGroups, group ∈ principal.groups
  separated : authorization.binding.requirements.separationOfDuties = true →
    authorization.binding.approval.requestedByPrincipalId ≠ some principal.principalId ∧
      principal.principalId ≠ authorization.binding.approval.requestedBy ∧
      principal.email ≠ some authorization.binding.approval.requestedBy ∧
      principal.displayName ≠ authorization.binding.approval.requestedBy

/-- The decision was made by one of the principals, and that one is eligible. -/
def Qualified (decides : AuthContext → Prop) (authorization : ApprovalAuthorizationV1)
    (auth : Option AuthContext) : Prop :=
  ∃ principal, auth = some principal ∧ decides principal ∧ Eligible authorization principal

/-- The actor stands for one of the principals, and that one is eligible. -/
def ActedFor (decides : AuthContext → Prop) (authorization : ApprovalAuthorizationV1)
    (actor : Option String) : Prop :=
  ∃ principal, decides principal ∧ Eligible authorization principal ∧ actor = some principal.actor

theorem mem_sortedUnique {values : List String} {text : String} :
    text ∈ sortedUnique values ↔ text ∈ values := by
  unfold sortedUnique
  rw [List.mem_insertionSort, List.mem_dedup]

section

variable [Runtime]

theorem requestedBy_of_valid {authorization : ApprovalAuthorizationV1}
    (valid : isValidApprovalAuthorization authorization = true) :
    authorization.binding.approval.requestedBy ≠ "" := by
  simp only [isValidApprovalAuthorization, Bool.and_eq_true, bne_iff_ne] at valid
  tauto

/-- A principal that the gate lets decide an approval is eligible under the authorization
that the approval agrees with. -/
theorem eligible_of_decides {authorization : ApprovalAuthorizationV1} {approval : ApprovalRecord}
    {toolCall : ToolCallRecord} {principal : AuthContext}
    (agrees : AuthorizationAgrees authorization approval toolCall)
    (authenticated : principal.authProvider ≠ .none)
    (decides : assertCanDecideApproval approval (some principal) = .ok ()) :
    Eligible authorization principal := by
  obtain ⟨home, admitted, unbarred⟩ :=
    (assertCanDecideApproval_ok.mp decides).resolve_left authenticated
  constructor
  · rw [agrees.approvalTenant, home]
  · intro users given
    rw [agrees.users, Option.map_eq_some_iff] at given
    obtain ⟨listed, stored, rfl⟩ := given
    rw [ApprovalRecord.electorate, stored] at admitted
    exact mem_sortedUnique.mpr (List.contains_iff_mem.mp admitted)
  · intro unnamed
    rw [agrees.users, Option.map_eq_none_iff] at unnamed
    rw [ApprovalRecord.electorate, unnamed] at admitted
    rw [agrees.groups]
    rcases Bool.or_eq_true_iff.mp admitted with nobody | claimed
    · left
      rw [List.isEmpty_iff.mp nobody]
      rfl
    · right
      obtain ⟨group, listed, member⟩ := List.any_eq_true.mp claimed
      exact ⟨group, mem_sortedUnique.mpr listed, List.contains_iff_mem.mp member⟩
  · intro separated
    have named := requestedBy_of_valid agrees.valid
    rw [agrees.separation] at separated
    have required : approval.separationOfDuties = some true := by
      cases given : approval.separationOfDuties with
      | none => simp [given] at separated
      | some flag => simpa [given] using separated
    rw [agrees.requestedBy] at named ⊢
    rw [agrees.requestedByPrincipal]
    have actor : nonEmpty (some approval.requestedBy) = some approval.requestedBy := by
      simpa [nonEmpty] using named
    simp only [ApprovalRecord.barsSubmitter, required, decide_true, Bool.true_and,
      Bool.or_eq_false_iff, principalMatchesActor, actor, Option.any_some, beq_eq_false_iff_ne]
      at unbarred
    obtain ⟨⟨⟨principalOther, emailOther⟩, nameOther⟩, requesterOther⟩ := unbarred
    refine ⟨?_, principalOther, emailOther, nameOther⟩
    intro same
    obtain ⟨requester, given, equal⟩ := Option.map_eq_some_iff.mp same
    simp [given, equal] at requesterOther

end

/-! ### Sound approvals -/

section

variable [Runtime] {decides : AuthContext → Prop}

/-- What a stored approval says of those who decided it. -/
structure Sound (decides : AuthContext → Prop) (authorization : ApprovalAuthorizationV1)
    (approvalId : String) (approval : ApprovalRecord) : Prop where
  obeys : ∃ run, ApprovalInvariant authorization approvalId run approval
  qualified : ∀ decision ∈ approval.recorded, Qualified decides authorization decision.auth
  rejected : approval.status = .rejected → ActedFor decides authorization approval.rejectedBy
  cancelled : approval.status = .cancelled → ActedFor decides authorization approval.cancelledBy

omit [Runtime] in
/-- The operation is made for a principal that is eligible under the authorization given
with it. -/
def ApprovalOperation.Permitted (decides : AuthContext → Prop) : ApprovalOperation → Prop
  | .record input => Qualified decides input.authorization.authorization input.decision.auth
  | .reject input => ∀ supplied, input.authorization = some supplied →
      ActedFor decides supplied.authorization (some input.rejectedBy)
  | .cancel input => ∀ supplied, input.authorization = some supplied →
      ActedFor decides supplied.authorization (some input.cancelledBy)
  | .expire _ => True

theorem Guarded.supplied {store : MemoryStore} {current : ApprovalRecord}
    {given : Option ApprovalAuthorizationGuard} {authorization : ApprovalAuthorizationV1}
    (guarded : Guarded store current given)
    (authorized : current.authorization = some authorization) :
    ∃ supplied, given = some supplied ∧ supplied.authorization = authorization := by
  rcases guarded with none | ⟨supplied, same, accepted⟩
  · rw [authorized] at none
    cases none
  · obtain ⟨_, _, stored, _⟩ := valid_of_not_failed accepted
    exact ⟨supplied, same, Option.some.inj (stored.symm.trans authorized)⟩

theorem Sound.change {authorization : ApprovalAuthorizationV1} {approvalId : String}
    {store : MemoryStore} {now : Int} {current next : ApprovalRecord}
    {operation : ApprovalOperation} {outcome : ApprovalOutcome}
    (sound : Sound decides authorization approvalId current) (pending : current.status = .pending)
    (named : operation.approvalId = approvalId)
    (change : Change store now current operation outcome next)
    (permitted : operation.Permitted decides) :
    Sound decides authorization approvalId next := by
  obtain ⟨run, invariant⟩ := sound.obeys
  have obeys : ∃ run, ApprovalInvariant authorization approvalId run next :=
    ⟨run ++ [({ now := now, operation := operation, toolCalls := store.toolCalls,
                contentExposureScopes := store.contentExposureScopes },
              { approval := none, outcome := outcome })],
      invariant.change pending rfl rfl named change⟩
  cases change with
  | expired _ expiredAt _ =>
      exact ⟨obeys, sound.qualified, (fun rejected => by cases rejected),
        fun cancelled => by cases cancelled⟩
  | rejected input guarded =>
      obtain ⟨supplied, given, rfl⟩ := Guarded.supplied guarded invariant.authorized
      exact ⟨obeys, sound.qualified, fun _ => permitted supplied given,
        fun cancelled => by cases cancelled⟩
  | cancelled input guarded =>
      obtain ⟨supplied, given, rfl⟩ := Guarded.supplied guarded invariant.authorized
      exact ⟨obeys, sound.qualified, (fun rejected => by cases rejected),
        fun _ => permitted supplied given⟩
  | decided input stored authorized guarded live bound prior fresh =>
      obtain ⟨_, _, same, _⟩ := valid_of_not_failed guarded
      obtain rfl := Option.some.inj (same.symm.trans invariant.authorized)
      have undecided (status : ApprovalStatus) (unapproved : status ≠ .approved)
          (final : status ≠ .pending) : (decidedApproval input current).status ≠ status := by
        by_cases reached : reachesQuorum input current = true
        · simpa [decidedApproval, reached] using unapproved.symm
        · simpa [decidedApproval, reached] using final.symm
      refine ⟨obeys, ?_, fun rejected => absurd rejected (undecided _ (by decide) (by decide)),
        fun cancelled => absurd cancelled (undecided _ (by decide) (by decide))⟩
      intro decision listed
      change decision ∈ current.recorded ++ [input.decision] at listed
      rcases List.mem_append.mp listed with before | isNew
      · exact sound.qualified decision before
      · rw [List.mem_singleton.mp isNew]
        exact permitted

/-- The approval was decided by eligible principals alone, each for itself, and approved by as
many as its quorum asks for, all of them for one input. -/
structure DecidedUnder (decides : AuthContext → Prop) (authorization : ApprovalAuthorizationV1)
    (approval : ApprovalRecord) : Prop where
  authorized : approval.authorization = some authorization
  qualified : ∀ decision ∈ approval.recorded, Qualified decides authorization decision.auth
  bound : ∀ decision ∈ approval.recorded, decisionBoundTo authorization decision = true
  independent : approval.recorded.Pairwise Independent
  approved : approval.status = .approved →
    approval.quorum ≤ (approval.recorded.length : Int) ∧
      ∀ decision ∈ approval.recorded, decision.approvedInputHash = approval.approvedInputHash
  rejected : approval.status = .rejected → ActedFor decides authorization approval.rejectedBy
  cancelled : approval.status = .cancelled → ActedFor decides authorization approval.cancelledBy

theorem Sound.decided {authorization : ApprovalAuthorizationV1} {approvalId : String}
    {approval : ApprovalRecord} (sound : Sound decides authorization approvalId approval) :
    DecidedUnder decides authorization approval := by
  obtain ⟨run, invariant⟩ := sound.obeys
  exact
    { authorized := invariant.authorized
      qualified := sound.qualified
      bound := invariant.bound
      independent := invariant.independent
      approved := invariant.quorum
      rejected := sound.rejected
      cancelled := sound.cancelled }

/-! ### Warrants -/

/-- What the gate is run with: its configuration, who may decide approvals, the policies that
are put in force and the calls that are submitted. -/
structure GateRules where
  config : ActionProxyConfig
  decides : AuthContext → Prop
  enforced : PolicyFile → Prop
  submits : SubmitCall → Prop

/-- A submitted call as a policy that was in force evaluates it. -/
structure EvaluatedAs (rules : GateRules) (call : SubmitCall) (submitted : EvaluatedSubmission) :
    Prop where
  submits : rules.submits call
  request : submitted.submission.request = call.request
  options : submitted.submission.options = call.options
  enforced : rules.enforced submitted.submission.policy
  evaluated : ∃ later,
    submitted.submission.evaluatedUnder rules.config.toGateConfig later = .ok submitted

/-- The action was allowed when it was submitted, or a quorum approved it. -/
inductive Warrant (rules : GateRules) (toolCallId inputHash : String) (envelopeHash : Option String) :
    Prop where
  | allowed (call : SubmitCall) (submitted : EvaluatedSubmission)
      (evaluated : EvaluatedAs rules call submitted)
      (allows : submitted.evaluated.evaluation.decision = .allow)
      (toolCall : submitted.toolCall.id = toolCallId)
      (input : hashJson (.obj submitted.submission.effective.input) = inputHash)
      (envelope : (toolCallForInput submitted.toolCall
        submitted.submission.effective.input).actionEnvelopeHash = envelopeHash)
  | approved (authorization : ApprovalAuthorizationV1) (approval : ApprovalRecord)
      (decided : DecidedUnder rules.decides authorization approval)
      (approves : approval.status = .approved) (toolCall : approval.toolCallId = toolCallId)
      (input : approval.approvedInputHash = some inputHash)
      (envelope : approval.approvedEnvelopeHash = envelopeHash)

abbrev ToolCallRecord.Warranted (rules : GateRules) (toolCall : ToolCallRecord) : Prop :=
  Warrant rules toolCall.id toolCall.hashOfInput toolCall.actionEnvelopeHash

abbrev ExecutionAttemptRecordV1.Warranted (rules : GateRules) (attempt : ExecutionAttemptRecordV1) :
    Prop :=
  Warrant rules attempt.toolCallId attempt.inputHash attempt.binding.actionEnvelopeHash

theorem SameReservation.warranted {rules : GateRules} {left right : ExecutionAttemptRecordV1}
    (same : SameReservation left right) (warranted : left.Warranted rules) :
    right.Warranted rules := by
  obtain ⟨_, _, toolCall, input, binding, _⟩ := same
  rw [ExecutionAttemptRecordV1.Warranted, toolCall, input, binding] at warranted
  exact warranted

/-! ### The store -/

variable {rules : GateRules}

/-- Every approval is sound, every attempt is warranted, and each record is stored under its
identifier. -/
structure Governed (rules : GateRules) (store : MemoryStore) : Prop where
  keyed : KeyedById store
  named : ∀ id toolCall, store.toolCalls.get? id = some toolCall → toolCall.id = id
  sound : ∀ id approval, store.approvals.get? id = some approval →
    ∃ authorization, Sound rules.decides authorization id approval
  warranted : ∀ id attempt, store.executionAttempts.get? id = some attempt →
    attempt.Warranted rules

theorem Governed.of_same {store next : MemoryStore} (governed : Governed rules store)
    (approvals : next.approvals = store.approvals) (toolCalls : next.toolCalls = store.toolCalls)
    (warranted : ∀ id attempt, next.executionAttempts.get? id = some attempt →
      attempt.Warranted rules) :
    Governed rules next := by
  refine ⟨?_, ?_, ?_, warranted⟩
  · intro key approval found
    exact governed.keyed key approval (approvals ▸ found)
  · intro id toolCall found
    exact governed.named id toolCall (toolCalls ▸ found)
  · intro id approval found
    exact governed.sound id approval (approvals ▸ found)

theorem Governed.updateToolCall {store : MemoryStore} (governed : Governed rules store)
    (record : ToolCallRecord) : Governed rules (store.updateToolCall record) := by
  refine ⟨governed.keyed, ?_, governed.sound, governed.warranted⟩
  intro id toolCall found
  change (store.toolCalls.set record.id record).get? id = some toolCall at found
  rw [KeyedTable.get?_set] at found
  split at found
  · rename_i same
    cases found
    exact same.symm
  · exact governed.named id toolCall found

theorem Governed.transition {store : MemoryStore} (governed : Governed rules store)
    {operation : ApprovalOperation} (permitted : operation.Permitted rules.decides) (now : Int) :
    Governed rules (operation.apply store now).2 := by
  have effect := apply_effect store now operation
  generalize operation.apply store now = result at effect ⊢
  refine ⟨effect.keyed governed.keyed, ?_, ?_, ?_⟩
  · have toolCalls : result.2.toolCalls = store.toolCalls := by cases effect <;> rfl
    rw [toolCalls]
    exact governed.named
  · intro id approval found
    cases before : store.approvals.get? id with
    | none =>
        cases effect with
        | unchanged _ _ _ _ => rw [before] at found; cases found
        | changed current next _ listed _ change =>
            have other : id ≠ next.id := by
              rintro rfl
              rw [change.id_eq.trans (governed.keyed _ _ listed), listed] at before
              cases before
            rw [show (store.setApproval next).approvals.get? id = _ from
              KeyedTable.get?_set_other _ other _, before] at found
            cases found
    | some current =>
        obtain ⟨authorization, sound⟩ := governed.sound id current before
        refine ⟨authorization, ?_⟩
        rcases effect.on_approval governed.keyed before with same | ⟨next, named, pending, change, stored⟩
        · rw [same] at found
          cases found
          exact sound
        · rw [stored] at found
          cases found
          exact sound.change pending named change permitted
  · have attempts : result.2.executionAttempts = store.executionAttempts := by cases effect <;> rfl
    rw [attempts]
    exact governed.warranted

/-- The operations on attempts and grants keep the store governed when what they reserve is
warranted, and an attempt that they move is. -/
theorem Governed.attempt {store : MemoryStore} (governed : Governed rules store)
    (operation : AttemptOperation) (now : Int)
    (reserves : ∀ record authorization, operation = .reserve record authorization →
      record.Warranted rules) :
    Governed rules (operation.apply store now).2 ∧
      ∀ result, (operation.apply store now).1 = .attempt result → result.outcome = .transitioned →
        ∀ attempt, result.attempt = some attempt → attempt.Warranted rules := by
  have effect := attempt_effect store now operation
  generalize operation.apply store now = result at effect ⊢
  have set (next : ExecutionAttemptRecordV1) (warranted : next.Warranted rules) :
      ∀ id attempt, (store.executionAttempts.set next.id next).get? id = some attempt →
        attempt.Warranted rules := by
    intro id attempt found
    rw [KeyedTable.get?_set] at found
    split at found
    · cases found
      exact warranted
    · exact governed.warranted id attempt found
  cases effect with
  | refused _ answer failed =>
      refine ⟨governed, ?_⟩
      intro result same transitioned
      subst same
      simp [AttemptAnswer.isSuccess, transitioned] at failed
  | reserved record toolCall authorization =>
      have warranted := reserves record authorization rfl
      refine ⟨governed.of_same rfl rfl (set record warranted), ?_⟩
      intro result same transitioned
      cases same
      cases transitioned
  | advanced _ key outcome current next found advance _ =>
      have warranted := advance.same.warranted (governed.warranted _ _ found)
      refine ⟨governed.of_same rfl rfl (set next warranted), ?_⟩
      intro result same _ attempt listed
      cases same
      cases listed
      exact warranted
  | granted record =>
      exact ⟨governed.of_same rfl rfl governed.warranted, fun _ same => by cases same⟩
  | dispatched input attempt grant after moved =>
      rw [moved.moved]
      refine ⟨governed.of_same rfl rfl (set (dispatchedAttempt attempt input.dispatchedAt) ?_),
        fun _ same => by cases same⟩
      exact (AttemptAdvance.dispatched _ moved.reserved).same.warranted
        (governed.warranted _ _ moved.attempt_found)

theorem Governed.publish {store : MemoryStore} (governed : Governed rules store)
    {approval : ApprovalRecord} {authorization : ApprovalAuthorizationV1}
    (pending : approval.status = .pending) (authorized : approval.authorization = some authorization)
    (unconsumed : approval.authorizationConsumedAt = none) (undecided : approval.recorded = []) :
    Governed rules (store.createApproval approval) := by
  have listed (id : String) : (store.createApproval approval).approvals.get? id =
      if id = approval.id then some approval else store.approvals.get? id :=
    KeyedTable.get?_set _ _ _ _
  have invariant : ApprovalInvariant authorization approval.id [] approval :=
    { id := rfl
      authorized := authorized
      consumed := by simp [pending, unconsumed]
      reason := fun final => absurd pending final
      independent := by simp [undecided]
      bound := by simp [undecided]
      oneInput := by simp [undecided]
      quorum := by simp [pending]
      inTime := by simp [undecided] }
  refine ⟨?_, governed.named, ?_, governed.warranted⟩
  · intro key other found
    rw [listed] at found
    split at found
    · rename_i same
      cases found
      exact same.symm
    · exact governed.keyed key other found
  · intro id other found
    rw [listed] at found
    split at found
    · rename_i same
      cases found
      subst same
      refine ⟨authorization, ⟨_, invariant⟩, ?_, ?_, ?_⟩
      · simp [undecided]
      · simp [pending]
      · simp [pending]
    · exact governed.sound id other found

end

end ActionProxy
