import ActionProxy.Services.GovernedCalls

/-!
The gate as a system: any number of submissions, approvals, rejections and cancellations run
beside each other, while executors and external runners advance their attempts, policies are
replaced, and the store and the audit log fail. Approvals are decided by eligible principals
alone, and the submissions of one key answer for one tool call.
-/

namespace ActionProxy

open JsonText Interleaving MemoryStore

section

variable [Runtime] {rules : GateRules} {toolCall : ToolCallRecord}
  {approval : ApprovalRecord} {approvalId mismatch : String} {auth : Option AuthContext}
  {principal : AuthContext} {transition : ApprovalResult} {config : ActionProxyConfig}

/-! ### Checks -/

theorem governs_allowed (checked : Except String Unit) :
    Governs rules (fun _ => checked = .ok ()) (LocalCall.allowed checked) := by
  cases checked with
  | error message => exact .throw
  | ok _ => exact .pure rfl

theorem harmless_check {failure : Option GateError} :
    Harmless rules (LocalCall.check failure) := by
  cases failure with
  | none => exact .pure trivial
  | some error => exact .throw

theorem harmless_load : Harmless rules (loadApprovalState approvalId auth) := by
  refine harmless_readStore.bind fun approval _ => ?_
  split
  · exact .throw
  · refine (governs_allowed _).bind fun _ _ => harmless_readStore.bind fun toolCall _ => ?_
    split
    · exact .throw
    · exact (governs_allowed _).bind fun _ _ => .pure trivial

/-! ### Transitions -/

theorem harmless_decide {operation : ApprovalOperation} (permitted : operation.Permitted rules.decides) :
    Harmless rules (LocalCall.decide operation) :=
  governs_onStore fun clock _ governed => ⟨governed.transition permitted clock.millis, trivial⟩

/-- A decision that makes an approval final leaves it approved, for the action that it was
made for. -/
theorem governs_record {input : AtomicApprovalDecisionInput}
    (permitted : (ApprovalOperation.record input).Permitted rules.decides) :
    Governs rules (fun transition => transition.outcome = .finalized → ∃ approval,
        DecidedUnder rules.decides input.authorization.authorization approval ∧
          approval.status = .approved ∧
          approval.toolCallId = input.authorization.authorization.binding.approval.toolCallId ∧
          approval.approvedInputHash = some input.approvedInputHash ∧
          approval.approvedEnvelopeHash = some input.approvedEnvelopeHash)
      (LocalCall.decide (.record input)) := by
  apply governs_onStore
  intro clock store governed
  refine ⟨governed.transition permitted clock.millis, ?_⟩
  have effect := apply_effect store clock.millis (.record input)
  generalize (ApprovalOperation.record input).apply store clock.millis = result at effect ⊢
  cases effect with
  | unchanged found outcome refused _ =>
      intro finalized
      dsimp only at finalized
      subst finalized
      cases refused
  | changed current next outcome found pending change =>
      obtain ⟨authorization, sound⟩ := governed.sound _ current found
      have decided := (sound.change pending rfl change permitted).decided
      cases change with
      | expired _ expiredAt _ => exact fun finalized => by cases finalized
      | decided input stored authorized guarded live bound prior fresh =>
          intro finalized
          have reached : reachesQuorum input current = true := by
            by_contra below
            simp [below] at finalized
          obtain ⟨_, _, same, agrees⟩ := valid_of_not_failed guarded
          obtain ⟨_, invariant⟩ := sound.obeys
          obtain rfl := Option.some.inj (same.symm.trans invariant.authorized)
          refine ⟨_, decided, ?_, agrees.approvalToolCall.symm, ?_, ?_⟩
          all_goals simp [decidedApproval, reached]

theorem harmless_terminalize {updatedAt : String} :
    Harmless rules (terminalizeToolCall toolCall updatedAt) := by
  unfold terminalizeToolCall
  split
  · exact .pure trivial
  · exact harmless_updateToolCall.bind fun _ _ => .pure trivial

theorem harmless_recordExpired {approval : Option ApprovalRecord} :
    Harmless rules (recordExpiredApproval approval toolCall) := by
  cases approval with
  | none => exact .pure trivial
  | some approval => exact harmless_terminalize.bind fun _ _ => harmless_audit

theorem harmless_expireIfNeeded : Harmless rules (expireApprovalIfNeeded approval toolCall) := by
  refine harmless_now.bind fun now _ => ?_
  split
  · exact .pure trivial
  · refine harmless_now.bind fun expiredAt _ => (harmless_decide ?_).bind fun transition _ => ?_
    · exact trivial
    · split
      · exact harmless_recordExpired.bind fun _ _ => .pure trivial
      · exact .pure trivial

/-! ### Who is eligible -/

theorem agrees_of_guard {activePolicyVersionHash : String} {supplied : ApprovalAuthorizationGuard}
    (built : approvalAuthorizationGuard approval toolCall activePolicyVersionHash = .ok supplied) :
    AuthorizationAgrees supplied.authorization approval toolCall := by
  unfold approvalAuthorizationGuard at built
  split at built
  · cases built
  split at built
  · cases built
  rename_i clean
  split at built
  · cases built
  cases built
  exact authorizationAgrees_of_no_mismatch clean

theorem agrees_of_safeGuard {supplied : ApprovalAuthorizationGuard}
    (built : safeTerminalAuthorizationGuard approval toolCall = some supplied) :
    AuthorizationAgrees supplied.authorization approval toolCall := by
  obtain ⟨authorization, kept, rfl⟩ := Option.map_eq_some_iff.mp built
  have checks := (Option.filter_eq_some_iff.mp kept).2
  simp only [Bool.and_eq_true, Option.isNone_iff_eq_none] at checks
  exact authorizationAgrees_of_no_mismatch checks.2

omit [Runtime] in
theorem actorForDecision_authenticated (bodyActor : Option String)
    (authenticated : principal.authProvider ≠ .none) :
    actorForDecision bodyActor (some principal) = principal.actor := by
  simp [actorForDecision, Option.filter, authenticated]

/-! ### Deciding -/

theorem harmless_policyIsCurrent {config : GateConfig} {approvedInput : JsonObject}
    {approvedEnvelope : ActionEnvelope} :
    Harmless rules (LocalCall.gate
      (assertApprovalPolicyIsCurrent config toolCall approvedInput approvedEnvelope)) := by
  have ofExcept {α : Type} (answer : Except GateError α) :
      Ownership.Quiet Server.governed (Prog.ofExcept answer : Gate α) := by
    cases answer <;> trivial
  have evaluated (evaluate : PolicyFile → Except GateError PolicyEvaluation) :
      Ownership.Quiet Server.governed (reevaluated toolCall evaluate) := by
    refine (governed_read _).bind fun compared => (ofExcept _).bind fun base => ?_
    refine (governed_influence _ _ _).bind fun stale => ?_
    split <;> trivial
  apply harmless_gate
  refine (evaluated _).bind fun original => (evaluated _).bind fun approved => ?_
  split <;> trivial

section

variable [RandomSource] {basis : ApprovalDecisionBasis} {maker : DecisionMaker}

theorem harmless_releaseApproved
    (warranted : (toolCallForInput basis.toolCall basis.approvedInput).Warranted rules) :
    Harmless rules (releaseApproved config basis maker approval) := by
  refine harmless_audit.bind fun _ _ => harmless_createActionReceipt.bind fun _ _ => ?_
  exact (answersFor_releaseExecution warranted).bind fun _ _ => .pure trivial

theorem harmless_approvalAnswer
    (warranted : transition.outcome = .finalized →
      (toolCallForInput basis.toolCall basis.approvedInput).Warranted rules) :
    Harmless rules (approvalAnswer config approvalId basis maker transition) := by
  unfold approvalAnswer
  split
  all_goals first
    | exact .throw
    | exact harmless_releaseApproved (warranted ‹_›)
    | exact harmless_bestEffort.bind fun _ _ => .throw
    | exact harmless_recordExpired.bind fun _ _ => .throw
    | exact harmless_audit.bind fun _ _ => .pure trivial

theorem harmless_approve {input : ApproveApprovalInput} {source : Option ApprovalDecisionSource}
    (authenticated : principal.authProvider ≠ .none) (among : rules.decides principal) :
    Harmless rules (approveApproval config approvalId input (some principal) source) := by
  refine harmless_load.bind fun initial _ => (governs_allowed _).bind fun _ _ => ?_
  refine (Contract.Obeyed.ofExcept _).bind fun decision _ => harmless_check.bind fun _ _ => ?_
  refine harmless_check.bind fun _ _ => harmless_load.bind fun authoritative _ => ?_
  refine (governs_allowed _).bind fun _ _ => harmless_check.bind fun _ _ => ?_
  refine harmless_expireIfNeeded.bind fun approval _ => harmless_check.bind fun _ _ => ?_
  refine harmless_check.bind fun _ _ => (governs_allowed _).bind fun _ allowed => ?_
  refine harmless_check.bind fun _ _ => harmless_now.bind fun now _ => ?_
  refine harmless_check.bind fun _ _ => harmless_policyIsCurrent.bind fun _ _ => ?_
  refine governs_policy.bind fun active _ => (Contract.Obeyed.ofExcept _).bind fun supplied built => ?_
  have agrees := agrees_of_guard built
  refine (governs_record ?_).bind fun transition approves => harmless_approvalAnswer ?_
  · exact ⟨principal, rfl, among, eligible_of_decides agrees authenticated allowed⟩
  · intro finalized
    obtain ⟨approved, decided, status, toolCall, input, envelope⟩ := approves finalized
    exact .approved _ approved decided status (toolCall.trans agrees.toolCallId) input envelope

end

theorem governs_loadDecidable {nonce : Option String} :
    Governs rules (fun loaded => assertCanDecideApproval loaded.approval auth = .ok ())
      (loadDecidable approvalId nonce auth) := by
  refine harmless_load.bind fun initial _ => (governs_allowed _).bind fun _ _ => ?_
  refine harmless_expireIfNeeded.bind fun _ _ => harmless_check.bind fun _ _ => ?_
  have pending : Harmless rules (loadPendingApproval approvalId auth) := by
    refine harmless_load.bind fun _ _ => harmless_expireIfNeeded.bind fun _ _ => ?_
    exact harmless_check.bind fun _ _ => .pure trivial
  refine harmless_check.bind fun _ _ => pending.bind fun loaded _ => ?_
  refine (governs_allowed _).bind fun _ allowed => harmless_check.bind fun _ _ => ?_
  exact .pure allowed

theorem harmless_terminalFailure :
    Harmless rules (terminalFailure approvalId mismatch toolCall transition) := by
  unfold terminalFailure
  split
  all_goals first
    | exact .throw
    | exact harmless_recordExpired.bind fun _ _ => .throw
    | exact .pure trivial

theorem harmless_finish {nonce : Option String} {event : String}
    {operation : ApprovalState → Instant → ApprovalOperation}
    {finish : ToolCallRecord → Instant → LocalCall ToolCallRecord}
    (permitted : ∀ loaded now, assertCanDecideApproval loaded.approval auth = .ok () →
      (operation loaded now).Permitted rules.decides)
    (finishes : ∀ toolCall now, Harmless rules (finish toolCall now)) :
    Harmless rules (finishDecision approvalId nonce auth operation mismatch finish event) := by
  refine (governs_loadDecidable).bind fun loaded allowed => harmless_now.bind fun now _ => ?_
  refine (harmless_decide (permitted loaded now allowed)).bind fun transition _ => ?_
  refine harmless_terminalFailure.bind fun _ _ => (finishes _ _).bind fun _ _ => ?_
  exact harmless_audit.bind fun _ _ => .pure trivial

theorem harmless_reject {input : RejectApprovalInput}
    (authenticated : principal.authProvider ≠ .none)
    (among : rules.decides principal) :
    Harmless rules (rejectApproval approvalId input (some principal)) := by
  apply harmless_finish
  · intro loaded now allowed supplied built
    exact ⟨principal, among, eligible_of_decides (agrees_of_safeGuard built) authenticated allowed,
      congrArg some (actorForDecision_authenticated _ authenticated)⟩
  · exact fun _ _ => harmless_updateToolCall.bind fun _ _ => .pure trivial

theorem harmless_cancel {input : CancelApprovalInput}
    (authenticated : principal.authProvider ≠ .none)
    (among : rules.decides principal) :
    Harmless rules (cancelApproval approvalId input (some principal)) := by
  apply harmless_finish
  · intro loaded now allowed supplied built
    exact ⟨principal, among, eligible_of_decides (agrees_of_safeGuard built) authenticated allowed,
      congrArg some (actorForDecision_authenticated _ authenticated)⟩
  · exact fun _ _ => harmless_terminalize

/-! ### Submitting -/

/-- The call answers for the tool call. -/
abbrev AnswersAbout (rules : GateRules) (id : String) (prog : LocalCall GateAnswer) :
    Prop :=
  Governs rules (fun answer => answer.toolCall.id = id) prog

theorem answersAbout_replay {id : String} :
    AnswersAbout rules id (replayToolCall id auth) := by
  have listed : Governs rules
      (fun found : Option ToolCallRecord => ∀ toolCall, found = some toolCall → toolCall.id = id)
      (LocalCall.readStore fun store => store.toolCalls.get? id) :=
    governs_readStore fun _ governed => governed.named id
  have read : AnswersFor rules id (getToolCall id auth) := by
    refine listed.bind fun found named => ?_
    cases found with
    | none => exact .throw
    | some toolCall => exact (governs_allowed _).bind fun _ _ => .pure (named toolCall rfl)
  exact read.bind fun toolCall same => harmless_readStore.bind fun _ _ => .pure same

theorem harmless_auditSubmission {evaluated : SubmissionEvaluation} :
    Harmless rules (auditSubmission evaluated) := by
  refine harmless_audit.bind fun _ _ => harmless_audit.bind fun _ _ => ?_
  split
  · exact .pure trivial
  · refine harmless_audit.bind fun _ _ => ?_
    split
    · exact harmless_audit
    · exact .pure trivial

theorem harmless_createApproval {config : GateConfig} {input : PendingApprovalInput}
    {candidate : PendingApprovalCandidate}
    (built : buildPendingApprovalCandidate config input = .ok candidate) :
    Harmless rules (LocalCall.onStore fun _ store => ((), store.createApproval candidate.approval)) := by
  obtain ⟨authorization, _, rfl⟩ := candidate_shape built
  exact governs_onStore fun _ _ governed => ⟨governed.publish rfl rfl rfl rfl, trivial⟩

section

variable [RandomSource] {call : SubmitCall} {submitted : EvaluatedSubmission}

theorem answersAbout_publish {rule : PolicyRule} :
    AnswersAbout rules submitted.toolCall.id
      (publishApproval config call submitted rule) := by
  refine harmless_randomUUID.bind fun approvalId _ => harmless_randomUUID.bind fun nonce _ => ?_
  refine (Contract.Obeyed.ofMapped _ _).bind fun candidate built => ?_
  have same : candidate.toolCall.id = submitted.toolCall.id := by
    obtain ⟨authorization, _, rfl⟩ := candidate_shape built
    rfl
  refine harmless_updateToolCall.bind fun _ _ => (harmless_createApproval built).bind fun _ _ => ?_
  refine harmless_audit.bind fun _ _ => ?_
  split
  · refine harmless_audit.bind fun _ _ => harmless_audit.bind fun _ _ => .pure same
  · exact harmless_audit.bind fun _ _ => .pure same

theorem answersAbout_allowed (evaluated : EvaluatedAs rules call submitted)
    (allows : submitted.evaluated.evaluation.decision = .allow) :
    AnswersAbout rules submitted.toolCall.id (executeAllowed config submitted) := by
  refine harmless_audit.bind fun _ _ => harmless_createActionReceipt.bind fun _ _ => ?_
  refine (answersFor_releaseExecution ?_).bind fun _ same => .pure same
  exact .allowed call submitted evaluated allows rfl rfl rfl

theorem answersAbout_continue (evaluated : EvaluatedAs rules call submitted) :
    AnswersAbout rules submitted.toolCall.id (continueSubmission config call submitted) := by
  refine harmless_auditSubmission.bind fun _ _ => ?_
  split
  · refine harmless_now.bind fun now _ => harmless_updateToolCall.bind fun _ _ => ?_
    exact harmless_audit.bind fun _ _ => .pure rfl
  · split
    · exact .throw
    · exact answersAbout_publish
  · exact answersAbout_allowed evaluated ‹_›

omit [RandomSource] in
theorem evaluatedUnder_submission {submission : Submission} {config : GateConfig}
    {later : PolicyFile} (evaluated : submission.evaluatedUnder config later = .ok submitted) :
    submitted.submission = submission := by
  unfold Submission.evaluatedUnder at evaluated
  cases canonical : submission.canonical config with
  | error message => rw [canonical] at evaluated; cases evaluated
  | ok found =>
      rw [canonical] at evaluated
      cases recorded : submission.recordUnder config later with
      | error message => rw [recorded] at evaluated; cases evaluated
      | ok toolCall =>
          rw [recorded] at evaluated
          cases evaluated
          rfl

theorem governs_evaluate {now : Instant} (submits : rules.submits call) :
    Governs rules (EvaluatedAs rules call) (evaluateSubmission rules.config call now) := by
  refine harmless_randomUUID.bind fun id _ => governs_policy.bind fun active enforced => ?_
  have seen : Harmless rules (Prog.read LocalServer.seenExposures :
      LocalCall (ListContentExposuresInput → Option ListContentExposuresResult)) :=
    Contract.Obeyed.call fun _ lawful => ⟨lawful, fun _ _ found => found, trivial⟩
  refine seen.bind fun exposures _ => governs_policy.bind fun freezing _ => ?_
  refine (Contract.Obeyed.ofMapped _ _).mono fun submitted evaluated => ?_
  have same := evaluatedUnder_submission evaluated
  refine ⟨submits, ?_, ?_, ?_, freezing.policy, ?_⟩
  · rw [same]
  · rw [same]
  · rw [same]
    exact enforced
  · rw [same]
    exact evaluated

/-! ### Idempotency -/

/-- The key of the submission, if it has one, stands for its request and the tool call that
was answered for. -/
def Recorded (config : ActionProxyConfig) (call : SubmitCall) (answer : GateAnswer)
    (state : LocalServer) : Prop :=
  ∀ key, nonEmpty call.options.idempotencyKey = some key → ∃ record,
    state.server.idempotency.get? (call.idempotencyKey config.toGateConfig key) = some record ∧
      record.requestHash = call.requestHash ∧ record.toolCallId = answer.toolCall.id

omit [RandomSource] in
theorem recorded_of_answersAbout {prog : LocalCall GateAnswer} {key : String}
    {record : IdempotencyRecord} {state : LocalServer}
    (given : nonEmpty call.options.idempotencyKey = some key)
    (obeyed : AnswersAbout rules record.toolCallId prog) (lawful : Lawful rules state)
    (stored : state.server.idempotency.get? (call.idempotencyKey config.toGateConfig key) =
      some record)
    (hash : record.requestHash = call.requestHash) :
    Safe (governance rules) Unrestricted (Recorded config call) (fun _ _ => True) prog
      state := by
  apply Safe.mono (obeyed.keep lawful stored fun _ moved found => moved _ _ found)
  · intro answer now _ answered other otherGiven
    obtain rfl := Option.some.inj (given.symm.trans otherGiven)
    exact ⟨record, answered.2, hash, answered.1.symm⟩
  · exact fun _ _ _ _ => trivial

omit [RandomSource] in
/-- What an operation on the idempotency records keeps. -/
def Keeps (rules : GateRules) (before after : Server) : Prop :=
  Governed rules after.store ∧ after.policy = before.policy ∧
    ∀ key record, before.idempotency.get? key = some record →
      after.idempotency.get? key = some record

/-- What the answer to a reservation says of the tool call and of the record of its key. -/
structure Reserved (idempotency : IdempotencyRecord) (toolCall : ToolCallRecord)
    (answer : IdempotentResult) (server : Server) : Prop where
  created : answer.outcome = .created → answer.toolCall = toolCall
  recorded : answer.outcome ≠ .conflict → ∃ record,
    server.idempotency.get? (idempotency.workspaceId, idempotency.route, idempotency.key) =
      some record ∧ record.requestHash = idempotency.requestHash ∧
        record.toolCallId = answer.toolCall.id

omit [RandomSource] in
theorem createToolCallIdempotently_spec (idempotency : IdempotencyRecord)
    (toolCall : ToolCallRecord) {server : Server} (governed : Governed rules server.store) :
    let result := createToolCallIdempotentlyAtomically idempotency toolCall server
    Keeps rules server result.2 ∧
      ∀ answer, result.1 = .ok answer → Reserved idempotency toolCall answer result.2 := by
  have unchanged : Keeps rules server server := ⟨governed, rfl, fun _ _ found => found⟩
  unfold createToolCallIdempotentlyAtomically
  split
  · exact ⟨unchanged, fun _ answered => by cases answered⟩
  rename_i matched
  simp only [idempotencyCandidateFails, Bool.or_eq_true, bne_iff_ne, not_or, not_not] at matched
  cases stored : server.idempotency.get?
      (idempotency.workspaceId, idempotency.route, idempotency.key) with
  | some current =>
      cases existing : server.store.toolCalls.get? current.toolCallId with
      | none =>
          simp only [stored, existing]
          exact ⟨unchanged, fun _ answered => by cases answered⟩
      | some listed =>
          simp only [stored, existing]
          refine ⟨unchanged, ?_⟩
          intro answer answered
          obtain rfl := Except.ok.inj answered
          refine ⟨?_, ?_⟩
          · dsimp only
            split <;> exact IdempotentOutcome.noConfusion
          · intro replayed
            have same : current.requestHash = idempotency.requestHash := by
              by_contra other
              exact replayed (if_neg other)
            exact ⟨current, stored, same, (governed.named _ _ existing).symm⟩
  | none =>
      simp only [stored]
      split
      · exact ⟨unchanged, fun _ answered => by cases answered⟩
      refine ⟨⟨governed.updateToolCall toolCall, rfl, ?_⟩, ?_⟩
      · intro other record found
        rw [KeyedTable.get?_set, if_neg]
        · exact found
        · rintro rfl
          rw [stored] at found
          cases found
      · intro answer answered
        obtain rfl := Except.ok.inj answered
        exact ⟨fun _ => rfl, fun _ => ⟨idempotency, KeyedTable.get?_set_self _ _ _, rfl, matched.1⟩⟩

omit [RandomSource] in
theorem safe_onIdempotency {α β : Type} {operation : Server → Except GateError α × Server}
    {next : α → LocalCall β} {post : β → LocalServer → Prop} {state : LocalServer}
    (steps : ∀ server, Governed rules server.store → Keeps rules server (operation server).2)
    (holds : Lawful rules state)
    (rest : ∀ value before now, Governed rules before.store → (operation before).1 = .ok value →
      Lawful rules now →
      (∀ key record, (operation before).2.idempotency.get? key = some record →
        now.server.idempotency.get? key = some record) →
      Safe (governance rules) Unrestricted post (fun _ _ => True) (next value) now) :
    Safe (governance rules) Unrestricted post (fun _ _ => True)
      ((LocalCall.onIdempotency operation).bind next) state := by
  apply Safe.bind holds
  apply Safe.call
  intro now _ lawful _
  obtain ⟨kept, policy, moved⟩ := steps now.server lawful.governed
  have stays : Lawful rules (now.setServer (operation now.server).2) :=
    ⟨kept, policy ▸ lawful.enforced, lawful.invoked⟩
  cases now.storeMood with
  | answers =>
      refine ⟨stays, moved, ?_⟩
      cases answered : (operation now.server).1 with
      | error error => exact fun _ _ _ => trivial
      | ok value =>
          intro later present still
          exact rest value now.server later lawful.governed answered still present
  | rejects error performed =>
      cases performed with
      | false => exact ⟨lawful, fun _ _ found => found, fun _ _ _ => trivial⟩
      | true => exact ⟨stays, moved, fun _ _ _ => trivial⟩

theorem harmless_unkeyed {now : Instant} (submits : rules.submits call)
    (unkeyed : nonEmpty call.options.idempotencyKey = none) :
    Harmless rules (submitNew rules.config call now) := by
  refine (governs_evaluate submits).bind fun submitted evaluated => ?_
  have reserved : Governs rules (fun reserved => reserved.toolCall = submitted.toolCall)
      (reserveToolCall (call.reservation rules.config.toGateConfig now submitted.toolCall.id)
        submitted.toolCall) := by
    rw [SubmitCall.reservation, unkeyed]
    exact harmless_updateToolCall.bind fun _ _ => .pure rfl
  refine reserved.bind fun reserved same => ?_
  split
  · exact .throw
  · exact answersAbout_replay.any
  · rw [same]
    exact (answersAbout_continue evaluated).any

theorem recorded_submitNew {now : Instant} {state : LocalServer} (submits : rules.submits call)
    (lawful : Lawful rules state) :
    Safe (governance rules) Unrestricted (Recorded rules.config call) (fun _ _ => True)
      (submitNew rules.config call now) state := by
  cases given : nonEmpty call.options.idempotencyKey with
  | none =>
      apply Safe.mono (harmless_unkeyed submits given state lawful)
      · intro _ _ _ _ key keyed
        rw [given] at keyed
        cases keyed
      · exact fun _ _ _ _ => trivial
  | some key =>
      apply (governs_evaluate submits).andThen lawful
      intro submitted after kept evaluated
      rw [SubmitCall.reservation, given]
      apply safe_onIdempotency _ kept
      · intro answer before later governed answered still present
        obtain ⟨_, reserves⟩ := createToolCallIdempotently_spec _ submitted.toolCall governed
        have reserved := reserves answer answered
        split
        · exact fun _ _ _ => trivial
        · rename_i replayed
          obtain ⟨record, stored, hash, same⟩ := reserved.recorded (by rw [replayed]; decide)
          rw [← same]
          exact recorded_of_answersAbout given answersAbout_replay still (present _ _ stored) hash
        · rename_i created
          obtain ⟨record, stored, hash, same⟩ := reserved.recorded (by rw [created]; decide)
          have about : AnswersAbout rules submitted.toolCall.id
              (continueSubmission rules.config call submitted) := answersAbout_continue evaluated
          rw [reserved.created created] at same ⊢
          rw [← same] at about
          exact recorded_of_answersAbout given about still (present _ _ stored) hash
      · intro server governed
        exact (createToolCallIdempotently_spec _ submitted.toolCall governed).1

theorem recorded_submitToolCall {state : LocalServer} (submits : rules.submits call)
    (lawful : Lawful rules state) :
    Safe (governance rules) Unrestricted (Recorded rules.config call) (fun _ _ => True)
      (submitToolCall rules.config call) state := by
  apply harmless_now.andThen lawful
  intro now after kept _
  cases given : nonEmpty call.options.idempotencyKey with
  | none => exact recorded_submitNew submits kept
  | some key =>
      apply safe_onIdempotency (fun _ governed => ⟨governed, rfl, fun _ _ found => found⟩) kept
      intro existing before later _ answered still present
      cases existing with
      | none => exact recorded_submitNew submits still
      | some record =>
          dsimp only
          split
          · exact fun _ _ _ => trivial
          · rename_i same
            have stored := present _ _ (Except.ok.inj answered)
            exact recorded_of_answersAbout given answersAbout_replay still stored (not_not.mp same)

end

/-! ### The system -/

/-- What is asked of the gate. -/
inductive GateRequest where
  | submit (call : SubmitCall)
  | approve (approvalId : String) (input : ApproveApprovalInput) (principal : AuthContext)
      (source : Option ApprovalDecisionSource)
  | reject (approvalId : String) (input : RejectApprovalInput) (principal : AuthContext)
  | cancel (approvalId : String) (input : CancelApprovalInput) (principal : AuthContext)

namespace GateRequest

/-- Approvals are decided by authenticated principals. -/
def Admitted (rules : GateRules) : GateRequest → Prop
  | submit call => rules.submits call
  | approve _ _ principal _ => principal.authProvider ≠ .none ∧ rules.decides principal
  | reject _ _ principal => principal.authProvider ≠ .none ∧ rules.decides principal
  | cancel _ _ principal => principal.authProvider ≠ .none ∧ rules.decides principal

def prog [RandomSource] (config : ActionProxyConfig) : GateRequest → LocalCall GateAnswer
  | submit call => submitToolCall config call
  | approve approvalId input principal source =>
      approveApproval config approvalId input (some principal) source
  | reject approvalId input principal => rejectApproval approvalId input (some principal)
  | cancel approvalId input principal => cancelApproval approvalId input (some principal)

end GateRequest

/-- What happens beside the requests: attempts and grants advance, tool calls are updated,
the policy and the clock move, and the store and the audit log fail. -/
structure Beside (rules : GateRules) (before after : LocalServer) : Prop where
  approvals : after.server.store.approvals = before.server.store.approvals
  idempotency : after.server.idempotency = before.server.idempotency
  named : (∀ id toolCall, before.server.store.toolCalls.get? id = some toolCall → toolCall.id = id) →
    ∀ id toolCall, after.server.store.toolCalls.get? id = some toolCall → toolCall.id = id
  attempts : ∀ id attempt, after.server.store.executionAttempts.get? id = some attempt →
    ∃ earlier, before.server.store.executionAttempts.get? id = some earlier ∧
      SameReservation earlier attempt
  enforced : rules.enforced before.server.policy.policy → rules.enforced after.server.policy.policy
  invocations : after.invocations = before.invocations

/-- The requests that were answered, each with its answer. -/
abbrev GateWorld := World LocalServer GateError (GateRequest × GateAnswer)

/-- Nothing was submitted yet. -/
structure NothingSubmitted (rules : GateRules) (world : GateWorld) : Prop where
  approvals : world.state.server.store.approvals = .empty
  toolCalls : world.state.server.store.toolCalls = .empty
  attempts : world.state.server.store.executionAttempts = .empty
  enforced : rules.enforced world.state.server.policy.policy
  invocations : world.state.invocations = []
  threads : world.threads = []

variable [RandomSource]

/-- Requests to the gate, any number of them, and what happens beside them. -/
def gateSystem (rules : GateRules) : System LocalServer GateError (GateRequest × GateAnswer) where
  starts prog := ∃ request : GateRequest, request.Admitted rules ∧
    prog = (request.prog rules.config).bind fun answer => .pure (request, answer)
  environment change := ∀ before, Beside rules before (change before)

/-- A submission stands for the answer it is given. -/
def RecordedAnswer (config : ActionProxyConfig) (answered : GateRequest × GateAnswer)
    (state : LocalServer) : Prop :=
  ∀ call, answered.1 = .submit call → Recorded config call answered.2 state

theorem safe_request {request : GateRequest} {state : LocalServer}
    (admitted : request.Admitted rules) (lawful : Lawful rules state) :
    Safe (governance rules) Unrestricted (RecordedAnswer rules.config) (fun _ _ => True)
      ((request.prog rules.config).bind fun answer => .pure (request, answer)) state := by
  have harmless (decided : ∀ call, request ≠ .submit call)
      (obeyed : Harmless rules (request.prog rules.config)) :
      Safe (governance rules) Unrestricted (RecordedAnswer rules.config) (fun _ _ => True)
        ((request.prog rules.config).bind fun answer => .pure (request, answer)) state := by
    apply obeyed.andThen lawful
    intro answer _ _ _ _ _ _ call same
    exact absurd same (decided call)
  cases request with
  | submit call =>
      apply Safe.bind lawful
      apply Safe.mono (recorded_submitToolCall admitted lawful)
      · intro answer now _ recorded later moved _ other same
        obtain rfl := GateRequest.submit.inj same
        intro key given
        obtain ⟨record, stored, stands⟩ := recorded key given
        exact ⟨record, moved _ _ stored, stands⟩
      · exact fun _ _ _ _ => trivial
  | approve approvalId input principal source =>
      exact harmless (fun _ => GateRequest.noConfusion) (harmless_approve admitted.1 admitted.2)
  | reject approvalId input principal =>
      exact harmless (fun _ => GateRequest.noConfusion) (harmless_reject admitted.1 admitted.2)
  | cancel approvalId input principal =>
      exact harmless (fun _ => GateRequest.noConfusion) (harmless_cancel admitted.1 admitted.2)

omit [RandomSource] in
theorem Beside.lawful {before after : LocalServer} (beside : Beside rules before after)
    (lawful : Lawful rules before) : Lawful rules after := by
  refine ⟨⟨?_, beside.named lawful.governed.named, ?_, ?_⟩, beside.enforced lawful.enforced, ?_⟩
  · intro key approval found
    exact lawful.governed.keyed key approval (beside.approvals ▸ found)
  · intro id approval found
    exact lawful.governed.sound id approval (beside.approvals ▸ found)
  · intro id attempt found
    obtain ⟨earlier, listed, same⟩ := beside.attempts id attempt found
    exact same.warranted (lawful.governed.warranted id earlier listed)
  · intro invocation listed
    exact lawful.invoked invocation (beside.invocations ▸ listed)

omit [RandomSource] in
theorem NothingSubmitted.lawful {world : GateWorld} (nothing : NothingSubmitted rules world) :
    Lawful rules world.state := by
  refine ⟨⟨?_, ?_, ?_, ?_⟩, nothing.enforced, ?_⟩
  · intro key approval found
    rw [nothing.approvals] at found
    cases found
  · intro id toolCall found
    rw [nothing.toolCalls] at found
    cases found
  · intro id approval found
    rw [nothing.approvals] at found
    cases found
  · intro id attempt found
    rw [nothing.attempts] at found
    cases found
  · intro invocation listed
    rw [nothing.invocations] at listed
    cases listed

/-- Every world that the system reaches is lawful, and the answered submissions are recorded. -/
theorem lawful_of_reaches {first world : GateWorld} (nothing : NothingSubmitted rules first)
    (reached : Reaches (gateSystem rules) Unrestricted first world) :
    Lawful rules world.state ∧ ∀ answered, Prog.pure answered ∈ world.threads →
      RecordedAnswer rules.config answered world.state := by
  have starts : ∀ prog, (gateSystem rules).starts prog → ∀ state, (governance rules).inv state →
      Safe (governance rules) Unrestricted (RecordedAnswer rules.config) (fun _ _ => True) prog
        state := by
    intro prog ⟨request, admitted, same⟩ state lawful
    rw [same]
    exact safe_request admitted lawful
  have environment : ∀ change, (gateSystem rules).environment change → ∀ state,
      (governance rules).inv state → Unrestricted state (change state) →
        (governance rules).inv (change state) ∧ (governance rules).guar state (change state) := by
    intro change beside state lawful _
    refine ⟨(beside state).lawful lawful, ?_⟩
    intro key record found
    rw [(beside state).idempotency]
    exact found
  have threads : ∀ prog ∈ first.threads, Safe (governance rules) Unrestricted
      (RecordedAnswer rules.config) (fun _ _ => True) prog first.state := by
    rw [nothing.threads]
    exact fun _ member => absurd member List.not_mem_nil
  obtain ⟨lawful, safe⟩ := reached.safe starts environment nothing.lawful threads
  exact ⟨lawful, fun answered member =>
    safe _ member world.state ((governance rules).refl _) lawful⟩

/-! ### What is executed, and who decided -/

/-- Attempts are reserved and executors invoked for warranted actions alone. -/
structure ActsOnWarrants (rules : GateRules) (state : LocalServer) : Prop where
  attempts : ∀ id attempt, state.server.store.executionAttempts.get? id = some attempt →
    attempt.Warranted rules
  invocations : ∀ invocation ∈ state.invocations, ∃ inputHash envelopeHash,
    Warrant rules invocation.toolCallId inputHash envelopeHash

/-- However the requests run beside each other and whatever fails, nothing is executed but what
was allowed when it was submitted and what a quorum approved. -/
theorem warranted_actions_only {first world : GateWorld} (nothing : NothingSubmitted rules first)
    (reached : Reaches (gateSystem rules) Unrestricted first world) :
    ActsOnWarrants rules world.state := by
  obtain ⟨lawful, _⟩ := lawful_of_reaches nothing reached
  exact ⟨lawful.governed.warranted, lawful.invoked⟩

/-- Every stored approval is decided by eligible principals alone. -/
def ApprovalsDecided (decides : AuthContext → Prop) (store : MemoryStore) : Prop :=
  ∀ id approval, store.approvals.get? id = some approval →
    ∃ authorization, DecidedUnder decides authorization approval

theorem eligible_principals_decide {first world : GateWorld}
    (nothing : NothingSubmitted rules first)
    (reached : Reaches (gateSystem rules) Unrestricted first world) :
    ApprovalsDecided rules.decides world.state.server.store := by
  intro id approval stored
  obtain ⟨lawful, _⟩ := lawful_of_reaches nothing reached
  obtain ⟨authorization, sound⟩ := lawful.governed.sound id approval stored
  exact ⟨authorization, sound.decided⟩

/-! ### One tool call for a key -/

/-- Submissions of one workspace with one key. -/
def SameKey (config : ActionProxyConfig) (call other : SubmitCall) : Prop :=
  ∃ key, nonEmpty call.options.idempotencyKey = some key ∧
    nonEmpty other.options.idempotencyKey = some key ∧
    call.workspaceId config.toGateConfig = other.workspaceId config.toGateConfig

/-- Answered submissions with one key are for one request, and answer for one tool call. -/
def AnswersOnce (config : ActionProxyConfig) (world : GateWorld) : Prop :=
  ∀ call other answer otherAnswer, SameKey config call other →
    Prog.pure (GateRequest.submit call, answer) ∈ world.threads →
    Prog.pure (GateRequest.submit other, otherAnswer) ∈ world.threads →
    call.requestHash = other.requestHash ∧ answer.toolCall.id = otherAnswer.toolCall.id

theorem submissions_idempotent {first world : GateWorld} (nothing : NothingSubmitted rules first)
    (reached : Reaches (gateSystem rules) Unrestricted first world) :
    AnswersOnce rules.config world := by
  intro call other answer otherAnswer same answered otherAnswered
  obtain ⟨_, recorded⟩ := lawful_of_reaches nothing reached
  obtain ⟨key, given, otherGiven, workspace⟩ := same
  obtain ⟨record, stored, hash, id⟩ := recorded _ answered call rfl key given
  obtain ⟨found, otherStored, otherHash, otherId⟩ :=
    recorded _ otherAnswered other rfl key otherGiven
  have one : found = record := by
    rw [SubmitCall.idempotencyKey, ← workspace] at otherStored
    exact Option.some.inj (otherStored.symm.trans stored)
  subst one
  exact ⟨hash.symm.trans otherHash, id.symm.trans otherId⟩

end

/-! ### Two submissions and a decision -/

@[reducible] private def gateIdentifiers : RandomSource :=
  { randomUUID := fun number => String.ofList (List.replicate number 'i')
    distinct := fun _ _ same =>
      List.replicate_left_injective 'i' (String.ofList_inj.mp same) }

/-- Each digest is the length of its text. -/
private abbrev gateRuntime : Runtime :=
  { sampleRuntime [] with
    sha256Hex := fun text => String.ofList ((Nat.toDigits 16 text.length).leftpad 64 '0') }

private def askingPolicy : PolicyFile :=
  { version := JsonNumber.ofInt 1
    default := PolicyRule.plain .required
    tools := .empty }

private def ada : AuthContext :=
  { principalId := "user_1"
    principalType := .user
    displayName := "Ada"
    email := none
    groups := []
    scopes := []
    authProvider := .slack
    clientId := none
    workspaceId := "default" }

private def keyedPing : SubmitCall :=
  { request :=
      { toolName := "ping"
        input := []
        requestedBy := "agent"
        agentId := "agent"
        reason := "check"
        action := none
        metadata := none }
    options := { auth := none, forceApproval := false, idempotencyKey := some "once", ingress := none }
    actionContractId := none
    connectionId := none
    supersedesIntentId := none
    approverResolution := .null
    resolvedRecipients := none }

private def gateRules : GateRules :=
  { config :=
      { policyProvider := none
        workspaceId := none
        receiptSigningSecret := none
        localExecutionDisabled := false
        tools := fun _ => some fun _ _ => .resolves (.value (some (.str "pong")))
        approvalAuthorizationTtlMs := none
        remediationDescriptor := fun _ => none
        executionGrants := none }
    decides := fun principal => principal = ada
    enforced := fun policy => policy = askingPolicy
    submits := fun call => call = keyedPing }

private def gateStart : GateWorld :=
  { state :=
      { server :=
          { store :=
              { toolCalls := .empty
                contentExposureScopes := .empty
                approvals := .empty
                executionGrants := .empty
                executionAttempts := .empty
                executionAttemptByToolCall := .empty
                actionReceipts := .empty }
            idempotency := .empty
            policy := { policy := askingPolicy, replacements := 0 }
            clock := { millis := 0, shown := epoch_shown }
            auditReady := true
            audits := []
            drawn := 1
            dispatches := [] }
        storeMood := .answers
        invocations := [] }
    threads := [] }

private def adaApproves : GateRequest :=
  .approve "approval_iii"
    { approvalNonce := none
      approvedBy := none
      inputDecision := none
      note := none
      editedInput := none
      reviewHash := none } ada none

private def renewPolicy (state : LocalServer) : LocalServer :=
  state.setServer (state.server.replacePolicy askingPolicy)

private theorem gateStart_nothing : NothingSubmitted gateRules gateStart :=
  { approvals := rfl
    toolCalls := rfl
    attempts := rfl
    enforced := rfl
    invocations := rfl
    threads := rfl }

private theorem renewPolicy_beside (before : LocalServer) :
    Beside gateRules before (renewPolicy before) :=
  { approvals := rfl
    idempotency := rfl
    named := fun named => named
    attempts := fun _ attempt found => ⟨attempt, found, rfl, rfl, rfl, rfl, rfl, rfl, rfl⟩
    enforced := fun _ => rfl
    invocations := rfl }

section

variable [Runtime] [RandomSource]

private def asking (request : GateRequest) :
    Choice LocalServer GateError (GateRequest × GateAnswer) :=
  .start ((request.prog gateRules.config).bind fun answer => .pure (request, answer))

/-- The submissions take turns, the policy is renewed, and Ada approves. -/
private def gateChoices : List (Choice LocalServer GateError (GateRequest × GateAnswer)) :=
  asking (.submit keyedPing) :: asking (.submit keyedPing) ::
    (List.replicate 40 [.advance 0, .advance 1]).flatten ++
      .environment renewPolicy :: asking adaApproves :: List.replicate 80 (.advance 2)

private theorem gateChoices_reach :
    Reaches (gateSystem gateRules) Unrestricted gateStart (gateStart.run gateChoices) := by
  apply reaches_run Reaches.refl _ (World.meets_unrestricted _ _)
  intro choice listed
  simp only [gateChoices, List.cons_append, List.mem_cons, List.mem_append, List.mem_flatten,
    List.mem_replicate] at listed
  rcases listed with rfl | rfl | ⟨_, ⟨_, rfl⟩, advanced⟩ | rfl | rfl | ⟨_, rfl⟩
  · exact ⟨.submit keyedPing, rfl, rfl⟩
  · exact ⟨.submit keyedPing, rfl, rfl⟩
  · simp only [List.mem_cons, List.not_mem_nil, or_false] at advanced
    rcases advanced with rfl | rfl <;> trivial
  · exact renewPolicy_beside
  · exact ⟨adaApproves, ⟨AuthProvider.noConfusion, rfl⟩, rfl⟩
  · trivial

end

theorem warranted_actions_only_ping : @ActsOnWarrants gateRuntime gateRules
    (World.run gateStart (@gateChoices gateRuntime gateIdentifiers)).state :=
  @warranted_actions_only gateRuntime gateRules gateIdentifiers _ _ gateStart_nothing
    (@gateChoices_reach gateRuntime gateIdentifiers)

theorem eligible_principals_decide_ping : ApprovalsDecided gateRules.decides
    (World.run gateStart (@gateChoices gateRuntime gateIdentifiers)).state.server.store :=
  @eligible_principals_decide gateRuntime gateRules gateIdentifiers _ _ gateStart_nothing
    (@gateChoices_reach gateRuntime gateIdentifiers)

theorem submissions_idempotent_ping : @AnswersOnce gateRuntime gateRules.config
    (World.run gateStart (@gateChoices gateRuntime gateIdentifiers)) :=
  @submissions_idempotent gateRuntime gateRules gateIdentifiers _ _ gateStart_nothing
    (@gateChoices_reach gateRuntime gateIdentifiers)

end ActionProxy
