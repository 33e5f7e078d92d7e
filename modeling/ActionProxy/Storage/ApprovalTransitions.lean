import ActionProxy.Storage.MemoryStore

/-!
The approval state machine of the store. One inversion lemma says everything an
operation can do to an approval; the invariant of a published approval is
preserved by each of these changes and so by every run, whatever happens to
the tool calls and the content exposure between two operations.
-/

namespace ActionProxy

open MemoryStore

/-! ### Operations and what they change -/

inductive ApprovalOperation where
  | record (input : AtomicApprovalDecisionInput)
  | reject (input : AtomicApprovalRejectionInput)
  | cancel (input : AtomicApprovalCancellationInput)
  | expire (input : AtomicApprovalExpiryInput)

def ApprovalOperation.approvalId : ApprovalOperation → String
  | .record input => input.approvalId
  | .reject input => input.approvalId
  | .cancel input => input.approvalId
  | .expire input => input.approvalId

/-- Two decisions of different actors and, where both name one, of different principals. -/
def Independent (left right : ApprovalDecisionRecord) : Prop :=
  left.actor ≠ right.actor ∧
    ∀ leftAuth rightAuth, left.auth = some leftAuth → right.auth = some rightAuth →
      leftAuth.principalId ≠ rightAuth.principalId

theorem independent_of_fresh {decisions : List ApprovalDecisionRecord}
    {candidate : ApprovalDecisionRecord}
    (fresh : hasApprovalDecision decisions candidate = false) :
    ∀ decision ∈ decisions, Independent decision candidate := by
  intro decision member
  unfold hasApprovalDecision at fresh
  have checks := List.any_eq_false.mp fresh decision member
  simp only [Bool.or_eq_true, Bool.and_eq_true, beq_iff_eq, not_or, not_and] at checks
  refine ⟨checks.1, ?_⟩
  intro left right leftAuth rightAuth same
  have different := checks.2 (by rw [rightAuth]; rfl)
  rw [leftAuth, rightAuth] at different
  exact different (congrArg some same)

private theorem approvedInput_of_prior {authorization : ApprovalAuthorizationV1}
    {decisions : List ApprovalDecisionRecord} {inputHash envelopeHash : String}
    (prior : priorDecisionsMatchAuthorization decisions authorization (some inputHash)
      (some envelopeHash) = true) :
    ∀ decision ∈ decisions, decision.approvedInputHash = some inputHash := by
  intro decision member
  have checks := List.all_eq_true.mp prior decision member
  simp only [Option.isNone_some, Bool.false_or, Bool.and_eq_true, beq_iff_eq] at checks
  exact checks.1.2

section

variable [Runtime]

def ApprovalOperation.apply (store : MemoryStore) (now : Int) :
    ApprovalOperation → ApprovalResult × MemoryStore
  | .record input => store.recordApprovalDecisionAtomically now input
  | .reject input => store.rejectApprovalAtomically now input
  | .cancel input => store.cancelApprovalAtomically now input
  | .expire input => store.expireApprovalAtomically now input

/-- The store accepts the supplied authorization for an approval that carries one. -/
def Guarded (store : MemoryStore) (current : ApprovalRecord)
    (supplied : Option ApprovalAuthorizationGuard) : Prop :=
  current.authorization = none ∨
    ∃ guarded, supplied = some guarded ∧
      store.approvalAuthorizationFailure current guarded = none

/-- The changes an operation can make to a pending approval. -/
inductive Change (store : MemoryStore) (now : Int) (current : ApprovalRecord) :
    ApprovalOperation → ApprovalOutcome → ApprovalRecord → Prop where
  | expired (operation : ApprovalOperation) (expiredAt : String)
      (authorized : current.authorization.isSome = true) :
      Change store now current operation .expired (expireApproval current expiredAt)
  | decided (input : AtomicApprovalDecisionInput) (authorization : ApprovalAuthorizationV1)
      (authorized : current.authorization = some authorization)
      (guarded : store.approvalAuthorizationFailure current input.authorization = none)
      (open_yet : approvalAuthorizationExpired authorization now = false)
      (bound : decisionMatchesAuthorization input authorization = true)
      (prior : priorDecisionsMatchAuthorization current.recorded authorization
        (some input.approvedInputHash) (some input.approvedEnvelopeHash) = true)
      (fresh : hasApprovalDecision current.recorded input.decision = false) :
      Change store now current (.record input)
        (if reachesQuorum input current then .finalized else .recorded)
        (decidedApproval input current)
  | rejected (input : AtomicApprovalRejectionInput)
      (guarded : Guarded store current input.authorization) :
      Change store now current (.reject input) .rejected (rejectedApproval input current)
  | cancelled (input : AtomicApprovalCancellationInput)
      (guarded : Guarded store current input.authorization) :
      Change store now current (.cancel input) .cancelled (cancelledApproval input current)

/-- What an operation does: it leaves the store as it is and says so, or it
makes one change to the pending approval it names. -/
inductive Effect (store : MemoryStore) (now : Int) (operation : ApprovalOperation) :
    ApprovalResult × MemoryStore → Prop where
  | unchanged (approval : Option ApprovalRecord) (outcome : ApprovalOutcome)
      (refused : outcome.isSuccess = false) (not_expired : outcome ≠ .expired) :
      Effect store now operation ({ approval := approval, outcome := outcome }, store)
  | changed (current next : ApprovalRecord) (outcome : ApprovalOutcome)
      (found : store.approvals.get? operation.approvalId = some current)
      (pending : current.status = .pending)
      (change : Change store now current operation outcome next) :
      Effect store now operation
        ({ approval := some next, outcome := outcome }, store.setApproval next)

theorem approvalAuthorizationFailure_refuses {store : MemoryStore} {approval : ApprovalRecord}
    {supplied : ApprovalAuthorizationGuard} {failure : ApprovalOutcome}
    (failed : store.approvalAuthorizationFailure approval supplied = some failure) :
    failure.isSuccess = false ∧ failure ≠ .expired := by
  unfold approvalAuthorizationFailure at failed
  repeat' split at failed
  all_goals cases failed
  all_goals exact ⟨rfl, by decide⟩

theorem recordApprovalDecision_effect (store : MemoryStore) (now : Int)
    (input : AtomicApprovalDecisionInput) :
    Effect store now (.record input) (store.recordApprovalDecisionAtomically now input) := by
  unfold recordApprovalDecisionAtomically
  split
  · exact Effect.unchanged _ _ rfl (by decide)
  · rename_i current found
    split
    · exact Effect.unchanged _ _ rfl (by decide)
    split
    · exact Effect.unchanged _ _ rfl (by decide)
    rename_i pending
    split
    · exact Effect.unchanged _ _ rfl (by decide)
    split
    · rename_i failure failed
      have refused := approvalAuthorizationFailure_refuses failed
      exact Effect.unchanged _ _ refused.1 refused.2
    rename_i guarded
    split
    · exact Effect.unchanged _ _ rfl (by decide)
    rename_i authorization authorized
    have isPending : current.status = .pending := by simpa using pending
    split
    · refine Effect.changed current _ _ found isPending (Change.expired _ _ ?_)
      rw [authorized]
      rfl
    rename_i live
    split
    · exact Effect.unchanged _ _ rfl (by decide)
    rename_i bound
    split
    · exact Effect.unchanged _ _ rfl (by decide)
    rename_i prior
    split
    · exact Effect.unchanged _ _ rfl (by decide)
    rename_i fresh
    exact Effect.changed current _ _ found isPending
      (Change.decided input authorization authorized guarded (by simpa using live)
        (by simpa using bound) (by simpa using prior) (by simpa using fresh))

theorem finishApproval_effect {store : MemoryStore} {now : Int} {operation : ApprovalOperation}
    {supplied : Option ApprovalAuthorizationGuard} {outcome : ApprovalOutcome}
    {finish : ApprovalRecord → ApprovalRecord}
    (finishes : ∀ current, Guarded store current supplied →
      Change store now current operation outcome (finish current)) :
    Effect store now operation
      (store.finishApproval now operation.approvalId supplied outcome finish) := by
  unfold finishApproval
  split
  · exact Effect.unchanged _ _ rfl (by decide)
  · rename_i current found
    simp only
    split
    · exact Effect.unchanged _ _ rfl (by decide)
    split
    · exact Effect.unchanged _ _ rfl (by decide)
    rename_i pending
    have isPending : current.status = .pending := by simpa using pending
    cases authorized : current.authorization with
    | none => exact Effect.changed current _ _ found isPending (finishes current (Or.inl authorized))
    | some authorization =>
        cases supplied with
        | none => exact Effect.unchanged _ _ rfl (by decide)
        | some guarded =>
            simp only
            split
            · rename_i failure failed
              have refused := approvalAuthorizationFailure_refuses failed
              exact Effect.unchanged _ _ refused.1 refused.2
            rename_i accepted
            split
            · refine Effect.changed current _ _ found isPending (Change.expired _ _ ?_)
              rw [authorized]
              rfl
            · exact Effect.changed current _ _ found isPending
                (finishes current (Or.inr ⟨guarded, rfl, accepted⟩))

theorem expireApproval_effect (store : MemoryStore) (now : Int)
    (input : AtomicApprovalExpiryInput) :
    Effect store now (.expire input) (store.expireApprovalAtomically now input) := by
  unfold expireApprovalAtomically
  split
  · exact Effect.unchanged _ _ rfl (by decide)
  · rename_i current found
    split
    · exact Effect.unchanged _ _ rfl (by decide)
    rename_i pending
    split
    · exact Effect.unchanged _ _ rfl (by decide)
    split
    · exact Effect.unchanged _ _ rfl (by decide)
    rename_i past
    refine Effect.changed current _ _ found (by simpa using pending) (Change.expired _ _ ?_)
    cases authorized : current.authorization with
    | none => simp [authorized] at past
    | some authorization => rfl

theorem apply_effect (store : MemoryStore) (now : Int) (operation : ApprovalOperation) :
    Effect store now operation (operation.apply store now) := by
  cases operation with
  | record input => exact recordApprovalDecision_effect store now input
  | reject input => exact finishApproval_effect (fun current => Change.rejected input)
  | cancel input => exact finishApproval_effect (fun current => Change.cancelled input)
  | expire input => exact expireApproval_effect store now input

/-! ### Runs -/

/-- An operation with the time of the call and the tables the other operations
of the store have left by then. -/
structure ApprovalStep where
  now : Int
  operation : ApprovalOperation
  toolCalls : KeyedTable String ToolCallRecord
  contentExposureScopes : KeyedTable (String × String) ContentExposureScope

/-- The store a step finds. -/
def ApprovalStep.seen (store : MemoryStore) (step : ApprovalStep) : MemoryStore :=
  { store with
    toolCalls := step.toolCalls
    contentExposureScopes := step.contentExposureScopes }

def ApprovalStep.run (store : MemoryStore) (step : ApprovalStep) : ApprovalResult × MemoryStore :=
  step.operation.apply (step.seen store) step.now

theorem ApprovalStep.run_effect (store : MemoryStore) (step : ApprovalStep) :
    Effect (step.seen store) step.now step.operation (step.run store) :=
  apply_effect (step.seen store) step.now step.operation

/-- The store after a sequence of steps. -/
def runSteps (store : MemoryStore) (steps : List ApprovalStep) : MemoryStore :=
  steps.foldl (fun store step => (step.run store).2) store

/-- The steps of a run with their answers. -/
def answers : MemoryStore → List ApprovalStep → List (ApprovalStep × ApprovalResult)
  | _, [] => []
  | store, step :: rest => (step, (step.run store).1) :: answers (step.run store).2 rest

/-- Every approval is stored under its own id. -/
def KeyedById (store : MemoryStore) : Prop :=
  ∀ key approval, store.approvals.get? key = some approval → approval.id = key

/-- An approval published pending with an authorization. -/
structure Published (store : MemoryStore) (approvalId : String)
    (authorization : ApprovalAuthorizationV1) : Prop where
  keyed : KeyedById store
  pending : ∃ approval, store.approvals.get? approvalId = some approval ∧
    approval.status = .pending ∧ approval.authorization = some authorization ∧
    approval.authorizationConsumedAt = none ∧ approval.authorizationConsumedReason = none ∧
    approval.decisions = none

/-- An answered step of the run recorded the decision before the authorization expired. -/
def RecordedInTime (authorization : ApprovalAuthorizationV1) (approvalId : String)
    (run : List (ApprovalStep × ApprovalResult)) (decision : ApprovalDecisionRecord) : Prop :=
  ∃ entry ∈ run, ∃ input expiry, entry.1.operation = .record input ∧
    input.approvalId = approvalId ∧ input.decision = decision ∧
    (entry.2.outcome = .recorded ∨ entry.2.outcome = .finalized) ∧
    dateParse authorization.expiresAt = some expiry ∧ entry.1.now < expiry

/-- What every run keeps of a published approval. -/
structure ApprovalInvariant (authorization : ApprovalAuthorizationV1) (approvalId : String)
    (run : List (ApprovalStep × ApprovalResult)) (approval : ApprovalRecord) : Prop where
  id : approval.id = approvalId
  authorized : approval.authorization = some authorization
  consumed : approval.status ≠ .pending ↔ approval.authorizationConsumedAt.isSome = true
  reason : approval.status ≠ .pending →
    approval.authorizationConsumedReason.map ConsumedReason.status = some approval.status
  independent : approval.recorded.Pairwise Independent
  bound : ∀ decision ∈ approval.recorded, decisionBoundTo authorization decision = true
  oneInput : ∀ decision ∈ approval.recorded, ∀ other ∈ approval.recorded,
    decision.approvedInputHash = other.approvedInputHash
  quorum : approval.status = .approved →
    approval.quorum ≤ (approval.recorded.length : Int) ∧
      ∀ decision ∈ approval.recorded, decision.approvedInputHash = approval.approvedInputHash
  inTime : ∀ decision ∈ approval.recorded, RecordedInTime authorization approvalId run decision

theorem valid_of_not_failed {store : MemoryStore} {current : ApprovalRecord}
    {supplied : ApprovalAuthorizationGuard}
    (accepted : store.approvalAuthorizationFailure current supplied = none) :
    ∃ toolCall, store.toolCalls.get? current.toolCallId = some toolCall ∧
      current.authorization = some supplied.authorization ∧
      AuthorizationAgrees supplied.authorization current toolCall := by
  unfold approvalAuthorizationFailure at accepted
  split at accepted
  · cases accepted
  split at accepted
  · cases accepted
  rename_i same
  split at accepted
  · cases accepted
  rename_i toolCall found
  split at accepted
  · cases accepted
  rename_i checks
  simp only [Bool.or_eq_true, not_or, Bool.not_eq_true, Option.isSome_eq_false_iff,
    Option.isNone_iff_eq_none] at checks
  refine ⟨toolCall, found, ?_, authorizationAgrees_of_no_mismatch checks.1.2⟩
  unfold sameAuthorization at same
  cases stored : current.authorization with
  | none => simp [stored] at same
  | some authorization =>
      simp only [stored, Bool.not_eq_true, Bool.not_eq_false', Bool.and_eq_true,
        decide_eq_true_eq] at same
      rw [same.2]

theorem not_expired_iff {authorization : ApprovalAuthorizationV1} {now : Int}
    (valid : isValidApprovalAuthorization authorization = true)
    (live : approvalAuthorizationExpired authorization now = false) :
    ∃ expiry, dateParse authorization.expiresAt = some expiry ∧ now < expiry := by
  have dated : (dateParse authorization.expiresAt).isSome = true := by
    simp only [isValidApprovalAuthorization, Bool.and_eq_true] at valid
    tauto
  obtain ⟨expiry, read⟩ := Option.isSome_iff_exists.mp dated
  unfold approvalAuthorizationExpired at live
  rw [read] at live
  exact ⟨expiry, read, by simpa using live⟩

theorem ApprovalInvariant.change {authorization : ApprovalAuthorizationV1} {approvalId : String}
    {run : List (ApprovalStep × ApprovalResult)} {current next : ApprovalRecord}
    {store : MemoryStore} {step : ApprovalStep} {result : ApprovalResult}
    {operation : ApprovalOperation} {outcome : ApprovalOutcome}
    (invariant : ApprovalInvariant authorization approvalId run current)
    (pending : current.status = .pending) (sameOperation : step.operation = operation)
    (sameOutcome : result.outcome = outcome)
    (named : operation.approvalId = approvalId)
    (change : Change store step.now current operation outcome next) :
    ApprovalInvariant authorization approvalId (run ++ [(step, result)]) next := by
  have kept : ∀ decision ∈ current.recorded,
      RecordedInTime authorization approvalId (run ++ [(step, result)]) decision := by
    intro decision member
    obtain ⟨entry, listed, rest⟩ := invariant.inTime decision member
    exact ⟨entry, List.mem_append_left _ listed, rest⟩
  cases change with
  | expired _ expiredAt _ =>
      exact
        { id := invariant.id
          authorized := invariant.authorized
          consumed := iff_of_true (by simp [expireApproval]) rfl
          reason := fun _ => rfl
          independent := invariant.independent
          bound := invariant.bound
          oneInput := invariant.oneInput
          quorum := by
            intro approved
            cases approved
          inTime := kept }
  | rejected input _ =>
      exact
        { id := invariant.id
          authorized := invariant.authorized
          consumed := iff_of_true (by simp [rejectedApproval])
            (by simp [rejectedApproval, invariant.authorized])
          reason := by
            intro _
            simp [rejectedApproval, invariant.authorized, ConsumedReason.status]
          independent := invariant.independent
          bound := invariant.bound
          oneInput := invariant.oneInput
          quorum := by
            intro approved
            cases approved
          inTime := kept }
  | cancelled input _ =>
      exact
        { id := invariant.id
          authorized := invariant.authorized
          consumed := iff_of_true (by simp [cancelledApproval])
            (by simp [cancelledApproval, invariant.authorized])
          reason := by
            intro _
            simp [cancelledApproval, invariant.authorized, ConsumedReason.status]
          independent := invariant.independent
          bound := invariant.bound
          oneInput := invariant.oneInput
          quorum := by
            intro approved
            cases approved
          inTime := kept }
  | decided input stored authorized guarded live bound prior fresh =>
      obtain ⟨toolCall, _, sameStored, agrees⟩ := valid_of_not_failed guarded
      have storedEq : stored = authorization :=
        Option.some.inj (authorized.symm.trans invariant.authorized)
      have suppliedEq : input.authorization.authorization = authorization :=
        Option.some.inj (sameStored.symm.trans invariant.authorized)
      subst storedEq
      rw [suppliedEq] at agrees
      obtain ⟨expiry, read, before⟩ := not_expired_iff agrees.valid live
      simp only [decisionMatchesAuthorization, Bool.and_eq_true, beq_iff_eq] at bound
      obtain ⟨⟨⟨⟨_, decisionBound⟩, _⟩, decisionInput⟩, _⟩ := bound
      have priorInput := approvedInput_of_prior prior
      have recorded : (decidedApproval input current).recorded =
          current.recorded ++ [input.decision] := rfl
      have allInput : ∀ decision ∈ (decidedApproval input current).recorded,
          decision.approvedInputHash = some input.approvedInputHash := by
        intro decision member
        rw [recorded] at member
        rcases List.mem_append.mp member with inPrior | isNew
        · exact priorInput decision inPrior
        · rw [List.mem_singleton.mp isNew]
          exact decisionInput
      have newInTime : RecordedInTime stored approvalId (run ++ [(step, result)])
          input.decision := by
        refine ⟨(step, result), by simp, input, expiry, sameOperation, named, rfl, ?_, read, before⟩
        rw [sameOutcome]
        split
        · exact Or.inr rfl
        · exact Or.inl rfl
      exact
        { id := invariant.id
          authorized := invariant.authorized
          consumed := by
            by_cases final : reachesQuorum input current = true
            · simp [decidedApproval, final]
            · have unconsumed := mt invariant.consumed.mpr (not_not.mpr pending)
              simpa [decidedApproval, final] using unconsumed
          reason := by
            by_cases final : reachesQuorum input current = true
            · simp [decidedApproval, final, ConsumedReason.status]
            · simp [decidedApproval, final]
          independent := by
            rw [recorded, List.pairwise_append]
            refine ⟨invariant.independent, List.pairwise_singleton _ _, ?_⟩
            intro decision member other isNew
            rw [List.mem_singleton.mp isNew]
            exact independent_of_fresh fresh decision member
          bound := by
            intro decision member
            rw [recorded] at member
            rcases List.mem_append.mp member with inPrior | isNew
            · exact invariant.bound decision inPrior
            · rw [List.mem_singleton.mp isNew]
              exact decisionBound
          oneInput := by
            intro decision member other otherMember
            rw [allInput decision member, allInput other otherMember]
          quorum := by
            intro approved
            by_cases final : reachesQuorum input current = true
            · refine ⟨of_decide_eq_true final, ?_⟩
              intro decision member
              rw [allInput decision member]
              simp [decidedApproval, final]
            · simp [decidedApproval, final] at approved
          inTime := by
            intro decision member
            rw [recorded] at member
            rcases List.mem_append.mp member with inPrior | isNew
            · exact kept decision inPrior
            · rw [List.mem_singleton.mp isNew]
              exact newInTime }

/-! ### Steps -/

theorem Change.id_eq {store : MemoryStore} {now : Int} {current next : ApprovalRecord}
    {operation : ApprovalOperation} {outcome : ApprovalOutcome}
    (change : Change store now current operation outcome next) : next.id = current.id := by
  cases change <;> rfl

/-- What an operation does to one approval: nothing, or a change while it is pending. -/
theorem Effect.on_approval {store : MemoryStore} {now : Int} {operation : ApprovalOperation}
    {result : ApprovalResult × MemoryStore} {approvalId : String} {approval : ApprovalRecord}
    (keyed : KeyedById store) (found : store.approvals.get? approvalId = some approval)
    (effect : Effect store now operation result) :
    result.2.approvals.get? approvalId = some approval ∨
      ∃ next, operation.approvalId = approvalId ∧ approval.status = .pending ∧
        Change store now approval operation result.1.outcome next ∧
        result.2.approvals.get? approvalId = some next := by
  cases effect with
  | unchanged answer outcome refused not_expired => exact Or.inl found
  | changed current next outcome named pending change =>
      have nextId : next.id = operation.approvalId :=
        change.id_eq.trans (keyed _ _ named)
      by_cases same : operation.approvalId = approvalId
      · right
        subst same
        obtain rfl : current = approval := Option.some.inj (named.symm.trans found)
        refine ⟨next, rfl, pending, change, ?_⟩
        rw [← nextId]
        exact KeyedTable.get?_set_self _ _ _
      · left
        have other : approvalId ≠ next.id := by
          rw [nextId]
          exact Ne.symm same
        exact (KeyedTable.get?_set_other _ other _).trans found

theorem Effect.keyed {store : MemoryStore} {now : Int} {operation : ApprovalOperation}
    {result : ApprovalResult × MemoryStore} (keyed : KeyedById store)
    (effect : Effect store now operation result) : KeyedById result.2 := by
  cases effect with
  | unchanged answer outcome refused not_expired => exact keyed
  | changed current next outcome named pending change =>
      intro key approval found
      change (store.approvals.set next.id next).get? key = some approval at found
      rw [KeyedTable.get?_set] at found
      split at found
      · rename_i same
        cases found
        exact same.symm
      · exact keyed key approval found

theorem ApprovalInvariant.extend {authorization : ApprovalAuthorizationV1} {approvalId : String}
    {run : List (ApprovalStep × ApprovalResult)} {approval : ApprovalRecord}
    (invariant : ApprovalInvariant authorization approvalId run approval)
    (entry : ApprovalStep × ApprovalResult) :
    ApprovalInvariant authorization approvalId (run ++ [entry]) approval :=
  { invariant with
    inTime := by
      intro decision member
      obtain ⟨earlier, listed, rest⟩ := invariant.inTime decision member
      exact ⟨earlier, List.mem_append_left _ listed, rest⟩ }

/-- The stored approval keeps the invariant in the store a run has reached. -/
def Reached (authorization : ApprovalAuthorizationV1) (approvalId : String)
    (run : List (ApprovalStep × ApprovalResult)) (store : MemoryStore) : Prop :=
  KeyedById store ∧ ∃ approval, store.approvals.get? approvalId = some approval ∧
    ApprovalInvariant authorization approvalId run approval

theorem Published.reached {store : MemoryStore} {approvalId : String}
    {authorization : ApprovalAuthorizationV1}
    (published : Published store approvalId authorization) :
    Reached authorization approvalId [] store := by
  obtain ⟨approval, found, pending, authorized, unconsumed, noReason, undecided⟩ :=
    published.pending
  have empty : approval.recorded = [] := by
    rw [ApprovalRecord.recorded, undecided]
    rfl
  refine ⟨published.keyed, approval, found, ?_⟩
  exact
    { id := published.keyed _ _ found
      authorized := authorized
      consumed := by simp [pending, unconsumed]
      reason := fun final => absurd pending final
      independent := by simp [empty]
      bound := by simp [empty]
      oneInput := by simp [empty]
      quorum := by simp [pending]
      inTime := by simp [empty] }

theorem Reached.step {authorization : ApprovalAuthorizationV1} {approvalId : String}
    {run : List (ApprovalStep × ApprovalResult)} {store : MemoryStore}
    (reached : Reached authorization approvalId run store) (step : ApprovalStep) :
    Reached authorization approvalId (run ++ [(step, (step.run store).1)])
      (step.run store).2 := by
  obtain ⟨keyed, approval, found, invariant⟩ := reached
  have effect := step.run_effect store
  have keyedSeen : KeyedById (step.seen store) := keyed
  refine ⟨effect.keyed keyedSeen, ?_⟩
  rcases effect.on_approval keyedSeen found with same | ⟨next, named, pending, change, stored⟩
  · exact ⟨approval, same, invariant.extend _⟩
  · exact ⟨next, stored, invariant.change pending rfl rfl named change⟩

theorem Reached.steps {authorization : ApprovalAuthorizationV1} {approvalId : String}
    {run : List (ApprovalStep × ApprovalResult)} {store : MemoryStore}
    (reached : Reached authorization approvalId run store) (steps : List ApprovalStep) :
    Reached authorization approvalId (run ++ answers store steps) (runSteps store steps) := by
  induction steps generalizing run store with
  | nil =>
      rw [answers, List.append_nil]
      exact reached
  | cons step rest ih =>
      rw [answers, List.append_cons]
      exact ih (reached.step step)

theorem runSteps_final {store : MemoryStore} {approvalId : String} {approval : ApprovalRecord}
    (keyed : KeyedById store) (found : store.approvals.get? approvalId = some approval)
    (final : approval.status ≠ .pending) (steps : List ApprovalStep) :
    (runSteps store steps).approvals.get? approvalId = some approval := by
  induction steps generalizing store with
  | nil => exact found
  | cons step rest ih =>
      have effect := step.run_effect store
      have keyedSeen : KeyedById (step.seen store) := keyed
      rcases effect.on_approval keyedSeen found with same | ⟨next, _, pending, _⟩
      · exact ih (effect.keyed keyedSeen) same
      · exact absurd pending final

theorem runSteps_append (store : MemoryStore) (steps more : List ApprovalStep) :
    runSteps store (steps ++ more) = runSteps (runSteps store steps) more :=
  List.foldl_append

theorem Change.succeeds {store : MemoryStore} {now : Int} {current next : ApprovalRecord}
    {operation : ApprovalOperation} {outcome : ApprovalOutcome}
    (change : Change store now current operation outcome next) :
    outcome.isSuccess = true ∨ outcome = .expired := by
  cases change with
  | expired => exact Or.inr rfl
  | decided input =>
      left
      split <;> rfl
  | rejected => exact Or.inl rfl
  | cancelled => exact Or.inl rfl

/-- An operation that neither succeeds nor expires the approval leaves the store it found. -/
theorem Effect.refused {store : MemoryStore} {now : Int} {operation : ApprovalOperation}
    {result : ApprovalResult × MemoryStore} (effect : Effect store now operation result)
    (failed : result.1.outcome.isSuccess = false) (not_expired : result.1.outcome ≠ .expired) :
    result.2 = store := by
  cases effect with
  | unchanged answer outcome _ _ => rfl
  | changed current next outcome named pending change =>
      rcases change.succeeds with success | expired
      · exact absurd (success.symm.trans failed) Bool.noConfusion
      · exact absurd expired not_expired

/-! ### The state machine of a published approval -/

/-- What the store holds of a published approval after a run, and what a
further step can do to it. -/
structure ApprovalObeys (authorization : ApprovalAuthorizationV1) (approvalId : String)
    (store : MemoryStore) (steps : List ApprovalStep) (approval : ApprovalRecord) : Prop where
  stored : (runSteps store steps).approvals.get? approvalId = some approval
  consumed : approval.status ≠ .pending ↔ approval.authorizationConsumedAt.isSome = true
  reason : approval.status ≠ .pending →
    approval.authorizationConsumedReason.map ConsumedReason.status = some approval.status
  final : approval.status ≠ .pending → ∀ more : List ApprovalStep,
    (runSteps store (steps ++ more)).approvals.get? approvalId = some approval
  quorum : approval.status = .approved →
    approval.quorum ≤ (approval.recorded.length : Int) ∧
      approval.recorded.Pairwise Independent ∧
      ∀ decision ∈ approval.recorded,
        decision.authorizationHash = some authorization.authorizationHash ∧
        decision.authorizationNonce = some authorization.nonce ∧
        decision.approvedInputHash = approval.approvedInputHash ∧
        RecordedInTime authorization approvalId (answers store steps) decision
  refused : ∀ step : ApprovalStep,
    (step.run (runSteps store steps)).1.outcome.isSuccess = false →
    (step.run (runSteps store steps)).1.outcome ≠ .expired →
    (step.run (runSteps store steps)).2 = step.seen (runSteps store steps)

theorem approval_obeys {store : MemoryStore} {approvalId : String}
    {authorization : ApprovalAuthorizationV1}
    (published : Published store approvalId authorization) (steps : List ApprovalStep) :
    ∃ approval, ApprovalObeys authorization approvalId store steps approval := by
  obtain ⟨keyed, approval, found, invariant⟩ := published.reached.steps steps
  rw [List.nil_append] at invariant
  refine ⟨approval, ?_⟩
  exact
    { stored := found
      consumed := invariant.consumed
      reason := invariant.reason
      final := by
        intro final more
        rw [runSteps_append]
        exact runSteps_final keyed found final more
      quorum := by
        intro approved
        obtain ⟨enough, sameInput⟩ := invariant.quorum approved
        refine ⟨enough, invariant.independent, ?_⟩
        intro decision member
        have bound := invariant.bound decision member
        simp only [decisionBoundTo, Bool.and_eq_true, beq_iff_eq] at bound
        exact ⟨bound.1.1.1.2, bound.1.1.2, sameInput decision member,
          invariant.inTime decision member⟩
      refused := fun step => (step.run_effect _).refused }

end

private def publishedInputHash : String :=
  "44136fa355b3678a1146ad16f7e8649e94fb4fc21fe77e8310c060f61caaff8a"

private def publishedAuthorization : ApprovalAuthorizationV1 :=
  { authorizationHash := "35cd6991701fb1d0349c6db3ab7004471988e86c62f3d7005c9a20a26333b821"
    binding :=
      { action :=
          { originalEnvelopeHash := "env_1"
            originalInputHash := publishedInputHash
            reviewHash := "review_1" }
        approval :=
          { approvalId := "apr_1"
            requestedBy := "agent"
            requestedByPrincipalId := none
            tenantId := "default"
            toolCallId := "tc_1" }
        decision := { decisionId := none, outcome := .requireApproval, version := none }
        policy :=
          { digest := none
            evaluatorVersion := none
            legacyVersionHash := "policy_1"
            legacyVersionId := none
            providerId := none
            providerVersion := none
            version := none }
        request := { decisionInputHash := none, requestHash := none, version := none }
        requirements :=
          { eligibleGroups := []
            eligibleUsers := none
            requiredApprovals := 1
            separationOfDuties := false } }
    expiresAt := "2026-07-10T11:00:00.000Z"
    issuedAt := "2026-07-10T10:00:00.000Z"
    nonce := "nonce_1"
    version := approvalAuthorizationVersion }

private def publishedDigests : List (String × String) :=
  [("\x7b\x7d", publishedInputHash),
    ("\x7b\"binding\":\x7b\"action\":\x7b\"originalEnvelopeHash\":\"env_1\",\"originalInputHash\":\"" ++
      publishedInputHash ++
      "\",\"reviewHash\":\"review_1\"\x7d,\"approval\":\x7b\"approvalId\":\"apr_1\"," ++
      "\"requestedBy\":\"agent\",\"requestedByPrincipalId\":null,\"tenantId\":\"default\"," ++
      "\"toolCallId\":\"tc_1\"\x7d,\"decision\":\x7b\"decisionId\":null," ++
      "\"outcome\":\"require_approval\",\"version\":null\x7d,\"policy\":\x7b\"digest\":null," ++
      "\"evaluatorVersion\":null,\"legacyVersionHash\":\"policy_1\",\"legacyVersionId\":null," ++
      "\"providerId\":null,\"providerVersion\":null,\"version\":null\x7d," ++
      "\"request\":\x7b\"decisionInputHash\":null,\"requestHash\":null,\"version\":null\x7d," ++
      "\"requirements\":\x7b\"eligibleGroups\":[],\"eligibleUsers\":null," ++
      "\"requiredApprovals\":1,\"separationOfDuties\":false\x7d\x7d," ++
      "\"expiresAt\":\"2026-07-10T11:00:00.000Z\",\"issuedAt\":\"2026-07-10T10:00:00.000Z\"," ++
      "\"nonce\":\"nonce_1\",\"version\":\"actionproxy.approval-authorization.v1\"\x7d",
    "35cd6991701fb1d0349c6db3ab7004471988e86c62f3d7005c9a20a26333b821")]

private def publishedApproval : ApprovalRecord :=
  { id := "apr_1"
    workspaceId := some "default"
    toolCallId := "tc_1"
    status := .pending
    requestedBy := "agent"
    requestedByAuth := none
    authorization := some publishedAuthorization
    authorizationConsumedAt := none
    authorizationConsumedReason := none
    approvedBy := none
    cancelledAt := none
    cancelledBy := none
    cancellationReason := none
    expiredAt := none
    finalizedAt := none
    rejectedBy := none
    note := none
    rejectionReason := none
    originalInput := []
    originalEnvelopeHash := some "env_1"
    originalInputHash := some publishedInputHash
    editedInput := none
    approvedEnvelopeHash := none
    approvedInputHash := none
    reviewHash := some "review_1"
    approverUsers := none
    approverGroups := none
    requiredApprovals := some 1
    separationOfDuties := none
    supersededAt := none
    supersededByApprovalId := none
    decisions := none
    createdAt := "2026-07-10T10:00:00.000Z"
    updatedAt := "2026-07-10T10:00:00.000Z" }

private def publishedToolCall : ToolCallRecord :=
  { id := "tc_1"
    workspaceId := some "default"
    toolName := "mail.send"
    input := []
    inputHash := some publishedInputHash
    actionEnvelope := none
    actionEnvelopeHash := some "env_1"
    canonicalActionRequestHash := none
    canonicalActionRequestVersion := none
    canonicalDecisionInputHash := none
    canonicalPolicyContext := none
    contentInfluence := none
    influenceScopeId := none
    requestedBy := "agent"
    requestedByAuth := none
    agentId := "agent"
    reason := ""
    metadata := []
    status := .pendingApproval
    decision := some .requireApproval
    authorizationDecision := none
    authorizationReason := none
    decisionTrace := none
    policyReason := none
    policyVersionId := none
    policyVersionHash := some "policy_1"
    resultDelivery := none
    resultSource := none
    resultWithheld := none
    risk := none
    result := none
    error := none
    createdAt := "2026-07-10T10:00:00.000Z"
    updatedAt := "2026-07-10T10:00:00.000Z" }

private def publishedStore : MemoryStore :=
  { toolCalls := .empty
    contentExposureScopes := .empty
    approvals := KeyedTable.empty.set "apr_1" publishedApproval
    executionGrants := .empty
    executionAttempts := .empty
    executionAttemptByToolCall := .empty
    actionReceipts := .empty }

/-- One approver approves the input as submitted, an hour before the expiry. -/
private def approvingStep : ApprovalStep :=
  { now := 1783677600000
    operation := .record
      { approvalId := "apr_1"
        authorization :=
          { activePolicyVersionHash := "policy_1"
            authorization := publishedAuthorization
            originalInput := [] }
        approvedEnvelopeHash := "env_1"
        approvedInputHash := publishedInputHash
        decision :=
          { actor := "reviewer"
            auth := none
            authorizationHash := some publishedAuthorization.authorizationHash
            authorizationNonce := some "nonce_1"
            authorizationVersion := some approvalAuthorizationVersion
            approvedEnvelopeHash := some "env_1"
            approvedInputHash := some publishedInputHash
            decisionId := none
            decidedAt := "2026-07-10T10:00:00.000Z"
            editedInput := none
            inputDecision := some .original
            note := none
            reviewHash := some "review_1"
            source := none }
        editedInput := none
        note := none
        reviewHash := "review_1"
        updatedAt := "2026-07-10T10:00:00.000Z"
        contentExposureRevision := none }
    toolCalls := KeyedTable.empty.set "tc_1" publishedToolCall
    contentExposureScopes := .empty }

private theorem published_sample :
    Published publishedStore "apr_1" publishedAuthorization := by
  constructor
  · intro key approval found
    change (KeyedTable.empty.set "apr_1" publishedApproval).get? key = some approval at found
    rw [KeyedTable.get?_set, KeyedTable.get?_empty] at found
    split at found
    · rename_i same
      cases found
      exact same.symm
    · cases found
  · exact ⟨publishedApproval, KeyedTable.get?_set_self _ _ _, rfl, rfl, rfl, rfl, rfl⟩

theorem approval_obeys_approvingStep :
    ∃ approval, @ApprovalObeys (sampleRuntime publishedDigests) publishedAuthorization "apr_1"
      publishedStore [approvingStep] approval :=
  @approval_obeys (sampleRuntime publishedDigests) _ _ _ published_sample [approvingStep]

end ActionProxy
