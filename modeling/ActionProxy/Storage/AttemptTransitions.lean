import ActionProxy.Storage.AttemptOperations

/-!
Attempts and grants over whole runs. An attempt advances along one relation
whatever operation moves it; one attempt exists for a tool call, and a grant is
spent together with the only attempt of its tool call.
-/

namespace ActionProxy

open MemoryStore Relation

/-! ### The life of an attempt -/

/-- The changes an attempt can undergo: it is bound to a grant or leaves the
reserved state once, and leaves the dispatched state with an outcome once. -/
inductive AttemptAdvance (current : ExecutionAttemptRecordV1) : ExecutionAttemptRecordV1 → Prop where
  | bound (input : AtomicExecutionAttemptGrantBindingInput)
      (reserved : current.state = .reserved) :
      AttemptAdvance current (boundAttempt current input)
  | dispatched (dispatchedAt : String) (reserved : current.state = .reserved) :
      AttemptAdvance current (dispatchedAttempt current dispatchedAt)
  | failedBefore (outcome : ExecutionAttemptOutcomeV1) (completedAt : String)
      (reserved : current.state = .reserved) (status : outcome.status = .failedBeforeDispatch) :
      AttemptAdvance current
        { current with
          completedAt := some completedAt
          outcome := some outcome
          state := outcome.status
          updatedAt := completedAt }
  | finished (outcome : ExecutionAttemptOutcomeV1) (completedAt : String)
      (dispatched : current.state = .dispatched) (terminal : outcome.status.isTerminal = true)
      (after : outcome.status ≠ .failedBeforeDispatch) :
      AttemptAdvance current
        { current with
          completedAt := some completedAt
          outcome := some outcome
          state := outcome.status
          updatedAt := completedAt }

/-- What no change to an attempt touches. -/
def SameReservation (left right : ExecutionAttemptRecordV1) : Prop :=
  left.id = right.id ∧ left.workspaceId = right.workspaceId ∧ left.toolCallId = right.toolCallId ∧
    left.inputHash = right.inputHash ∧ left.binding = right.binding ∧
    left.executionMode = right.executionMode ∧ left.reservationOwner = right.reservationOwner

theorem AttemptAdvance.same {current next : ExecutionAttemptRecordV1}
    (advance : AttemptAdvance current next) : SameReservation current next := by
  cases advance <;> exact ⟨rfl, rfl, rfl, rfl, rfl, rfl, rfl⟩

theorem AttemptAdvance.open_before {current next : ExecutionAttemptRecordV1}
    (advance : AttemptAdvance current next) : current.state.isTerminal = false := by
  cases advance with
  | bound _ reserved => rw [reserved]; rfl
  | dispatched _ reserved => rw [reserved]; rfl
  | failedBefore _ _ reserved _ => rw [reserved]; rfl
  | finished _ _ dispatched _ _ => rw [dispatched]; rfl

theorem AttemptAdvance.reserved_before {current next : ExecutionAttemptRecordV1}
    (advance : AttemptAdvance current next) (reserved : next.state = .reserved) :
    current.state = .reserved := by
  cases advance with
  | bound _ before => exact before
  | dispatched _ before => exact before
  | failedBefore _ _ before _ => exact before
  | finished outcome _ _ terminal _ =>
      change outcome.status = .reserved at reserved
      rw [reserved] at terminal
      cases terminal

theorem AttemptAdvance.reserved_of_dispatched {current next : ExecutionAttemptRecordV1}
    (advance : AttemptAdvance current next) (before : current.state ≠ .dispatched)
    (after : next.state = .dispatched) : current.state = .reserved := by
  cases advance with
  | bound _ reserved => exact reserved
  | dispatched _ reserved => exact reserved
  | failedBefore _ _ reserved _ => exact reserved
  | finished _ _ dispatched _ _ => exact absurd dispatched before

/-- An attempt comes to an outcome after dispatch only from the dispatched state. -/
theorem AttemptAdvance.dispatched_of_finished {current next : ExecutionAttemptRecordV1}
    (advance : AttemptAdvance current next) (terminal : next.state.isTerminal = true)
    (after : next.state ≠ .failedBeforeDispatch) : current.state = .dispatched := by
  cases advance with
  | bound _ reserved =>
      change current.state.isTerminal = true at terminal
      rw [reserved] at terminal
      cases terminal
  | dispatched _ _ => cases terminal
  | failedBefore _ _ _ status => exact absurd status after
  | finished _ _ dispatched _ _ => exact dispatched

theorem sameReservation_of_advances {current next : ExecutionAttemptRecordV1}
    (advances : ReflTransGen AttemptAdvance current next) : SameReservation current next := by
  induction advances with
  | refl => exact ⟨rfl, rfl, rfl, rfl, rfl, rfl, rfl⟩
  | tail _ advance ih =>
      obtain ⟨id, workspace, toolCall, input, binding, mode, owner⟩ := advance.same
      obtain ⟨id', workspace', toolCall', input', binding', mode', owner'⟩ := ih
      exact ⟨id'.trans id, workspace'.trans workspace, toolCall'.trans toolCall,
        input'.trans input, binding'.trans binding, mode'.trans mode, owner'.trans owner⟩

theorem eq_of_advances_terminal {current next : ExecutionAttemptRecordV1}
    (advances : ReflTransGen AttemptAdvance current next)
    (terminal : current.state.isTerminal = true) : next = current := by
  induction advances using ReflTransGen.head_induction_on with
  | refl => rfl
  | head advance _ _ =>
      rw [advance.open_before] at terminal
      cases terminal

theorem reserved_of_advances {current next : ExecutionAttemptRecordV1}
    (advances : ReflTransGen AttemptAdvance current next) (reserved : next.state = .reserved) :
    current.state = .reserved := by
  induction advances with
  | refl => exact reserved
  | tail _ advance ih => exact ih (advance.reserved_before reserved)

/-! ### Operations -/

inductive AttemptOperation where
  | reserve (record : ExecutionAttemptRecordV1)
      (approvalAuthorization : Option ApprovalAuthorizationV1)
  | bind (input : AtomicExecutionAttemptGrantBindingInput)
  | transition (input : AtomicExecutionAttemptTransitionInput)
  | createGrant (record : ExecutionGrantRecord)
  | dispatch (input : AtomicGrantDispatchInput)

inductive AttemptAnswer where
  | attempt (result : AttemptResult)
  | grant (record : ExecutionGrantRecord)
  | dispatch (result : DispatchResult)

/-- The answer of an operation that changed the store. -/
def AttemptAnswer.isSuccess : AttemptAnswer → Bool
  | .attempt result =>
      result.outcome == .reserved || result.outcome == .bound || result.outcome == .transitioned
  | .grant _ => true
  | .dispatch result => result.outcome == .dispatched

/-- An operation with the time of the call and the tables the other operations
of the store have left by then. -/
structure AttemptStep where
  now : Int
  operation : AttemptOperation
  toolCalls : KeyedTable String ToolCallRecord
  contentExposureScopes : KeyedTable (String × String) ContentExposureScope
  approvals : KeyedTable String ApprovalRecord
  actionReceipts : KeyedTable String ActionReceiptRecord

/-- The store a step finds. -/
def AttemptStep.seen (store : MemoryStore) (step : AttemptStep) : MemoryStore :=
  { store with
    toolCalls := step.toolCalls
    contentExposureScopes := step.contentExposureScopes
    approvals := step.approvals
    actionReceipts := step.actionReceipts }

/-- A dispatch moves a grant to consumed and its reserved attempt to
dispatched, both at one time. -/
structure DispatchMoved (before after : MemoryStore) (input : AtomicGrantDispatchInput)
    (attempt : ExecutionAttemptRecordV1) (grant : ExecutionGrantRecord) : Prop where
  attempt_found : before.executionAttempts.get? input.attemptId = some attempt
  grant_found : before.executionGrants.get? input.grantId = some grant
  unconsumed : nonEmpty grant.consumedAt = none
  reserved : attempt.state = .reserved
  bound : attempt.grantId = some input.grantId
  attempt_tool_call : attempt.toolCallId = input.toolCallId
  grant_tool_call : grant.toolCallId = input.toolCallId
  attempt_workspace : attempt.workspaceId = input.workspaceId
  grant_workspace : grant.workspaceId = input.workspaceId
  moved : after =
    (before.setExecutionGrant (consumedGrant grant input.dispatchedAt)).setExecutionAttempt
      (dispatchedAttempt attempt input.dispatchedAt)

theorem transitioned_advance {current : ExecutionAttemptRecordV1}
    {input : AtomicExecutionAttemptTransitionInput} (expected : current.state = input.expectedState)
    (valid : executionAttemptTransitionIsValid input = true) :
    AttemptAdvance current (transitionedExecutionAttempt current input) := by
  unfold executionAttemptTransitionIsValid at valid
  unfold transitionedExecutionAttempt
  split at valid
  · rename_i reserved
    rw [reserved] at expected
    split at valid
    · rename_i toDispatched
      rw [if_pos toDispatched]
      exact AttemptAdvance.dispatched _ expected
    · rename_i notDispatched
      rw [if_neg notDispatched]
      simp only [Bool.and_eq_true, beq_iff_eq, Option.map_eq_some_iff] at valid
      obtain ⟨failed, outcome, given, status⟩ := valid
      rw [given, ← status]
      exact AttemptAdvance.failedBefore outcome _ expected (status.trans failed)
  · rename_i notReserved
    simp only [Bool.and_eq_true, bne_iff_ne, beq_iff_eq, Option.map_eq_some_iff] at valid
    obtain ⟨⟨⟨next_reserved, next_dispatched⟩, next_before⟩, outcome, given, status⟩ := valid
    have fromDispatched : input.expectedState = .dispatched := by
      have notTerminal := input.open_expected
      simp only [ExecutionAttemptState.isTerminal, Bool.and_eq_false_iff, bne_eq_false_iff_eq]
        at notTerminal
      exact notTerminal.resolve_left notReserved
    rw [if_neg next_dispatched, given, ← status]
    refine AttemptAdvance.finished outcome _ (expected.trans fromDispatched) ?_ ?_
    · simp only [ExecutionAttemptState.isTerminal, Bool.and_eq_true, bne_iff_ne, status]
      exact ⟨next_reserved, next_dispatched⟩
    · rw [status]
      exact next_before

/-! ### The index of attempts -/

/-- What every step keeps: records under their own ids, and every attempt
listed as the attempt of its tool call. -/
structure AttemptsIndexed (store : MemoryStore) : Prop where
  keyed : ∀ key attempt, store.executionAttempts.get? key = some attempt → attempt.id = key
  named : ∀ key attempt, store.executionAttempts.get? key = some attempt → attempt.id ≠ ""
  listed : ∀ key attempt, store.executionAttempts.get? key = some attempt →
    store.executionAttemptByToolCall.get? (attempt.workspaceId, attempt.toolCallId) =
      some attempt.id
  grantKeyed : ∀ key grant, store.executionGrants.get? key = some grant → grant.id = key

theorem AttemptsIndexed.unique {store : MemoryStore} (indexed : AttemptsIndexed store)
    {key other : String} {attempt rival : ExecutionAttemptRecordV1}
    (found : store.executionAttempts.get? key = some attempt)
    (foundRival : store.executionAttempts.get? other = some rival)
    (workspace : attempt.workspaceId = rival.workspaceId)
    (toolCall : attempt.toolCallId = rival.toolCallId) : key = other := by
  have listed := indexed.listed key attempt found
  rw [workspace, toolCall, indexed.listed other rival foundRival] at listed
  rw [← indexed.keyed key attempt found, ← indexed.keyed other rival foundRival]
  exact (Option.some.inj listed).symm

theorem AttemptsIndexed.advance {store : MemoryStore} (indexed : AttemptsIndexed store)
    {key : String} {current next : ExecutionAttemptRecordV1}
    (found : store.executionAttempts.get? key = some current)
    (advance : AttemptAdvance current next) :
    AttemptsIndexed (store.setExecutionAttempt next) := by
  obtain ⟨id, workspace, toolCall, _⟩ := advance.same
  have located : ∀ other attempt,
      (store.setExecutionAttempt next).executionAttempts.get? other = some attempt →
      other = key ∧ attempt = next ∨ store.executionAttempts.get? other = some attempt := by
    intro other attempt foundOther
    change (store.executionAttempts.set next.id next).get? other = some attempt at foundOther
    rw [KeyedTable.get?_set] at foundOther
    split at foundOther
    · rename_i same
      left
      refine ⟨?_, (Option.some.inj foundOther).symm⟩
      rw [same, ← id]
      exact indexed.keyed key current found
    · exact Or.inr foundOther
  have nextId : next.id = key := id.symm.trans (indexed.keyed key current found)
  constructor
  · intro other attempt foundOther
    rcases located other attempt foundOther with ⟨rfl, rfl⟩ | earlier
    · exact nextId
    · exact indexed.keyed other attempt earlier
  · intro other attempt foundOther
    rcases located other attempt foundOther with ⟨rfl, rfl⟩ | earlier
    · rw [← id]
      exact indexed.named other current found
    · exact indexed.named other attempt earlier
  · intro other attempt foundOther
    rcases located other attempt foundOther with ⟨rfl, rfl⟩ | earlier
    · rw [← workspace, ← toolCall, ← id]
      exact indexed.listed other current found
    · exact indexed.listed other attempt earlier
  · exact indexed.grantKeyed

theorem AttemptsIndexed.grant {store : MemoryStore} (indexed : AttemptsIndexed store)
    (record : ExecutionGrantRecord) : AttemptsIndexed (store.setExecutionGrant record) := by
  refine ⟨indexed.keyed, indexed.named, indexed.listed, ?_⟩
  intro key grant found
  change (store.executionGrants.set record.id record).get? key = some grant at found
  rw [KeyedTable.get?_set] at found
  split at found
  · rename_i same
    cases found
    exact same.symm
  · exact indexed.grantKeyed key grant found

theorem AttemptsIndexed.reserve {store : MemoryStore} (indexed : AttemptsIndexed store)
    {record : ExecutionAttemptRecordV1} (named : record.id ≠ "")
    (unlisted : nonEmpty (store.executionAttemptByToolCall.get?
      (record.workspaceId, record.toolCallId)) = none) :
    AttemptsIndexed (store.addExecutionAttempt record) := by
  have unrelated : ∀ key attempt, store.executionAttempts.get? key = some attempt →
      (attempt.workspaceId, attempt.toolCallId) ≠ (record.workspaceId, record.toolCallId) := by
    intro key attempt found same
    rw [← same, indexed.listed key attempt found] at unlisted
    simp [nonEmpty, indexed.named key attempt found] at unlisted
  have located : ∀ key attempt,
      (store.addExecutionAttempt record).executionAttempts.get? key = some attempt →
      key = record.id ∧ attempt = record ∨ store.executionAttempts.get? key = some attempt := by
    intro key attempt found
    change (store.executionAttempts.set record.id record).get? key = some attempt at found
    rw [KeyedTable.get?_set] at found
    split at found
    · rename_i same
      exact Or.inl ⟨same, (Option.some.inj found).symm⟩
    · exact Or.inr found
  constructor
  · intro key attempt found
    rcases located key attempt found with ⟨rfl, rfl⟩ | earlier
    · rfl
    · exact indexed.keyed key attempt earlier
  · intro key attempt found
    rcases located key attempt found with ⟨rfl, rfl⟩ | earlier
    · exact named
    · exact indexed.named key attempt earlier
  · intro key attempt found
    change (store.executionAttemptByToolCall.set (record.workspaceId, record.toolCallId)
      record.id).get? _ = _
    rcases located key attempt found with ⟨rfl, rfl⟩ | earlier
    · exact KeyedTable.get?_set_self _ _ _
    · rw [KeyedTable.get?_set_other _ (unrelated key attempt earlier)]
      exact indexed.listed key attempt earlier
  · exact indexed.grantKeyed

theorem AttemptsIndexed.seen {store : MemoryStore} (indexed : AttemptsIndexed store)
    (step : AttemptStep) : AttemptsIndexed (step.seen store) :=
  ⟨indexed.keyed, indexed.named, indexed.listed, indexed.grantKeyed⟩

theorem DispatchMoved.advance {before after : MemoryStore} {input : AtomicGrantDispatchInput}
    {attempt : ExecutionAttemptRecordV1} {grant : ExecutionGrantRecord}
    (moved : DispatchMoved before after input attempt grant) :
    AttemptAdvance attempt (dispatchedAttempt attempt input.dispatchedAt) :=
  AttemptAdvance.dispatched _ moved.reserved

theorem evolves_setExecutionAttempt {store : MemoryStore} (indexed : AttemptsIndexed store)
    {key : String} {current next : ExecutionAttemptRecordV1}
    (found : store.executionAttempts.get? key = some current)
    (advance : AttemptAdvance current next) :
    KeyedTable.Evolves AttemptAdvance store.executionAttempts
      (store.setExecutionAttempt next).executionAttempts := by
  have nextId : next.id = key :=
    advance.same.1.symm.trans (indexed.keyed key current found)
  unfold setExecutionAttempt
  rw [nextId]
  exact KeyedTable.evolves_set found advance

/-- A store on which no attempt and no grant was ever made. -/
structure Unused (store : MemoryStore) : Prop where
  executionAttempts : store.executionAttempts = .empty
  executionAttemptByToolCall : store.executionAttemptByToolCall = .empty
  executionGrants : store.executionGrants = .empty

theorem Unused.indexed {store : MemoryStore} (unused : Unused store) : AttemptsIndexed store := by
  constructor
  all_goals
    intro key record found
    simp [unused.executionAttempts, unused.executionGrants] at found

/-- The dispatch finds a reserved attempt and an unconsumed grant and leaves
both moved, at the time it names. -/
def MovesTogether (before after : MemoryStore) (input : AtomicGrantDispatchInput) : Prop :=
  ∃ attempt grant, before.executionAttempts.get? input.attemptId = some attempt ∧
    attempt.state = .reserved ∧
    before.executionGrants.get? input.grantId = some grant ∧
    nonEmpty grant.consumedAt = none ∧
    after.executionAttempts.get? input.attemptId =
      some (dispatchedAttempt attempt input.dispatchedAt) ∧
    after.executionGrants.get? input.grantId = some (consumedGrant grant input.dispatchedAt)

theorem DispatchMoved.together {before after : MemoryStore} {input : AtomicGrantDispatchInput}
    {attempt : ExecutionAttemptRecordV1} {grant : ExecutionGrantRecord}
    (indexed : AttemptsIndexed before) (moved : DispatchMoved before after input attempt grant) :
    MovesTogether before after input := by
  refine ⟨attempt, grant, moved.attempt_found, moved.reserved, moved.grant_found,
    moved.unconsumed, ?_, ?_⟩
  · rw [moved.moved, ← indexed.keyed _ _ moved.attempt_found]
    exact KeyedTable.get?_set_self _ _ _
  · rw [moved.moved, ← indexed.grantKeyed _ _ moved.grant_found]
    exact KeyedTable.get?_set_self _ _ _

/-! ### What an operation does -/

section

variable [Runtime]

def AttemptOperation.apply (store : MemoryStore) (now : Int) :
    AttemptOperation → AttemptAnswer × MemoryStore
  | .reserve record authorization =>
      let answer := store.reserveExecutionAttemptAtomically now record authorization
      (.attempt answer.1, answer.2)
  | .bind input =>
      let answer := store.bindExecutionAttemptGrantAtomically input
      (.attempt answer.1, answer.2)
  | .transition input =>
      let answer := store.transitionExecutionAttemptAtomically input
      (.attempt answer.1, answer.2)
  | .createGrant record =>
      let answer := store.createExecutionGrant record
      (.grant answer.1, answer.2)
  | .dispatch input =>
      let answer := store.consumeExecutionGrantAndDispatchAttemptAtomically input
      (.dispatch answer.1, answer.2)

/-- What an operation does: it refuses and leaves the store, or it makes one of
these changes. -/
inductive AttemptEffect (store : MemoryStore) (now : Int) :
    AttemptOperation → AttemptAnswer × MemoryStore → Prop where
  | refused (operation : AttemptOperation) (answer : AttemptAnswer)
      (failed : answer.isSuccess = false) : AttemptEffect store now operation (answer, store)
  | reserved (record : ExecutionAttemptRecordV1) (toolCall : ToolCallRecord)
      (authorization : Option ApprovalAuthorizationV1)
      (found : store.toolCalls.get? record.toolCallId = some toolCall)
      (workspace : toolCall.workspace = record.workspaceId)
      (matched : store.executionAttemptBindingMatches now record toolCall authorization = true)
      (unlisted : nonEmpty (store.executionAttemptByToolCall.get?
        (record.workspaceId, record.toolCallId)) = none)
      (absent : store.executionAttempts.get? record.id = none) :
      AttemptEffect store now (.reserve record authorization)
        (.attempt { attempt := some record, outcome := .reserved },
          store.addExecutionAttempt record)
  | advanced (operation : AttemptOperation) (key : String) (outcome : AttemptOutcome)
      (current next : ExecutionAttemptRecordV1)
      (found : store.executionAttempts.get? key = some current)
      (advance : AttemptAdvance current next)
      (kind : (∃ input, operation = .bind input) ∧ outcome = .bound ∨
        (∃ input, operation = .transition input) ∧ outcome = .transitioned) :
      AttemptEffect store now operation
        (.attempt { attempt := some next, outcome := outcome }, store.setExecutionAttempt next)
  | granted (record : ExecutionGrantRecord) :
      AttemptEffect store now (.createGrant record) (.grant record, store.setExecutionGrant record)
  | dispatched (input : AtomicGrantDispatchInput) (attempt : ExecutionAttemptRecordV1)
      (grant : ExecutionGrantRecord) (after : MemoryStore)
      (moved : DispatchMoved store after input attempt grant) :
      AttemptEffect store now (.dispatch input)
        (.dispatch
          { attempt := some (dispatchedAttempt attempt input.dispatchedAt)
            grant := some (consumedGrant grant input.dispatchedAt)
            outcome := .dispatched }, after)

theorem reserveExecutionAttempt_effect (store : MemoryStore) (now : Int)
    (record : ExecutionAttemptRecordV1) (authorization : Option ApprovalAuthorizationV1) :
    AttemptEffect store now (.reserve record authorization)
      (AttemptOperation.apply store now (.reserve record authorization)) := by
  simp only [AttemptOperation.apply, reserveExecutionAttemptAtomically]
  split
  · exact AttemptEffect.refused _ _ rfl
  rename_i toolCall found
  split
  · exact AttemptEffect.refused _ _ rfl
  rename_i workspace
  split
  · exact AttemptEffect.refused _ _ rfl
  rename_i matched
  split
  · exact AttemptEffect.refused _ _ rfl
  rename_i unlisted
  split
  · exact AttemptEffect.refused _ _ rfl
  rename_i absent
  exact AttemptEffect.reserved record toolCall authorization found (by simpa using workspace)
    (by simpa using matched) unlisted absent

theorem bindExecutionAttemptGrant_effect (store : MemoryStore) (now : Int)
    (input : AtomicExecutionAttemptGrantBindingInput) :
    AttemptEffect store now (.bind input) (AttemptOperation.apply store now (.bind input)) := by
  simp only [AttemptOperation.apply, bindExecutionAttemptGrantAtomically]
  split
  · exact AttemptEffect.refused _ _ rfl
  rename_i current found
  split
  · exact AttemptEffect.refused _ _ rfl
  split
  · exact AttemptEffect.refused _ _ rfl
  split
  · exact AttemptEffect.refused _ _ rfl
  rename_i reserved
  split
  · exact AttemptEffect.refused _ _ rfl
  exact AttemptEffect.advanced _ _ _ current _ found
    (AttemptAdvance.bound input (by simpa using reserved)) (Or.inl ⟨⟨input, rfl⟩, rfl⟩)

theorem transitionExecutionAttempt_effect (store : MemoryStore) (now : Int)
    (input : AtomicExecutionAttemptTransitionInput) :
    AttemptEffect store now (.transition input)
      (AttemptOperation.apply store now (.transition input)) := by
  simp only [AttemptOperation.apply, transitionExecutionAttemptAtomically]
  split
  · exact AttemptEffect.refused _ _ rfl
  rename_i current found
  split
  · exact AttemptEffect.refused _ _ rfl
  split
  · exact AttemptEffect.refused _ _ rfl
  split
  · exact AttemptEffect.refused _ _ rfl
  split
  · exact AttemptEffect.refused _ _ rfl
  split
  · exact AttemptEffect.refused _ _ rfl
  split
  · exact AttemptEffect.refused _ _ rfl
  rename_i accepted
  simp only [Bool.or_eq_true, decide_eq_true_eq, Bool.not_eq_true', not_or, not_not,
    Bool.not_eq_false] at accepted
  exact AttemptEffect.advanced _ _ _ current _ found
    (transitioned_advance accepted.1 accepted.2) (Or.inr ⟨⟨input, rfl⟩, rfl⟩)

theorem consumeExecutionGrant_effect (store : MemoryStore) (now : Int)
    (input : AtomicGrantDispatchInput) :
    AttemptEffect store now (.dispatch input)
      (AttemptOperation.apply store now (.dispatch input)) := by
  simp only [AttemptOperation.apply, consumeExecutionGrantAndDispatchAttemptAtomically]
  split
  · exact AttemptEffect.refused _ _ rfl
  rename_i attempt attempt_found
  split
  · exact AttemptEffect.refused _ _ rfl
  rename_i attempt_workspace
  split
  · exact AttemptEffect.refused _ _ rfl
  rename_i grant grant_found
  split
  · exact AttemptEffect.refused _ _ rfl
  rename_i grant_workspace
  split
  · exact AttemptEffect.refused _ _ rfl
  rename_i unconsumed
  split
  · exact AttemptEffect.refused _ _ rfl
  rename_i reserved
  split
  · exact AttemptEffect.refused _ _ rfl
  rename_i binding
  split
  · exact AttemptEffect.refused _ _ rfl
  simp only [Bool.or_eq_true, bne_iff_ne, not_or, not_not] at binding
  exact AttemptEffect.dispatched input attempt grant _
    { attempt_found := attempt_found
      grant_found := grant_found
      unconsumed := by simpa using unconsumed
      reserved := by simpa using reserved
      bound := binding.1.1.2
      attempt_tool_call := binding.1.2
      grant_tool_call := binding.2
      attempt_workspace := by simpa using attempt_workspace
      grant_workspace := by simpa using grant_workspace
      moved := rfl }

theorem attempt_effect (store : MemoryStore) (now : Int) (operation : AttemptOperation) :
    AttemptEffect store now operation (operation.apply store now) := by
  cases operation with
  | reserve record authorization =>
      exact reserveExecutionAttempt_effect store now record authorization
  | bind input => exact bindExecutionAttemptGrant_effect store now input
  | transition input => exact transitionExecutionAttempt_effect store now input
  | createGrant record => exact AttemptEffect.granted record
  | dispatch input => exact consumeExecutionGrant_effect store now input

theorem named_of_matches {store : MemoryStore} {now : Int} {record : ExecutionAttemptRecordV1}
    {toolCall : ToolCallRecord} {authorization : Option ApprovalAuthorizationV1}
    (matched : store.executionAttemptBindingMatches now record toolCall authorization = true) :
    record.id ≠ "" ∧ record.state = .reserved := by
  simp only [executionAttemptBindingMatches, attemptIsFresh, Bool.and_eq_true, bne_iff_ne,
    beq_iff_eq] at matched
  tauto

theorem AttemptEffect.indexed {store : MemoryStore} {now : Int} {operation : AttemptOperation}
    {result : AttemptAnswer × MemoryStore} (indexed : AttemptsIndexed store)
    (effect : AttemptEffect store now operation result) : AttemptsIndexed result.2 := by
  cases effect with
  | refused => exact indexed
  | reserved record toolCall authorization _ _ matched unlisted _ =>
      exact indexed.reserve (named_of_matches matched).1 unlisted
  | advanced _ key _ current next found advance _ => exact indexed.advance found advance
  | granted record => exact indexed.grant record
  | dispatched input attempt grant after moved =>
      rw [moved.moved]
      exact (indexed.grant _).advance moved.attempt_found moved.advance

theorem AttemptEffect.evolves {store : MemoryStore} {now : Int} {operation : AttemptOperation}
    {result : AttemptAnswer × MemoryStore} (indexed : AttemptsIndexed store)
    (effect : AttemptEffect store now operation result) :
    KeyedTable.Evolves AttemptAdvance store.executionAttempts result.2.executionAttempts := by
  cases effect with
  | refused => exact KeyedTable.Evolves.refl _ _
  | reserved record _ _ _ _ _ _ absent => exact KeyedTable.evolves_set_new _ absent record
  | advanced _ key _ current next found advance _ =>
      exact evolves_setExecutionAttempt indexed found advance
  | granted record => exact KeyedTable.Evolves.refl _ _
  | dispatched input attempt grant after moved =>
      rw [moved.moved]
      exact evolves_setExecutionAttempt (indexed.grant _) moved.attempt_found moved.advance

theorem AttemptEffect.grant_kept {store : MemoryStore} {now : Int} {operation : AttemptOperation}
    {result : AttemptAnswer × MemoryStore} (indexed : AttemptsIndexed store)
    (effect : AttemptEffect store now operation result) {grantId : String}
    {grant : ExecutionGrantRecord} (found : store.executionGrants.get? grantId = some grant)
    (not_created : ∀ record, operation = .createGrant record → record.id ≠ grantId) :
    ∃ kept, result.2.executionGrants.get? grantId = some kept ∧
      kept.workspaceId = grant.workspaceId ∧ kept.toolCallId = grant.toolCallId := by
  cases effect with
  | refused => exact ⟨grant, found, rfl, rfl⟩
  | reserved => exact ⟨grant, found, rfl, rfl⟩
  | advanced => exact ⟨grant, found, rfl, rfl⟩
  | granted record =>
      exact ⟨grant, (KeyedTable.get?_set_other _ (not_created record rfl).symm _).trans found,
        rfl, rfl⟩
  | dispatched input attempt consumed after moved =>
      rw [moved.moved]
      change ∃ kept, (store.executionGrants.set consumed.id _).get? grantId = some kept ∧ _
      rw [indexed.grantKeyed _ _ moved.grant_found]
      by_cases same : grantId = input.grantId
      · subst same
        obtain rfl : consumed = grant := Option.some.inj (moved.grant_found.symm.trans found)
        exact ⟨_, KeyedTable.get?_set_self _ _ _, rfl, rfl⟩
      · exact ⟨grant, (KeyedTable.get?_set_other _ same _).trans found, rfl, rfl⟩

def AttemptStep.run (store : MemoryStore) (step : AttemptStep) : AttemptAnswer × MemoryStore :=
  step.operation.apply (step.seen store) step.now

theorem AttemptStep.run_effect (store : MemoryStore) (step : AttemptStep) :
    AttemptEffect (step.seen store) step.now step.operation (step.run store) :=
  attempt_effect (step.seen store) step.now step.operation

def runAttempts (store : MemoryStore) (steps : List AttemptStep) : MemoryStore :=
  steps.foldl (fun store step => (step.run store).2) store

theorem AttemptsIndexed.run {store : MemoryStore} (indexed : AttemptsIndexed store)
    (steps : List AttemptStep) : AttemptsIndexed (runAttempts store steps) := by
  induction steps generalizing store with
  | nil => exact indexed
  | cons step rest ih => exact ih ((step.run_effect store).indexed (indexed.seen step))

/-- The step moves the attempt to dispatched. -/
def Dispatches (store : MemoryStore) (step : AttemptStep) (attemptId : String) : Prop :=
  ∃ attempt next, store.executionAttempts.get? attemptId = some attempt ∧
    attempt.state ≠ .dispatched ∧
    (step.run store).2.executionAttempts.get? attemptId = some next ∧ next.state = .dispatched

/-- The step consumes the grant. -/
def Consumes (store : MemoryStore) (step : AttemptStep) (grantId : String) : Prop :=
  ∃ input result, step.operation = .dispatch input ∧ input.grantId = grantId ∧
    (step.run store).1 = .dispatch result ∧ result.outcome = .dispatched

/-- The grant's tool call has an attempt that has left the reserved state. -/
def Spent (store : MemoryStore) (grantId : String) : Prop :=
  ∃ grant attemptId attempt, store.executionGrants.get? grantId = some grant ∧
    store.executionAttempts.get? attemptId = some attempt ∧
    attempt.workspaceId = grant.workspaceId ∧ attempt.toolCallId = grant.toolCallId ∧
    attempt.state ≠ .reserved

theorem Dispatches.reserved {store : MemoryStore} {step : AttemptStep} {attemptId : String}
    (indexed : AttemptsIndexed store) (dispatches : Dispatches store step attemptId) :
    ∃ attempt, store.executionAttempts.get? attemptId = some attempt ∧
      attempt.state = .reserved := by
  obtain ⟨attempt, next, found, before, foundNext, after⟩ := dispatches
  obtain ⟨reached, foundReached, advances⟩ :=
    (step.run_effect store).evolves (indexed.seen step) attemptId attempt found
  obtain rfl : reached = next := Option.some.inj (foundReached.symm.trans foundNext)
  refine ⟨attempt, found, ?_⟩
  clear foundReached foundNext found
  induction advances with
  | refl => exact absurd after before
  | tail earlier advance ih =>
      rename_i middle last
      by_cases dispatched : middle.state = .dispatched
      · exact ih dispatched
      · exact reserved_of_advances earlier (advance.reserved_of_dispatched dispatched after)

theorem Consumes.spent {store : MemoryStore} {step : AttemptStep} {grantId : String}
    (indexed : AttemptsIndexed store) (consumes : Consumes store step grantId) :
    Spent (step.run store).2 grantId := by
  obtain ⟨input, result, operation, rfl, answer, outcome⟩ := consumes
  have effect := step.run_effect store
  have seen := indexed.seen step
  generalize step.run store = run at *
  rw [operation] at effect
  cases effect with
  | refused _ _ failed =>
      subst answer
      simp [AttemptAnswer.isSuccess, outcome] at failed
  | advanced => cases answer
  | dispatched _ attempt grant after moved =>
      rw [moved.moved]
      refine ⟨consumedGrant grant input.dispatchedAt, input.attemptId,
        dispatchedAttempt attempt input.dispatchedAt, ?_, ?_,
        moved.attempt_workspace.trans moved.grant_workspace.symm,
        moved.attempt_tool_call.trans moved.grant_tool_call.symm, ?_⟩
      · rw [← seen.grantKeyed _ _ moved.grant_found]
        exact KeyedTable.get?_set_self _ _ _
      · rw [← seen.keyed _ _ moved.attempt_found]
        exact KeyedTable.get?_set_self _ _ _
      · intro reserved
        cases reserved

theorem Spent.run {store : MemoryStore} {grantId : String} (indexed : AttemptsIndexed store)
    (spent : Spent store grantId) (steps : List AttemptStep)
    (not_created : ∀ step ∈ steps, ∀ record, step.operation = .createGrant record →
      record.id ≠ grantId) :
    Spent (runAttempts store steps) grantId := by
  induction steps generalizing store with
  | nil => exact spent
  | cons step rest ih =>
      obtain ⟨grant, attemptId, attempt, foundGrant, found, workspace, toolCall, left⟩ := spent
      have effect := step.run_effect store
      have seen := indexed.seen step
      obtain ⟨kept, foundKept, keptWorkspace, keptToolCall⟩ :=
        effect.grant_kept seen foundGrant (not_created step List.mem_cons_self)
      obtain ⟨next, foundNext, advances⟩ := effect.evolves seen attemptId attempt found
      obtain ⟨_, sameWorkspace, sameToolCall, _⟩ := sameReservation_of_advances advances
      refine ih (effect.indexed seen) ?_ (fun other member =>
        not_created other (List.mem_cons_of_mem _ member))
      refine ⟨kept, attemptId, next, foundKept, foundNext, ?_, ?_, ?_⟩
      · rw [← sameWorkspace, workspace, keptWorkspace]
      · rw [← sameToolCall, toolCall, keptToolCall]
      · exact fun reserved => left (reserved_of_advances advances reserved)

end

end ActionProxy
