import ActionProxy.Services.ExecutionTruth
import ActionProxy.Services.ReportOutcome
import ActionProxy.Storage.ExternalAtomicity

/-!
The stored records under one report. Every record that a report makes of a tool call
says the same result, whether the result is withheld in it or not, and a store in which
only such records are written does not take back what is released.
-/

namespace ActionProxy

open JsonText Interleaving MemoryStore Relation

/-! ### What a report makes of a tool call -/

/-- The result of a tool call with the reported outcome in it. -/
def ReportExecutionGrantOutcomeInput.resultFor (input : ReportExecutionGrantOutcomeInput)
    (toolCall : ToolCallRecord) : Option Json :=
  match input.succeededResult with
  | some outcome => some (resultWithOutcome toolCall.result outcome)
  | none => toolCall.result

/-- A record of a finished tool call: one that was authorized at first has the reported
result, another the result it had. -/
structure Tells (input : ReportExecutionGrantOutcomeInput) (first record : ToolCallRecord) :
    Prop where
  finished : record.status ≠ .authorized
  result : record.result =
    if first.status = .authorized then input.resultFor first else first.result

/-- A tool call as it was at first, or as the report makes it. -/
def StageOf (input : ReportExecutionGrantOutcomeInput) (first record : ToolCallRecord) : Prop :=
  record = first ∨ Tells input first record

theorem StageOf.tells {input : ReportExecutionGrantOutcomeInput} {first record : ToolCallRecord}
    (staged : StageOf input first record) (finished : record.status ≠ .authorized) :
    Tells input first record := by
  rcases staged with rfl | told
  · exact { finished := finished, result := (if_neg finished).symm }
  · exact told

theorem StageOf.eq_first {input : ReportExecutionGrantOutcomeInput} {first record : ToolCallRecord}
    (staged : StageOf input first record) (waiting : record.status = .authorized) :
    record = first :=
  staged.resolve_right fun told => told.finished waiting

theorem ToolCallRecord.finished_of_released {toolCall : ToolCallRecord}
    (released : toolCall.isReleased = true) : toolCall.status ≠ .authorized := by
  intro waiting
  rw [ToolCallRecord.isReleased, waiting] at released
  cases released

/-- How a stored tool call may change. -/
structure Settles (old new : ToolCallRecord) : Prop where
  finished : old.status ≠ .authorized → new.status ≠ .authorized
  released : old.isReleased = true → new.isReleased = true ∧ new.result = old.result

theorem Settles.refl (toolCall : ToolCallRecord) : Settles toolCall toolCall :=
  { finished := id
    released := fun released => ⟨released, rfl⟩ }

theorem Settles.of_steps {old new : ToolCallRecord} (steps : ReflTransGen Settles old new) :
    Settles old new := by
  induction steps with
  | refl => exact Settles.refl old
  | tail _ last ih =>
      refine ⟨fun finished => last.finished (ih.finished finished), ?_⟩
      intro released
      obtain ⟨stays, same⟩ := ih.released released
      obtain ⟨still, again⟩ := last.released stays
      exact ⟨still, again.trans same⟩

/-- No attempt comes to be dispatched. -/
def LeavesDispatch (old new : ExecutionAttemptRecordV1) : Prop :=
  new.state = .dispatched → old.state = .dispatched

theorem LeavesDispatch.of_steps {old new : ExecutionAttemptRecordV1}
    (steps : ReflTransGen LeavesDispatch old new) : LeavesDispatch old new := by
  induction steps with
  | refl => exact id
  | tail _ last ih => exact fun dispatched => ih (last dispatched)

/-! ### The store under one report -/

/-- Tool calls and attempts are stored under their own ids. -/
structure RecordsKeyed (store : MemoryStore) : Prop where
  toolCalls : ∀ key toolCall, store.toolCalls.get? key = some toolCall → toolCall.id = key
  attempts : ∀ key attempt, store.executionAttempts.get? key = some attempt → attempt.id = key

/-- Every stored tool call is at a stage of its first record. -/
structure StoreTells (input : ReportExecutionGrantOutcomeInput)
    (first : KeyedTable String ToolCallRecord) (store : MemoryStore) : Prop
    extends RecordsKeyed store where
  staged : ∀ key record, store.toolCalls.get? key = some record →
    ∃ earliest, first.get? key = some earliest ∧ StageOf input earliest record

structure StoreSettles (old new : MemoryStore) : Prop where
  toolCalls : old.toolCalls.Evolves Settles new.toolCalls
  attempts : old.executionAttempts.Evolves LeavesDispatch new.executionAttempts

theorem StoreSettles.refl (store : MemoryStore) : StoreSettles store store :=
  ⟨KeyedTable.Evolves.refl _ _, KeyedTable.Evolves.refl _ _⟩

theorem StoreSettles.trans {first second third : MemoryStore} (early : StoreSettles first second)
    (late : StoreSettles second third) : StoreSettles first third :=
  ⟨early.toolCalls.trans late.toolCalls, early.attempts.trans late.attempts⟩

/-- A step of the store that a report may make. -/
def Advances (input : ReportExecutionGrantOutcomeInput) (first : KeyedTable String ToolCallRecord)
    (old new : MemoryStore) : Prop :=
  StoreTells input first new ∧ StoreSettles old new

def MemoryStore.tables (store : MemoryStore) :
    KeyedTable String ToolCallRecord × KeyedTable String ExecutionAttemptRecordV1 :=
  (store.toolCalls, store.executionAttempts)

section

variable {input : ReportExecutionGrantOutcomeInput} {first : KeyedTable String ToolCallRecord}
  {store : MemoryStore}

theorem StoreTells.same_tables (tells : StoreTells input first store) {next : MemoryStore}
    (same : next.tables = store.tables) : Advances input first store next := by
  obtain ⟨toolCalls, attempts⟩ := Prod.mk.inj same
  refine ⟨⟨⟨?_, ?_⟩, ?_⟩, ⟨?_, ?_⟩⟩
  · rw [toolCalls]
    exact tells.toolCalls
  · rw [attempts]
    exact tells.attempts
  · rw [toolCalls]
    exact tells.staged
  · rw [toolCalls]
    exact KeyedTable.Evolves.refl _ _
  · rw [attempts]
    exact KeyedTable.Evolves.refl _ _

theorem Advances.refl (tells : StoreTells input first store) : Advances input first store store :=
  tells.same_tables rfl

theorem Advances.trans {middle last : MemoryStore} (early : Advances input first store middle)
    (late : Advances input first middle last) : Advances input first store last :=
  ⟨late.1, early.2.trans late.2⟩

/-- The record of a report is stored; one that is released is not replaced by one that is
not. -/
theorem StoreTells.write (tells : StoreTells input first store) (candidate : ToolCallRecord)
    {earliest : ToolCallRecord} (found : first.get? candidate.id = some earliest) (told : Tells input earliest candidate)
    (kept : ∀ stored, store.toolCalls.get? candidate.id = some stored →
      stored.isReleased = true → candidate.isReleased = true) :
    Advances input first store (store.updateToolCall candidate) := by
  have located : ∀ key record, (store.updateToolCall candidate).toolCalls.get? key = some record →
      key = candidate.id ∧ record = candidate ∨ store.toolCalls.get? key = some record := by
    intro key record listed
    change (store.toolCalls.set candidate.id candidate).get? key = some record at listed
    rw [KeyedTable.get?_set] at listed
    split at listed
    · rename_i same
      exact Or.inl ⟨same, (Option.some.inj listed).symm⟩
    · exact Or.inr listed
  refine ⟨⟨⟨?_, tells.attempts⟩, ?_⟩, ⟨?_, KeyedTable.Evolves.refl _ _⟩⟩
  · intro key record listed
    rcases located key record listed with ⟨rfl, rfl⟩ | earlier
    · rfl
    · exact tells.toolCalls key record earlier
  · intro key record listed
    rcases located key record listed with ⟨rfl, rfl⟩ | earlier
    · exact ⟨earliest, found, Or.inr told⟩
    · exact tells.staged key record earlier
  · change store.toolCalls.Evolves Settles (store.toolCalls.set candidate.id candidate)
    cases stored : store.toolCalls.get? candidate.id with
    | none => exact KeyedTable.evolves_set_new _ stored candidate
    | some record =>
        apply KeyedTable.evolves_set stored
        refine ⟨fun _ => told.finished, ?_⟩
        intro released
        refine ⟨kept record stored released, ?_⟩
        obtain ⟨other, foundOther, staged⟩ := tells.staged candidate.id record stored
        cases found.symm.trans foundOther
        rw [told.result, (staged.tells (ToolCallRecord.finished_of_released released)).result]

theorem StoreTells.setAttempt (tells : StoreTells input first store) {key : String}
    {current : ExecutionAttemptRecordV1} (next : ExecutionAttemptRecordV1)
    (found : store.executionAttempts.get? key = some current) (named : next.id = current.id)
    (leaves : LeavesDispatch current next) :
    Advances input first store (store.setExecutionAttempt next) := by
  have nextId : next.id = key := named.trans (tells.attempts key current found)
  refine ⟨⟨⟨tells.toolCalls, ?_⟩, tells.staged⟩, ⟨KeyedTable.Evolves.refl _ _, ?_⟩⟩
  · intro other attempt listed
    change (store.executionAttempts.set next.id next).get? other = some attempt at listed
    rw [KeyedTable.get?_set] at listed
    split at listed
    · rename_i same
      cases listed
      exact same.symm
    · exact tells.attempts other attempt listed
  · change store.executionAttempts.Evolves LeavesDispatch
      (store.executionAttempts.set next.id next)
    rw [nextId]
    exact KeyedTable.evolves_set found leaves

end

/-! ### The operations of the store -/

section

variable [Runtime] {input : ReportExecutionGrantOutcomeInput}
  {first : KeyedTable String ToolCallRecord} {store : MemoryStore}

omit [Runtime] in
theorem attemptStateForReport_finished (status : ReportedStatus) :
    (attemptStateForReport status).isTerminal = true ∧
      attemptStateForReport status ≠ .failedBeforeDispatch := by
  cases status <;> decide

theorem StoreTells.transition (tells : StoreTells input first store) (report : CheckedReport)
    (now : String) (attempt : ExecutionAttemptRecordV1) :
    let answer := store.transitionExecutionAttemptAtomically (outcomeTransition report now attempt)
    Advances input first store answer.2 ∧
      (answer.1.outcome = .transitioned → ∃ current,
        store.executionAttempts.get? attempt.id = some current ∧ current.state = .dispatched) := by
  rcases transition_cases store (outcomeTransition report now attempt) with
    ⟨same, kept⟩ | ⟨current, found, advance, moved⟩
  · refine ⟨?_, fun transitioned => absurd transitioned kept⟩
    rw [same]
    exact Advances.refl tells
  · have finished := attemptStateForReport_finished report.input.status
    have reached : (transitionedExecutionAttempt current
        (outcomeTransition report now attempt)).state =
          attemptStateForReport report.input.status := by
      unfold transitionedExecutionAttempt
      split
      · rename_i toDispatched
        exact toDispatched.symm
      · rfl
    have dispatched : current.state = .dispatched :=
      advance.dispatched_of_finished (reached ▸ finished.1) (reached ▸ finished.2)
    dsimp only
    rw [moved]
    exact ⟨tells.setAttempt _ found advance.same.1.symm fun _ => dispatched,
      fun _ => ⟨current, found, dispatched⟩⟩

omit [Runtime] in
theorem preparedAnswer_ok {attempt : ExecutionAttemptRecordV1} {result : ExternalResult}
    {recorded : RecordedOutcome} (answered : preparedAnswer attempt result = .ok recorded) :
    (result.outcome.isSuccess = true ∨ result.outcome = .replay) ∧
      result.toolCall = some recorded.toolCall := by
  unfold preparedAnswer at answered
  split at answered
  all_goals first
    | cases answered
    | skip
  all_goals
    rename_i outcome
    rw [outcome]
    split at answered
    · rename_i toolCall
      cases answered
      exact ⟨by decide, toolCall⟩
    · cases answered

theorem recording_bound {recording : AtomicKnownExternalExecutionOutcomeRecordingInput}
    {current : ExternalRecords}
    (bindings : knownExternalOutcomeRecordingBindingsMatch recording current = true) :
    current.attempt.toolCallId = recording.toolCall.id ∧
      current.toolCall.id = recording.toolCall.id := by
  simp only [knownExternalOutcomeRecordingBindingsMatch, Bool.and_eq_true, beq_iff_eq,
    and_assoc] at bindings
  obtain ⟨-, -, attemptToolCall, -, -, -, -, -, -, -, -, -, -, -, -, -, -, -, -, -, -, -, -, -, -,
    -, -, -, toolCallId, -⟩ := bindings
  exact ⟨attemptToolCall, toolCallId⟩

theorem adoption_bound {adoption : AtomicKnownExternalExecutionOutcomeAdoptionInput}
    {current : ExternalRecords} (bindings : adoptionBindingsMatch adoption current = true) :
    current.attempt.id = adoption.attemptId ∧ current.toolCall.id = adoption.toolCall.id ∧
      current.toolCall.status = .authorized := by
  simp only [adoptionBindingsMatch, Bool.and_eq_true, beq_iff_eq, and_assoc] at bindings
  obtain ⟨attemptId, -, -, -, -, -, -, -, -, -, -, -, -, -, -, -, -, -, -, -, toolCallId, waiting,
    -⟩ := bindings
  exact ⟨attemptId, toolCallId, waiting⟩

/-- What the store has answered of the tool call that a candidate was supplied for. -/
structure Answers (store : MemoryStore) (candidate answered : ToolCallRecord) : Prop where
  stored : store.toolCalls.get? candidate.id = some answered
  status : answered.status = candidate.status

theorem record_replays {recording : AtomicKnownExternalExecutionOutcomeRecordingInput}
    {result : ExternalResult}
    (answered : (store.recordKnownExternalExecutionOutcomeAtomically recording).1 = .ok result)
    (replay : result.outcome = .replay) :
    ∃ toolCall, result.toolCall = some toolCall ∧ Answers store recording.toolCall toolCall := by
  unfold recordKnownExternalExecutionOutcomeAtomically at answered
  split at answered
  · cases answered
  split at answered
  · cases answered
  split at answered
  · cases answered
    cases replay
  rename_i attempt attemptFound
  split at answered
  · cases answered
    cases replay
  split at answered
  · rename_i toolCall receipt grant toolCallFound receiptFound grantFound
    dsimp only at answered
    split at answered
    · cases answered
      cases replay
    split at answered
    · cases answered
      cases replay
    rename_i bindings
    split at answered
    · rename_i projected
      cases answered
      simp only [sameRecordedKnownExternalOutcomeProjection, sameTerminalToolCallProjection,
        Bool.and_eq_true, beq_iff_eq, and_assoc] at projected
      obtain ⟨-, -, -, status, -⟩ := projected
      have matched : knownExternalOutcomeRecordingBindingsMatch recording
          ⟨attempt, grant, receipt, toolCall⟩ = true := by simpa using bindings
      have bound := recording_bound matched
      refine ⟨toolCall, rfl, { stored := ?_, status := status }⟩
      rw [← bound.1]
      exact toolCallFound
    have disposed : knownExternalOutcomeRecordingConflictDisposition attempt ≠ .replay := by
      unfold knownExternalOutcomeRecordingConflictDisposition
      split
      · decide
      · split <;> decide
    split at answered
    · cases answered
      exact absurd replay disposed
    split at answered
    · cases answered
      exact absurd replay disposed
    · cases answered
      cases replay
  · cases answered
    cases replay

theorem adopt_replays {adoption : AtomicKnownExternalExecutionOutcomeAdoptionInput}
    {result : ExternalResult}
    (answered : (store.adoptKnownExternalExecutionOutcomeAtomically adoption).1 = .ok result)
    (replay : result.outcome = .replay) :
    ∃ toolCall, result.toolCall = some toolCall ∧ Answers store adoption.toolCall toolCall := by
  unfold adoptKnownExternalExecutionOutcomeAtomically at answered
  dsimp only at answered
  split at answered
  · cases answered
  split at answered
  · rename_i attempt toolCall receipt grant attemptFound toolCallFound receiptFound grantFound
    split at answered
    · rename_i disposition state
      cases answered
      change disposition = .replay at replay
      rw [replay] at state
      unfold externalOutcomeAdoptionState at state
      split at state
      · cases state
      · split at state
        · cases state
        · split at state <;> cases state
    split at answered
    · rename_i projected
      cases answered
      simp only [sameKnownExternalOutcomeProjection, sameTerminalToolCallProjection,
        Bool.and_eq_true, beq_iff_eq, and_assoc] at projected
      obtain ⟨-, status, -⟩ := projected
      exact ⟨toolCall, rfl, { stored := toolCallFound, status := status }⟩
    split at answered
    · cases answered
    · cases answered
      cases replay
    · split at answered
      · cases answered
        cases replay
      · cases answered
        cases replay
  · cases answered
    cases replay

/-- A step of the store for a candidate, and what it answers. -/
structure Performs (input : ReportExecutionGrantOutcomeInput)
    (first : KeyedTable String ToolCallRecord) (store : MemoryStore) (candidate : ToolCallRecord)
    (attempt : ExecutionAttemptRecordV1)
    (answer : Except String ExternalResult × MemoryStore) : Prop where
  advances : Advances input first store answer.2
  answers : ∀ result recorded, answer.1 = .ok result → preparedAnswer attempt result = .ok recorded →
    Answers answer.2 candidate recorded.toolCall

omit [Runtime] in
theorem StoreTells.complete (tells : StoreTells input first store) {candidate earliest : ToolCallRecord}
    {current : ToolCallRecord} (stored : store.toolCalls.get? candidate.id = some current)
    (waiting : current.status = .authorized) (found : first.get? candidate.id = some earliest)
    (told : Tells input earliest candidate) :
    Advances input first store (store.updateToolCall candidate) := by
  apply tells.write candidate found told
  intro other foundOther released
  cases stored.symm.trans foundOther
  exact absurd waiting (ToolCallRecord.finished_of_released released)

theorem StoreTells.record (tells : StoreTells input first store)
    (recording : AtomicKnownExternalExecutionOutcomeRecordingInput) {earliest : ToolCallRecord}
    (attempt : ExecutionAttemptRecordV1)
    (found : first.get? recording.toolCall.id = some earliest)
    (told : ∀ stored, store.toolCalls.get? recording.toolCall.id = some stored →
      stored.status = .authorized → Tells input earliest recording.toolCall) :
    Performs input first store recording.toolCall attempt
      (store.recordKnownExternalExecutionOutcomeAtomically recording) := by
  rcases record_cases store recording with ⟨current, records⟩ | ⟨refused, same⟩
  · have bound := recording_bound records.bindings
    have stored : store.toolCalls.get? recording.toolCall.id = some current.toolCall := by
      rw [← bound.1]
      exact records.toolCall_found
    have waiting : current.toolCall.status = .authorized := by
      have matched := records.matched
      simp only [knownExternalOutcomeRecordingMatchesCurrent, Bool.and_eq_true,
        beq_iff_eq] at matched
      exact matched.1.2
    rw [records.run]
    constructor
    · obtain ⟨kept, settles⟩ := tells.setAttempt
        (completedAttempt current.attempt recording.attemptOutcome) records.attempt_found rfl
        fun _ => records.dispatched
      have written := kept.complete stored waiting found (told _ stored waiting)
      exact Advances.trans ⟨kept, settles⟩ (Advances.trans written (written.1.same_tables rfl))
    · intro result recorded answered prepared
      cases answered
      obtain ⟨-, named⟩ := preparedAnswer_ok prepared
      rw [← Option.some.inj named]
      exact { stored := KeyedTable.get?_set_self _ _ _, status := rfl }
  · constructor
    · rw [same]
      exact Advances.refl tells
    · intro result recorded answered prepared
      obtain ⟨outcome, named⟩ := preparedAnswer_ok prepared
      rcases outcome with success | replay
      · exact absurd ⟨result, answered, success⟩ refused
      · obtain ⟨toolCall, supplied, answers⟩ := record_replays answered replay
        cases named.symm.trans supplied
        rw [same]
        exact answers

theorem StoreTells.adopt (tells : StoreTells input first store)
    (adoption : AtomicKnownExternalExecutionOutcomeAdoptionInput) {earliest : ToolCallRecord}
    (attempt : ExecutionAttemptRecordV1)
    (found : first.get? adoption.toolCall.id = some earliest)
    (told : ∀ stored, store.toolCalls.get? adoption.toolCall.id = some stored →
      stored.status = .authorized → Tells input earliest adoption.toolCall) :
    Performs input first store adoption.toolCall attempt
      (store.adoptKnownExternalExecutionOutcomeAtomically adoption) := by
  rcases adopt_cases store adoption with ⟨current, adopts⟩ | ⟨refused, same⟩
  · have stored := adopts.toolCall_found
    have waiting := (adoption_bound (adoption_matched adopts.matched).1).2.2
    have supplied : (adoptedRecords adoption current).toolCall = adoption.toolCall := if_pos waiting
    rw [adopts.run]
    constructor
    · have written := tells.complete stored waiting found (told _ stored waiting)
      apply Advances.trans written
      apply written.1.same_tables
      dsimp only
      rw [supplied]
      rfl
    · intro result recorded answered prepared
      cases answered
      obtain ⟨-, named⟩ := preparedAnswer_ok prepared
      rw [← Option.some.inj named]
      change Answers (store.adopt _ (adoptedRecords adoption current).toolCall) adoption.toolCall
        (adoptedRecords adoption current).toolCall
      rw [supplied]
      exact { stored := KeyedTable.get?_set_self _ _ _, status := rfl }
  · constructor
    · rw [same]
      exact Advances.refl tells
    · intro result recorded answered prepared
      obtain ⟨outcome, named⟩ := preparedAnswer_ok prepared
      rcases outcome with success | replay
      · exact absurd ⟨result, answered, success⟩ refused
      · obtain ⟨toolCall, supplied, answers⟩ := adopt_replays answered replay
        cases named.symm.trans supplied
        rw [same]
        exact answers

end

end ActionProxy
