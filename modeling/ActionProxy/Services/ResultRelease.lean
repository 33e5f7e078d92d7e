import ActionProxy.Services.ReportedStore

/-!
A released result under repeated reports. Between any two steps of a report others may
run; what is released stays released unless a call stores its terminal record, with the
exposure of the result required, after the release.
-/

namespace ActionProxy

open JsonText Interleaving MemoryStore Relation

/-! ### Calls that keep what is released -/

def ReportingServer.store (state : ReportingServer) : MemoryStore := state.calls.server.store

/-- What every step of a report keeps, and how it may change the stored records. -/
def reportContract (input : ReportExecutionGrantOutcomeInput)
    (first : KeyedTable String ToolCallRecord) : Contract ReportingServer :=
  { inv := fun state => StoreTells input first state.store
    guar := fun state now => StoreSettles state.store now.store
    refl := fun state => StoreSettles.refl state.store
    trans := StoreSettles.trans }

/-- No terminal record was stored, its exposure required, over a released one. -/
def NotOvertaken (_ next : ReportingServer) : Prop := next.overtaken = false

instance (now next : ReportingServer) : Decidable (NotOvertaken now next) :=
  inferInstanceAs (Decidable (next.overtaken = false))

variable {α β : Type}

/-- While no released result is overtaken, the call keeps the contract and ends as
promised of the store. -/
def Ends (input : ReportExecutionGrantOutcomeInput) (first : KeyedTable String ToolCallRecord)
    (post : α → MemoryStore → Prop) (prog : ReportCall α) (state : ReportingServer) : Prop :=
  Safe (reportContract input first) NotOvertaken (fun value now => post value now.store)
    (fun _ _ => True) prog state

abbrev tablesOf (state : LocalServer) :
    KeyedTable String ToolCallRecord × KeyedTable String ExecutionAttemptRecordV1 :=
  state.server.store.tables

/-- The call changes no tool call and no attempt. -/
abbrev LeavesTables (prog : LocalCall α) : Prop := Ownership.Quiet tablesOf prog

section

variable {input : ReportExecutionGrantOutcomeInput} {first : KeyedTable String ToolCallRecord}
  {state : ReportingServer}

theorem Ends.bind {post : α → MemoryStore → Prop} {ends : β → MemoryStore → Prop}
    {prog : ReportCall α} {next : α → ReportCall β}
    (tells : StoreTells input first state.store) (before : Ends input first post prog state)
    (after : ∀ value now, StoreTells input first now.store →
      StoreSettles state.store now.store → post value now.store →
        Ends input first ends (next value) now) :
    Ends input first ends (prog >>= next) state := by
  apply Safe.bind tells
  apply Safe.mono (Safe.since (StoreSettles.refl state.store) before)
  · rintro value now kept ⟨settles, holds⟩
    exact after value now kept settles holds
  · exact fun _ _ _ _ => trivial

theorem Ends.mono {post weaker : α → MemoryStore → Prop} {prog : ReportCall α}
    (ends : Ends input first post prog state)
    (weakens : ∀ value now, StoreTells input first now → post value now → weaker value now) :
    Ends input first weaker prog state := by
  apply Safe.mono ends
  · exact fun value now tells holds => weakens value now.store tells holds
  · exact fun _ _ _ _ => trivial

theorem ends_pure {post : α → MemoryStore → Prop} {value : α}
    (holds : ∀ now, StoreSettles state.store now → post value now) :
    Ends input first post (pure value) state :=
  fun now settles _ => holds now.store settles

theorem ends_throw {post : α → MemoryStore → Prop} (error : GateError) :
    Ends input first post (.throw error) state :=
  fun _ _ _ => trivial

theorem ends_check (failure : Option GateError) :
    Ends input first (fun _ _ => failure = none) (ReportCall.check failure) state := by
  cases failure with
  | none => exact ends_pure fun _ _ => rfl
  | some error => exact ends_throw error

theorem ends_ofExcept (answer : Except GateError α) :
    Ends input first (fun value _ => answer = .ok value) (Prog.ofExcept answer) state := by
  cases answer with
  | ok value => exact ends_pure fun _ _ => rfl
  | error error => exact ends_throw error

theorem ends_quiet {prog : LocalCall α} (quiet : LeavesTables prog) :
    Ends input first (fun _ _ => True) (ReportCall.call prog) state := by
  have untouched : Ownership.Quiet (fun state : ReportingServer => state.store.tables)
      (ReportCall.call prog) :=
    quiet.within fun _ _ same => same
  exact untouched.safe fun now after same tells => tells.same_tables same

/-- The value is what the operation has answered at a moment since the store was `since`. -/
def AnsweredSince (input : ReportExecutionGrantOutcomeInput)
    (first : KeyedTable String ToolCallRecord) (since : MemoryStore)
    (operation : Instant → MemoryStore → α × MemoryStore) (value : α) (now : MemoryStore) : Prop :=
  ∃ clock before, StoreTells input first before ∧ StoreSettles since before ∧
    value = (operation clock before).1 ∧ StoreSettles (operation clock before).2 now

theorem ends_onStore {operation : Instant → MemoryStore → α × MemoryStore}
    (advances : ∀ clock store, StoreTells input first store → StoreSettles state.store store →
      Advances input first store (operation clock store).2) :
    Ends input first (AnsweredSince input first state.store operation)
      (ReportCall.call (LocalCall.onStore operation)) state := by
  intro now settles tells _
  change StoreTells input first (LocalCall.askStore operation now.calls).2.server.store ∧
    StoreSettles now.store (LocalCall.askStore operation now.calls).2.server.store ∧
      Ends input first (AnsweredSince input first state.store operation)
        (ReportCall.call (Prog.ofExcept (LocalCall.askStore operation now.calls).1))
        (ReportingServer.setCalls (LocalCall.askStore operation now.calls).2 now)
  obtain ⟨kept, moved⟩ := advances now.calls.server.clock now.store tells settles
  rcases askStore_cases operation now.calls with answered | ⟨error, refused | lost⟩
  · rw [answered]
    refine ⟨kept, moved, ?_⟩
    intro later onward _
    exact ⟨now.calls.server.clock, now.store, tells, settles, rfl, onward⟩
  · rw [refused]
    exact ⟨tells, StoreSettles.refl _, fun _ _ _ => trivial⟩
  · rw [lost]
    exact ⟨kept, moved, fun _ _ _ => trivial⟩

theorem ends_readStore (view : MemoryStore → α) :
    Ends input first
      (fun value now => ∃ before, StoreTells input first before ∧
        StoreSettles state.store before ∧ value = view before ∧ StoreSettles before now)
      (ReportCall.readStore view) state := by
  apply Ends.mono (ends_onStore fun _ store tells _ => Advances.refl tells)
  rintro value now _ ⟨_, before, tells, settles, rfl, onward⟩
  exact ⟨before, tells, settles, rfl, onward⟩

end

theorem leavesTables_of_evidence {prog : LocalCall α}
    (quiet : Ownership.Quiet LocalServer.evidence prog) : LeavesTables prog :=
  quiet.map fun evidence => evidence.1.tables

theorem leavesTables_onStore {operation : Instant → MemoryStore → α × MemoryStore}
    (same : ∀ clock store, (operation clock store).2.tables = store.tables) :
    LeavesTables (LocalCall.onStore operation) := by
  apply Ownership.Quiet.bind
  · apply Ownership.Quiet.call
    intro state
    rcases askStore_cases operation state with answered | ⟨error, refused | lost⟩
    · rw [answered]
      exact same state.server.clock state.server.store
    · rw [refused]
    · rw [lost]
      exact same state.server.clock state.server.store
  · intro ended
    cases ended <;> trivial

/-! ### What a call knows of its records -/

/-- What a call has read of its tool call, and what may have become of it. -/
structure Snapshot (input : ReportExecutionGrantOutcomeInput)
    (first : KeyedTable String ToolCallRecord) (key : String) (toolCall : ToolCallRecord)
    (store : MemoryStore) : Prop where
  staged : ∃ earliest, first.get? key = some earliest ∧ StageOf input earliest toolCall
  followed : ∃ stored, store.toolCalls.get? key = some stored ∧ Settles toolCall stored

/-- The attempt a call has read is stored and, unless it was dispatched, is not so now. -/
def ReadAttempt (attempt : ExecutionAttemptRecordV1) (store : MemoryStore) : Prop :=
  ∃ stored, store.executionAttempts.get? attempt.id = some stored ∧ LeavesDispatch attempt stored

section

variable {input : ReportExecutionGrantOutcomeInput} {first : KeyedTable String ToolCallRecord}
  {state : ReportingServer}

theorem StoreSettles.toolCall {store now : MemoryStore} (settles : StoreSettles store now)
    {key : String} {toolCall : ToolCallRecord} (found : store.toolCalls.get? key = some toolCall) :
    ∃ later, now.toolCalls.get? key = some later ∧ Settles toolCall later := by
  obtain ⟨later, listed, steps⟩ := settles.toolCalls key toolCall found
  exact ⟨later, listed, Settles.of_steps steps⟩

theorem StoreSettles.attempt {store now : MemoryStore} (settles : StoreSettles store now)
    {key : String} {attempt : ExecutionAttemptRecordV1}
    (found : store.executionAttempts.get? key = some attempt) :
    ∃ later, now.executionAttempts.get? key = some later ∧ LeavesDispatch attempt later := by
  obtain ⟨later, listed, steps⟩ := settles.attempts key attempt found
  exact ⟨later, listed, LeavesDispatch.of_steps steps⟩

theorem Snapshot.later {key : String} {toolCall : ToolCallRecord} {store now : MemoryStore}
    (snapshot : Snapshot input first key toolCall store) (settles : StoreSettles store now) :
    Snapshot input first key toolCall now := by
  obtain ⟨stored, found, before⟩ := snapshot.followed
  obtain ⟨later, listed, after⟩ := settles.toolCall found
  exact { staged := snapshot.staged
          followed := ⟨later, listed,
            Settles.of_steps ((ReflTransGen.single before).tail after)⟩ }

theorem ReadAttempt.later {attempt : ExecutionAttemptRecordV1} {store now : MemoryStore}
    (read : ReadAttempt attempt store) (settles : StoreSettles store now) :
    ReadAttempt attempt now := by
  obtain ⟨stored, found, before⟩ := read
  obtain ⟨later, listed, after⟩ := settles.attempt found
  exact ⟨later, listed, fun dispatched => before (after dispatched)⟩

theorem Snapshot.waiting {key : String} {toolCall stored : ToolCallRecord} {store : MemoryStore}
    (snapshot : Snapshot input first key toolCall store)
    (found : store.toolCalls.get? key = some stored) (waiting : stored.status = .authorized) :
    toolCall.status = .authorized := by
  obtain ⟨other, foundOther, settles⟩ := snapshot.followed
  cases found.symm.trans foundOther
  by_contra finished
  exact settles.finished finished waiting

/-! ### Reading -/

theorem ends_readReportedGrant [Runtime] (service : ReportService) (grantId : String)
    (auth : AuthContext) (tells : StoreTells input first state.store) :
    Ends input first (fun _ _ => True) (readReportedGrant service grantId auth) state := by
  apply Ends.bind tells (ends_readStore _)
  intro found now still _ _
  cases found with
  | none => exact ends_throw _
  | some grant =>
      apply Ends.bind still (ends_check _)
      intro _ _ _ _ _
      exact ends_pure fun _ _ => trivial

theorem ends_readReportedToolCall (service : ReportService) (auth : AuthContext)
    (grant : ExecutionGrantRecord) (tells : StoreTells input first state.store) :
    Ends input first (Snapshot input first grant.toolCallId)
      (readReportedToolCall service auth grant) state := by
  apply Ends.bind tells (ends_readStore _)
  rintro found now still _ ⟨before, told, _, rfl, onward⟩
  split
  · exact ends_throw _
  · rename_i toolCall found
    have snapshot : Snapshot input first grant.toolCallId toolCall now.store :=
      { staged := told.staged _ _ found
        followed := onward.toolCall found }
    apply Ends.bind still (ends_check _)
    intro _ later _ settles _
    exact ends_pure fun after onward => (snapshot.later settles).later onward

theorem ends_readReportedAttempt [Runtime] (grant : ExecutionGrantRecord)
    (tells : StoreTells input first state.store) :
    Ends input first ReadAttempt (readReportedAttempt grant) state := by
  apply Ends.bind tells (ends_readStore _)
  rintro found now still _ ⟨before, told, _, rfl, onward⟩
  split
  · rename_i attempt listed
    obtain ⟨key, _, found⟩ := Option.bind_eq_some_iff.mp listed
    have read : ReadAttempt attempt now.store := by
      rw [← told.attempts key attempt found] at found
      exact onward.attempt found
    split
    · exact ends_pure fun after onward => read.later onward
    · exact ends_throw _
  · exact ends_throw _

theorem ends_readReportedReceipt [Runtime] (service : ReportService) (grant : ExecutionGrantRecord)
    (tells : StoreTells input first state.store) :
    Ends input first (fun _ _ => True) (readReportedReceipt service grant) state := by
  unfold readReportedReceipt
  split
  · exact ends_pure fun _ _ => trivial
  · apply Ends.bind tells (ends_readStore _)
    intro receipt now still _ _
    apply Ends.bind still (ends_check _)
    intro _ _ _ _ _
    exact ends_pure fun _ _ => trivial

/-! ### Recording -/

/-- What the checks of a report leave known of it and of the records it was checked
against. -/
structure Admitted (input : ReportExecutionGrantOutcomeInput)
    (first : KeyedTable String ToolCallRecord) (report : CheckedReport) (records : ReportedRecords)
    (store : MemoryStore) : Prop where
  status : report.input.status = input.status
  result : report.input.result = input.result
  toolCall : Snapshot input first records.toolCall.id records.toolCall store
  attempt : ReadAttempt records.attempt store
  terminal : records.toolCall.status ≠ .authorized →
    records.toolCall.status = .executed ∨ records.toolCall.status = .failed
  dispatched : records.attempt.state = .dispatched → records.toolCall.status = .authorized

/-- A record that a call may release. -/
structure Deliverable (input : ReportExecutionGrantOutcomeInput)
    (first : KeyedTable String ToolCallRecord) (toolCall : ToolCallRecord) : Prop where
  terminal : toolCall.status = .executed ∨ toolCall.status = .failed
  told : ∃ earliest, first.get? toolCall.id = some earliest ∧ Tells input earliest toolCall

section

variable {report : CheckedReport} {records : ReportedRecords} {store : MemoryStore}

theorem Admitted.later {now : MemoryStore} (admitted : Admitted input first report records store)
    (settles : StoreSettles store now) : Admitted input first report records now :=
  { admitted with
    toolCall := admitted.toolCall.later settles
    attempt := admitted.attempt.later settles }

theorem terminalToolCall_terminal (report : CheckedReport) (toolCall : ToolCallRecord)
    (now : String) : (report.terminalToolCall toolCall now).status = .executed ∨
      (report.terminalToolCall toolCall now).status = .failed := by
  unfold CheckedReport.terminalToolCall
  dsimp only
  split
  · exact Or.inl rfl
  · exact Or.inr rfl

theorem ToolCallRecord.finished_of_terminal {toolCall : ToolCallRecord}
    (terminal : toolCall.status = .executed ∨ toolCall.status = .failed) :
    toolCall.status ≠ .authorized := by
  rcases terminal with executed | failed
  · rw [executed]
    decide
  · rw [failed]
    decide

theorem Admitted.terminal_tells (admitted : Admitted input first report records store)
    (waiting : records.toolCall.status = .authorized) (now : String) :
    ∃ earliest, first.get? records.toolCall.id = some earliest ∧
      Tells input earliest (report.terminalToolCall records.toolCall now) := by
  obtain ⟨earliest, found, staged⟩ := admitted.toolCall.staged
  have same := staged.eq_first waiting
  refine ⟨earliest, found, ?_⟩
  constructor
  · exact ToolCallRecord.finished_of_terminal (terminalToolCall_terminal report _ now)
  · have succeeded : report.input.succeededResult = input.succeededResult := by
      unfold ReportExecutionGrantOutcomeInput.succeededResult
      rw [admitted.status, admitted.result]
    rw [← same, if_pos waiting]
    unfold CheckedReport.terminalToolCall ReportExecutionGrantOutcomeInput.resultFor
    rewrite [succeeded]
    rfl

/-- The terminal record stands for whatever authorized tool call it is stored over. -/
theorem Admitted.candidate (admitted : Admitted input first report records store) (now : String) :
    ∃ earliest, first.get? (report.terminalToolCall records.toolCall now).id = some earliest ∧
      ∀ stored, store.toolCalls.get? (report.terminalToolCall records.toolCall now).id =
        some stored → stored.status = .authorized →
          Tells input earliest (report.terminalToolCall records.toolCall now) := by
  obtain ⟨earliest, found, _⟩ := admitted.toolCall.staged
  refine ⟨earliest, found, ?_⟩
  intro stored listed waiting
  obtain ⟨other, foundOther, told⟩ :=
    admitted.terminal_tells (admitted.toolCall.waiting listed waiting) now
  cases found.symm.trans foundOther
  exact told

theorem Answers.deliverable {candidate answered : ToolCallRecord}
    (answers : Answers store candidate answered) (tells : StoreTells input first store)
    (terminal : candidate.status = .executed ∨ candidate.status = .failed) :
    Deliverable input first answered := by
  rw [← answers.status] at terminal
  obtain ⟨earliest, found, staged⟩ := tells.staged _ _ answers.stored
  refine ⟨terminal, earliest, ?_, staged.tells (ToolCallRecord.finished_of_terminal terminal)⟩
  rw [tells.toolCalls _ _ answers.stored]
  exact found

variable [Runtime]

theorem ends_recordPreparedOutcome (auth : AuthContext) (now : String)
    (tells : StoreTells input first state.store)
    (admitted : Admitted input first report records state.store) :
    Ends input first (fun recorded _ => Deliverable input first recorded.toolCall)
      (recordPreparedOutcome report auth now records) state := by
  unfold recordPreparedOutcome
  split
  · exact ends_throw _
  rename_i receipt _
  have performs : ∀ store, StoreTells input first store → StoreSettles state.store store →
      Performs input first store (report.terminalToolCall records.toolCall now) records.attempt
        (if records.attempt.state = .dispatched then
          store.recordKnownExternalExecutionOutcomeAtomically
            (report.recordingInput auth now records)
        else
          store.adoptKnownExternalExecutionOutcomeAtomically
            (report.adoptionInput auth now records receipt)) := by
    intro store told settles
    obtain ⟨earliest, found, candidate⟩ := (admitted.later settles).candidate now
    split
    · exact told.record (report.recordingInput auth now records) records.attempt found candidate
    · exact told.adopt (report.adoptionInput auth now records receipt) records.attempt found
        candidate
  apply Ends.bind tells
    (ends_onStore fun _ store told settles => (performs store told settles).advances)
  rintro recording later still _ ⟨_, before, told, settles, rfl, onward⟩
  have performed := performs before told settles
  split
  · exact ends_throw _
  · rename_i result answered
    apply Ends.mono (ends_ofExcept _)
    intro recorded _ _ prepared
    have answers := performed.answers result recorded answered (ok_of_mapError prepared)
    exact answers.deliverable performed.advances.1 (terminalToolCall_terminal report _ now)

omit [Runtime] in
theorem ends_storeTerminal {snapshot : ToolCallRecord} (now : String)
    (told : ∃ earliest, first.get? snapshot.id = some earliest ∧
      Tells input earliest (report.terminalToolCall snapshot now)) :
    Ends input first (fun _ _ => True) (Prog.call (storeTerminal report snapshot now)) state := by
  intro before _ tells allowed
  obtain ⟨earliest, found, told⟩ := told
  have kept : ∀ stored, before.store.toolCalls.get? (report.terminalToolCall snapshot now).id =
      some stored → stored.isReleased = true →
        (report.terminalToolCall snapshot now).isReleased = true := by
    intro stored listed released
    have withheld : requiresContentExposureBeforeDelivery snapshot report.resultDelivery =
        false := by
      change (before.overtaken ||
        (requiresContentExposureBeforeDelivery snapshot report.resultDelivery &&
          (before.store.toolCalls.get? (report.terminalToolCall snapshot now).id).any
            ToolCallRecord.isReleased)) = false at allowed
      rw [listed, Option.any_some, released, Bool.and_true, Bool.or_eq_false_iff] at allowed
      exact allowed.2
    have terminal := terminalToolCall_terminal report snapshot now
    have released : (report.terminalToolCall snapshot now).resultWithheld = some false :=
      congrArg some withheld
    rw [ToolCallRecord.isReleased, released]
    simpa using terminal
  obtain ⟨still, moved⟩ := tells.write (report.terminalToolCall snapshot now) found told kept
  change StoreTells input first (LocalCall.askStore _ before.calls).2.server.store ∧
    StoreSettles before.store (LocalCall.askStore _ before.calls).2.server.store ∧ _
  rcases askStore_cases (fun _ store =>
      ((), store.updateToolCall (report.terminalToolCall snapshot now))) before.calls with
    answered | ⟨error, refused | lost⟩
  · rw [answered]
    exact ⟨still, moved, fun _ _ _ => trivial⟩
  · rw [refused]
    exact ⟨tells, StoreSettles.refl _, fun _ _ _ => trivial⟩
  · rw [lost]
    exact ⟨still, moved, fun _ _ _ => trivial⟩

/-- Only a call that has read its attempt as dispatched makes the transition itself. -/
theorem ends_transitionToReport (now : String) (tells : StoreTells input first state.store)
    (admitted : Admitted input first report records state.store) :
    Ends input first
      (fun transition _ => transition.replay = false → records.attempt.state = .dispatched)
      (transitionToReport report now records.attempt) state := by
  apply Ends.bind tells
    (ends_onStore fun _ store told _ => (told.transition report now records.attempt).1)
  rintro transition later still _ ⟨_, before, told, settles, rfl, onward⟩
  have moved := (told.transition report now records.attempt).2
  split
  · exact ends_throw _
  · exact ends_throw _
  · exact ends_throw _
  · apply Ends.bind still (ends_readStore _)
    intro current _ _ _ _
    split
    · exact ends_throw _
    · exact ends_pure fun _ _ impossible => nomatch impossible
  · rename_i transitioned
    split
    · exact ends_throw _
    · refine ends_pure fun _ _ _ => ?_
      obtain ⟨current, found, dispatched⟩ := moved transitioned
      obtain ⟨stored, listed, leaves⟩ := (admitted.later settles).attempt
      cases found.symm.trans listed
      exact leaves dispatched
  · split
    · exact ends_throw _
    · exact ends_pure fun _ _ impossible => nomatch impossible
  · exact ends_throw _

theorem ends_recordReportedReceipt (auth : AuthContext) (now : String)
    (receipt : Option ActionReceiptRecord) (tells : StoreTells input first state.store) :
    Ends input first (fun _ _ => True) (recordReportedReceipt report auth now receipt) state := by
  unfold recordReportedReceipt
  split
  · exact ends_pure fun _ _ => trivial
  · have untouched : ∀ receiptId (outcome : ActionReceiptOutcome) (store : MemoryStore),
        (store.recordActionReceiptOutcomeAtomically receiptId outcome).2.tables =
          store.tables := by
      intro receiptId outcome store
      unfold recordActionReceiptOutcomeAtomically
      split
      · rfl
      · split <;> rfl
    apply Ends.bind tells (ends_quiet (leavesTables_onStore fun _ store => untouched _ _ store))
    intro written now still _ _
    split
    · exact ends_throw _
    · split
      · exact ends_throw _
      · exact ends_pure fun _ _ => trivial

theorem ends_recordTransitionedOutcome (auth : AuthContext) (now : String)
    (tells : StoreTells input first state.store)
    (admitted : Admitted input first report records state.store) :
    Ends input first (fun recorded _ => Deliverable input first recorded.toolCall)
      (recordTransitionedOutcome report auth now records) state := by
  apply Ends.bind tells (ends_transitionToReport now tells admitted)
  intro transition later still settles transitioned
  apply Ends.bind still (ends_recordReportedReceipt auth now records.receipt still)
  intro receipt last kept onward _
  split
  · rename_i replayed
    have finished : records.toolCall.status ≠ .authorized := by
      simpa using (Bool.and_eq_true_iff.mp replayed).2
    refine ends_pure fun _ _ => ⟨admitted.terminal finished, ?_⟩
    obtain ⟨earliest, found, staged⟩ := admitted.toolCall.staged
    exact ⟨earliest, found, staged.tells finished⟩
  · rename_i first_to_record
    have waiting : records.toolCall.status = .authorized := by
      cases replay : transition.replay with
      | false => exact admitted.dispatched (transitioned replay)
      | true =>
          rw [replay] at first_to_record
          simpa using first_to_record
    have told := admitted.terminal_tells waiting now
    apply Ends.bind kept (ends_storeTerminal now told)
    intro stored _ held _ _
    apply Ends.bind held (ends_ofExcept stored)
    intro _ _ _ _ _
    exact ends_pure fun _ _ =>
      { terminal := terminalToolCall_terminal report records.toolCall now
        told := told }

/-! ### The release -/

omit [Runtime] in
theorem call_bind (prog : LocalCall α) (next : α → LocalCall β) :
    ReportCall.call (prog >>= next) =
      ReportCall.call prog >>= fun value => ReportCall.call (next value) :=
  Prog.within_bind _ _ prog next

theorem leavesTables_recordContentExposure (auth : AuthContext) (toolCall : ToolCallRecord)
    (delivery : Option ResultDeliveryMetadataV1) :
    LeavesTables (recordContentExposureBeforeDelivery auth toolCall delivery) := by
  have untouched : ∀ (record : ContentExposureRecord) (store : MemoryStore),
      (store.recordContentExposure record).2.tables = store.tables := by
    intro record store
    unfold MemoryStore.recordContentExposure
    dsimp only
    split <;> rfl
  unfold recordContentExposureBeforeDelivery
  split
  · trivial
  split
  · trivial
  apply Ownership.Quiet.bind (leavesTables_of_evidence quiet_now)
  intro now
  apply Ownership.Quiet.bind (leavesTables_of_evidence (quiet_gate (quiet_read Server.policy)))
  intro policy
  apply Ownership.Quiet.bind (leavesTables_onStore fun _ store => untouched _ store)
  intro outcome
  split
  · trivial
  · exact leavesTables_of_evidence (quiet_audit _)

theorem ends_releaseReported (auth : AuthContext) {toolCall : ToolCallRecord}
    (delivery : Option ResultDeliveryMetadataV1) (tells : StoreTells input first state.store)
    (deliverable : Deliverable input first toolCall) :
    Ends input first (fun _ _ => True) (ReportCall.call (releaseReported auth toolCall delivery))
      state := by
  unfold releaseReported
  rw [call_bind]
  apply Ends.bind tells (ends_quiet (leavesTables_recordContentExposure auth toolCall delivery))
  intro _ _ still _ _
  rw [call_bind]
  apply Ends.bind still (ends_quiet (leavesTables_of_evidence quiet_now))
  intro now _ kept _ _
  rw [call_bind]
  obtain ⟨earliest, found, told⟩ := deliverable.told
  let delivered : ToolCallRecord :=
    { toolCall with resultWithheld := some false, updatedAt := now.text }
  have same : Tells input earliest delivered :=
    { finished := told.finished
      result := told.result }
  have released : delivered.isReleased = true := by
    simpa [delivered, ToolCallRecord.isReleased] using deliverable.terminal
  apply Ends.bind kept
    (ends_onStore fun _ _ now _ => now.write delivered found same fun _ _ _ => released)
  intro _ _ _ _ _
  exact ends_pure fun _ _ => trivial

theorem ends_deliverReported (auth : AuthContext) (exposureRequired : Bool)
    {toolCall : ToolCallRecord} (tells : StoreTells input first state.store)
    (deliverable : Deliverable input first toolCall) :
    Ends input first (fun _ _ => True) (deliverReported report auth exposureRequired toolCall)
      state := by
  unfold deliverReported
  split
  · rw [ReportCall.call, Prog.within_handle]
    apply Safe.handle tells
    apply Safe.mono (ends_releaseReported auth report.resultDelivery tells deliverable)
    · exact fun _ _ _ _ => trivial
    · intro error now _ _
      apply ends_quiet
      exact (leavesTables_of_evidence (quiet_auditBestEffort _)).bind fun _ => trivial
  · exact ends_pure fun _ _ => trivial

/-! ### The call -/

theorem ends_recordReportedOutcome (auth : AuthContext) (now : String)
    (tells : StoreTells input first state.store)
    (admitted : Admitted input first report records state.store) :
    Ends input first (fun recorded _ => Deliverable input first recorded.toolCall)
      (recordReportedOutcome report auth now records) state := by
  unfold recordReportedOutcome
  split
  · exact ends_recordPreparedOutcome auth now tells admitted
  · exact ends_recordTransitionedOutcome auth now tells admitted

theorem ends_recordAndDeliver (auth : AuthContext) (tells : StoreTells input first state.store)
    (admitted : Admitted input first report records state.store) :
    Ends input first (fun _ _ => True) (recordAndDeliver report auth records) state := by
  have audited : ∀ (type : String) (state : ReportingServer), Ends input first (fun _ _ => True)
      (ReportCall.call (LocalCall.auditBestEffort type)) state :=
    fun type _ => ends_quiet (leavesTables_of_evidence (quiet_auditBestEffort type))
  apply Ends.bind tells (ends_quiet (leavesTables_of_evidence quiet_now))
  intro clock _ still settles _
  apply Ends.bind still (ends_recordReportedOutcome auth _ still (admitted.later settles))
  intro recorded _ kept _ deliverable
  apply Ends.bind kept (ends_deliverReported auth _ kept deliverable)
  intro delivered _ held _ _
  apply Ends.bind held (audited _ _)
  intro _ _ held _ _
  apply Ends.bind held (audited _ _)
  intro _ _ held _ _
  apply Ends.bind held (audited _ _)
  intro _ _ _ _ _
  exact ends_pure fun _ _ => trivial

theorem ends_reportOutcome (service : ReportService) (grantId : String) (auth : AuthContext)
    (continuation : OutcomeContinuation) (tells : StoreTells input first state.store) :
    Ends input first (fun _ _ => True) (reportOutcome service grantId input auth continuation)
      state := by
  apply Ends.bind tells (ends_readReportedGrant service grantId auth tells)
  intro grant _ tells _ _
  apply Ends.bind tells (ends_readReportedToolCall service auth grant tells)
  intro toolCall _ tells _ snapshot
  apply Ends.bind tells (ends_readReportedAttempt grant tells)
  intro attempt _ tells settles read
  replace snapshot := snapshot.later settles
  apply Ends.bind tells (ends_check _)
  intro _ _ tells settles _
  replace snapshot := snapshot.later settles
  replace read := read.later settles
  apply Ends.bind tells (ends_check _)
  intro _ _ tells settles matched
  replace snapshot := snapshot.later settles
  replace read := read.later settles
  apply Ends.bind tells (ends_ofExcept _)
  intro report _ tells settles checked
  replace snapshot := snapshot.later settles
  replace read := read.later settles
  apply Ends.bind tells (ends_readReportedReceipt service grant tells)
  intro receipt _ tells settles _
  replace snapshot := snapshot.later settles
  replace read := read.later settles
  apply Ends.bind tells (ends_check _)
  intro _ _ tells settles _
  obtain ⟨_, named, status, _⟩ := currentToolCall_matched (Option.map_eq_none_iff.mp matched)
  have kept := checkReport_ok (ok_of_mapError checked)
  rw [← named] at snapshot
  exact ends_recordAndDeliver auth tells
    { status := kept.1
      result := kept.2
      toolCall := snapshot.later settles
      attempt := read.later settles
      terminal := fun finished => (status.resolve_left finished).2
      dispatched := by
        intro dispatched
        rcases status with waiting | ⟨recovery, _⟩
        · exact waiting
        · rw [dispatched] at recovery
          cases recovery }

end

end

/-! ### Whole runs -/

section

variable [Runtime]

/-- Identical reports on one grant, and changes of what is neither a tool call nor an
attempt beside them. -/
def reporting (service : ReportService) (grantId : String)
    (input : ReportExecutionGrantOutcomeInput) (auth : AuthContext) :
    System ReportingServer GateError RecordedOutcome :=
  { starts := fun prog => ∃ continuation,
      prog = reportOutcome service grantId input auth continuation
    environment := fun change => ∀ state,
      (change state).store.tables = state.store.tables ∧
        (change state).overtaken = state.overtaken }

/-- In every run of identical reports in which no terminal record, its exposure required,
is stored over a released one, a released result stays released and stays the same. -/
theorem released_result_stays {service : ReportService} {grantId : String}
    {input : ReportExecutionGrantOutcomeInput} {auth : AuthContext}
    {first world last : World ReportingServer GateError RecordedOutcome}
    (none_started : first.threads = []) (keyed : RecordsKeyed first.state.store)
    (reached : Reaches (reporting service grantId input auth) NotOvertaken first world)
    (onward : Reaches (reporting service grantId input auth) NotOvertaken world last)
    {key : String} {toolCall : ToolCallRecord}
    (stored : world.state.store.toolCalls.get? key = some toolCall)
    (released : toolCall.isReleased = true) :
    ∃ later, last.state.store.toolCalls.get? key = some later ∧ later.isReleased = true ∧
      later.result = toolCall.result := by
  let contract := reportContract input first.state.store.toolCalls
  have initial : contract.inv first.state :=
    { keyed with
      staged := fun key record listed => ⟨record, listed, Or.inl rfl⟩ }
  have starts : ∀ prog, (reporting service grantId input auth).starts prog →
      ∀ state, contract.inv state →
        Safe contract NotOvertaken (fun _ _ => True) (fun _ _ => True) prog state := by
    rintro prog ⟨continuation, rfl⟩ state tells
    exact ends_reportOutcome service grantId auth continuation tells
  have environment : ∀ change, (reporting service grantId input auth).environment change →
      ∀ state, contract.inv state → NotOvertaken state (change state) →
        contract.inv (change state) ∧ contract.guar state (change state) :=
    fun change leaves state tells _ => tells.same_tables (leaves state).1
  have threads : ∀ prog ∈ first.threads,
      Safe contract NotOvertaken (fun _ _ => True) (fun _ _ => True) prog first.state := by
    intro prog member
    rw [none_started] at member
    cases member
  obtain ⟨tells, safe⟩ := reached.safe starts environment initial threads
  have settles : StoreSettles world.state.store last.state.store :=
    onward.guar starts environment tells safe
  obtain ⟨later, listed, changed⟩ := settles.toolCall stored
  exact ⟨later, listed, changed.released released⟩

end

/-! ### A release that is overtaken -/

section

variable [Runtime]

/-! A search of classified content, authorized and dispatched. -/

def wrapperAuth : AuthContext :=
  { principalId := "wrapper"
    principalType := .serviceAccount
    displayName := "Wrapper"
    email := none
    groups := []
    scopes := []
    authProvider := .apiKey
    clientId := none
    workspaceId := "default" }

def searchScope : String :=
  "influence_0000000000000000000000000000000000000000000000000000000000000000"

def searchEvidence : Json :=
  .obj [("session", some (.obj [("present", some (.bool true)),
      ("provenance", some (.obj [("source", some (.str "actionproxy.verified-mcp-influence-scope")),
        ("trust", some (.str "derived"))])),
      ("value", some (.obj [("sessionId", some (.str searchScope))]))])),
    ("source", some (.obj [("value", some (.obj [("adapterId", some (.str "mcp-stdio:files")),
      ("type", some (.str "mcp"))]))])),
    ("sourceProtocol", some (.obj [("value", some (.str "mcp"))])),
    ("tenant", some (.obj [("value", some (.obj [("id", some (.str "default"))]))]))]

def searchEnvelope : ActionEnvelope :=
  let envelope : ActionEnvelope :=
    { envelopeHash := ""
      executionMode := .externalGrant
      input := []
      inputHash := hashJson (.obj [])
      preparedAction := none
      body := [("protocol", some (.str "mcp")),
        ("source", some (.obj [("id", some (.str "mcp-stdio:files")), ("type", some (.str "mcp"))])),
        ("toolName", some (.str "search"))] }
  { envelope with envelopeHash := hashJson envelope.withoutHash }

def searchCall : ToolCallRecord :=
  { id := "toolcall_1"
    workspaceId := some "default"
    toolName := "search"
    input := []
    inputHash := some (hashJson (.obj []))
    actionEnvelope := some searchEnvelope
    actionEnvelopeHash := some searchEnvelope.envelopeHash
    canonicalActionRequestHash := none
    canonicalActionRequestVersion := none
    canonicalDecisionInputHash := none
    canonicalPolicyContext := none
    contentInfluence := none
    influenceScopeId := some searchScope
    requestedBy := "wrapper"
    requestedByAuth := some wrapperAuth
    agentId := "agent"
    reason := "search"
    metadata := []
    status := .authorized
    decision := some .allow
    authorizationDecision := some .allow
    authorizationReason := none
    decisionTrace := some [("canonicalRequestEvidence", some searchEvidence)]
    policyReason := none
    policyVersionId := none
    policyVersionHash := some "policy"
    resultDelivery := none
    resultSource := some (.obj [("integrity", some (.str "public_untrusted"))])
    resultWithheld := some true
    risk := none
    result := none
    error := none
    createdAt := "2026-07-10T10:00:00.000Z"
    updatedAt := "2026-07-10T10:00:00.000Z" }

def searchGrant : ExecutionGrantRecord :=
  let grant : ExecutionGrantRecord :=
    { id := "grant_1"
      workspaceId := "default"
      toolCallId := "toolcall_1"
      toolName := "search"
      inputHash := hashJson (.obj [])
      approvedEnvelopeHash := some searchEnvelope.envelopeHash
      approvedInputHash := some (hashJson (.obj []))
      policyVersionHash := some "policy"
      receiptHash := none
      receiptId := none
      actor := "wrapper"
      auth := some wrapperAuth
      expiresAt := "2026-07-10T11:00:00.000Z"
      nonce := "nonce"
      signature := ""
      consumedAt := some "2026-07-10T10:01:00.000Z"
      createdAt := "2026-07-10T10:00:00.000Z" }
  { grant with signature := signGrant "secret" grant }

def searchAttempt : ExecutionAttemptRecordV1 :=
  { attemptNumber := 1
    binding :=
      { actionEnvelopeHash := some searchEnvelope.envelopeHash
        approvalAuthorizationHash := none
        approvalAuthorizationNonce := none
        approvalId := none
        canonicalActionRequestHash := none
        canonicalActionRequestVersion := none
        canonicalDecisionInputHash := none
        contentInfluenceBindingHash := none
        decisionId := none
        decisionVersion := none
        influenceScopeId := some searchScope
        policyVersionHash := some "policy"
        receiptHash := none
        receiptId := none
        resultSourceHash := some (hashOrNull searchCall.resultSource) }
    completedAt := none
    dispatchedAt := some "2026-07-10T10:01:00.000Z"
    executionMode := .externalGrant
    executorId := externalExecutorId
    grantId := some "grant_1"
    id := "attempt_1"
    inputHash := hashJson (.obj [])
    outcome := none
    providerIdempotency := "none"
    reservedAt := "2026-07-10T10:00:00.000Z"
    reservationOwner := "server"
    retryPolicy := "never_automatic"
    state := .dispatched
    toolCallId := "toolcall_1"
    updatedAt := "2026-07-10T10:01:00.000Z"
    version := "actionproxy.execution-attempt.v1"
    workspaceId := "default" }

def searchServer : ReportingServer :=
  { calls :=
      { server :=
          { store :=
              { toolCalls := KeyedTable.empty.set "toolcall_1" searchCall
                contentExposureScopes := .empty
                approvals := .empty
                executionGrants := KeyedTable.empty.set "grant_1" searchGrant
                executionAttempts := KeyedTable.empty.set "attempt_1" searchAttempt
                executionAttemptByToolCall :=
                  KeyedTable.empty.set ("default", "toolcall_1") "attempt_1"
                actionReceipts := .empty }
            idempotency := .empty
            policy :=
              { policy :=
                  { version := JsonNumber.ofInt 1
                    default := PolicyRule.plain .never
                    tools := .empty }
                replacements := 0 }
            clock := { millis := 0, shown := epoch_shown }
            auditReady := true
            audits := []
            drawn := 0
            dispatches := [] }
        storeMood := .answers
        invocations := [] }
    overtaken := false }

private def searchResult : JsonObject := [("text", some (.str "found"))]

private def searchReport : ReportExecutionGrantOutcomeInput :=
  { error := none
    remediation := none
    result := some searchResult
    resultDelivery := some
      { byteCount := 16
        canonicalResultHash := hashCanonicalJson (.obj searchResult)
        modelVisible := true
        version := "actionproxy.result-delivery.v1" }
    status := .succeeded }

def searchService : ReportService :=
  { secret := "secret"
    preparedNativeWriteRequired := fun _ => false
    nativeExecutionAuthorizations := false }

def searchContinuation : OutcomeContinuation :=
  { nativeExecutionAuthorization := none
    wrapperSessionId := some "session" }

def searchRecords : ReportedRecords :=
  { grant := searchGrant
    toolCall := searchCall
    attempt := searchAttempt
    receipt := none }

private def searchChecked : CheckedReport :=
  { input := searchReport
    resultDelivery := searchReport.resultDelivery }

def searchBinding : InfluenceScopeBinding :=
  { adapterId := "mcp-stdio:files"
    principalId := "wrapper"
    transport := "stdio"
    transportSessionId := "session"
    workspaceId := "default" }

theorem search_read : ReadFrom searchServer.store "grant_1" searchRecords :=
  { grant := rfl
    toolCall := rfl
    attempt := rfl
    receipt := rfl }

theorem search_passes (scope : deriveInfluenceScopeId searchBinding = .ok searchScope)
    {input : ReportExecutionGrantOutcomeInput} {report : CheckedReport}
    (checked : checkReport (classifiedMcpOutcome searchContinuation searchCall) input =
      .ok report) :
    PassesChecks searchService input wrapperAuth searchContinuation searchRecords report := by
  constructor
  · have signed : ¬ searchRecords.grant.signature ≠
        signGrant searchService.secret searchRecords.grant := not_not.mpr rfl
    exact if_neg signed
  · rfl
  · simp [attemptMatchesGrant, searchRecords, searchAttempt, searchGrant, externalExecutorId]
  · have adapter : mcpAdapterFailure searchCall wrapperAuth (some "session") =
        Except.casesOn (motive := fun _ => Option ServiceError)
          (deriveInfluenceScopeId searchBinding) (fun message => some (.other message))
          (fun expectedScopeId =>
            if searchScope ≠ expectedScopeId then
              some (.forbidden "MCP execution grant belongs to another verified influence scope.")
            else none) := rfl
    show (mcpAdapterFailure searchCall wrapperAuth (some "session")).map GateError.service = none
    rw [adapter, scope]
    rfl
  · have decided : grantDecisionIdentity searchCall = none := rfl
    show currentToolCallMismatch searchCall searchAttempt searchGrant false = none
    have hashed : searchCall.hashOfInput = hashJson (.obj []) := rfl
    have enveloped : searchEnvelope.envelopeHash = hashJson searchEnvelope.withoutHash := rfl
    have unbound : validContentInfluenceBindingHash searchCall.contentInfluence = none := rfl
    have classified : (requiresMcpResultDelivery searchCall && searchCall.status == .authorized &&
      searchCall.resultWithheld != some true) = false := rfl
    have untraced :
        searchCall.decisionTrace.bind (fun trace => member? trace "decisionV1") = none := rfl
    have named : envelopeMember searchCall "toolName" = some "search" := rfl
    have bound : searchAttempt.binding.resultSourceHash =
      some (hashOrNull searchCall.resultSource) := rfl
    unfold currentToolCallMismatch
    simp only [Option.orElse_eq_orElse, Option.orElse_eq_or, Option.or_eq_none_iff]
    refine ⟨?_, ?_, ?_⟩
    · rw [classified, hashed]
      exact firstFailure_eq_none_iff.mpr (by simp [searchCall, searchGrant, searchAttempt,
        statusMismatch, ToolCallRecord.workspace])
    · show firstFailure _ = none
      rw [named, hashed, enveloped]
      exact firstFailure_eq_none_iff.mpr (by simp [searchCall, searchEnvelope])
    · rw [untraced, decided, unbound, bound]
      exact firstFailure_eq_none_iff.mpr (by simp [searchCall, searchAttempt])
  · exact checked
  · intro named
    cases named
  · rfl

private theorem found_checked :
    checkReport (classifiedMcpOutcome searchContinuation searchCall) searchReport =
      .ok searchChecked := by
  have measured : (canonicalJsonStringify (.obj searchResult)).utf8ByteSize = 16 := by
    decide +kernel
  have delivered : validateResultDelivery searchReport = .ok searchReport.resultDelivery := by
    have exactly : ¬ (16 ≠ (canonicalJsonStringify (.obj searchResult)).utf8ByteSize ∨
        hashCanonicalJson (.obj searchResult) ≠ hashCanonicalJson (.obj searchResult)) := by
      simp [measured]
    exact if_neg exactly
  exact checkReport_succeeded rfl delivered rfl

private theorem search_keyed : RecordsKeyed searchServer.store :=
  { toolCalls := by
      intro key toolCall listed
      change (KeyedTable.empty.set "toolcall_1" searchCall).get? key = some toolCall at listed
      rw [KeyedTable.get?_set] at listed
      split at listed
      · rename_i same
        cases listed
        exact same.symm
      · cases listed
    attempts := by
      intro key attempt listed
      change (KeyedTable.empty.set "attempt_1" searchAttempt).get? key = some attempt at listed
      rw [KeyedTable.get?_set] at listed
      split at listed
      · rename_i same
        cases listed
        exact same.symm
      · cases listed }

/-- Two reports at the point where both have read what they report on. -/
private def searchesRead : World ReportingServer GateError RecordedOutcome :=
  { state := searchServer
    threads := List.replicate 2 (recordAndDeliver searchChecked wrapperAuth searchRecords) }

private theorem search_reaches {permitted : ReportingServer → ReportingServer → Prop}
    (kept : permitted searchServer searchServer)
    (scope : deriveInfluenceScopeId searchBinding = .ok searchScope) :
    Reaches (reporting searchService "grant_1" searchReport wrapperAuth) permitted
      { state := searchServer, threads := [] } searchesRead := by
  let report := reportOutcome searchService "grant_1" searchReport wrapperAuth searchContinuation
  have reads := reportOutcome_reads search_read (search_passes scope found_checked)
  have started : Reaches (reporting searchService "grant_1" searchReport wrapperAuth) permitted
      { state := searchServer, threads := [] } { state := searchServer, threads := [report] } :=
    Reaches.refl.step (.start report) ⟨searchContinuation, rfl⟩ kept
  have both := (reads.reaches 0 started kept rfl rfl).step (.start report)
    ⟨searchContinuation, rfl⟩ kept
  exact reads.reaches 1 both kept rfl rfl

end

/-- The scope of the search with its digest. -/
def searchDigest : String × String :=
  ("\x7b\"adapterId\":\"mcp-stdio:files\",\"principalId\":\"wrapper\"," ++
      "\"protocol\":\"mcp\",\"transport\":\"stdio\"," ++
      "\"transportSessionId\":\"session\"," ++
      "\"version\":\"actionproxy.influence-scope.v1\",\"workspaceId\":\"default\"\x7d",
    "0000000000000000000000000000000000000000000000000000000000000000")

private abbrev scopeRuntime : Runtime := sampleRuntime [searchDigest]

private theorem search_scope : @deriveInfluenceScopeId scopeRuntime searchBinding =
    .ok searchScope := by
  decide +kernel

/-- The first report comes to its release. -/
private def releasing : List (Choice ReportingServer GateError RecordedOutcome) :=
  List.replicate 9 (.advance 0)

private def tick (state : ReportingServer) : ReportingServer :=
  state.setCalls (state.calls.setServer
    (state.calls.server.setClock { millis := 1, shown := by decide }))

/-- Time passes, and the second report comes to its terminal record. -/
private def overtaking : List (Choice ReportingServer GateError RecordedOutcome) :=
  .environment tick :: List.replicate 4 (.advance 1)

private theorem advances_offered [Runtime] (count thread : Nat) :
    ∀ choice ∈ List.replicate count (.advance thread),
      (reporting searchService "grant_1" searchReport wrapperAuth).Offers choice := by
  intro choice listed
  rw [List.eq_of_mem_replicate listed]
  trivial

/-- Two reports read the authorized tool call; one releases the result, and the other
then stores its terminal record, with the result withheld. -/
theorem released_result_withheld_again : ∃ world last released withheld,
    Reaches (@reporting scopeRuntime searchService "grant_1" (@searchReport scopeRuntime)
      wrapperAuth) Unrestricted { state := @searchServer scopeRuntime, threads := [] } world ∧
    Reaches (@reporting scopeRuntime searchService "grant_1" (@searchReport scopeRuntime)
      wrapperAuth) Unrestricted world last ∧
    world.state.store.toolCalls.get? "toolcall_1" = some released ∧
    released.isReleased = true ∧
    last.state.store.toolCalls.get? "toolcall_1" = some withheld ∧
    withheld.resultWithheld = some true := by
  let _ := scopeRuntime
  have first : ((searchesRead.run releasing).state.store.toolCalls.get? "toolcall_1").any
      ToolCallRecord.isReleased = true := by
    decide +kernel
  have second : (((searchesRead.run releasing).run overtaking).state.store.toolCalls.get?
      "toolcall_1").any (fun toolCall => toolCall.resultWithheld == some true) = true := by
    decide +kernel
  obtain ⟨released, stored, isReleased⟩ := Option.any_eq_true _ _ |>.mp first
  obtain ⟨withheld, restored, isWithheld⟩ := Option.any_eq_true _ _ |>.mp second
  refine ⟨_, _, released, withheld, ?_, ?_, stored, isReleased, restored, by simpa using isWithheld⟩
  · exact reaches_run (search_reaches trivial search_scope) (advances_offered 9 0)
      (World.meets_unrestricted _ _)
  · apply reaches_run Reaches.refl _ (World.meets_unrestricted _ _)
    intro choice listed
    rcases List.mem_cons.mp listed with rfl | advanced
    · exact fun _ => ⟨rfl, rfl⟩
    · exact advances_offered 4 1 choice advanced

/-- While the first report ends, what it has released stays. -/
theorem released_result_stays_search :
    (((@searchesRead scopeRuntime).run (releasing ++ List.replicate 6 (.advance 0))
      ).state.store.toolCalls.get? "toolcall_1").any ToolCallRecord.isReleased = true := by
  let _ := scopeRuntime
  have first : ((searchesRead.run releasing).state.store.toolCalls.get? "toolcall_1").any
      ToolCallRecord.isReleased = true := by
    decide +kernel
  have before : searchesRead.Meets NotOvertaken releasing := by
    decide +kernel
  have after : (searchesRead.run releasing).Meets NotOvertaken
      (List.replicate 6 (.advance 0)) := by
    decide +kernel
  obtain ⟨released, stored, isReleased⟩ := Option.any_eq_true _ _ |>.mp first
  obtain ⟨later, listed, stays, _⟩ := released_result_stays rfl search_keyed
    (reaches_run (@search_reaches _ NotOvertaken rfl search_scope) (advances_offered 9 0) before)
    (reaches_run Reaches.refl (advances_offered 6 0) after) stored isReleased
  have same : searchesRead.run (releasing ++ List.replicate 6 (.advance 0)) =
      (searchesRead.run releasing).run (List.replicate 6 (.advance 0)) :=
    List.foldl_append
  rw [same]
  exact (congrArg (Option.any ToolCallRecord.isReleased) listed).trans stays

end ActionProxy
