import ActionProxy.Foundation.Ownership
import ActionProxy.Services.ToolExecution
import ActionProxy.Storage.AttemptTransitions

/-!
What the stored attempts say of the executors that were invoked. A call holds the
identifier it drew for its attempt, so that between two of its steps the attempt and
the invocations for it stay as the call left them.
-/

namespace ActionProxy

open JsonText Interleaving MemoryStore Relation

section

variable [Runtime] [RandomSource]

/-! ### Attempts and invocations -/

/-- The attempt for the `number`-th identifier drawn. -/
def attemptId (number : Nat) : String := attemptName (RandomSource.randomUUID number)

omit [Runtime] in
theorem attemptId_injective {first second : Nat} (same : attemptId first = attemptId second) :
    first = second := by
  apply RandomSource.distinct
  rw [← String.toList_inj]
  have texts := congrArg String.toList same
  simp only [attemptId, attemptName, String.toList_append] at texts
  exact List.append_cancel_left texts

def LocalServer.attempt? (state : LocalServer) (id : String) : Option ExecutionAttemptRecordV1 :=
  state.server.store.executionAttempts.get? id

def LocalServer.invocationsOf (state : LocalServer) (id : String) : List Invocation :=
  state.invocations.filter (fun invocation => invocation.attemptId == id)

/-- The execution was fulfilled with a result of the hash. -/
def FulfilledWith (hash : Option String) (execution : Execution) : Prop :=
  ∃ returned text, execution = .resolves returned ∧ returned.resultHash = .ok text ∧
    hash = some text

/-- What an attempt in a state says of the executors invoked for it. -/
def Told (invoked : List Invocation) (state : ExecutionAttemptState) (hash : Option String) :
    Prop :=
  match state with
  | .reserved => invoked = []
  | .failedBeforeDispatch => invoked = []
  | .succeeded => ∃ invocation ∈ invoked, FulfilledWith hash invocation.execution
  | _ => True

def ExecutionAttemptRecordV1.resultHash (attempt : ExecutionAttemptRecordV1) : Option String :=
  attempt.outcome.bind ExecutionAttemptOutcomeV1.resultHash

/-- An attempt of the tool call is stored as succeeded. -/
def AttemptSucceeded (workspaceId toolCallId : String) (state : LocalServer) : Prop :=
  ∃ id attempt, state.attempt? id = some attempt ∧ attempt.workspaceId = workspaceId ∧
    attempt.toolCallId = toolCallId ∧ attempt.state = .succeeded

/-- An invocation was for a stored attempt, dispatched when it happened. -/
def TrulyLogged (state : LocalServer) (invocation : Invocation) : Prop :=
  invocation.stored.map ExecutionAttemptRecordV1.state = some .dispatched ∧
    ∃ attempt, state.attempt? invocation.attemptId = some attempt ∧
      attempt.workspaceId = invocation.workspaceId ∧ attempt.toolCallId = invocation.toolCallId

/-- What holds of the store and the invocations at every moment. -/
structure Honest (state : LocalServer) : Prop where
  indexed : AttemptsIndexed state.server.store
  drawn : ∀ id attempt, state.attempt? id = some attempt →
    ∃ number, number < state.server.drawn ∧ id = attemptId number
  logged : ∀ invocation ∈ state.invocations, TrulyLogged state invocation
  once : ∀ id, (state.invocationsOf id).length ≤ 1
  told : ∀ id attempt, state.attempt? id = some attempt →
    Told (state.invocationsOf id) attempt.state attempt.resultHash
  executed : ∀ key toolCall, state.server.store.toolCalls.get? key = some toolCall →
    toolCall.status = .executed → AttemptSucceeded toolCall.workspace toolCall.id state

omit [Runtime] [RandomSource] in
theorem TrulyLogged.later {state next : LocalServer} {invocation : Invocation}
    (logged : TrulyLogged state invocation)
    (evolved : KeyedTable.Evolves AttemptAdvance state.server.store.executionAttempts
      next.server.store.executionAttempts) : TrulyLogged next invocation := by
  obtain ⟨dispatched, attempt, found, workspace, toolCall⟩ := logged
  obtain ⟨now, foundNow, advances⟩ := evolved _ _ found
  obtain ⟨_, sameWorkspace, sameToolCall, _⟩ := sameReservation_of_advances advances
  exact ⟨dispatched, now, foundNow, sameWorkspace ▸ workspace, sameToolCall ▸ toolCall⟩

omit [Runtime] [RandomSource] in
theorem AttemptSucceeded.later {state next : LocalServer} {workspaceId toolCallId : String}
    (succeeded : AttemptSucceeded workspaceId toolCallId state)
    (evolved : KeyedTable.Evolves AttemptAdvance state.server.store.executionAttempts
      next.server.store.executionAttempts) : AttemptSucceeded workspaceId toolCallId next := by
  obtain ⟨id, attempt, found, workspace, toolCall, ended⟩ := succeeded
  obtain ⟨now, foundNow, advances⟩ := evolved _ _ found
  have terminal : attempt.state.isTerminal = true := by
    rw [ended]
    rfl
  rw [eq_of_advances_terminal advances terminal] at foundNow
  exact ⟨id, attempt, foundNow, workspace, toolCall, ended⟩

/-! ### Steps -/

/-- The state changes: attempts advance, and identifiers are drawn. -/
structure Grows (before after : LocalServer) : Prop where
  drawn : before.server.drawn ≤ after.server.drawn
  attempts : KeyedTable.Evolves AttemptAdvance before.server.store.executionAttempts
    after.server.store.executionAttempts

/-- The attempt of an identifier and the invocations for it are as they were. -/
structure SameEvidence (number : Nat) (before after : LocalServer) : Prop where
  attempt : after.attempt? (attemptId number) = before.attempt? (attemptId number)
  invocations : after.invocationsOf (attemptId number) = before.invocationsOf (attemptId number)

/-- A call holds the identifiers it drew. -/
def identifiers : Ownership LocalServer Nat where
  inv := Honest
  guar := Grows
  refl _ := { drawn := Nat.le_refl _, attempts := KeyedTable.Evolves.refl _ _ }
  trans one other :=
    { drawn := Nat.le_trans one.drawn other.drawn
      attempts := one.attempts.trans other.attempts }
  free state number := state.server.drawn ≤ number
  spent grows unused := Nat.le_trans grows.drawn unused
  respects := SameEvidence
  respects_refl _ _ := { attempt := rfl, invocations := rfl }
  respects_trans one other :=
    { attempt := other.attempt.trans one.attempt
      invocations := other.invocations.trans one.invocations }

/-- All that the stored attempts and invocations are read from. -/
def LocalServer.evidence (state : LocalServer) : MemoryStore × Nat × List Invocation :=
  (state.server.store, state.server.drawn, state.invocations)

theorem identifiers_speaksOf_evidence :
    Ownership.SpeaksOf identifiers LocalServer.evidence := by
  intro now next same honest
  obtain ⟨server, mood, invocations⟩ := now
  obtain ⟨nextServer, nextMood, nextInvocations⟩ := next
  simp only [LocalServer.evidence, Prod.mk.injEq] at same
  obtain ⟨store, drawn, rfl⟩ := same
  have attempts (id : String) : LocalServer.attempt? ⟨nextServer, nextMood, nextInvocations⟩ id =
      LocalServer.attempt? ⟨server, mood, nextInvocations⟩ id := by
    simp only [LocalServer.attempt?, store]
  refine ⟨?_, ?_, ?_⟩
  · exact
      { indexed := store ▸ honest.indexed
        drawn := fun id attempt found => drawn ▸ honest.drawn id attempt (attempts id ▸ found)
        logged := fun invocation listed => (honest.logged invocation listed).later
          (by rw [store]; exact KeyedTable.Evolves.refl _ _)
        once := honest.once
        told := fun id attempt found => honest.told id attempt (attempts id ▸ found)
        executed := fun key toolCall found ended =>
          (honest.executed key toolCall (store ▸ found) ended).later
            (by rw [store]; exact KeyedTable.Evolves.refl _ _) }
  · exact
      { drawn := le_of_eq drawn.symm
        attempts := by rw [store]; exact KeyedTable.Evolves.refl _ _ }
  · intro number
    exact { attempt := attempts _, invocations := rfl }

/-! ### What a step may do -/

omit [Runtime] [RandomSource] in
theorem attempt?_set (state : LocalServer) (attempt : ExecutionAttemptRecordV1) (id : String) :
    (state.setStore (state.server.store.setExecutionAttempt attempt)).attempt? id =
      if id = attempt.id then some attempt else state.attempt? id :=
  KeyedTable.get?_set _ _ _ _

omit [Runtime] [RandomSource] in
theorem attempt?_add (state : LocalServer) (attempt : ExecutionAttemptRecordV1) (id : String) :
    (state.setStore (state.server.store.addExecutionAttempt attempt)).attempt? id =
      if id = attempt.id then some attempt else state.attempt? id :=
  KeyedTable.get?_set _ _ _ _

theorem moves_attempt {held : Nat → Prop} {now : LocalServer} {store : MemoryStore}
    {attempt : ExecutionAttemptRecordV1} {number : Nat} (honest : Honest now)
    (mine : held number) (named : attempt.id = attemptId number)
    (used : number < now.server.drawn) (indexed : AttemptsIndexed store)
    (changed : ∀ id, (now.setStore store).attempt? id =
      if id = attempt.id then some attempt else now.attempt? id)
    (evolved : KeyedTable.Evolves AttemptAdvance now.server.store.executionAttempts
      store.executionAttempts)
    (toolCalls : store.toolCalls = now.server.store.toolCalls)
    (told : Told (now.invocationsOf attempt.id) attempt.state attempt.resultHash) :
    identifiers.Moves held held now (now.setStore store) where
  inv :=
    { indexed := indexed
      drawn := by
        intro id stored found
        rw [changed] at found
        split at found
        · rename_i same
          exact ⟨number, used, same.trans named⟩
        · exact honest.drawn id stored found
      logged := fun invocation listed => (honest.logged invocation listed).later evolved
      once := honest.once
      told := by
        intro id stored found
        rw [changed] at found
        split at found
        · rename_i same
          cases found
          rw [same]
          exact told
        · exact honest.told id stored found
      executed := by
        intro key toolCall found ended
        rw [show (now.setStore store).server.store.toolCalls = _ from toolCalls] at found
        exact (honest.executed key toolCall found ended).later evolved }
  guar := { drawn := Nat.le_refl _, attempts := evolved }
  others := by
    intro other notMine _
    refine { attempt := ?_, invocations := rfl }
    rw [changed, if_neg]
    intro same
    rw [named] at same
    exact notMine (attemptId_injective same ▸ mine)
  taken := fun _ => Or.inl

theorem moves_advance {held : Nat → Prop} {now : LocalServer} {number : Nat}
    {current next : ExecutionAttemptRecordV1} (honest : Honest now) (mine : held number)
    (found : now.attempt? (attemptId number) = some current) (advance : AttemptAdvance current next)
    (told : Told (now.invocationsOf (attemptId number)) next.state next.resultHash) :
    identifiers.Moves held held now
      (now.setStore (now.server.store.setExecutionAttempt next)) := by
  have named : next.id = attemptId number :=
    advance.same.1.symm.trans (honest.indexed.keyed _ _ found)
  obtain ⟨drawn, used, same⟩ := honest.drawn _ _ found
  obtain rfl := attemptId_injective same
  exact moves_attempt honest mine named used (honest.indexed.advance found advance)
    (attempt?_set now next) (evolves_setExecutionAttempt honest.indexed found advance) rfl
    (named ▸ told)

omit [RandomSource] in
theorem Honest.not_invoked [RandomSource] {state : LocalServer} (honest : Honest state) {id : String}
    (absent : state.attempt? id = none) : state.invocationsOf id = [] := by
  apply List.filter_eq_nil_iff.mpr
  intro invocation listed same
  obtain ⟨_, attempt, found, _⟩ := honest.logged invocation listed
  rw [beq_iff_eq.mp same, absent] at found
  cases found

theorem moves_reserve {held : Nat → Prop} {now : LocalServer} {number : Nat}
    {record : ExecutionAttemptRecordV1} (honest : Honest now) (mine : held number)
    (named : record.id = attemptId number) (used : number < now.server.drawn)
    (absent : now.attempt? record.id = none) (some_id : record.id ≠ "")
    (unlisted : nonEmpty (now.server.store.executionAttemptByToolCall.get?
      (record.workspaceId, record.toolCallId)) = none)
    (reserved : record.state = .reserved) :
    identifiers.Moves held held now (now.setStore (now.server.store.addExecutionAttempt record)) := by
  refine moves_attempt honest mine named used (honest.indexed.reserve some_id unlisted)
    (attempt?_add now record) (KeyedTable.evolves_set_new _ absent record) rfl ?_
  rw [reserved]
  exact honest.not_invoked absent

theorem moves_store {held : Nat → Prop} {now : LocalServer} {store : MemoryStore}
    (honest : Honest now) (attempts : store.executionAttempts = now.server.store.executionAttempts)
    (index : store.executionAttemptByToolCall = now.server.store.executionAttemptByToolCall)
    (grants : store.executionGrants = now.server.store.executionGrants)
    (executed : ∀ key toolCall, store.toolCalls.get? key = some toolCall →
      toolCall.status = .executed → AttemptSucceeded toolCall.workspace toolCall.id now) :
    identifiers.Moves held held now (now.setStore store) := by
  have evolved : KeyedTable.Evolves AttemptAdvance now.server.store.executionAttempts
      store.executionAttempts := by
    rw [attempts]
    exact KeyedTable.Evolves.refl _ _
  have same (id : String) : (now.setStore store).attempt? id = now.attempt? id :=
    congrArg (KeyedTable.get? · id) attempts
  constructor
  · constructor
    · constructor
      · exact fun key attempt found => honest.indexed.keyed key attempt ((same key).symm.trans found)
      · exact fun key attempt found => honest.indexed.named key attempt ((same key).symm.trans found)
      · intro key attempt found
        exact (congrArg (KeyedTable.get? · _) index).trans
          (honest.indexed.listed key attempt ((same key).symm.trans found))
      · intro key grant found
        exact honest.indexed.grantKeyed key grant
          ((congrArg (KeyedTable.get? · key) grants).symm.trans found)
    · exact fun id attempt found => honest.drawn id attempt ((same id).symm.trans found)
    · exact fun invocation listed => (honest.logged invocation listed).later evolved
    · exact honest.once
    · exact fun id attempt found => honest.told id attempt ((same id).symm.trans found)
    · exact fun key toolCall found ended => (executed key toolCall found ended).later evolved
  · exact { drawn := Nat.le_refl _, attempts := evolved }
  · exact fun number _ _ => { attempt := same _, invocations := rfl }
  · exact fun _ => Or.inl

theorem moves_refl {held : Nat → Prop} {now : LocalServer} (honest : Honest now) :
    identifiers.Moves held held now now where
  inv := honest
  guar := identifiers.refl now
  others := fun _ _ _ => identifiers.respects_refl _ now
  taken := fun _ => Or.inl

theorem moves_draw (held : Nat → Prop) {now : LocalServer} (honest : Honest now) :
    identifiers.Moves held (fun number => held number ∨ number = now.server.drawn) now
      (now.setServer { now.server with drawn := now.server.drawn + 1 }) where
  inv :=
    { indexed := honest.indexed
      drawn := by
        intro id attempt found
        obtain ⟨number, used, same⟩ := honest.drawn id attempt found
        exact ⟨number, Nat.lt_succ_of_lt used, same⟩
      logged := honest.logged
      once := honest.once
      told := honest.told
      executed := honest.executed }
  guar := { drawn := Nat.le_succ _, attempts := KeyedTable.Evolves.refl _ _ }
  others := fun _ _ _ => { attempt := rfl, invocations := rfl }
  taken := by
    rintro number (old | rfl)
    · exact Or.inl old
    · exact Or.inr ⟨Nat.le_refl _, Nat.not_succ_le_self _⟩

omit [Runtime] [RandomSource] in
theorem noteDispatch_store (server : Server) (kind : DispatchKind) (compared : PolicyMoment)
    (attempt : Option ExecutionAttemptRecordV1) :
    (server.noteDispatch kind compared attempt).store = server.store ∧
      (server.noteDispatch kind compared attempt).drawn = server.drawn := by
  cases attempt <;> exact ⟨rfl, rfl⟩

omit [Runtime] [RandomSource] in
theorem noteInvocation_store (now : LocalServer) (request : InvocationRequest)
    (execution : Execution) :
    (now.noteInvocation request execution).server.store = now.server.store :=
  (noteDispatch_store _ _ _ _).1

omit [Runtime] [RandomSource] in
theorem noteInvocation_drawn (now : LocalServer) (request : InvocationRequest)
    (execution : Execution) :
    (now.noteInvocation request execution).server.drawn = now.server.drawn :=
  (noteDispatch_store _ _ _ _).2

omit [Runtime] [RandomSource] in
theorem attempt?_noteInvocation (now : LocalServer) (request : InvocationRequest)
    (execution : Execution) (id : String) :
    (now.noteInvocation request execution).attempt? id = now.attempt? id :=
  congrArg (·.executionAttempts.get? id) (noteInvocation_store now request execution)

omit [Runtime] [RandomSource] in
theorem invocationsOf_noteInvocation (now : LocalServer) (request : InvocationRequest)
    (execution : Execution) (id : String) :
    (now.noteInvocation request execution).invocationsOf id =
      if request.attempt.id = id then
        request.invocation (request.storedAttempt now) execution :: now.invocationsOf id
      else now.invocationsOf id := by
  simp only [LocalServer.invocationsOf, LocalServer.noteInvocation, List.filter_cons,
    InvocationRequest.invocation, beq_iff_eq]

/-- A call invokes an executor for the dispatched attempt it holds, for the first time. -/
theorem moves_invoke {held : Nat → Prop} {now : LocalServer} {number : Nat}
    {request : InvocationRequest} {execution : Execution} (honest : Honest now)
    (mine : held number) (named : request.attempt.id = attemptId number)
    (found : now.attempt? (attemptId number) = some request.attempt)
    (dispatched : request.attempt.state = .dispatched)
    (first : now.invocationsOf (attemptId number) = []) :
    identifiers.Moves held held now (now.noteInvocation request execution) := by
  have stored : request.storedAttempt now = some request.attempt := by
    have listed := honest.indexed.listed _ _ found
    have some_id : nonEmpty (some request.attempt.id) = some request.attempt.id := by
      simpa [nonEmpty] using honest.indexed.named _ _ found
    rw [InvocationRequest.storedAttempt, getExecutionAttemptByToolCallId, listed, some_id, named]
    exact found
  have store := noteInvocation_store now request execution
  have evolved : KeyedTable.Evolves AttemptAdvance now.server.store.executionAttempts
      (now.noteInvocation request execution).server.store.executionAttempts := by
    rw [store]
    exact KeyedTable.Evolves.refl _ _
  have drawn := noteInvocation_drawn now request execution
  constructor
  · constructor
    · exact store ▸ honest.indexed
    · intro id attempt foundNext
      rw [attempt?_noteInvocation] at foundNext
      exact drawn ▸ honest.drawn id attempt foundNext
    · intro invocation listed
      rcases List.mem_cons.mp listed with rfl | earlier
      · refine ⟨?_, request.attempt, ?_, rfl, rfl⟩
        · exact stored ▸ congrArg some dispatched
        · rw [attempt?_noteInvocation]
          exact (congrArg now.attempt? named).trans found
      · exact (honest.logged invocation earlier).later evolved
    · intro id
      rw [invocationsOf_noteInvocation]
      split
      · rename_i same
        rw [← same, named, first]
        exact Nat.le_refl 1
      · exact honest.once id
    · intro id attempt foundNext
      rw [attempt?_noteInvocation] at foundNext
      rw [invocationsOf_noteInvocation]
      split
      · rename_i same
        rw [← same, named, found] at foundNext
        cases foundNext
        rw [dispatched]
        trivial
      · exact honest.told id attempt foundNext
    · intro key toolCall foundCall ended
      exact (honest.executed key toolCall (store ▸ foundCall) ended).later evolved
  · exact { drawn := le_of_eq drawn.symm, attempts := evolved }
  · intro other notMine _
    refine { attempt := attempt?_noteInvocation _ _ _ _, invocations := ?_ }
    rw [invocationsOf_noteInvocation, if_neg]
    intro same
    exact notMine (attemptId_injective (named.symm.trans same) ▸ mine)
  · exact fun _ => Or.inl

/-! ### Parts of a call -/

variable {α β : Type}

theorem guarded_quiet {post : (Nat → Prop) → β → LocalServer → Prop}
    {failed : (Nat → Prop) → GateError → LocalServer → Prop} {held : Nat → Prop}
    {prog : LocalCall α} {next : α → LocalCall β} {state : LocalServer} (honest : Honest state)
    (quiet : Ownership.Quiet LocalServer.evidence prog)
    (ends : ∀ value now, identifiers.Stable held state now → Honest now →
      identifiers.Guarded post failed held (next value) now)
    (fails : ∀ error now, identifiers.Stable held state now → Honest now →
      failed held error now) :
    identifiers.Guarded post failed held (prog.bind next) state := by
  apply Ownership.Guarded.bind honest
  apply Ownership.Guarded.mono
    (Ownership.Guarded.quiet identifiers_speaksOf_evidence held quiet honest)
  · rintro names value now still ⟨rfl, moved⟩
    exact ends value now moved still
  · rintro names error now still ⟨rfl, moved⟩
    exact fails error now moved still

omit [Runtime] [RandomSource] in
theorem askStore_cases (operation : Instant → MemoryStore → α × MemoryStore) (now : LocalServer) :
    let answer := operation now.server.clock now.server.store
    LocalCall.askStore operation now = (.ok answer.1, now.setStore answer.2) ∨
      ∃ error, LocalCall.askStore operation now = (.error error, now) ∨
        LocalCall.askStore operation now = (.error error, now.setStore answer.2) := by
  unfold LocalCall.askStore
  cases now.storeMood with
  | answers => exact Or.inl rfl
  | rejects error performed =>
      refine Or.inr ⟨error, ?_⟩
      cases performed with
      | false => exact Or.inl rfl
      | true => exact Or.inr rfl

theorem guarded_onStore {post : (Nat → Prop) → α → LocalServer → Prop}
    {failed : (Nat → Prop) → GateError → LocalServer → Prop} {held : Nat → Prop}
    {operation : Instant → MemoryStore → α × MemoryStore} {state : LocalServer}
    (moves : ∀ now, identifiers.Stable held state now → Honest now →
      identifiers.Moves held held now
        (now.setStore (operation now.server.clock now.server.store).2))
    (ends : ∀ now later, identifiers.Stable held state now → Honest now →
      identifiers.Stable held (now.setStore (operation now.server.clock now.server.store).2) later →
      Honest later → post held (operation now.server.clock now.server.store).1 later)
    (fails : ∀ error now later, identifiers.Stable held state now → Honest now →
      identifiers.Stable held now later ∨
        identifiers.Stable held (now.setStore (operation now.server.clock now.server.store).2)
          later →
      Honest later → failed held error later) :
    identifiers.Guarded post failed held (LocalCall.onStore operation) state := by
  intro now stable honest
  change ∃ after, identifiers.Moves held after now (LocalCall.askStore operation now).2 ∧
    identifiers.Guarded post failed after (Prog.ofExcept (LocalCall.askStore operation now).1)
      (LocalCall.askStore operation now).2
  rcases askStore_cases operation now with answered | ⟨error, refused | lost⟩
  · rw [answered]
    refine ⟨held, moves now stable honest, ?_⟩
    exact fun later moved kept => ends now later stable honest moved kept
  · rw [refused]
    refine ⟨held, moves_refl honest, ?_⟩
    exact fun later moved kept => fails error now later stable honest (Or.inl moved) kept
  · rw [lost]
    refine ⟨held, moves now stable honest, ?_⟩
    exact fun later moved kept => fails error now later stable honest (Or.inr moved) kept

/-- A fact that no growth of the state ends. -/
def Lasting (fact : LocalServer → Prop) : Prop :=
  ∀ state next, Grows state next → fact state → fact next

/-- Wherever a lasting fact holds, the computation keeps what is honest, and the fact. -/
def Keeping (fact : LocalServer → Prop) (prog : LocalCall α) : Prop :=
  ∀ held state, Honest state → fact state →
    identifiers.Guarded (fun _ _ now => fact now) (fun _ _ now => fact now) held prog state

omit [Runtime] [RandomSource] in
theorem lasting_succeeded (workspaceId toolCallId : String) :
    Lasting (AttemptSucceeded workspaceId toolCallId) :=
  fun _ _ grows succeeded => succeeded.later grows.attempts

omit [Runtime] [RandomSource] in
theorem lasting_true : Lasting (fun _ => True) := fun _ _ _ _ => trivial

theorem Keeping.bind {fact : LocalServer → Prop} {prog : LocalCall α} {next : α → LocalCall β} (before : Keeping fact prog)
    (after : ∀ value, Keeping fact (next value)) : Keeping fact (prog >>= next) := by
  intro held state honest holds
  apply Ownership.Guarded.bind honest
  apply Ownership.Guarded.mono (before held state honest holds)
  · exact fun names value now still kept => after value names now still kept
  · exact fun _ _ _ _ kept => kept

theorem Keeping.attempt {fact : LocalServer → Prop} {prog : LocalCall α} {next : Except GateError α → LocalCall β}
    (before : Keeping fact prog) (after : ∀ ended, Keeping fact (next ended)) :
    Keeping fact (prog.attempt >>= next) := by
  intro held state honest holds
  apply Ownership.Guarded.attempt honest
  apply Ownership.Guarded.mono (before held state honest holds)
  · exact fun names value now still kept => after (.ok value) names now still kept
  · exact fun names error now still kept => after (.error error) names now still kept

section

variable {fact : LocalServer → Prop} (lasting : Lasting fact)

include lasting

theorem Keeping.pure (value : α) : Keeping fact (.pure value : LocalCall α) :=
  fun _ state _ holds now moved _ => lasting state now moved.guar holds

theorem Keeping.throw (error : GateError) : Keeping fact (.throw error : LocalCall α) :=
  fun _ state _ holds now moved _ => lasting state now moved.guar holds

theorem Keeping.quiet {prog : LocalCall α} (quiet : Ownership.Quiet LocalServer.evidence prog) :
    Keeping fact prog := by
  intro held state honest holds
  apply Ownership.Guarded.mono
    (Ownership.Guarded.quiet identifiers_speaksOf_evidence held quiet honest)
  · exact fun _ _ now _ ended => lasting state now ended.2.guar holds
  · exact fun _ _ now _ ended => lasting state now ended.2.guar holds

theorem Keeping.onStore {operation : Instant → MemoryStore → α × MemoryStore}
    (moves : ∀ held now, Honest now → fact now → identifiers.Moves held held now
      (now.setStore (operation now.server.clock now.server.store).2)) :
    Keeping fact (LocalCall.onStore operation) := by
  intro held state honest holds
  have kept {now : LocalServer} (stable : identifiers.Stable held state now) : fact now :=
    lasting state now stable.guar holds
  apply guarded_onStore
  · exact fun now stable still => moves held now still (kept stable)
  · intro now later stable still changed _
    exact lasting _ _ changed.guar
      (lasting _ _ (moves held now still (kept stable)).guar (kept stable))
  · rintro error now later stable still (changed | changed) _
    · exact lasting _ _ changed.guar (kept stable)
    · exact lasting _ _ changed.guar
        (lasting _ _ (moves held now still (kept stable)).guar (kept stable))

end

/-! ### Quiet parts -/

omit [Runtime] [RandomSource] in
theorem quiet_gate {prog : Gate α}
    (quiet : Ownership.Quiet (fun server : Server => (server.store, server.drawn)) prog) :
    Ownership.Quiet LocalServer.evidence (LocalCall.gate prog) := by
  apply Ownership.Quiet.within quiet
  intro state next same
  simp only [Prod.mk.injEq] at same
  simp only [LocalServer.evidence, LocalServer.setServer, same.1, same.2]

omit [Runtime] [RandomSource] in
theorem quiet_read (view : Server → α) :
    Ownership.Quiet (fun server : Server => (server.store, server.drawn))
      (Prog.read view : Gate α) :=
  Ownership.Quiet.call fun _ => rfl

omit [Runtime] [RandomSource] in
theorem quiet_gate_audit (type : String) :
    Ownership.Quiet (fun server : Server => (server.store, server.drawn)) (Gate.audit type) := by
  apply Ownership.Quiet.bind
  · exact Ownership.Quiet.call fun _ => rfl
  · intro appended
    cases appended <;> trivial

omit [Runtime] [RandomSource] in
theorem quiet_gate_auditBestEffort (type : String) :
    Ownership.Quiet (fun server : Server => (server.store, server.drawn))
      (Gate.auditBestEffort type) :=
  (quiet_gate_audit type).handle fun _ => trivial

omit [Runtime] [RandomSource] in
theorem quiet_now : Ownership.Quiet LocalServer.evidence (LocalCall.gate Gate.now) :=
  quiet_gate (quiet_read _)

omit [Runtime] [RandomSource] in
theorem quiet_audit (type : String) :
    Ownership.Quiet LocalServer.evidence (LocalCall.audit type) :=
  quiet_gate (quiet_gate_audit type)

omit [Runtime] [RandomSource] in
theorem quiet_auditBestEffort (type : String) :
    Ownership.Quiet LocalServer.evidence (LocalCall.auditBestEffort type) :=
  quiet_gate (quiet_gate_auditBestEffort type)

omit [RandomSource] in
theorem quiet_revalidation (config : GateConfig) (toolCall : ToolCallRecord) (input : JsonObject) :
    Ownership.Quiet LocalServer.evidence
      (LocalCall.gate (finalPolicyRevalidation config toolCall input)) := by
  apply quiet_gate
  apply Ownership.Quiet.bind (quiet_read _)
  intro compared
  split
  · trivial
  · trivial
  · apply Ownership.Quiet.bind
    · unfold contentInfluenceBindingFailure
      split
      · trivial
      · exact (quiet_gate_auditBestEffort _).bind fun _ => trivial
    · exact fun _ => trivial

omit [Runtime] [RandomSource] in
theorem quiet_readStore (view : MemoryStore → α) :
    Ownership.Quiet LocalServer.evidence (LocalCall.readStore view) := by
  apply Ownership.Quiet.bind
  · apply Ownership.Quiet.call
    intro state
    rcases askStore_cases (fun _ store => (view store, store)) state with
      answered | ⟨error, refused | lost⟩
    · rw [answered]
      rfl
    · rw [refused]
    · rw [lost]
      rfl
  · intro ended
    cases ended <;> trivial

omit [RandomSource] in
theorem quiet_currentBinding (config : LocalConfig) (execution : ToolCallExecution)
    (attempt : ExecutionAttemptRecordV1) (toolCall : ToolCallRecord)
    (expectedState : ExecutionAttemptState) :
    Ownership.Quiet LocalServer.evidence
      (currentLocalExecutionAuthorizationBinding config execution attempt toolCall
        expectedState) := by
  apply (quiet_readStore _).bind
  intro storedAttempt
  apply (quiet_readStore _).bind
  intro storedToolCall
  apply Ownership.Quiet.bind
  · unfold readCurrentApproval
    split
    · trivial
    · exact quiet_readStore _
  intro storedApproval
  split
  · apply (quiet_revalidation _ _ _).bind
    intro revalidation
    split
    · trivial
    · apply quiet_now.bind
      intro now
      split <;> trivial
  · trivial

/-! ### The transitions of the attempt a call holds -/

/-- What a call knows of the attempt it holds. -/
structure Holds (number : Nat) (attempt : ExecutionAttemptRecordV1) (invoked : List Invocation)
    (now : LocalServer) : Prop where
  attempt : now.attempt? (attemptId number) = some attempt
  invocations : now.invocationsOf (attemptId number) = invoked

theorem Holds.later {number : Nat} {attempt : ExecutionAttemptRecordV1}
    {invoked : List Invocation} {held : Nat → Prop} {state now : LocalServer}
    (holds : Holds number attempt invoked state) (mine : held number)
    (stable : identifiers.Stable held state now) : Holds number attempt invoked now :=
  { attempt := (stable.kept number mine).attempt.trans holds.attempt
    invocations := (stable.kept number mine).invocations.trans holds.invocations }

omit [RandomSource] in
theorem transition_cases (store : MemoryStore) (input : AtomicExecutionAttemptTransitionInput) :
    (store.transitionExecutionAttemptAtomically input).2 = store ∧
        (store.transitionExecutionAttemptAtomically input).1.outcome ≠ .transitioned ∨
      ∃ current, store.executionAttempts.get? input.attemptId = some current ∧
        AttemptAdvance current (transitionedExecutionAttempt current input) ∧
        store.transitionExecutionAttemptAtomically input =
          ({ attempt := some (transitionedExecutionAttempt current input)
             outcome := .transitioned },
            store.setExecutionAttempt (transitionedExecutionAttempt current input)) := by
  unfold transitionExecutionAttemptAtomically
  split
  · exact Or.inl ⟨rfl, by simp⟩
  rename_i current found
  split_ifs with foreign other replay terminal exposed rejected
  · exact Or.inl ⟨rfl, by simp⟩
  · exact Or.inl ⟨rfl, by simp⟩
  · exact Or.inl ⟨rfl, by simp⟩
  · exact Or.inl ⟨rfl, by simp⟩
  · exact Or.inl ⟨rfl, by simp⟩
  · exact Or.inl ⟨rfl, by simp⟩
  · simp only [Bool.or_eq_true, decide_eq_true_eq, Bool.not_eq_true', not_or, not_not,
      Bool.not_eq_false] at rejected
    exact Or.inr ⟨current, found, transitioned_advance rejected.1 rejected.2, rfl⟩

omit [RandomSource] in
theorem told_transitioned {invoked : List Invocation} {current : ExecutionAttemptRecordV1}
    {input : AtomicExecutionAttemptTransitionInput}
    (told : Told invoked input.nextState
      (input.outcome.bind ExecutionAttemptOutcomeV1.resultHash)) :
    (transitionedExecutionAttempt current input).state = input.nextState ∧
      Told invoked (transitionedExecutionAttempt current input).state
        (transitionedExecutionAttempt current input).resultHash := by
  unfold transitionedExecutionAttempt
  split
  · rename_i toDispatched
    exact ⟨toDispatched.symm, trivial⟩
  · exact ⟨rfl, told⟩

theorem guarded_transition {held : Nat → Prop} {number : Nat} {state : LocalServer}
    {attempt : ExecutionAttemptRecordV1} (honest : Honest state) (mine : held number)
    (named : attempt.id = attemptId number) {expectedState nextState : ExecutionAttemptState}
    {open_expected : expectedState.isTerminal = false}
    {outcome : Option ExecutionAttemptOutcomeV1} {guard : Option ContentExposureRevisionGuard}
    (told : Told (state.invocationsOf (attemptId number)) nextState
      (outcome.bind ExecutionAttemptOutcomeV1.resultHash)) :
    identifiers.Guarded
      (fun names result now => names = held ∧
        Holds number result (state.invocationsOf (attemptId number)) now ∧
        result.state = nextState ∧
        ∀ stored, state.attempt? (attemptId number) = some stored → SameReservation stored result)
      (fun names _ now => names = held ∧
        now.invocationsOf (attemptId number) = state.invocationsOf (attemptId number))
      held
      (transitionExecutionAttempt attempt expectedState open_expected nextState outcome guard)
      state := by
  apply guarded_quiet honest quiet_now
  · intro clock before stable still
    have untouched : before.invocationsOf (attemptId number) =
        state.invocationsOf (attemptId number) := (stable.kept number mine).invocations
    generalize written : (AtomicExecutionAttemptTransitionInput.mk attempt.id expectedState
      open_expected nextState outcome attempt.reservationOwner
      ((outcome.map ExecutionAttemptOutcomeV1.recordedAt).getD clock.text) attempt.workspaceId
      guard) = input
    have named_input : input.attemptId = attemptId number := written ▸ named
    have next_input : input.nextState = nextState := written ▸ rfl
    have told_input : Told (state.invocationsOf (attemptId number)) input.nextState
        (input.outcome.bind ExecutionAttemptOutcomeV1.resultHash) := written ▸ told
    -- the invocations for the attempt stay whatever the store answers
    have kept {now later : LocalServer} (moved : identifiers.Stable held before now)
        (changed : identifiers.Stable held now later ∨ identifiers.Stable held
          (now.setStore (now.server.store.transitionExecutionAttemptAtomically input).2) later) :
        later.invocationsOf (attemptId number) = state.invocationsOf (attemptId number) := by
      have before_later := (moved.kept number mine).invocations.trans untouched
      rcases changed with changed | changed
      · exact (changed.kept number mine).invocations.trans before_later
      · exact (changed.kept number mine).invocations.trans before_later
    apply Ownership.Guarded.bind still
    apply guarded_onStore
    · intro now moved honestNow
      rcases transition_cases now.server.store input with ⟨same, _⟩ | ⟨current, found, advance, done⟩
      · rw [same]
        exact moves_refl honestNow
      · rw [done]
        refine moves_advance honestNow mine (named_input ▸ found) advance ?_
        rw [(moved.kept number mine).invocations, untouched]
        exact (told_transitioned told_input).2
    · intro now later moved honestNow changed honestLater
      rcases transition_cases now.server.store input with
        ⟨_, refused⟩ | ⟨current, found, advance, done⟩
      · have invocations := kept moved (Or.inr changed)
        split
        · rename_i transitioned _
          exact absurd transitioned refused
        · exact fun last lastMoved _ =>
            ⟨rfl, (lastMoved.kept number mine).invocations.trans invocations⟩
      · rw [done] at changed ⊢
        have named_next := advance.same.1.symm.trans
          ((honestNow.indexed.keyed _ _ found).trans named_input)
        have holds : Holds number (transitionedExecutionAttempt current input)
            (state.invocationsOf (attemptId number))
            (now.setStore (now.server.store.setExecutionAttempt
              (transitionedExecutionAttempt current input))) :=
          { attempt := by rw [attempt?_set, if_pos named_next.symm]
            invocations := (moved.kept number mine).invocations.trans untouched }
        intro last lastMoved _
        refine ⟨rfl, (holds.later mine changed).later mine lastMoved,
          (told_transitioned told_input).1.trans next_input, ?_⟩
        intro stored foundStored
        have same := (moved.kept number mine).attempt.trans (stable.kept number mine).attempt
        rw [LocalServer.attempt?, ← named_input, found, named_input, foundStored] at same
        cases same
        exact advance.same
    · intro error now later moved honestNow changed honestLater
      exact ⟨rfl, kept moved changed⟩
  · intro error now stable _
    exact ⟨rfl, (stable.kept number mine).invocations⟩

/-! ### Records beside the attempt -/

theorem moves_updateToolCall {held : Nat → Prop} {now : LocalServer} {record : ToolCallRecord}
    (honest : Honest now)
    (told : record.status = .executed → AttemptSucceeded record.workspace record.id now) :
    identifiers.Moves held held now
      (now.setStore (now.server.store.updateToolCall record)) := by
  refine moves_store honest rfl rfl rfl ?_
  intro key toolCall found ended
  rw [updateToolCall, KeyedTable.get?_set] at found
  split at found
  · cases found
    exact told ended
  · exact honest.executed key toolCall found ended

section

variable {fact : LocalServer → Prop} (lasting : Lasting fact)

include lasting

theorem Keeping.audit (type : String) : Keeping fact (LocalCall.audit type) :=
  Keeping.quiet lasting (quiet_audit type)

theorem Keeping.now : Keeping fact (LocalCall.gate Gate.now) := Keeping.quiet lasting quiet_now

theorem Keeping.recordOutcomeOfReceipt (execution : ToolCallExecution)
    (status : ReceiptOutcomeStatus) (error : Option String) (remediation : Option JsonObject)
    (result : Option JsonObject) :
    Keeping fact (recordOutcomeOfReceipt execution status error remediation result) := by
  unfold ActionProxy.recordOutcomeOfReceipt
  split
  · exact Keeping.pure lasting ()
  · apply (Keeping.now lasting).bind
    intro now
    apply Keeping.bind
    · apply Keeping.onStore lasting
      exact fun held now honest _ => moves_store honest rfl rfl rfl honest.executed
    · exact fun _ => Keeping.audit lasting _

theorem Keeping.failToolCall (execution : ToolCallExecution) (toolCall : ToolCallRecord)
    (message : String) : Keeping fact (failToolCall execution toolCall message) := by
  apply (Keeping.now lasting).bind
  intro now
  apply Keeping.bind
  · apply Keeping.onStore lasting
    exact fun held now honest _ => moves_updateToolCall honest (fun ended => nomatch ended)
  intro _
  apply (Keeping.recordOutcomeOfReceipt lasting _ _ _ _ _).bind
  intro _
  apply (Keeping.audit lasting _).bind
  exact fun _ => Keeping.pure lasting _

theorem Keeping.recordContentExposure (config : LocalConfig) (auth : Option AuthContext)
    (toolCall : ToolCallRecord) (source : Json) :
    Keeping fact (recordContentExposure config auth toolCall source) := by
  unfold ActionProxy.recordContentExposure
  split
  · exact Keeping.throw lasting _
  · apply (Keeping.now lasting).bind
    intro now
    apply (Keeping.quiet lasting (quiet_gate (quiet_read _))).bind
    intro policy
    apply Keeping.bind
    · apply Keeping.onStore lasting
      intro held now honest _
      unfold MemoryStore.recordContentExposure
      dsimp only
      split
      · exact moves_refl honest
      · exact moves_store honest rfl rfl rfl honest.executed
    · intro outcome
      split
      · exact Keeping.throw lasting _
      · exact Keeping.audit lasting _

theorem Keeping.recordContentExposureBeforeRelease (config : LocalConfig)
    (auth : Option AuthContext) (toolCall : ToolCallRecord) :
    Keeping fact (recordContentExposureBeforeRelease config auth toolCall) := by
  unfold ActionProxy.recordContentExposureBeforeRelease
  split
  · exact Keeping.pure lasting _
  · apply (Keeping.recordContentExposure lasting _ _ _ _).attempt
    intro ended
    split
    · exact Keeping.pure lasting _
    · apply (Keeping.quiet lasting (quiet_auditBestEffort _)).bind
      exact fun _ => Keeping.pure lasting _

end

/-- Once its attempt is stored as succeeded, a tool call may be stored as executed. -/
theorem keeping_recordExecutedToolCall (config : LocalConfig) (execution : ToolCallExecution)
    (toolCall : ToolCallRecord) (returned : Returned) :
    Keeping (AttemptSucceeded toolCall.workspace toolCall.id)
      (recordExecutedToolCall config execution toolCall returned) := by
  have lasting := lasting_succeeded toolCall.workspace toolCall.id
  -- the tool call may be written in any version of its own
  have written {record : ToolCallRecord} (workspace : record.workspace = toolCall.workspace)
      (id : record.id = toolCall.id) : Keeping (AttemptSucceeded toolCall.workspace toolCall.id)
        (LocalCall.onStore fun _ store => ((), store.updateToolCall record)) := by
    apply Keeping.onStore lasting
    intro held now honest succeeded
    exact moves_updateToolCall honest (fun _ => workspace ▸ id ▸ succeeded)
  apply (Keeping.now lasting).bind
  intro now
  apply Keeping.bind
  · exact written rfl rfl
  intro _
  apply (Keeping.recordOutcomeOfReceipt lasting _ _ _ _ _).bind
  intro _
  apply Keeping.bind
  · unfold releaseClassified
    split
    · apply (Keeping.recordContentExposureBeforeRelease lasting _ _ _).bind
      intro recorded
      split
      · apply (Keeping.now lasting).bind
        intro clock
        apply Keeping.attempt
        · exact written rfl rfl
        · intro ended
          split
          · exact Keeping.pure lasting _
          · apply (Keeping.quiet lasting (quiet_auditBestEffort _)).bind
            exact fun _ => Keeping.pure lasting _
      · exact Keeping.pure lasting _
    · exact Keeping.pure lasting _
  intro released
  apply (Keeping.audit lasting _).bind
  exact fun _ => Keeping.pure lasting _

/-! ### The call -/

/-- From the state on, the computation keeps what is honest. -/
abbrev StaysHonest (held : Nat → Prop) (prog : LocalCall α) (state : LocalServer) : Prop :=
  identifiers.Guarded (fun _ _ _ => True) (fun _ _ _ => True) held prog state

theorem Keeping.staysHonest {prog : LocalCall α} (keeping : Keeping (fun _ => True) prog)
    {held : Nat → Prop} {state : LocalServer} (honest : Honest state) :
    StaysHonest held prog state :=
  keeping held state honest trivial

section

variable {held : Nat → Prop} {number : Nat} {state : LocalServer}
  {attempt : ExecutionAttemptRecordV1} (honest : Honest state) (mine : held number)
  (named : attempt.id = attemptId number)

include honest mine named

theorem guarded_complete {status : ExecutionAttemptState}
    {outcomeAt : String → Except GateError ExecutionAttemptOutcomeV1}
    (told : ∀ recordedAt outcome, outcomeAt recordedAt = .ok outcome →
      Told (state.invocationsOf (attemptId number)) status outcome.resultHash) :
    identifiers.Guarded
      (fun names result now => names = held ∧
        Holds number result (state.invocationsOf (attemptId number)) now ∧
        result.state = status ∧
        ∀ stored, state.attempt? (attemptId number) = some stored → SameReservation stored result)
      (fun _ _ _ => True) held (completeExecutionAttempt attempt status outcomeAt) state := by
  apply guarded_quiet honest quiet_now
  · intro clock now stable still
    have invocations := (stable.kept number mine).invocations
    have sameAttempt := (stable.kept number mine).attempt
    cases recorded : outcomeAt clock.text with
    | error error => exact fun _ _ _ => trivial
    | ok outcome =>
        have told_now : Told (now.invocationsOf (attemptId number)) status
            ((some outcome).bind ExecutionAttemptOutcomeV1.resultHash) := by
          rw [invocations]
          exact told clock.text outcome recorded
        change identifiers.Guarded _ _ held ((transitionToOutcome attempt status outcome).bind _) now
        apply Ownership.Guarded.bind still
        have moved : identifiers.Guarded
            (fun names result now' => names = held ∧
              Holds number result (now.invocationsOf (attemptId number)) now' ∧
              result.state = status ∧ ∀ stored, now.attempt? (attemptId number) = some stored →
                SameReservation stored result)
            (fun names _ now' => names = held ∧
              now'.invocationsOf (attemptId number) = now.invocationsOf (attemptId number))
            held (transitionToOutcome attempt status outcome) now := by
          unfold transitionToOutcome
          split
          · exact guarded_transition still mine named told_now
          · exact guarded_transition still mine named told_now
        apply Ownership.Guarded.mono moved
        · rintro names result after kept ⟨rfl, holds, ended, same⟩
          apply guarded_quiet kept (quiet_audit _)
          · intro _ last changed _ final finalMoved _
            refine ⟨rfl, invocations ▸ (holds.later mine changed).later mine finalMoved, ended, ?_⟩
            exact fun stored found => same stored (sameAttempt.trans found)
          · exact fun _ _ _ _ => trivial
        · exact fun _ _ _ _ _ => trivial
  · exact fun _ _ _ _ => trivial

theorem staysHonest_refuse (uninvoked : state.invocationsOf (attemptId number) = [])
    (execution : ToolCallExecution) (toolCall : ToolCallRecord)
    (errorClass errorCode message : String) :
    StaysHonest held (refuseToolCall execution toolCall attempt errorClass errorCode message)
      state := by
  apply Ownership.Guarded.bind honest
  apply Ownership.Guarded.mono (guarded_complete honest mine named ?_)
  · exact fun _ _ _ still _ => (Keeping.failToolCall lasting_true _ _ _).staysHonest still
  · exact fun _ _ _ _ _ => trivial
  · exact fun _ _ _ => uninvoked

theorem staysHonest_abandon (execution : ToolCallExecution) (toolCall : ToolCallRecord)
    (errorCode : String) (error : GateError) :
    StaysHonest held (abandonToolCall execution toolCall attempt errorCode error) state := by
  apply Ownership.Guarded.bind honest
  apply Ownership.Guarded.mono (guarded_complete honest mine named ?_)
  · exact fun _ _ _ still _ => (Keeping.failToolCall lasting_true _ _ _).staysHonest still
  · exact fun _ _ _ _ _ => trivial
  · exact fun _ _ _ => trivial

end

omit [RandomSource] in
theorem successOutcome_hash {returned : Returned} {recordedAt : String}
    {outcome : ExecutionAttemptOutcomeV1} (built : successOutcome returned recordedAt = .ok outcome) :
    FulfilledWith outcome.resultHash (.resolves returned) := by
  unfold successOutcome at built
  cases hashed : returned.resultHash with
  | error error =>
      rw [hashed] at built
      cases built
  | ok text =>
      rw [hashed] at built
      cases built
      exact ⟨returned, text, rfl, hashed, rfl⟩

theorem staysHonest_settle {held : Nat → Prop} {number : Nat} {state : LocalServer}
    {dispatched : ExecutionAttemptRecordV1} {invoked : List Invocation} {settled : Execution}
    (honest : Honest state) (mine : held number) (holds : Holds number dispatched invoked state)
    (listed : ∃ invocation ∈ invoked, invocation.execution = settled)
    (config : LocalConfig) (execution : ToolCallExecution) (toolCall : ToolCallRecord)
    (workspace : dispatched.workspaceId = toolCall.workspace)
    (id : dispatched.toolCallId = toolCall.id) :
    StaysHonest held (settleExecution config execution toolCall dispatched settled) state := by
  have named : dispatched.id = attemptId number := honest.indexed.keyed _ _ holds.attempt
  cases settled with
  | throws error => exact staysHonest_abandon honest mine named _ _ _ _
  | notAPromise => exact fun _ _ _ => trivial
  | rejects error =>
      apply guarded_quiet honest (quiet_audit _)
      · exact fun _ now _ still => staysHonest_abandon still mine named _ _ _ _
      · exact fun _ _ _ _ => trivial
  | resolves returned =>
      apply guarded_quiet honest (quiet_audit _)
      · intro _ now stable still
        have holdsNow := holds.later mine stable
        apply Ownership.Guarded.bind still
        apply Ownership.Guarded.mono (guarded_complete still mine named ?_)
        · rintro names result after kept ⟨rfl, held_after, ended, same⟩
          obtain ⟨_, sameWorkspace, sameId, _⟩ := same dispatched holdsNow.attempt
          have succeeded : AttemptSucceeded toolCall.workspace toolCall.id after :=
            ⟨_, result, held_after.attempt, sameWorkspace ▸ workspace, sameId ▸ id, ended⟩
          apply Ownership.Guarded.mono
            (keeping_recordExecutedToolCall config execution toolCall returned names after kept
              succeeded)
          · exact fun _ _ _ _ _ => trivial
          · exact fun _ _ _ _ _ => trivial
        · exact fun _ _ _ _ _ => trivial
        · intro recordedAt outcome built
          obtain ⟨invocation, inside, settled⟩ := listed
          rw [holdsNow.invocations]
          exact ⟨invocation, inside, settled ▸ successOutcome_hash built⟩
      · exact fun _ _ _ _ => trivial

theorem invoke_held {held : Nat → Prop} {number : Nat} {now : LocalServer}
    {dispatched : ExecutionAttemptRecordV1} (honest : Honest now) (mine : held number)
    (holds : Holds number dispatched [] now) (ready : dispatched.state = .dispatched)
    (request : InvocationRequest) (of_request : request.attempt = dispatched)
    (settled : Execution) :
    identifiers.Moves held held now (now.noteInvocation request settled) ∧
      ∃ invocation : Invocation, invocation.execution = settled ∧
        Holds number dispatched [invocation] (now.noteInvocation request settled) := by
  subst of_request
  have named := honest.indexed.keyed _ _ holds.attempt
  refine ⟨moves_invoke honest mine named holds.attempt ready holds.invocations,
    request.invocation (request.storedAttempt now) settled, rfl, ?_⟩
  constructor
  · exact (attempt?_noteInvocation _ _ _ _).trans holds.attempt
  · rw [invocationsOf_noteInvocation, if_pos named, holds.invocations]

omit [RandomSource] in
theorem execute_cases (config : LocalConfig) (request : InvocationRequest) (state : LocalServer) :
    (∃ error, ToolRegistry.execute config request state = (.error error, state)) ∨
      ∃ settled, ToolRegistry.execute config request state =
        (.ok settled, state.noteInvocation request settled) := by
  unfold ToolRegistry.execute
  split
  · exact Or.inl ⟨_, rfl⟩
  · split
    · exact Or.inl ⟨_, rfl⟩
    · exact Or.inr ⟨_, rfl⟩

theorem staysHonest_dispatched {held : Nat → Prop} {number : Nat} {state : LocalServer}
    {dispatched : ExecutionAttemptRecordV1} (honest : Honest state) (mine : held number)
    (holds : Holds number dispatched [] state) (ready : dispatched.state = .dispatched)
    (config : LocalConfig) (execution : ToolCallExecution) (toolCall : ToolCallRecord)
    (authorization : IssuedAuthorization)
    (workspace : dispatched.workspaceId = toolCall.workspace)
    (id : dispatched.toolCallId = toolCall.id) :
    StaysHonest held (executeDispatched config execution toolCall authorization dispatched)
      state := by
  have named : dispatched.id = attemptId number := honest.indexed.keyed _ _ holds.attempt
  apply Ownership.Guarded.attempt honest
  apply Ownership.Guarded.mono (Ownership.Guarded.quiet identifiers_speaksOf_evidence
    held (quiet_currentBinding _ _ _ _ _) honest)
  · rintro names current now still ⟨rfl, stable⟩
    apply Ownership.Guarded.call
    generalize asked : InvocationRequest.mk authorization current dispatched
      execution.toolCall.toolName execution.input = request
    intro before moved honestBefore
    have holdsBefore := (holds.later mine stable).later mine moved
    rcases execute_cases config request before with ⟨error, refused⟩ | ⟨settled, invoked⟩
    · rw [refused]
      exact ⟨names, moves_refl honestBefore, staysHonest_abandon honestBefore mine named _ _ _ _⟩
    · rw [invoked]
      obtain ⟨moves, invocation, ran, holdsAfter⟩ :=
        invoke_held honestBefore mine holdsBefore ready request (asked ▸ rfl) settled
      refine ⟨names, moves, ?_⟩
      exact staysHonest_settle moves.inv mine holdsAfter ⟨invocation, List.mem_cons_self, ran⟩ config
        execution toolCall workspace id
  · rintro names error now still ⟨rfl, stable⟩
    exact staysHonest_abandon still mine named _ _ _ _

theorem staysHonest_authorized {held : Nat → Prop} {number : Nat} {state : LocalServer}
    {attempt : ExecutionAttemptRecordV1} (honest : Honest state) (mine : held number)
    (holds : Holds number attempt [] state) (config : LocalConfig)
    (execution : ToolCallExecution) (toolCall : ToolCallRecord)
    (authorization : IssuedAuthorization) (workspace : attempt.workspaceId = toolCall.workspace)
    (id : attempt.toolCallId = toolCall.id) :
    StaysHonest held (executeAuthorized config execution toolCall attempt authorization) state := by
  have named : attempt.id = attemptId number := honest.indexed.keyed _ _ holds.attempt
  apply Ownership.Guarded.attempt honest
  apply Ownership.Guarded.mono (Ownership.Guarded.quiet identifiers_speaksOf_evidence
    held (quiet_currentBinding _ _ _ _ _) honest)
  · rintro names current now still ⟨rfl, stable⟩
    have holdsNow := holds.later mine stable
    apply Ownership.Guarded.attempt still
    apply Ownership.Guarded.mono (guarded_transition still mine named ?_)
    · rintro _ dispatched after kept ⟨rfl, held_after, ready, same⟩
      obtain ⟨_, sameWorkspace, sameId, _⟩ := same attempt holdsNow.attempt
      rw [holdsNow.invocations] at held_after
      exact staysHonest_dispatched kept mine held_after ready config execution toolCall authorization
        (sameWorkspace.symm.trans workspace) (sameId.symm.trans id)
    · rintro _ error after kept ⟨rfl, uninvoked⟩
      rw [holdsNow.invocations] at uninvoked
      dsimp only
      split
      · apply guarded_quiet kept (quiet_auditBestEffort _)
        · intro _ last moved still
          exact staysHonest_refuse still mine named
            ((moved.kept number mine).invocations.trans uninvoked) _ _ _ _ _
        · exact fun _ _ _ _ => trivial
      · exact fun _ _ _ => trivial
    · trivial
  · rintro names error now still ⟨rfl, stable⟩
    exact staysHonest_refuse still mine named (holds.later mine stable).invocations _ _ _ _ _

theorem staysHonest_reserved {held : Nat → Prop} {number : Nat} {state : LocalServer}
    {attempt : ExecutionAttemptRecordV1} (honest : Honest state) (mine : held number)
    (holds : Holds number attempt [] state) (config : LocalConfig)
    (execution : ToolCallExecution) (toolCall : ToolCallRecord)
    (workspace : attempt.workspaceId = toolCall.workspace) (id : attempt.toolCallId = toolCall.id) :
    StaysHonest held (executeReserved config execution toolCall attempt) state := by
  have named : attempt.id = attemptId number := honest.indexed.keyed _ _ holds.attempt
  unfold executeReserved
  split
  · exact staysHonest_refuse honest mine named holds.invocations _ _ _ _ _
  split
  · exact staysHonest_refuse honest mine named holds.invocations _ _ _ _ _
  apply guarded_quiet honest (quiet_revalidation _ _ _)
  · intro revalidation now stable still
    have holdsNow := holds.later mine stable
    split
    · exact staysHonest_refuse still mine named holdsNow.invocations _ _ _ _ _
    · apply guarded_quiet still quiet_now
      · intro clock last moved kept
        have holdsLast := holdsNow.later mine moved
        split
        · exact staysHonest_refuse kept mine named holdsLast.invocations _ _ _ _ _
        · exact staysHonest_authorized kept mine holdsLast config execution toolCall _ workspace id
      · exact fun _ _ _ _ => trivial
  · exact fun _ _ _ _ => trivial

/-! ### The reservation -/

omit [RandomSource] in
theorem reserve_cases (store : MemoryStore) (now : Int) (record : ExecutionAttemptRecordV1)
    (authorization : Option ApprovalAuthorizationV1) :
    (store.reserveExecutionAttemptAtomically now record authorization).2 = store ∧
        (store.reserveExecutionAttemptAtomically now record authorization).1.outcome ≠ .reserved ∨
      record.id ≠ "" ∧ record.state = .reserved ∧
        nonEmpty (store.executionAttemptByToolCall.get?
          (record.workspaceId, record.toolCallId)) = none ∧
        store.executionAttempts.get? record.id = none ∧
        store.reserveExecutionAttemptAtomically now record authorization =
          ({ attempt := some record, outcome := .reserved }, store.addExecutionAttempt record) := by
  unfold reserveExecutionAttemptAtomically
  split
  · exact Or.inl ⟨rfl, by simp⟩
  split_ifs with foreign mismatched
  · exact Or.inl ⟨rfl, by simp⟩
  · exact Or.inl ⟨rfl, by simp⟩
  split
  · exact Or.inl ⟨rfl, by simp⟩
  rename_i unlisted
  split
  · exact Or.inl ⟨rfl, by simp⟩
  rename_i absent
  have matched := named_of_matches (by simpa using mismatched)
  exact Or.inr ⟨matched.1, matched.2, unlisted, absent, rfl⟩

theorem guarded_randomUUID {post : (Nat → Prop) → α → LocalServer → Prop}
    {failed : (Nat → Prop) → GateError → LocalServer → Prop} {held : Nat → Prop}
    {next : String → LocalCall α} {state : LocalServer}
    (ends : ∀ now, identifiers.Stable held state now → Honest now →
      identifiers.Guarded post failed (fun number => held number ∨ number = now.server.drawn)
        (next (RandomSource.randomUUID now.server.drawn))
        (now.setServer { now.server with drawn := now.server.drawn + 1 })) :
    identifiers.Guarded post failed held ((LocalCall.gate Gate.randomUUID).bind next) state :=
  fun now stable honest => ⟨_, moves_draw _ honest, ends now stable honest⟩

theorem guarded_reservation {held : Nat → Prop} {number : Nat} {state : LocalServer}
    {record : ExecutionAttemptRecordV1} {authorization : Option ApprovalAuthorizationV1}
    (mine : held number) (named : record.id = attemptId number)
    (used : number < state.server.drawn) :
    identifiers.Guarded
      (fun names result now => names = held ∧ (result.outcome = .reserved →
        result.attempt = some record ∧ Holds number record [] now))
      (fun _ _ _ => True) held
      (LocalCall.onStore fun clock store =>
        store.reserveExecutionAttemptAtomically clock.millis record authorization) state := by
  apply guarded_onStore
  · intro now stable honest
    rcases reserve_cases now.server.store now.server.clock.millis record authorization with
      ⟨same, _⟩ | ⟨some_id, reserved, unlisted, unused, done⟩
    · rw [same]
      exact moves_refl honest
    · rw [done]
      exact moves_reserve honest mine named (Nat.lt_of_lt_of_le used stable.guar.drawn) unused
        some_id unlisted reserved
  · intro now later stable honest changed _
    refine ⟨rfl, fun reserved => ?_⟩
    rcases reserve_cases now.server.store now.server.clock.millis record authorization with
      ⟨_, refused⟩ | ⟨_, _, _, unused, done⟩
    · exact absurd reserved refused
    · rw [done] at changed ⊢
      refine ⟨rfl, Holds.later ?_ mine changed⟩
      constructor
      · rw [attempt?_add, if_pos named.symm]
      · exact honest.not_invoked (named ▸ unused)
  · exact fun _ _ _ _ _ _ _ => trivial

theorem guarded_reserve {held : Nat → Prop} {state : LocalServer} (honest : Honest state)
    (execution : ToolCallExecution) (toolCall : ToolCallRecord) :
    identifiers.Guarded
      (fun names attempt now => ∃ number, names number ∧ Holds number attempt [] now ∧
        attempt.workspaceId = toolCall.workspace ∧ attempt.toolCallId = toolCall.id)
      (fun _ _ _ => True) held (reserveExecutionAttempt execution toolCall) state := by
  apply guarded_quiet honest quiet_now
  · intro clock drawing _ _
    apply guarded_randomUUID
    intro first _ honestFirst
    apply guarded_randomUUID
    intro second moved honestSecond
    have drawnFirst : first.server.drawn < second.server.drawn + 1 :=
      Nat.lt_succ_of_lt moved.guar.drawn
    have honestDrawn := (moves_draw (fun _ => False) honestSecond).inv
    apply Ownership.Guarded.bind honestDrawn
    apply Ownership.Guarded.mono
      (guarded_reservation (Or.inl (Or.inr rfl)) rfl drawnFirst)
    · rintro names reservation now still ⟨rfl, told⟩
      split
      · rename_i reserved given
        obtain ⟨same, holds⟩ := told reserved
        rw [same] at given
        cases given
        apply guarded_quiet still (quiet_audit _)
        · intro _ later changed _ last lastMoved _
          refine ⟨first.server.drawn, Or.inl (Or.inr rfl), ?_, rfl, rfl⟩
          exact (holds.later (Or.inl (Or.inr rfl)) changed).later (Or.inl (Or.inr rfl)) lastMoved
        · exact fun _ _ _ _ => trivial
      · exact fun _ _ _ => trivial
    · exact fun _ _ _ _ _ => trivial
  · exact fun _ _ _ _ => trivial

theorem staysHonest_executeToolCall (config : LocalConfig) (execution : ToolCallExecution)
    {held : Nat → Prop} {state : LocalServer} (honest : Honest state) :
    StaysHonest held (executeToolCall config execution) state := by
  apply guarded_quiet honest (quiet_revalidation _ _ _)
  · intro revalidation now _ still
    split
    · exact (Keeping.failToolCall lasting_true _ _ _).staysHonest still
    · apply Ownership.Guarded.bind still
      apply Ownership.Guarded.mono (guarded_reserve still _ _)
      · rintro names attempt after kept ⟨number, mine, holds, workspace, id⟩
        exact staysHonest_reserved kept mine holds config execution _ workspace id
      · exact fun _ _ _ _ _ => trivial
  · exact fun _ _ _ _ => trivial

/-! ### Whole runs -/

/-- Grants are stored under their own ids. -/
def GrantsKeyed (store : MemoryStore) : Prop :=
  ∀ key grant, store.executionGrants.get? key = some grant → grant.id = key

/-- What happens beside the executions: the store may fail, the policy may be replaced, and
anything may be stored but attempts and tool calls that were executed. -/
structure Outside (before after : LocalServer) : Prop where
  attempts : after.server.store.executionAttempts = before.server.store.executionAttempts
  index : after.server.store.executionAttemptByToolCall =
    before.server.store.executionAttemptByToolCall
  grants : GrantsKeyed before.server.store → GrantsKeyed after.server.store
  drawn : before.server.drawn ≤ after.server.drawn
  invocations : after.invocations = before.invocations
  executed : ∀ key toolCall, after.server.store.toolCalls.get? key = some toolCall →
    toolCall.status = .executed → before.server.store.toolCalls.get? key = some toolCall

/-- Executions of tool calls, any number of them, and what happens beside them. -/
def localSystem (config : LocalConfig) : System LocalServer GateError ToolCallRecord where
  starts prog := ∃ execution, prog = executeToolCall config execution
  environment change := ∀ before, Outside before (change before)

/-- Nothing was executed yet. -/
structure NothingExecuted (state : LocalServer) : Prop where
  attempts : state.server.store.executionAttempts = .empty
  grants : GrantsKeyed state.server.store
  invocations : state.invocations = []
  executed : ∀ key toolCall, state.server.store.toolCalls.get? key = some toolCall →
    toolCall.status ≠ .executed

theorem NothingExecuted.honest {state : LocalServer} (nothing : NothingExecuted state) :
    Honest state := by
  have absent {id : String} {attempt : ExecutionAttemptRecordV1}
      (found : state.attempt? id = some attempt) : False := by
    rw [LocalServer.attempt?, nothing.attempts] at found
    cases found
  have unlisted (id : String) : state.invocationsOf id = [] := by
    rw [LocalServer.invocationsOf, nothing.invocations]
    rfl
  exact
    { indexed :=
        { keyed := fun _ _ found => (absent found).elim
          named := fun _ _ found => (absent found).elim
          listed := fun _ _ found => (absent found).elim
          grantKeyed := nothing.grants }
      drawn := fun _ _ found => (absent found).elim
      logged := fun _ listed => by
        rw [nothing.invocations] at listed
        cases listed
      once := fun id => by
        rw [unlisted]
        exact Nat.zero_le _
      told := fun _ _ found => (absent found).elim
      executed := fun key toolCall found ended => absurd ended (nothing.executed key toolCall found) }

theorem Outside.moves {before after : LocalServer} (outside : Outside before after)
    (honest : Honest before) :
    Honest after ∧ Grows before after ∧ ∀ number, SameEvidence number before after := by
  have evolved : KeyedTable.Evolves AttemptAdvance before.server.store.executionAttempts
      after.server.store.executionAttempts := by
    rw [outside.attempts]
    exact KeyedTable.Evolves.refl _ _
  have attempts (id : String) : after.attempt? id = before.attempt? id :=
    congrArg (KeyedTable.get? · id) outside.attempts
  have invocations (id : String) : after.invocationsOf id = before.invocationsOf id :=
    congrArg (List.filter _) outside.invocations
  refine ⟨?_, { drawn := outside.drawn, attempts := evolved },
    fun _ => { attempt := attempts _, invocations := invocations _ }⟩
  constructor
  · constructor
    · exact fun key attempt found => honest.indexed.keyed key attempt ((attempts key).symm.trans found)
    · exact fun key attempt found => honest.indexed.named key attempt ((attempts key).symm.trans found)
    · intro key attempt found
      rw [outside.index]
      exact honest.indexed.listed key attempt ((attempts key).symm.trans found)
    · exact outside.grants honest.indexed.grantKeyed
  · intro id attempt found
    obtain ⟨number, used, same⟩ := honest.drawn id attempt ((attempts id).symm.trans found)
    exact ⟨number, Nat.lt_of_lt_of_le used outside.drawn, same⟩
  · intro invocation listed
    rw [outside.invocations] at listed
    exact (honest.logged invocation listed).later evolved
  · intro id
    rw [invocations]
    exact honest.once id
  · intro id attempt found
    rw [invocations]
    exact honest.told id attempt ((attempts id).symm.trans found)
  · intro key toolCall found ended
    exact (honest.executed key toolCall (outside.executed key toolCall found ended) ended).later
      evolved

theorem honest_of_reaches {config : LocalConfig} {first world : World LocalServer GateError
    ToolCallRecord} (nothing : NothingExecuted first.state) (none_started : first.threads = [])
    (reached : Reaches (localSystem config) Unrestricted first world) : Honest world.state := by
  have starts : ∀ prog, (localSystem config).starts prog → ∀ state, Honest state →
      StaysHonest (fun _ => False) prog state := by
    rintro prog ⟨execution, rfl⟩ state honest
    exact staysHonest_executeToolCall config execution honest
  have environment : ∀ change, (localSystem config).environment change → ∀ state, Honest state →
      Honest (change state) ∧ Grows state (change state) ∧
        ∀ number, ¬ state.server.drawn ≤ number → SameEvidence number state (change state) := by
    intro change outside state honest
    obtain ⟨kept, grows, same⟩ := (outside state).moves honest
    exact ⟨kept, grows, fun number _ => same number⟩
  have shared : ∃ holds, identifiers.Shared (fun _ _ _ => True) (fun _ _ _ => True) holds world :=
    Ownership.Shared.reaches reached starts environment nothing.honest none_started
  exact shared.choose_spec.inv

/-! ### The truth -/

/-- What the stored records say of the executors that were invoked. -/
structure TellsTruth (state : LocalServer) : Prop where
  invoked : ∀ invocation ∈ state.invocations, ∃ attempt, invocation.stored = some attempt ∧
    attempt.state = .dispatched
  failedBefore : ∀ id attempt, state.attempt? id = some attempt →
    attempt.state = .failedBeforeDispatch →
    ∀ invocation ∈ state.invocations, (invocation.workspaceId, invocation.toolCallId) ≠
      (attempt.workspaceId, attempt.toolCallId)
  succeeded : ∀ id attempt, state.attempt? id = some attempt → attempt.state = .succeeded →
    ∃ invocation ∈ state.invocations, invocation.attemptId = id ∧
      FulfilledWith attempt.resultHash invocation.execution
  executed : ∀ key toolCall, state.server.store.toolCalls.get? key = some toolCall →
    toolCall.status = .executed → ∃ attempt,
      state.server.store.getExecutionAttemptByToolCallId toolCall.workspace toolCall.id =
        some attempt ∧ attempt.state = .succeeded
  unfulfilled : ∀ invocation ∈ state.invocations,
    (∀ returned, invocation.execution ≠ .resolves returned) →
    (∀ key toolCall, state.server.store.toolCalls.get? key = some toolCall →
      toolCall.workspace = invocation.workspaceId → toolCall.id = invocation.toolCallId →
      toolCall.status ≠ .executed) ∧
    ∀ attempt, state.server.store.getExecutionAttemptByToolCallId invocation.workspaceId
        invocation.toolCallId = some attempt →
      attempt.state ≠ .failedBeforeDispatch ∧ attempt.state ≠ .succeeded

omit [Runtime] [RandomSource] in
theorem mem_invocationsOf {state : LocalServer} {invocation : Invocation}
    (listed : invocation ∈ state.invocations) :
    invocation ∈ state.invocationsOf invocation.attemptId :=
  List.mem_filter.mpr ⟨listed, beq_self_eq_true _⟩

theorem Honest.listed_invocation {state : LocalServer} (honest : Honest state)
    {invocation : Invocation} (listed : invocation ∈ state.invocations) :
    ∃ attempt, state.attempt? invocation.attemptId = some attempt ∧
      state.server.store.getExecutionAttemptByToolCallId invocation.workspaceId
        invocation.toolCallId = some attempt ∧
      Told (state.invocationsOf invocation.attemptId) attempt.state attempt.resultHash := by
  obtain ⟨_, attempt, found, workspace, toolCall⟩ := honest.logged invocation listed
  refine ⟨attempt, found, ?_, honest.told _ _ found⟩
  have index := honest.indexed.listed _ _ found
  have some_id : nonEmpty (some attempt.id) = some attempt.id := by
    simpa [nonEmpty] using honest.indexed.named _ _ found
  rw [workspace, toolCall] at index
  rw [getExecutionAttemptByToolCallId, index, some_id, honest.indexed.keyed _ _ found]
  exact found

/-- An attempt that was executed and not fulfilled is neither failed before its dispatch
nor succeeded. -/
theorem Honest.unfulfilled {state : LocalServer} (honest : Honest state)
    {invocation : Invocation} (listed : invocation ∈ state.invocations)
    (unfulfilled : ∀ returned, invocation.execution ≠ .resolves returned)
    {attempt : ExecutionAttemptRecordV1}
    (told : Told (state.invocationsOf invocation.attemptId) attempt.state attempt.resultHash) :
    attempt.state ≠ .failedBeforeDispatch ∧ attempt.state ≠ .succeeded := by
  have inside := mem_invocationsOf listed
  constructor
  · intro failed
    rw [failed] at told
    rw [told] at inside
    cases inside
  · intro succeeded
    rw [succeeded] at told
    obtain ⟨other, otherInside, returned, _, resolved, _⟩ := told
    -- one invocation at most is listed for an attempt
    have few := honest.once invocation.attemptId
    generalize state.invocationsOf invocation.attemptId = invoked at few inside otherInside
    cases invoked with
    | nil => cases inside
    | cons first rest =>
        rw [List.length_cons] at few
        obtain rfl : rest = [] := List.eq_nil_of_length_eq_zero (by omega)
        rw [List.mem_singleton] at inside otherInside
        subst otherInside
        exact unfulfilled returned (inside ▸ resolved)

/-- Whatever the executors do, whatever calls of the store fail and however the steps of
the executions come between each other, what is stored tells the truth. -/
theorem local_execution_truthful {config : LocalConfig}
    {first world : World LocalServer GateError ToolCallRecord}
    (nothing : NothingExecuted first.state) (none_started : first.threads = [])
    (reached : Reaches (localSystem config) Unrestricted first world) :
    TellsTruth world.state := by
  have honest := honest_of_reaches nothing none_started reached
  have by_toolCall {workspaceId toolCallId : String}
      (succeeded : AttemptSucceeded workspaceId toolCallId world.state) : ∃ attempt,
        world.state.server.store.getExecutionAttemptByToolCallId workspaceId toolCallId =
          some attempt ∧ attempt.state = .succeeded := by
    obtain ⟨id, attempt, found, rfl, rfl, ended⟩ := succeeded
    have some_id : nonEmpty (some attempt.id) = some attempt.id := by
      simpa [nonEmpty] using honest.indexed.named _ _ found
    refine ⟨attempt, ?_, ended⟩
    rw [getExecutionAttemptByToolCallId, honest.indexed.listed _ _ found, some_id,
      honest.indexed.keyed _ _ found]
    exact found
  constructor
  · intro invocation listed
    exact Option.map_eq_some_iff.mp (honest.logged invocation listed).1
  · intro id attempt found failed invocation listed same
    obtain ⟨other, foundOther, _, told⟩ := honest.listed_invocation listed
    obtain ⟨_, logged, foundLogged, workspace, toolCall⟩ := honest.logged invocation listed
    obtain rfl : logged = other := Option.some.inj (foundLogged.symm.trans foundOther)
    simp only [Prod.mk.injEq] at same
    obtain rfl := honest.indexed.unique found foundLogged (same.1.symm.trans workspace.symm)
      (same.2.symm.trans toolCall.symm)
    obtain rfl : attempt = logged := Option.some.inj (found.symm.trans foundLogged)
    rw [failed] at told
    have inside := mem_invocationsOf listed
    rw [told] at inside
    cases inside
  · intro id attempt found succeeded
    have told := honest.told id attempt found
    rw [succeeded] at told
    obtain ⟨invocation, inside, fulfilled⟩ := told
    obtain ⟨listed, same⟩ := List.mem_filter.mp inside
    exact ⟨invocation, listed, beq_iff_eq.mp same, fulfilled⟩
  · exact fun key toolCall found ended => by_toolCall (honest.executed key toolCall found ended)
  · intro invocation listed unfulfilled
    obtain ⟨attempt, _, byCall, told⟩ := honest.listed_invocation listed
    have neither := honest.unfulfilled listed unfulfilled told
    constructor
    · intro key toolCall found workspace id ended
      obtain ⟨other, foundOther, succeeded⟩ := by_toolCall (honest.executed key toolCall found ended)
      rw [workspace, id, byCall] at foundOther
      cases foundOther
      exact neither.2 succeeded
    · intro other foundOther
      rw [byCall] at foundOther
      cases foundOther
      exact neither

end

/-! ### An execution -/

@[reducible] private def countedIdentifiers : RandomSource :=
  { randomUUID := fun number => String.ofList (List.replicate number 'a')
    distinct := by
      intro first second same
      have lengths := congrArg List.length (String.ofList_inj.mp same)
      rwa [List.length_replicate, List.length_replicate] at lengths }

private def executedPolicy : PolicyFile :=
  { version := JsonNumber.ofInt 1
    default := PolicyRule.plain .never
    tools := .empty }

private def submittedPing [Runtime] : ToolCallRecord :=
  { id := "toolcall_1"
    workspaceId := none
    toolName := "ping"
    input := []
    inputHash := none
    actionEnvelope := none
    actionEnvelopeHash := none
    canonicalActionRequestHash := none
    canonicalActionRequestVersion := none
    canonicalDecisionInputHash := none
    canonicalPolicyContext := none
    contentInfluence := none
    influenceScopeId := none
    requestedBy := "agent"
    requestedByAuth := none
    agentId := "agent"
    reason := "check"
    metadata := []
    status := .authorized
    decision := some .allow
    authorizationDecision := some .allow
    authorizationReason := none
    decisionTrace := none
    policyReason := none
    policyVersionId := none
    policyVersionHash := some executedPolicy.versionHash
    resultDelivery := none
    resultSource := none
    resultWithheld := none
    risk := none
    result := none
    error := none
    createdAt := "2026-07-10T10:00:00.000Z"
    updatedAt := "2026-07-10T10:00:00.000Z" }

private def pingServer [Runtime] : LocalServer :=
  { server :=
      { store :=
          { toolCalls := KeyedTable.empty.set "toolcall_1" (toolCallForInput submittedPing [])
            contentExposureScopes := .empty
            approvals := .empty
            executionGrants := .empty
            executionAttempts := .empty
            executionAttemptByToolCall := .empty
            actionReceipts := .empty }
        idempotency := .empty
        policy := { policy := executedPolicy, replacements := 0 }
        clock := { millis := 0, shown := epoch_shown }
        auditReady := true
        audits := []
        drawn := 0
        dispatches := [] }
    storeMood := .answers
    invocations := [] }

private def pingConfig : LocalConfig :=
  { policyProvider := some (@createYamlPolicyProvider (sampleRuntime []) executedPolicy
      (some (String.ofList (List.replicate 64 'a'))) none)
    workspaceId := none
    receiptSigningSecret := none
    localExecutionDisabled := false
    tools := fun _ => some fun _ _ => .resolves (.value (some (.str "pong")))
    approvalAuthorizationTtlMs := none
    remediationDescriptor := fun _ => none }

private def pingExecution [Runtime] : ToolCallExecution :=
  { toolCall := submittedPing
    input := []
    actor := "agent"
    auth := none
    receipt := none
    approval := none }

/-- The steps of one execution, from its start to its end. -/
private def pingChoices [Runtime] [RandomSource] : List (Choice LocalServer GateError
    ToolCallRecord) :=
  .start (executeToolCall pingConfig pingExecution) :: List.replicate 60 (.advance 0)

/-- A tool is executed and its result stored. -/
theorem local_execution_truthful_ping :
    @TellsTruth (sampleRuntime []) (World.run
      { state := @pingServer (sampleRuntime []), threads := [] }
      (@pingChoices (sampleRuntime []) countedIdentifiers)).state := by
  let _ := sampleRuntime []
  let _ := countedIdentifiers
  have nothing : NothingExecuted pingServer :=
    { attempts := rfl
      grants := fun _ _ found => nomatch found
      invocations := rfl
      executed := by
        intro key toolCall found
        change (KeyedTable.empty.set "toolcall_1" _).get? key = some toolCall at found
        rw [KeyedTable.get?_set] at found
        split at found
        · cases found
          decide
        · cases found }
  have offered : ∀ choice ∈ pingChoices, (localSystem pingConfig).Offers choice := by
    intro choice listed
    rcases List.mem_cons.mp listed with rfl | advanced
    · exact ⟨pingExecution, rfl⟩
    · rw [List.eq_of_mem_replicate advanced]
      trivial
  exact local_execution_truthful nothing rfl
    (reaches_run Reaches.refl offered (World.meets_unrestricted _ _))

end ActionProxy
