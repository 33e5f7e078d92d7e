import ActionProxy.Wrapper.CallTable

/-!
Which messages the stdio server answers, and with which id, and which calls are aborted,
in every order in which messages arrive and calls end.
-/

namespace ActionProxy.Wrapper

open Dialogue JsonText

/-! ### The discipline -/

/-- The message is a request with this id. -/
structure Requests (message : JsonObject) (id : Json) : Prop where
  method : ∃ method, member? message "method" = some (.str method)
  identified : member? message "id" = some id
  typed : IsId id

/-- The message cancels the request with this id. -/
structure Cancels (message : JsonObject) (id : Json) : Prop where
  method : member? message "method" = some (.str "notifications/cancelled")
  identified : member? (messageParams message) "requestId" = some id
  typed : IsId id

/-- A request with an id waits for its call or has one response, which carries the id; a
message without an id has none; calls in flight have different ids; the ones that are
aborted are those that were cancelled since. -/
structure IdDiscipline (messages : List JsonObject) (state : ServerState) : Prop where
  answered : ∀ number message id, messages[number]? = some message → Requests message id →
    (state.InFlight number ∧ state.responses number = []) ∨
    (¬ state.InFlight number ∧
      ∃ answer, state.responses number = [answer] ∧ field? answer "id" = some id)
  silent : ∀ number message, messages[number]? = some message → WithoutId message →
    state.responses number = []
  exclusive : state.calls.Pairwise fun one other => one.id ≠ other.id
  cancelled : ∀ call ∈ state.calls, call.aborted = true ↔
    ∃ later message, call.number < later ∧ messages[later]? = some message ∧
      Cancels message call.id

/-- A message the server handles as the discipline asks: without an id it is a
notification or a tool call, with one it is no notification, and when it cancels an id
that is no safe integer then no call has it. -/
structure Orderly (state : ServerState) (message : JsonObject) : Prop where
  unasked : ∀ method, member? message "method" = some (.str method) → WithoutId message →
    TextScan.startsWith method "notifications/" = true ∨ method = "tools/call"
  asked : ∀ id, Requests message id → ¬ Notifies message
  readable : ∀ number, Cancels message (.num number) → isSafeInteger number = false →
    ∀ call ∈ state.calls, call.id ≠ .num number

theorem Requests.not_withoutId {message : JsonObject} {id : Json} (requests : Requests message id) :
    ¬ WithoutId message := by
  have identified := requests.identified
  rintro (absent | null)
  · rw [absent] at identified
    cases identified
  · rw [null] at identified
    cases identified
    cases requests.typed

theorem Orderly.expects {state : ServerState} {message : JsonObject} (orderly : Orderly state message)
    {id : Json} (requests : Requests message id) : Expects message :=
  ⟨requests.method, orderly.asked id requests, fun _ => requests.not_withoutId⟩

theorem Orderly.not_expects {state : ServerState} {message : JsonObject}
    (orderly : Orderly state message) (without : WithoutId message) : ¬ Expects message := by
  intro expects
  obtain ⟨method, named⟩ := expects.method
  rcases orderly.unasked method named without with notifies | called
  · exact expects.notNotifies ⟨method, named, notifies⟩
  · rw [called] at named
    exact expects.called named without

theorem Cancels.notifies {message : JsonObject} {id : Json} (cancels : Cancels message id) :
    Notifies message := ⟨_, cancels.method, by decide⟩

theorem getElem?_snoc {messages : List JsonObject} {message asked : JsonObject} {number : Nat}
    (found : (messages ++ [message])[number]? = some asked) :
    messages[number]? = some asked ∨ (number = messages.length ∧ asked = message) := by
  by_cases inside : number < messages.length
  · rw [List.getElem?_append_left inside] at found
    exact Or.inl found
  · have last := (List.getElem?_eq_some_iff.mp found).1
    rw [List.length_append, List.length_singleton] at last
    have same : number = messages.length := by omega
    subst same
    rw [List.getElem?_append_right (Nat.le_refl _), Nat.sub_self] at found
    cases found
    exact Or.inr ⟨rfl, rfl⟩

theorem cancelled_snoc_iff {messages : List JsonObject} {message : JsonObject} {number : Nat}
    {id : Json} (inside : number < messages.length) :
    (∃ later asked, number < later ∧ (messages ++ [message])[later]? = some asked ∧
        Cancels asked id) ↔
      (∃ later asked, number < later ∧ messages[later]? = some asked ∧ Cancels asked id) ∨
        Cancels message id := by
  constructor
  · rintro ⟨later, asked, after, found, cancels⟩
    rcases getElem?_snoc found with early | ⟨-, rfl⟩
    · exact Or.inl ⟨later, asked, after, early, cancels⟩
    · exact Or.inr cancels
  · rintro (⟨later, asked, after, found, cancels⟩ | cancels)
    · refine ⟨later, asked, after, ?_, cancels⟩
      rw [List.getElem?_append_left (List.getElem?_eq_some_iff.mp found).1, found]
    · refine ⟨messages.length, message, inside, ?_, cancels⟩
      rw [List.getElem?_append_right (Nat.le_refl _), Nat.sub_self]
      rfl

section

variable [Runtime] {nearest : JsonNumber → Option JsonNumber} {server : McpJsonRpcServer}
  {messages : List JsonObject} {state : ServerState}

theorem Tracked.exclusive (tracked : Tracked nearest server messages state) :
    state.calls.Pairwise fun one other => one.id ≠ other.id := by
  have numbers : state.calls.Pairwise fun one other => one.number ≠ other.number :=
    List.pairwise_map.mp tracked.numbers
  refine List.Pairwise.imp_of_mem ?_ numbers
  intro one other listed also different same
  apply different
  have keys : one.key = other.key := by
    rw [(tracked.runs one listed).key, (tracked.runs other also).key, same]
  exact congrArg ActiveCall.number (tracked.keyed listed also keys)

theorem Tracked.targeted (tracked : Tracked nearest server messages state) {id : Json}
    (typed : IsId id) {number : Nat}
    (found : state.activeCalls.get? (typedJsonRpcId id) = some number) {call : ActiveCall}
    (listed : call ∈ state.calls) : call.number = number ↔ id = call.id := by
  rw [← typedJsonRpcId_eq_iff typed, ← (tracked.runs call listed).key]
  obtain ⟨owner, owns, rfl, key⟩ := tracked.owned _ number found
  constructor
  · intro same
    rw [tracked.numbered listed owns same, key]
  · intro same
    exact congrArg ActiveCall.number (tracked.keyed listed owns (same.symm.trans key.symm))

theorem cancels_iff (tracked : Tracked nearest server messages state) {message : JsonObject}
    (orderly : Orderly state message)
    (method : member? message "method" = some (.str "notifications/cancelled")) {call : ActiveCall}
    (listed : call ∈ state.calls) :
    Cancels message call.id ↔
      ∃ requestId, jsonRpcId (member? (messageParams message) "requestId") = some requestId ∧
        state.activeCalls.get? (typedJsonRpcId requestId) = some call.number := by
  constructor
  · intro cancels
    have safe : ∀ number, call.id = .num number → isSafeInteger number = true := by
      intro number same
      by_contra unsafely
      have cancelled : Cancels message (.num number) := same ▸ cancels
      exact orderly.readable number cancelled (Bool.not_eq_true _ ▸ unsafely) call listed same
    refine ⟨call.id, jsonRpcId_eq_some_iff.mpr ⟨cancels.identified, cancels.typed, safe⟩, ?_⟩
    rw [← (tracked.runs call listed).key]
    exact tracked.held call listed
  · rintro ⟨requestId, read, found⟩
    obtain ⟨identified, typed, -⟩ := jsonRpcId_eq_some_iff.mp read
    have same := (tracked.targeted typed found listed).mp rfl
    subst same
    exact ⟨method, identified, typed⟩

theorem mem_cancelled (tracked : Tracked nearest server messages state) {message : JsonObject}
    (orderly : Orderly state message)
    (method : member? message "method" = some (.str "notifications/cancelled")) {call : ActiveCall}
    (listed : call ∈ (state.cancelled message).calls) :
    ∃ before ∈ state.calls, call.number = before.number ∧ call.id = before.id ∧
      (call.aborted = true ↔ before.aborted = true ∨ Cancels message before.id) := by
  have about (before : ActiveCall) (early : before ∈ state.calls) :=
    cancels_iff tracked orderly method early
  unfold ServerState.cancelled at listed
  split at listed
  · rename_i unread
    refine ⟨call, listed, rfl, rfl, ?_⟩
    rw [about call listed]
    simp [unread]
  · rename_i requestId read
    split at listed
    · rename_i free
      refine ⟨call, listed, rfl, rfl, ?_⟩
      rw [about call listed]
      simp [read, free]
    · rename_i number found
      obtain ⟨before, early, rfl⟩ := (state.mem_update_iff number).mp listed
      have target : Cancels message before.id ↔ before.number = number := by
        rw [about before early, read]
        simp [found, eq_comm]
      refine ⟨before, early, ?_⟩
      rw [target]
      split
      · rename_i hit
        exact ⟨rfl, rfl, iff_of_true rfl (Or.inr hit)⟩
      · rename_i other
        exact ⟨rfl, rfl, (or_iff_left other).symm⟩

theorem Handled.others {number : Nat} {message : JsonObject} {after : ServerState}
    (handled : Handled nearest server state number message after) {other : Nat}
    (different : number ≠ other) :
    (after.InFlight other ↔ state.InFlight other) ∧
      after.responses other = state.responses other := by
  cases handled with
  | left => exact ⟨Iff.rfl, rfl⟩
  | cancelled =>
      unfold ServerState.cancelled
      split
      · exact ⟨Iff.rfl, rfl⟩
      · split
        · exact ⟨Iff.rfl, rfl⟩
        · exact ⟨state.inFlight_update_iff _ keeps_aborted other, rfl⟩
  | answered answer =>
      refine ⟨Iff.rfl, ?_⟩
      rw [ServerState.responses_send, if_neg different]
  | started id =>
      refine ⟨?_, rfl⟩
      constructor
      · rintro ⟨call, listed, same⟩
        rcases List.mem_append.mp listed with early | last
        · exact ⟨call, early, same⟩
        · rw [List.mem_singleton.mp last] at same
          exact absurd same different
      · rintro ⟨call, listed, same⟩
        exact ⟨call, List.mem_append_left _ listed, same⟩

theorem Handled.itself {number : Nat} {message : JsonObject} {after : ServerState}
    (handled : Handled nearest server state number message after)
    (idle : ¬ state.InFlight number) (none : state.responses number = []) :
    (Expects message → (after.InFlight number ∧ after.responses number = []) ∨
      (¬ after.InFlight number ∧ ∃ answer, after.responses number = [answer] ∧
        field? answer "id" = some (idOrNull (member? message "id")))) ∧
    (¬ Expects message → after.responses number = []) := by
  cases handled with
  | left unexpected => exact ⟨fun expects => absurd expects unexpected, fun _ => none⟩
  | cancelled method =>
      refine ⟨fun expects => absurd ⟨_, method, by decide⟩ expects.notNotifies, ?_⟩
      intro _
      unfold ServerState.cancelled
      split
      · exact none
      · split
        · exact none
        · exact none
  | answered answer expected identified =>
      refine ⟨fun _ => Or.inr ⟨idle, answer, ?_, identified⟩, fun refused => absurd expected refused⟩
      rw [ServerState.responses_send, if_pos rfl, none, List.nil_append]
  | started id expected =>
      refine ⟨fun _ => Or.inl ⟨⟨_, List.mem_append_right _ List.mem_cons_self, rfl⟩, none⟩, ?_⟩
      exact fun refused => absurd expected refused

theorem Handled.cancelled_iff (tracked : Tracked nearest server messages state)
    (discipline : IdDiscipline messages state) {message : JsonObject}
    (orderly : Orderly state message) {after : ServerState}
    (handled : Handled nearest server state state.received message after) {call : ActiveCall}
    (listed : call ∈ after.calls) :
    call.aborted = true ↔
      ∃ later asked, call.number < later ∧ (messages ++ [message])[later]? = some asked ∧
        Cancels asked call.id := by
  have kept (uncancelled : member? message "method" ≠ some (.str "notifications/cancelled"))
      (early : call ∈ state.calls) : call.aborted = true ↔
        ∃ later asked, call.number < later ∧ (messages ++ [message])[later]? = some asked ∧
          Cancels asked call.id := by
    have inside := tracked.inside ⟨call, early, rfl⟩
    rw [tracked.received] at inside
    rw [cancelled_snoc_iff inside, discipline.cancelled call early]
    exact (or_iff_left (fun cancels => uncancelled cancels.method)).symm
  have notNotifies (expects : Expects message) :
      member? message "method" ≠ some (.str "notifications/cancelled") :=
    fun method => expects.notNotifies ⟨_, method, by decide⟩
  cases handled with
  | left _ uncancelled => exact kept uncancelled listed
  | cancelled method =>
      obtain ⟨before, early, number, id, aborted⟩ := mem_cancelled tracked orderly method listed
      have inside := tracked.inside ⟨before, early, rfl⟩
      rw [tracked.received] at inside
      rw [number, id, cancelled_snoc_iff inside, aborted, discipline.cancelled before early]
  | answered answer expected => exact kept (notNotifies expected) listed
  | started id expected =>
      rcases List.mem_append.mp listed with early | last
      · exact kept (notNotifies expected) early
      · rw [List.mem_singleton.mp last]
        refine iff_of_false Bool.false_ne_true ?_
        rintro ⟨later, asked, after, found, -⟩
        have inside := (List.getElem?_eq_some_iff.mp found).1
        rw [List.length_append, List.length_singleton] at inside
        rw [tracked.received] at after
        dsimp only at after
        omega

omit [Runtime] in
theorem IdDiscipline.initial : IdDiscipline [] .initial where
  answered := fun _ _ _ found => by cases found
  silent := fun _ _ found => by cases found
  exclusive := List.Pairwise.nil
  cancelled := fun _ listed => absurd listed List.not_mem_nil

theorem IdDiscipline.receive (tracked : Tracked nearest server messages state)
    (discipline : IdDiscipline messages state) {message : JsonObject}
    (orderly : Orderly state message) :
    IdDiscipline (messages ++ [message]) (receive nearest server state message) := by
  have fresh := tracked.fresh
  have handled : Handled nearest server state state.received message _ :=
    handled state state.received message
  have itself := handled.itself fresh.1 fresh.2
  constructor
  · intro number asked id found requests
    rcases getElem?_snoc found with early | ⟨rfl, rfl⟩
    · have inside := (List.getElem?_eq_some_iff.mp early).1
      rw [← tracked.received] at inside
      have others := handled.others (Nat.ne_of_gt inside)
      have before := discipline.answered number asked id early requests
      rw [← others.1, ← others.2] at before
      exact before
    · have now := itself.1 (orderly.expects requests)
      rw [requests.identified, idOrNull_some] at now
      rw [← tracked.received]
      exact now
  · intro number asked found without
    rcases getElem?_snoc found with early | ⟨rfl, rfl⟩
    · have inside := (List.getElem?_eq_some_iff.mp early).1
      rw [← tracked.received] at inside
      exact (handled.others (Nat.ne_of_gt inside)).2.trans
        (discipline.silent number asked early without)
    · have now := itself.2 (orderly.not_expects without)
      rw [← tracked.received]
      exact now
  · exact (tracked.receive message).exclusive
  · intro call listed
    exact handled.cancelled_iff tracked discipline orderly listed

theorem IdDiscipline.advance (tracked : Tracked nearest server messages state)
    (discipline : IdDiscipline messages state) (number : Nat)
    (answer : Except Thrown (Option Json)) :
    IdDiscipline messages (state.advance number answer) := by
  have flying := state.inFlight_update_iff number (keeps_proceed answer)
  constructor
  · intro other message id found requests
    have before := discipline.answered other message id found requests
    rw [← flying other] at before
    exact before
  · exact discipline.silent
  · exact (tracked.update (keeps_proceed answer) (fun call runs => runs.proceed answer)).exclusive
  · intro call listed
    obtain ⟨before, early, rfl⟩ := (state.mem_update_iff number).mp listed
    split
    · exact discipline.cancelled before early
    · exact discipline.cancelled before early

omit [Runtime] in
theorem inFlight_finish_iff (state : ServerState) {call : ActiveCall} {other : Nat} (different : call.number ≠ other) :
    (state.finish call).InFlight other ↔ state.InFlight other := by
  constructor
  · rintro ⟨flying, kept, same⟩
    exact ⟨flying, (List.mem_filter.mp kept).1, same⟩
  · rintro ⟨flying, listed, same⟩
    refine ⟨flying, List.mem_filter.mpr ⟨listed, ?_⟩, same⟩
    rw [decide_eq_true_eq, same]
    exact different.symm

theorem IdDiscipline.resume (tracked : Tracked nearest server messages state)
    (discipline : IdDiscipline messages state) (number : Nat) :
    IdDiscipline messages (state.resume number) := by
  have moved := resumed state number
  have later := tracked.resume number
  generalize state.resume number = after at moved later
  cases moved with
  | waiting => exact discipline
  | finished call listed same answer identified =>
      subst same
      obtain ⟨asked, found, of, withId, -⟩ := (tracked.runs call listed).message
      constructor
      · intro other message id named requests
        rw [ServerState.responses_send]
        by_cases hit : call.number = other
        · subst hit
          rw [found] at named
          cases named
          rw [requests.identified] at of
          cases of
          refine Or.inr ⟨not_inFlight_finish state call, answer, ?_, identified⟩
          rw [if_pos rfl]
          change state.responses call.number ++ [answer] = [answer]
          rw [tracked.unanswered call listed, List.nil_append]
        · rw [if_neg hit]
          have before := discipline.answered other message id named requests
          rw [← inFlight_finish_iff state hit] at before
          exact before
      · intro other message named without
        rw [ServerState.responses_send, if_neg]
        · exact discipline.silent other message named without
        · intro hit
          subst hit
          rw [found] at named
          cases named
          exact withId without
      · exact later.exclusive
      · intro other kept
        exact discipline.cancelled other (List.mem_filter.mp kept).1

omit [Runtime] in
theorem answerOf_ended {call : ActiveCall} (ended : call.conversation.Ended) :
    ∃ answer, ServerState.answerOf call = some answer := by
  unfold ServerState.answerOf
  rcases ended with ⟨value, same⟩ | ⟨error, same⟩
  · exact ⟨_, by rw [same]⟩
  · exact ⟨_, by rw [same]⟩

/-- When the turn of a call comes that has ended, its request gets its one response. -/
theorem Tracked.resume_ended (tracked : Tracked nearest server messages state) {call : ActiveCall}
    (listed : call ∈ state.calls) (ended : call.conversation.Ended) :
    ∃ answer, (state.resume call.number).responses call.number = [answer] ∧
      field? answer "id" = some call.id := by
  obtain ⟨answer, answered⟩ := answerOf_ended ended
  refine ⟨answer, ?_, answerOf_id answered⟩
  have first : state.calls.find? (fun other => other.number = call.number) = some call := by
    cases found : state.calls.find? (fun other => other.number = call.number) with
    | none =>
        rw [List.find?_eq_none] at found
        exact absurd (decide_eq_true rfl) (found call listed)
    | some other =>
        have same : other.number = call.number := by simpa using List.find?_some found
        rw [tracked.numbered (List.mem_of_find?_eq_some found) listed same]
  unfold ServerState.resume
  rw [first]
  dsimp only
  rw [answered]
  dsimp only
  rw [ServerState.responses_send, if_pos rfl]
  change state.responses call.number ++ [answer] = [answer]
  rw [tracked.unanswered call listed, List.nil_append]

/-- In every run of messages that are orderly where they come, in any order of messages
and calls, the ids are as the discipline asks; and a call that has ended is answered,
once, when its turn comes. -/
theorem id_discipline (run : Run nearest server Orderly messages state) :
    IdDiscipline messages state ∧
      ∀ call ∈ state.calls, call.conversation.Ended →
        ∃ answer, (state.resume call.number).responses call.number = [answer] ∧
          field? answer "id" = some call.id := by
  refine ⟨?_, fun call listed ended => run.tracked.resume_ended listed ended⟩
  induction run with
  | initial => exact .initial
  | received run message orderly ih => exact ih.receive run.tracked orderly
  | advanced run number answer ih => exact ih.advance run.tracked number answer
  | resumed run number ih => exact ih.resume run.tracked number

end

/-! ### Two runs -/

section

/-- A server without tools. -/
def emptyServer : McpJsonRpcServer :=
  { wrapper :=
      { config :=
          { agentId := none
            requestedBy := none
            approvalPollIntervalMs := none
            approvalTimeoutMs := none
            cancelPendingOnAbort := none }
        routes := []
        directSessionNonce := "nonce"
        directCallId := 1 }
    tools := []
    sessionNonce := "nonce" }

def pingNotification : JsonObject := [("method", some (.str "ping"))]

def unknownToolCall : JsonObject :=
  [("id", some (.str "call")), ("method", some (.str "tools/call"))]

/-- A message without an id is answered. -/
theorem ping_without_id_answered :
    ¬ ∀ (runtime : Runtime) (nearest : JsonNumber → Option JsonNumber) (server : McpJsonRpcServer)
      (messages : List JsonObject) (state : ServerState),
      @Run runtime nearest server (fun _ _ => True) messages state →
        IdDiscipline messages state := by
  intro claimed
  have run := @Run.received (sampleRuntime []) some emptyServer (fun _ _ => True) [] .initial
    (@Run.initial (sampleRuntime []) some emptyServer _) pingNotification True.intro
  have silent := (claimed _ _ _ _ _ run).silent 0 pingNotification rfl (Or.inl rfl)
  cases silent

theorem orderly_unknownToolCall (state : ServerState) : Orderly state unknownToolCall := by
  have withId : ¬ WithoutId unknownToolCall := by
    rintro (absent | null)
    · cases absent
    · cases null
  have notNotifies : ¬ Notifies unknownToolCall := by
    rintro ⟨method, named, starts⟩
    cases named
    exact absurd starts (by decide)
  constructor
  · exact fun method named without => absurd without withId
  · exact fun id requests => notNotifies
  · exact fun number cancels => absurd cancels.notifies notNotifies

/-- A call of a tool that is not there is answered with its id. -/
theorem unknown_tool_disciplined :
    IdDiscipline [unknownToolCall]
      ((@receive (sampleRuntime []) some emptyServer .initial unknownToolCall).resume 0) :=
  have received := @Run.received (sampleRuntime []) some emptyServer Orderly [] .initial
    (@Run.initial (sampleRuntime []) some emptyServer _) unknownToolCall
    (orderly_unknownToolCall .initial)
  have resumed := @Run.resumed (sampleRuntime []) some emptyServer _ _ _ received 0
  (@id_discipline (sampleRuntime []) some emptyServer _ _ resumed).1

end

end ActionProxy.Wrapper
