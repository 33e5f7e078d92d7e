import ActionProxy.Wrapper.JsonRpcServer

/-!
The calls in flight of the stdio server and the table of their keys, in every order in
which messages arrive and calls end.
-/

namespace ActionProxy.Wrapper

open Dialogue JsonText

/-! ### Ids and keys -/

/-- A string or a number. -/
inductive IsId : Json → Prop where
  | str (text : String) : IsId (.str text)
  | num (number : JsonNumber) : IsId (.num number)

def WithoutId (message : JsonObject) : Prop :=
  member? message "id" = none ∨ member? message "id" = some .null

/-- The first letter of the type. -/
def typeLetter : Json → Char
  | .str _ => 's'
  | .num _ => 'n'
  | .bool _ => 'b'
  | _ => 'o'

theorem typedJsonRpcId_head (id : Json) :
    (typedJsonRpcId id).toList.head? = some (typeLetter id) := by
  rw [typedJsonRpcId, String.toList_append, String.toList_append]
  cases id with
  | str text => simp [typeOf, typeLetter]
  | num number => simp [typeOf, typeLetter]
  | bool value => simp [typeOf, typeLetter]
  | null => simp [typeOf, typeLetter]
  | arr items => simp [typeOf, typeLetter]
  | obj members => simp [typeOf, typeLetter]

theorem typedJsonRpcId_text {id other : Json} (same : typedJsonRpcId id = typedJsonRpcId other)
    (types : typeOf id = typeOf other) : (spelled id).toList = (spelled other).toList := by
  have texts := congrArg String.toList same
  simp only [typedJsonRpcId, types, String.toList_append] at texts
  exact List.append_cancel_left texts

theorem typedJsonRpcId_eq_iff {id other : Json} (typed : IsId id) :
    typedJsonRpcId id = typedJsonRpcId other ↔ id = other := by
  constructor
  · intro same
    have letters : some (typeLetter id) = some (typeLetter other) := by
      rw [← typedJsonRpcId_head, ← typedJsonRpcId_head, same]
    cases typed with
    | str text =>
        cases other with
        | str otherText => exact congrArg Json.str (String.ext (typedJsonRpcId_text same rfl))
        | _ => cases letters
    | num number =>
        cases other with
        | num otherNumber =>
            have texts := typedJsonRpcId_text same rfl
            simp only [spelled, String.toList_ofList] at texts
            rw [JsonNumber.text_injective texts]
        | _ => cases letters
  · intro same
    rw [same]

/-- `jsonRpcId` reads strings and safe integers. -/
theorem jsonRpcId_eq_some_iff {value : Option Json} {id : Json} :
    jsonRpcId value = some id ↔
      value = some id ∧ IsId id ∧ ∀ number, id = .num number → isSafeInteger number = true := by
  unfold jsonRpcId
  split
  · rename_i text
    constructor
    · intro read
      cases read
      exact ⟨rfl, .str text, fun number same => by cases same⟩
    · rintro ⟨same, -, -⟩
      exact same
  · rename_i number
    constructor
    · intro read
      split at read
      · rename_i safe
        cases read
        refine ⟨rfl, .num number, ?_⟩
        intro other same
        cases same
        exact safe
      · cases read
    · rintro ⟨same, -, safe⟩
      cases same
      rw [if_pos (safe number rfl)]
  · rename_i noText noNumber
    refine iff_of_false (fun read => by cases read) ?_
    rintro ⟨rfl, typed, -⟩
    cases typed with
    | str text => exact noText text rfl
    | num number => exact noNumber number rfl

/-! ### What handling a message does -/

/-- The method says that no response is expected. -/
def Notifies (message : JsonObject) : Prop :=
  ∃ method, member? message "method" = some (.str method) ∧
    TextScan.startsWith method "notifications/" = true

/-- A request that is answered, whether it has an id or not: a tool call without one is
left, every other method is answered. -/
structure Expects (message : JsonObject) : Prop where
  method : ∃ method, member? message "method" = some (.str method)
  notNotifies : ¬ Notifies message
  called : member? message "method" = some (.str "tools/call") → ¬ WithoutId message

section

variable [Runtime] {nearest : JsonNumber → Option JsonNumber} {server : McpJsonRpcServer}

variable (nearest server) in
/-- What handling a message can do. -/
inductive Handled (state : ServerState) (number : Nat) (message : JsonObject) :
    ServerState → Prop where
  | left (unexpected : ¬ Expects message)
      (kept : member? message "method" ≠ some (.str "notifications/cancelled")) :
      Handled state number message state
  | cancelled (method : member? message "method" = some (.str "notifications/cancelled")) :
      Handled state number message (state.cancelled message)
  | answered (answer : Json) (expected : Expects message)
      (identified : field? answer "id" = some (idOrNull (member? message "id"))) :
      Handled state number message (state.send number answer)
  | started (id : Json) (expected : Expects message)
      (method : member? message "method" = some (.str "tools/call"))
      (identified : member? message "id" = some id)
      (free : state.activeCalls.get? (typedJsonRpcId id) = none) :
      Handled state number message (state.start number id (calling nearest server message id))

omit [Runtime] in
theorem field_id_response (id : Option Json) (result : Json) :
    field? (response id result) "id" = some (idOrNull id) := rfl

omit [Runtime] in
theorem field_id_rpcError (id : Option Json) (code : Int) (message : String) :
    field? (rpcError id code message) "id" = some (idOrNull id) := rfl

theorem handled_toolsCall (state : ServerState) (number : Nat) {message : JsonObject}
    (method : member? message "method" = some (.str "tools/call"))
    (notNotifies : ¬ Notifies message) :
    Handled nearest server state number message
      (toolsCall nearest server state number message) := by
  have kept : member? message "method" ≠ some (.str "notifications/cancelled") := by
    rw [method]
    simp
  unfold toolsCall
  split
  · rename_i absent
    exact .left (fun expected => expected.called method (Or.inl absent)) kept
  · rename_i null
    exact .left (fun expected => expected.called method (Or.inr null)) kept
  · rename_i id notNull identified
    have expected : Expects message := by
      refine ⟨⟨_, method⟩, notNotifies, ?_⟩
      rintro - (absent | null)
      · rw [identified] at absent
        cases absent
      · rw [identified] at null
        cases null
        exact notNull rfl
    split
    · refine .answered _ expected ?_
      rw [field_id_rpcError, identified]
    · rename_i free
      exact .started id expected method identified (Option.not_isSome_iff_eq_none.mp free)

theorem handled (state : ServerState) (number : Nat) (message : JsonObject) :
    Handled nearest server state number message
      (handle nearest server state number message) := by
  unfold handle
  dsimp only
  split
  · rename_i method named
    by_cases cancels : method = "notifications/cancelled"
    · rw [if_pos cancels]
      rw [cancels] at named
      exact .cancelled named
    · rw [if_neg cancels]
      have kept : member? message "method" ≠ some (.str "notifications/cancelled") := by
        rw [named]
        simpa using cancels
      by_cases notifies : TextScan.startsWith method "notifications/" = true
      · rw [if_pos notifies]
        exact .left (fun expected => expected.notNotifies ⟨method, named, notifies⟩) kept
      · rw [if_neg notifies]
        have notNotifies : ¬ Notifies message := by
          rintro ⟨other, also, starts⟩
          rw [named] at also
          cases also
          exact notifies starts
        have expects (uncalled : method ≠ "tools/call") : Expects message := by
          refine ⟨⟨method, named⟩, notNotifies, ?_⟩
          intro called
          rw [named] at called
          cases called
          exact absurd rfl uncalled
        split
        · rename_i initializes
          exact .answered _ (expects (by rw [initializes]; decide)) (field_id_response _ _)
        · split
          · rename_i pings
            exact .answered _ (expects (by rw [pings]; decide)) (field_id_response _ _)
          · split
            · rename_i lists
              exact .answered _ (expects (by rw [lists]; decide)) (field_id_response _ _)
            · split
              · rename_i calls
                rw [calls] at named
                exact handled_toolsCall state number named notNotifies
              · rename_i uncalled
                exact .answered _ (expects uncalled) (field_id_rpcError _ _ _)
  · rename_i unnamed
    have unexpected : ¬ Expects message := by
      intro expected
      obtain ⟨method, named⟩ := expected.method
      exact unnamed method named
    refine .left unexpected ?_
    intro named
    exact unnamed _ named

end

/-! ### Changes of calls -/

namespace ServerState

variable (state : ServerState) (number : Nat)

/-- A change that leaves the number, the id and the key of a call. -/
def Keeps (change : ActiveCall → ActiveCall) : Prop :=
  ∀ call, (change call).number = call.number ∧ (change call).id = call.id ∧
    (change call).key = call.key

theorem mem_update_iff {change : ActiveCall → ActiveCall} {call : ActiveCall} :
    call ∈ (state.update number change).calls ↔
      ∃ before ∈ state.calls, call = if before.number = number then change before else before := by
  simp only [update, List.mem_map]
  exact exists_congr (fun before => and_congr_right (fun _ => eq_comm))

theorem numbers_update {change : ActiveCall → ActiveCall} (keeps : Keeps change) :
    (state.update number change).calls.map ActiveCall.number =
      state.calls.map ActiveCall.number := by
  simp only [update, List.map_map]
  apply List.map_congr_left
  intro call _
  simp only [Function.comp_apply]
  split
  · exact (keeps call).1
  · rfl

/-- The responses to a message. -/
def responses : List Json :=
  (state.sent.filter fun entry => entry.1 = number).map Prod.snd

/-- The message waits for a call of the wrapper. -/
def InFlight : Prop := ∃ call ∈ state.calls, call.number = number

theorem responses_send (answer : Json) (other : Nat) :
    (state.send number answer).responses other =
      if number = other then state.responses other ++ [answer] else state.responses other := by
  unfold responses send
  rw [List.filter_append, List.map_append]
  split
  · rename_i same
    rw [List.filter_cons_of_pos (by simpa using same)]
    rfl
  · rename_i different
    rw [List.filter_cons_of_neg (by simpa using different)]
    exact List.append_nil _

theorem responses_eq_nil_of_fresh {bound : Nat} (known : ∀ entry ∈ state.sent, entry.1 < bound)
    (fresh : bound ≤ number) : state.responses number = [] := by
  unfold responses
  rw [List.map_eq_nil_iff, List.filter_eq_nil_iff]
  intro entry listed
  have before := known entry listed
  simp only [decide_eq_true_eq]
  omega

theorem inFlight_update_iff {change : ActiveCall → ActiveCall} (keeps : Keeps change)
    (other : Nat) : (state.update number change).InFlight other ↔ state.InFlight other := by
  have numbers := state.numbers_update number keeps
  have member (calls : List ActiveCall) : (∃ call ∈ calls, call.number = other) ↔
      other ∈ calls.map ActiveCall.number := List.mem_map.symm
  unfold InFlight
  rw [member, member, numbers]

end ServerState

/-! ### What holds in every run -/

section

variable [Runtime] (nearest : JsonNumber → Option JsonNumber) (server : McpJsonRpcServer)

/-- The messages so far and the state after them; messages come, calls go on, and
`handle` goes on after its call, in any order. -/
inductive Run (allowed : ServerState → JsonObject → Prop) : List JsonObject → ServerState → Prop where
  | initial : Run allowed [] .initial
  | received {messages : List JsonObject} {state : ServerState} (run : Run allowed messages state)
      (message : JsonObject) (permitted : allowed state message) :
      Run allowed (messages ++ [message]) (receive nearest server state message)
  | advanced {messages : List JsonObject} {state : ServerState} (run : Run allowed messages state)
      (number : Nat) (answer : Except Thrown (Option Json)) :
      Run allowed messages (state.advance number answer)
  | resumed {messages : List JsonObject} {state : ServerState} (run : Run allowed messages state)
      (number : Nat) : Run allowed messages (state.resume number)

/-- The call is a run of the wrapper for the message of its number. -/
structure Runs (messages : List JsonObject) (call : ActiveCall) : Prop where
  key : call.key = typedJsonRpcId call.id
  message : ∃ message, messages[call.number]? = some message ∧
    member? message "id" = some call.id ∧ ¬ WithoutId message ∧
    ∃ history, Talk.Reached (calling nearest server message call.id) history call.conversation

/-- The table of calls and the calls in flight agree, and none of these is answered. -/
structure Tracked (messages : List JsonObject) (state : ServerState) : Prop where
  received : state.received = messages.length
  numbers : (state.calls.map ActiveCall.number).Nodup
  held : ∀ call ∈ state.calls, state.activeCalls.get? call.key = some call.number
  owned : ∀ key number, state.activeCalls.get? key = some number →
    ∃ call ∈ state.calls, call.number = number ∧ call.key = key
  known : ∀ entry ∈ state.sent, entry.1 < state.received
  runs : ∀ call ∈ state.calls, Runs nearest server messages call
  unanswered : ∀ call ∈ state.calls, state.responses call.number = []

variable {nearest server} {messages : List JsonObject} {state : ServerState} {number : Nat}

theorem Tracked.initial : Tracked nearest server [] .initial where
  received := rfl
  numbers := List.nodup_nil
  held := fun call listed => absurd listed List.not_mem_nil
  owned := fun key number found => absurd found (by simp [ServerState.initial])
  known := fun entry listed => absurd listed List.not_mem_nil
  runs := fun call listed => absurd listed List.not_mem_nil
  unanswered := fun call listed => absurd listed List.not_mem_nil

theorem Runs.later {call : ActiveCall} (runs : Runs nearest server messages call)
    (message : JsonObject) : Runs nearest server (messages ++ [message]) call := by
  obtain ⟨asked, found, rest⟩ := runs.message
  refine ⟨runs.key, asked, ?_, rest⟩
  have inside := (List.getElem?_eq_some_iff.mp found).1
  rw [List.getElem?_append_left inside, found]

theorem Tracked.inside (tracked : Tracked nearest server messages state)
    (flying : state.InFlight number) : number < state.received := by
  obtain ⟨call, listed, rfl⟩ := flying
  obtain ⟨_, found, _⟩ := (tracked.runs call listed).message
  rw [tracked.received]
  exact (List.getElem?_eq_some_iff.mp found).1

theorem Tracked.more (tracked : Tracked nearest server messages state) (message : JsonObject) :
    Tracked nearest server (messages ++ [message]) { state with received := state.received + 1 } where
  received := by
    dsimp only
    rw [tracked.received, List.length_append, List.length_singleton]
  numbers := tracked.numbers
  held := tracked.held
  owned := tracked.owned
  known := fun entry listed => Nat.lt_succ_of_lt (tracked.known entry listed)
  runs := fun call listed => (tracked.runs call listed).later message
  unanswered := tracked.unanswered

theorem Tracked.send (tracked : Tracked nearest server messages state)
    (inside : number < state.received) (idle : ¬ state.InFlight number) (answer : Json) :
    Tracked nearest server messages (state.send number answer) where
  received := tracked.received
  numbers := tracked.numbers
  held := tracked.held
  owned := tracked.owned
  known := by
    intro entry listed
    rcases List.mem_append.mp listed with early | last
    · exact tracked.known entry early
    · rw [List.mem_singleton.mp last]
      exact inside
  runs := tracked.runs
  unanswered := by
    intro call listed
    rw [ServerState.responses_send, if_neg, tracked.unanswered call listed]
    intro same
    exact idle ⟨call, listed, same.symm⟩

theorem Tracked.start (tracked : Tracked nearest server messages state) {id : Json}
    {message : JsonObject} (found : messages[number]? = some message)
    (identified : member? message "id" = some id) (withId : ¬ WithoutId message)
    (free : state.activeCalls.get? (typedJsonRpcId id) = none)
    (idle : ¬ state.InFlight number) (silent : state.responses number = []) :
    Tracked nearest server messages
      (state.start number id (calling nearest server message id)) where
  received := tracked.received
  numbers := by
    simp only [ServerState.start, List.map_append, List.map_cons, List.map_nil]
    rw [List.nodup_append]
    refine ⟨tracked.numbers, List.nodup_singleton _, ?_⟩
    intro other flying last added same
    rw [List.mem_singleton.mp added] at same
    obtain ⟨call, listed, of⟩ := List.mem_map.mp flying
    exact idle ⟨call, listed, of.trans same⟩
  held := by
    intro call listed
    simp only [ServerState.start, KeyedTable.get?_set]
    rcases List.mem_append.mp listed with early | last
    · rw [if_neg, tracked.held call early]
      intro same
      have taken := tracked.held call early
      rw [same, free] at taken
      cases taken
    · rw [List.mem_singleton.mp last, if_pos rfl]
  owned := by
    intro key other found
    simp only [ServerState.start, KeyedTable.get?_set] at found
    split at found
    · rename_i same
      cases found
      exact ⟨_, List.mem_append_right _ List.mem_cons_self, rfl, same.symm⟩
    · obtain ⟨call, listed, rest⟩ := tracked.owned key other found
      exact ⟨call, List.mem_append_left _ listed, rest⟩
  known := tracked.known
  runs := by
    intro call listed
    rcases List.mem_append.mp listed with early | last
    · exact tracked.runs call early
    · rw [List.mem_singleton.mp last]
      exact ⟨rfl, message, found, identified, withId, [], .start⟩
  unanswered := by
    intro call listed
    rcases List.mem_append.mp listed with early | last
    · exact tracked.unanswered call early
    · rw [List.mem_singleton.mp last]
      exact silent

theorem Tracked.update (tracked : Tracked nearest server messages state)
    {change : ActiveCall → ActiveCall} (keeps : ServerState.Keeps change)
    (goes : ∀ call, Runs nearest server messages call → Runs nearest server messages (change call)) :
    Tracked nearest server messages (state.update number change) where
  received := tracked.received
  numbers := by
    rw [state.numbers_update number keeps]
    exact tracked.numbers
  held := by
    intro call listed
    obtain ⟨before, early, rfl⟩ := (state.mem_update_iff number).mp listed
    split
    · rw [(keeps before).1, (keeps before).2.2]
      exact tracked.held before early
    · exact tracked.held before early
  owned := by
    intro key other found
    obtain ⟨before, early, rfl, rfl⟩ := tracked.owned key other found
    refine ⟨_, (state.mem_update_iff number).mpr ⟨before, early, rfl⟩, ?_⟩
    split
    · exact ⟨(keeps before).1, (keeps before).2.2⟩
    · exact ⟨rfl, rfl⟩
  known := tracked.known
  runs := by
    intro call listed
    obtain ⟨before, early, rfl⟩ := (state.mem_update_iff number).mp listed
    split
    · exact goes before (tracked.runs before early)
    · exact tracked.runs before early
  unanswered := by
    intro call listed
    obtain ⟨before, early, rfl⟩ := (state.mem_update_iff number).mp listed
    split
    · rw [(keeps before).1]
      exact tracked.unanswered before early
    · exact tracked.unanswered before early

omit [Runtime] in
theorem keeps_aborted : ServerState.Keeps fun call => { call with aborted := true } :=
  fun _ => ⟨rfl, rfl, rfl⟩

omit [Runtime] in
theorem keeps_proceed (answer : Except Thrown (Option Json)) :
    ServerState.Keeps fun call => call.proceed answer :=
  fun _ => ⟨rfl, rfl, rfl⟩

theorem Runs.proceed {call : ActiveCall} (runs : Runs nearest server messages call)
    (answer : Except Thrown (Option Json)) :
    Runs nearest server messages (call.proceed answer) := by
  obtain ⟨message, found, identified, withId, history, reached⟩ := runs.message
  refine ⟨runs.key, message, found, identified, withId, ?_⟩
  unfold ActiveCall.proceed
  dsimp only
  split
  · rename_i next asking
    rw [asking] at reached
    exact ⟨_, reached.answered call.aborted⟩
  · rename_i request next asking
    rw [asking] at reached
    exact ⟨_, reached.answered answer⟩
  · exact ⟨history, reached⟩

theorem Tracked.cancelled (tracked : Tracked nearest server messages state) (message : JsonObject) :
    Tracked nearest server messages (state.cancelled message) := by
  unfold ServerState.cancelled
  split
  · exact tracked
  · split
    · exact tracked
    · exact tracked.update keeps_aborted (fun call runs => ⟨runs.key, runs.message⟩)

theorem Tracked.numbered (tracked : Tracked nearest server messages state)
    {one other : ActiveCall} (listed : one ∈ state.calls) (also : other ∈ state.calls)
    (same : one.number = other.number) : one = other :=
  List.inj_on_of_nodup_map tracked.numbers listed also same

theorem Tracked.keyed (tracked : Tracked nearest server messages state)
    {one other : ActiveCall} (listed : one ∈ state.calls) (also : other ∈ state.calls)
    (same : one.key = other.key) : one = other := by
  have holds := tracked.held one listed
  rw [same, tracked.held other also] at holds
  exact tracked.numbered listed also (Option.some.inj holds).symm

theorem Tracked.finish (tracked : Tracked nearest server messages state) {call : ActiveCall}
    (listed : call ∈ state.calls) :
    Tracked nearest server messages (state.finish call) where
  received := tracked.received
  numbers := tracked.numbers.sublist (List.filter_sublist.map _)
  held := by
    intro other kept
    obtain ⟨early, different⟩ := List.mem_filter.mp kept
    simp only [ServerState.finish, KeyedTable.get?_erase]
    rw [if_neg, tracked.held other early]
    intro same
    rw [tracked.keyed early listed same] at different
    simp at different
  owned := by
    intro key other found
    simp only [ServerState.finish, KeyedTable.get?_erase] at found
    split at found
    · cases found
    · rename_i different
      obtain ⟨owner, early, rfl, rfl⟩ := tracked.owned key other found
      refine ⟨owner, List.mem_filter.mpr ⟨early, ?_⟩, rfl, rfl⟩
      simp only [ne_eq, decide_not, Bool.not_eq_eq_eq_not, Bool.not_true, decide_eq_false_iff_not]
      intro same
      exact different (congrArg ActiveCall.key (tracked.numbered early listed same))
  known := tracked.known
  runs := fun other kept => tracked.runs other (List.mem_filter.mp kept).1
  unanswered := fun other kept => tracked.unanswered other (List.mem_filter.mp kept).1

omit [Runtime] in
theorem not_inFlight_finish (state : ServerState) (call : ActiveCall) :
    ¬ (state.finish call).InFlight call.number := by
  rintro ⟨other, kept, same⟩
  have different := (List.mem_filter.mp kept).2
  rw [decide_eq_true_eq] at different
  exact different same

omit [Runtime] in
theorem idOrNull_some (id : Json) : idOrNull (some id) = id := by
  cases id with
  | null => rfl
  | _ => rfl

omit [Runtime] in
/-- What `handle` answers after a call carries the id of the call. -/
theorem answerOf_id {call : ActiveCall} {answer : Json}
    (answered : ServerState.answerOf call = some answer) : field? answer "id" = some call.id := by
  unfold ServerState.answerOf at answered
  split at answered
  · cases answered
    rw [field_id_response, idOrNull_some]
  · cases answered
    rw [field_id_rpcError, idOrNull_some]
  · cases answered

/-- Nothing happens, or a call that ended is finished and answered. -/
inductive Resumed (state : ServerState) (number : Nat) : ServerState → Prop where
  | waiting : Resumed state number state
  | finished (call : ActiveCall) (listed : call ∈ state.calls) (same : call.number = number)
      (answer : Json) (identified : field? answer "id" = some call.id) :
      Resumed state number ((state.finish call).send number answer)

omit [Runtime] in
theorem resumed (state : ServerState) (number : Nat) :
    Resumed state number (state.resume number) := by
  unfold ServerState.resume
  split
  · exact .waiting
  · rename_i call found
    have same : call.number = number := by simpa using List.find?_some found
    split
    · exact .waiting
    · rename_i answer answered
      exact .finished call (List.mem_of_find?_eq_some found) same answer (answerOf_id answered)

theorem Tracked.resume (tracked : Tracked nearest server messages state) (number : Nat) :
    Tracked nearest server messages (state.resume number) := by
  have moved := resumed state number
  generalize state.resume number = after at moved
  cases moved with
  | waiting => exact tracked
  | finished call listed same answer identified =>
      subst same
      exact (tracked.finish listed).send (tracked.inside ⟨call, listed, rfl⟩)
        (not_inFlight_finish state call) answer

theorem Tracked.fresh (tracked : Tracked nearest server messages state) :
    ¬ state.InFlight state.received ∧ state.responses state.received = [] := by
  constructor
  · intro flying
    exact Nat.lt_irrefl _ (tracked.inside flying)
  · exact state.responses_eq_nil_of_fresh _ tracked.known (Nat.le_refl _)

omit [Runtime] in
theorem cancelled_received (state : ServerState) (message : JsonObject) (count : Nat) :
    { state with received := count }.cancelled message =
      { state.cancelled message with received := count } := by
  unfold ServerState.cancelled
  split
  · rfl
  · dsimp only
    split
    · rfl
    · rfl

theorem Tracked.receive (tracked : Tracked nearest server messages state) (message : JsonObject) :
    Tracked nearest server (messages ++ [message]) (receive nearest server state message) := by
  have more := tracked.more message
  have fresh := tracked.fresh
  have shown : ∀ after, Handled nearest server state state.received message after →
      Tracked nearest server (messages ++ [message])
        { after with received := state.received + 1 } := by
    intro after handled
    cases handled with
    | left => exact more
    | cancelled =>
        rw [← cancelled_received]
        exact more.cancelled message
    | answered answer => exact more.send (Nat.lt_succ_self _) fresh.1 answer
    | started id expected method identified free =>
        refine more.start ?_ identified (expected.called method) free fresh.1 fresh.2
        rw [tracked.received, List.getElem?_append_right (Nat.le_refl _), Nat.sub_self]
        rfl
  exact shown _ (handled state state.received message)

theorem Run.tracked {allowed : ServerState → JsonObject → Prop}
    (run : Run nearest server allowed messages state) : Tracked nearest server messages state := by
  induction run with
  | initial => exact .initial
  | received _ message _ ih => exact ih.receive message
  | advanced _ number answer ih =>
      exact ih.update (keeps_proceed answer) (fun call runs => runs.proceed answer)
  | resumed _ number ih => exact ih.resume number

end

end ActionProxy.Wrapper
