import ActionProxy.Security.Crypto
import ActionProxy.Foundation.HashChain

/-!
The audit hash chain: what is hashed of an event, what the verifier reports, and
what a valid report says about the events. An event is what the stores return,
so its values are JSON values.
-/

namespace ActionProxy

open JsonText

/-! ### Events -/

/-- An audit event. `type` is one of the source's literal names. -/
structure AuditEvent where
  id : String
  type : String
  workspaceId : Option String
  toolCallId : Option String
  approvalId : Option String
  actor : Option String
  auth : Option JsonObject
  inputHash : Option String
  policyVersionId : Option String
  policyVersionHash : Option String
  previousEventHash : Option String
  eventHash : Option String
  timestamp : String
  data : JsonObject

mutual

/-- A value without its undefined members. -/
def stripUndefined : Json → Json
  | .arr items => .arr (stripItems items)
  | .obj members => .obj (stripMembers members)
  | value => value

def stripItems : List Json → List Json
  | [] => []
  | item :: rest => stripUndefined item :: stripItems rest

def stripMembers : JsonObject → JsonObject
  | [] => []
  | (_, none) :: rest => stripMembers rest
  | (key, some value) :: rest => (key, some (stripUndefined value)) :: stripMembers rest

end

mutual

/-- Undefined members do not appear in a text, so stripping them leaves it as it is. -/
theorem textWith_stripUndefined (order : MemberOrder) :
    ∀ value, textWith order (stripUndefined value) = textWith order value
  | .null => rfl
  | .bool _ => rfl
  | .num _ => rfl
  | .str _ => rfl
  | .arr items => by
      rw [stripUndefined, textWith, textWith, itemTexts_stripItems order items]
  | .obj members => by
      rw [stripUndefined, textWith, textWith, memberTexts_stripMembers order members]

theorem itemTexts_stripItems (order : MemberOrder) :
    ∀ items, itemTexts order (stripItems items) = itemTexts order items
  | [] => rfl
  | item :: rest => by
      rw [stripItems, itemTexts, itemTexts, textWith_stripUndefined order item,
        itemTexts_stripItems order rest]

theorem memberTexts_stripMembers (order : MemberOrder) :
    ∀ members, memberTexts order (stripMembers members) = memberTexts order members
  | [] => rfl
  | (_, none) :: rest => by
      rw [stripMembers, memberTexts, memberTexts_stripMembers order rest]
  | (key, some value) :: rest => by
      rw [stripMembers, memberTexts, memberTexts, textWith_stripUndefined order value,
        memberTexts_stripMembers order rest]

end

/-- The hashed fields of an event. -/
def hashInput (event : AuditEvent) : JsonObject :=
  [("actor", event.actor.map .str),
    ("approvalId", event.approvalId.map .str),
    ("auth", event.auth.map .obj),
    ("data", some (.obj event.data)),
    ("id", some (.str event.id)),
    ("inputHash", event.inputHash.map .str),
    ("policyVersionHash", event.policyVersionHash.map .str),
    ("policyVersionId", event.policyVersionId.map .str),
    ("previousEventHash", event.previousEventHash.map .str),
    ("timestamp", some (.str event.timestamp)),
    ("toolCallId", event.toolCallId.map .str),
    ("type", some (.str event.type)),
    ("workspaceId", event.workspaceId.map .str)]

def auditEventHash [Runtime] (event : AuditEvent) : String :=
  sha256Hex (stableStringify (stripUndefined (.obj (hashInput event))))

/-- Two events that agree on every hashed field, objects up to member order and
undefined members. -/
structure SameHashedFields (left right : AuditEvent) : Prop where
  actor : left.actor = right.actor
  approvalId : left.approvalId = right.approvalId
  auth : Option.Rel Same (left.auth.map .obj) (right.auth.map .obj)
  data : Same (.obj left.data) (.obj right.data)
  id : left.id = right.id
  inputHash : left.inputHash = right.inputHash
  policyVersionHash : left.policyVersionHash = right.policyVersionHash
  policyVersionId : left.policyVersionId = right.policyVersionId
  previousEventHash : left.previousEventHash = right.previousEventHash
  timestamp : left.timestamp = right.timestamp
  toolCallId : left.toolCallId = right.toolCallId
  type : left.type = right.type
  workspaceId : left.workspaceId = right.workspaceId

private theorem hashInput_distinct (event : AuditEvent) :
    ((hashInput event).map Prod.fst).Nodup := by
  simp only [hashInput, List.map_cons, List.map_nil]
  decide

theorem sameHashedFields_of_same {left right : AuditEvent}
    (same : Same (.obj (hashInput left)) (.obj (hashInput right))) :
    SameHashedFields left right := by
  have listed : ∀ (key : String) {leftValue rightValue : Option Json},
      (key, leftValue) ∈ hashInput left → (key, rightValue) ∈ hashInput right →
        Option.Rel Same leftValue rightValue := fun key _ _ inLeft inRight =>
    same_obj_listed same (hashInput_distinct left) (hashInput_distinct right) inLeft inRight
  have data : Option.Rel Same (some (.obj left.data)) (some (.obj right.data)) :=
    listed "data" (by simp [hashInput]) (by simp [hashInput])
  have id : left.id = right.id :=
    required_eq_of_rel (listed "id" (by simp [hashInput]) (by simp [hashInput]))
  have timestamp : left.timestamp = right.timestamp :=
    required_eq_of_rel (listed "timestamp" (by simp [hashInput]) (by simp [hashInput]))
  have type : left.type = right.type :=
    required_eq_of_rel (listed "type" (by simp [hashInput]) (by simp [hashInput]))
  exact
    { actor := text_eq_of_rel (listed "actor" (by simp [hashInput]) (by simp [hashInput]))
      approvalId := text_eq_of_rel (listed "approvalId" (by simp [hashInput]) (by simp [hashInput]))
      auth := listed "auth" (by simp [hashInput]) (by simp [hashInput])
      data := by
        cases data with
        | some values => exact values
      id := id
      inputHash := text_eq_of_rel (listed "inputHash" (by simp [hashInput]) (by simp [hashInput]))
      policyVersionHash := text_eq_of_rel
        (listed "policyVersionHash" (by simp [hashInput]) (by simp [hashInput]))
      policyVersionId := text_eq_of_rel
        (listed "policyVersionId" (by simp [hashInput]) (by simp [hashInput]))
      previousEventHash := text_eq_of_rel
        (listed "previousEventHash" (by simp [hashInput]) (by simp [hashInput]))
      timestamp := timestamp
      toolCallId := text_eq_of_rel
        (listed "toolCallId" (by simp [hashInput]) (by simp [hashInput]))
      type := type
      workspaceId := text_eq_of_rel
        (listed "workspaceId" (by simp [hashInput]) (by simp [hashInput])) }

theorem sameHashedFields_of_hash_eq [Runtime] (injective : Function.Injective sha256Hex)
    {left right : AuditEvent} (same : auditEventHash left = auditEventHash right) :
    SameHashedFields left right := by
  have texts := injective same
  have chars := String.ofList_injective texts
  rw [textWith_stripUndefined, textWith_stripUndefined] at chars
  exact sameHashedFields_of_same (same_of_textWith_eq chars)

/-! ### Verification -/

structure AuditVerificationError where
  eventId : String
  index : Nat
  reason : String
  deriving DecidableEq

structure AuditVerificationResult where
  checked : Nat
  firstEventHash : Option String
  lastEventHash : Option String
  valid : Bool
  errors : List AuditVerificationError
  deriving DecidableEq

section

variable [Runtime]

/-- The errors of one event, given the hash of the event before it. -/
def eventErrors (event : AuditEvent) (index : Nat) (previousEventHash : Option String) :
    List AuditVerificationError :=
  (if event.previousEventHash ≠ previousEventHash then
    [⟨event.id, index, "previous_event_hash_mismatch"⟩]
  else []) ++
  match event.eventHash with
  | none => [⟨event.id, index, "missing_event_hash"⟩]
  | some eventHash =>
      if eventHash = "" then [⟨event.id, index, "missing_event_hash"⟩]
      else if eventHash ≠ auditEventHash { event with eventHash := none } then
        [⟨event.id, index, "event_hash_mismatch"⟩]
      else []

/-- The loop of the verifier over the remaining events. -/
def collectErrors : List AuditEvent → Nat → Option String → List AuditVerificationError
  | [], _, _ => []
  | event :: rest, index, previousEventHash =>
      eventErrors event index previousEventHash ++
        collectErrors rest (index + 1) event.eventHash

def verifyAuditEvents (events : List AuditEvent) : AuditVerificationResult :=
  let errors := collectErrors events 0 none
  { checked := events.length
    firstEventHash := events.head?.bind AuditEvent.eventHash
    lastEventHash := events.getLast?.bind AuditEvent.eventHash
    valid := errors.isEmpty
    errors := errors }

/-- Audit events as entries of a hash chain. -/
def auditView : HashChain.View AuditEvent String :=
  { link := AuditEvent.previousEventHash
    stamp := AuditEvent.eventHash
    digest := auditEventHash }

theorem eventErrors_eq_nil_iff {event : AuditEvent} {index : Nat} {previous : Option String} :
    eventErrors event index previous = [] ↔
      event.previousEventHash = previous ∧ event.eventHash = some (auditEventHash event) ∧
        event.eventHash ≠ some "" := by
  have unsealed : auditEventHash { event with eventHash := none } = auditEventHash event := rfl
  unfold eventErrors
  rw [List.append_eq_nil_iff]
  cases stamp : event.eventHash with
  | none => simp
  | some eventHash =>
      rw [unsealed]
      by_cases empty : eventHash = "" <;> simp [empty]

theorem collectErrors_append (events : List AuditEvent) (last : AuditEvent) (index : Nat)
    (previous : Option String) :
    collectErrors (events ++ [last]) index previous =
      collectErrors events index previous ++
        eventErrors last (index + events.length)
          (if events = [] then previous else events.getLast?.bind AuditEvent.eventHash) := by
  induction events generalizing index previous with
  | nil => simp [collectErrors]
  | cons event rest ih =>
      have place : index + 1 + rest.length = index + (event :: rest).length := by
        rw [List.length_cons]
        omega
      have before : (if rest = [] then event.eventHash
          else rest.getLast?.bind AuditEvent.eventHash) =
          (event :: rest).getLast?.bind AuditEvent.eventHash := by
        cases rest with
        | nil => rfl
        | cons next others => simp [List.getLast?_cons_cons]
      rw [List.cons_append, collectErrors, collectErrors, ih, List.append_assoc, place, before,
        if_neg (List.cons_ne_nil event rest)]

/-- The loop reports nothing exactly on the rooted chains without an empty hash.
The induction is on the list from its newest event. -/
theorem collectErrors_eq_nil_iff (newestFirst : List AuditEvent) :
    collectErrors newestFirst.reverse 0 none = [] ↔
      HashChain.Rooted auditView newestFirst ∧
        ∀ event ∈ newestFirst, event.eventHash ≠ some "" := by
  induction newestFirst with
  | nil => simp [collectErrors, HashChain.Rooted]
  | cons event older ih =>
      have olderHead : (if older.reverse = [] then (none : Option String)
          else older.reverse.getLast?.bind AuditEvent.eventHash) =
          HashChain.head auditView older := by
        cases older with
        | nil => rfl
        | cons next oldest =>
            rw [if_neg (by simp), List.getLast?_reverse]
            rfl
      rw [List.reverse_cons, collectErrors_append, List.append_eq_nil_iff, olderHead,
        eventErrors_eq_nil_iff, ih]
      constructor
      · rintro ⟨⟨rooted, nonempty⟩, linked, stamped, notEmpty⟩
        refine ⟨⟨stamped, linked, rooted⟩, ?_⟩
        intro other member
        rcases List.mem_cons.mp member with atHead | inOlder
        · rw [atHead]
          exact notEmpty
        · exact nonempty other inOlder
      · rintro ⟨⟨stamped, linked, rooted⟩, nonempty⟩
        exact ⟨⟨rooted, fun other inOlder => nonempty other (List.mem_cons_of_mem _ inOlder)⟩,
          linked, stamped, nonempty event List.mem_cons_self⟩

theorem verifyAuditEvents_valid_iff (newestFirst : List AuditEvent) :
    (verifyAuditEvents newestFirst.reverse).valid = true ↔
      HashChain.Rooted auditView newestFirst ∧
        ∀ event ∈ newestFirst, event.eventHash ≠ some "" := by
  rw [← collectErrors_eq_nil_iff]
  exact List.isEmpty_iff

theorem lastEventHash_reverse (newestFirst : List AuditEvent) :
    (verifyAuditEvents newestFirst.reverse).lastEventHash =
      HashChain.head auditView newestFirst := by
  simp only [verifyAuditEvents, List.getLast?_reverse]
  rfl

/-- The last event hash of a valid log commits to the whole log. -/
theorem verifyAuditEvents_head_commits (injective : Function.Injective sha256Hex)
    {left right : List AuditEvent} {eventHash : String}
    (leftValid : (verifyAuditEvents left).valid = true)
    (rightValid : (verifyAuditEvents right).valid = true)
    (leftLast : (verifyAuditEvents left).lastEventHash = some eventHash)
    (rightLast : (verifyAuditEvents right).lastEventHash = some eventHash) :
    left.length = right.length ∧ List.Forall₂ SameHashedFields left right := by
  have determines : ∀ first second : AuditEvent,
      auditView.digest first = auditView.digest second →
        SameHashedFields first second ∧ auditView.link first = auditView.link second := by
    intro first second same
    have fields := sameHashedFields_of_hash_eq injective same
    exact ⟨fields, fields.previousEventHash⟩
  rw [← left.reverse_reverse] at leftValid leftLast ⊢
  rw [← right.reverse_reverse] at rightValid rightLast ⊢
  rw [lastEventHash_reverse] at leftLast rightLast
  have related := HashChain.Rooted.related_of_head_eq determines
    ((verifyAuditEvents_valid_iff _).mp leftValid).1
    ((verifyAuditEvents_valid_iff _).mp rightValid).1 (leftLast.trans rightLast.symm)
  have forward := List.rel_reverse related
  exact ⟨forward.length_eq, forward⟩

end

private def sampleEvent (data : JsonObject) : AuditEvent :=
  { id := "evt_1"
    type := "tool_call.submitted"
    workspaceId := some "default"
    toolCallId := none
    approvalId := none
    actor := none
    auth := none
    inputHash := none
    policyVersionId := none
    policyVersionHash := none
    previousEventHash := none
    eventHash := some "ecdbff3b2b4f552295fcbb918c2218e97f5dc25e87764b84755dc2e8e50dd0e9"
    timestamp := "2026-07-10T10:00:00.005Z"
    data := data }

private def sampleDigests : List (String × String) :=
  [("\x7b\"data\":\x7b\"amount\":7,\"tool\":\"mail\"\x7d,\"id\":\"evt_1\"," ++
      "\"timestamp\":\"2026-07-10T10:00:00.005Z\",\"type\":\"tool_call.submitted\"," ++
      "\"workspaceId\":\"default\"\x7d",
    "ecdbff3b2b4f552295fcbb918c2218e97f5dc25e87764b84755dc2e8e50dd0e9")]

private def sampleData : JsonObject :=
  [("amount", some (.num (JsonNumber.ofDigit 7 (by decide)))), ("tool", some (.str "mail"))]

set_option maxRecDepth 20000 in
/-- One event under two member orders, with an undefined member in the second. -/
theorem verifyAuditEvents_head_commits_sample :
    List.Forall₂ SameHashedFields [sampleEvent sampleData]
      [sampleEvent (("note", none) :: sampleData.reverse)] :=
  (@verifyAuditEvents_head_commits (sampleRuntime sampleDigests)
    (knownDigest_injective (by decide) (by decide)) [sampleEvent sampleData]
    [sampleEvent (("note", none) :: sampleData.reverse)]
    "ecdbff3b2b4f552295fcbb918c2218e97f5dc25e87764b84755dc2e8e50dd0e9"
    (by decide) (by decide) (by decide) (by decide)).2

end ActionProxy
