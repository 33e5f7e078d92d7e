import ActionProxy.Integrations.TelegramPresentation
import ActionProxy.Routes.AuthorizedActions
import Mathlib.Data.Fintype.EquivFin

/-!
The overview of the dashboard, in the blocks that read tool calls or audit events. Both are
fetched up to a count over all workspaces and then cut down to what the caller sees, so rows of
another workspace can push the caller's own out of the overview.
-/

namespace ActionProxy

open JsonText

/-! ### What the overview reads -/

inductive DashboardWindow where
  | day | week | month
  deriving DecidableEq

def windowMs : DashboardWindow → Int
  | .day => 24 * 60 * 60 * 1000
  | .week => 7 * 24 * 60 * 60 * 1000
  | .month => 30 * 24 * 60 * 60 * 1000

def approvalSlaMs : Int := 4 * 60 * 60 * 1000

/-- A delivery of an approval, as far as the overview reads it. -/
structure OverviewDelivery where
  approvalId : String
  createdAt : String
  status : ApprovalDeliveryStatus

/-- The stores of the overview. A tool call is held under its id, and an event is logged once. -/
structure DashboardStores where
  store : MemoryStore
  auditStore : JsonlStore
  approvalDeliveries : List OverviewDelivery
  keyed : ∀ entry ∈ store.toolCalls.entries, entry.1 = entry.2.id
  distinct : (auditStore.lines.map AuditEvent.id).Nodup

def MemoryStore.listPendingApprovals (store : MemoryStore) : List ApprovalRecord :=
  store.approvals.values.filter (fun approval => decide (approval.status = .pending))

/-! ### The blocks of the overview -/

structure OverviewCounts where
  blockedCount : Nat
  deniedDestructiveAttempts : Nat
  decisionCounts : List (PolicyDecision × Nat)
  failedExecutions : Nat
  highRiskPendingApprovals : Nat
  notificationFailures : Nat
  pendingApprovals : Nat
  riskCounts : KeyedTable String Nat
  statusCounts : List (ToolCallStatus × Nat)
  totalToolCalls : Nat
  uniqueAgents : Nat
  uniqueTools : Nat
  windowToolCalls : Nat

structure OldestPendingApproval where
  approvalId : String
  createdAt : String
  toolCallId : String

/-- An age is missing where a date is not one. -/
structure OverviewApprovalHealth where
  failedDeliveries : Nat
  oldestPendingAgeMs : Option Int
  oldestPendingApproval : Option OldestPendingApproval
  pendingCount : Nat
  slaBreaches : Nat
  slaTargetMs : Int

structure HighRiskItem where
  ageMs : Option Int
  approvalId : String
  createdAt : String
  reason : Option String
  requestedBy : String
  risk : String
  toolCallId : String
  toolName : String

structure IntegrationFailure where
  actor : Option String
  «at» : String
  message : String
  type : String

structure SensitiveDecision where
  actor : String
  decision : Option PolicyDecision
  editedPayload : Bool
  policyVersionHash : Option String
  risk : String
  status : ToolCallStatus
  timestamp : String
  toolCallId : String
  toolName : String

structure DashboardOverview where
  counts : OverviewCounts
  approvalHealth : OverviewApprovalHealth
  /-- Of the policy block. -/
  lastUpdatedAt : Option String
  lastUpdatedBy : Option String
  /-- Of the integrations block. -/
  lastFailure : Option IntegrationFailure
  failing : Nat
  highRiskQueue : List HighRiskItem
  recentSensitiveDecisions : List SensitiveDecision

def statusKeys : List ToolCallStatus :=
  [.submitted, .authorized, .executed, .pendingApproval, .blocked, .rejected, .failed]

def decisionKeys : List PolicyDecision := [.allow, .requireApproval, .deny]

/-- How many items have each key. -/
def countBy {Item Key : Type} [DecidableEq Key] (keys : List Key) (items : List Item)
    (getKey : Item → Option Key) : List (Key × Nat) :=
  keys.map fun key => (key, items.countP (fun item => decide (getKey item = some key)))

def countOf {Key : Type} [DecidableEq Key] (counts : List (Key × Nat)) (key : Key) : Nat :=
  ((counts.find? (fun entry => decide (entry.1 = key))).map Prod.snd).getD 0

/-- `risk ?? 'unknown'`. -/
def riskOf (toolCall : ToolCallRecord) : String := toolCall.risk.getD "unknown"

def riskCounts (toolCalls : List ToolCallRecord) : KeyedTable String Nat :=
  toolCalls.foldl
    (fun counts toolCall =>
      counts.set (riskOf toolCall) ((counts.get? (riskOf toolCall)).getD 0 + 1))
    .empty

def isHighRisk (risk : String) : Bool := risk != "read_only"

def riskRank (risk : String) : Nat :=
  if risk = "destructive" then 5
  else if risk = "data_mutation" then 4
  else if risk = "external_communication" then 3
  else if risk = "unknown" then 2
  else 1

def integrationFailureTypes : List String :=
  ["approval_notification.failed", "slack.approval_notification.failed",
    "email.approval_notification.failed", "telegram.approval_notification.failed",
    "slack.interaction.failed", "telegram.interaction.failed", "integration.slack.test_failed",
    "integration.telegram.test_failed", "integration.email.test_failed"]

def isIntegrationFailureEvent (event : AuditEvent) : Bool :=
  integrationFailureTypes.contains event.type

def isPolicyUpdate (event : AuditEvent) : Bool := event.type == "policy.updated"

def summarizeFailure (event : AuditEvent) : IntegrationFailure :=
  { actor := event.actor
    «at» := event.timestamp
    message := ((member? event.data "error").bind asString?).getD event.type
    type := event.type }

section

variable [Runtime]

def ageMs (approval : ApprovalRecord) (now : Int) : Option Int :=
  (dateParse approval.createdAt).map (now - ·)

/-- The comparison of the queue: by risk, then by age; an age that is missing ties. -/
def riskier (left right : HighRiskItem) : Bool :=
  decide (riskRank right.risk < riskRank left.risk) ||
    (decide (riskRank right.risk = riskRank left.risk) &&
      match left.ageMs, right.ageMs with
      | some leftAge, some rightAge => decide (rightAge ≤ leftAge)
      | _, _ => true)

def highRiskQueue (approvals : List ApprovalRecord)
    (toolCallById : KeyedTable String ToolCallRecord) (now : Int) : List HighRiskItem :=
  let items := approvals.map fun approval =>
    let toolCall := toolCallById.get? approval.toolCallId
    { ageMs := ageMs approval now
      approvalId := approval.id
      createdAt := approval.createdAt
      reason := toolCall.map ToolCallRecord.reason
      requestedBy := approval.requestedBy
      risk := (toolCall.bind ToolCallRecord.risk).getD "unknown"
      toolCallId := approval.toolCallId
      toolName := (toolCall.map ToolCallRecord.toolName).getD approval.toolCallId }
  (items.filter (fun item => isHighRisk item.risk)).insertionSort
    (fun left right => riskier left right = true)

/-- `Math.max` over the ages, from zero. -/
def oldestPendingAge (approvals : List ApprovalRecord) (now : Int) : Option Int :=
  approvals.foldl
    (fun oldest approval => oldest.bind fun age => (ageMs approval now).map (max age)) (some 0)

def oldestPendingApproval (approvals : List ApprovalRecord) : Option OldestPendingApproval :=
  let oldestFirst := approvals.insertionSort
    (fun left right => (Runtime.localeCompare left.createdAt right.createdAt).isLE = true)
  oldestFirst.head?.map fun approval =>
    { approvalId := approval.id
      createdAt := approval.createdAt
      toolCallId := approval.toolCallId }

omit [Runtime] in
def isSensitive (toolCall : ToolCallRecord) : Bool :=
  isHighRisk (riskOf toolCall) || toolCall.decision == some .deny ||
    toolCall.status == .blocked || toolCall.status == .rejected || toolCall.status == .failed

omit [Runtime] in
/-- `editedInput` of the event's data is neither undefined nor null. -/
def editsPayload (event : AuditEvent) : Bool :=
  match member? event.data "editedInput" with
  | none | some .null => false
  | some _ => true

omit [Runtime] in
def isDecisionEvent (event : AuditEvent) : Bool :=
  ["approval.approved", "approval.cancelled", "approval.expired", "approval.rejected"].contains
    event.type

def recentSensitiveDecisions (toolCalls : List ToolCallRecord) (auditEvents : List AuditEvent) :
    List SensitiveDecision :=
  ((toolCalls.filter isSensitive).insertionSort (NewerFirst ToolCallRecord.updatedAt)).map
    fun toolCall =>
      let events := auditEvents.filter
        (fun event => nonEmpty event.toolCallId == some toolCall.id)
      let approvalEvent := events.find? isDecisionEvent
      { actor := (approvalEvent.bind AuditEvent.actor).getD toolCall.requestedBy
        decision := toolCall.decision
        editedPayload := events.any editsPayload
        policyVersionHash := toolCall.policyVersionHash
        risk := riskOf toolCall
        status := toolCall.status
        timestamp := toolCall.updatedAt
        toolCallId := toolCall.id
        toolName := toolCall.toolName }

def listApprovalDeliveries (deliveries : List OverviewDelivery) (approvalId : String) :
    List OverviewDelivery :=
  (deliveries.filter (fun delivery => delivery.approvalId == approvalId)).insertionSort
    (NewerFirst OverviewDelivery.createdAt)

def pendingApprovalDeliveries (deliveries : List OverviewDelivery)
    (approvals : List ApprovalRecord) : List OverviewDelivery :=
  approvals.flatMap fun approval => listApprovalDeliveries deliveries approval.id

/-! ### The overview -/

/-- The overview of what the caller sees; the events come newest first. -/
def overviewOf (now : Int) (window : DashboardWindow) (approvals : List ApprovalRecord)
    (approvalDeliveries : List OverviewDelivery) (toolCalls : List ToolCallRecord)
    (auditEvents : List AuditEvent) : DashboardOverview :=
  let toolCallById := toolCalls.foldl (fun table toolCall => table.set toolCall.id toolCall) .empty
  let deliveries := pendingApprovalDeliveries approvalDeliveries approvals
  let failedDeliveries := deliveries.countP (fun delivery => decide (delivery.status = .failed))
  let statusCounts := countBy statusKeys toolCalls (fun toolCall => some toolCall.status)
  let pendingQueue := highRiskQueue approvals toolCallById now
  let latestPolicyUpdate := auditEvents.find? isPolicyUpdate
  let latestIntegrationFailure := auditEvents.find? isIntegrationFailureEvent
  { counts :=
      { blockedCount := countOf statusCounts .blocked
        deniedDestructiveAttempts := toolCalls.countP
          (fun toolCall => toolCall.decision == some .deny && riskOf toolCall == "destructive")
        decisionCounts := countBy decisionKeys toolCalls ToolCallRecord.decision
        failedExecutions := countOf statusCounts .failed
        highRiskPendingApprovals := pendingQueue.length
        notificationFailures := failedDeliveries
        pendingApprovals := approvals.length
        riskCounts := riskCounts toolCalls
        statusCounts := statusCounts
        totalToolCalls := toolCalls.length
        uniqueAgents := (toolCalls.map ToolCallRecord.agentId).dedup.length
        uniqueTools := (toolCalls.map ToolCallRecord.toolName).dedup.length
        windowToolCalls := toolCalls.countP
          (fun toolCall => (dateParse toolCall.createdAt).any
            (fun created => decide (now - windowMs window ≤ created))) }
    approvalHealth :=
      { failedDeliveries := failedDeliveries
        oldestPendingAgeMs :=
          match pendingQueue.head? with
          | some oldest => oldest.ageMs
          | none => oldestPendingAge approvals now
        oldestPendingApproval := oldestPendingApproval approvals
        pendingCount := approvals.length
        slaBreaches := approvals.countP
          (fun approval => (ageMs approval now).any (fun age => decide (approvalSlaMs < age)))
        slaTargetMs := approvalSlaMs }
    lastUpdatedAt := latestPolicyUpdate.map AuditEvent.timestamp
    lastUpdatedBy := latestPolicyUpdate.bind AuditEvent.actor
    lastFailure := latestIntegrationFailure.map summarizeFailure
    failing := if latestIntegrationFailure.isSome then 1 else 0
    highRiskQueue := pendingQueue.take 5
    recentSensitiveDecisions := (recentSensitiveDecisions toolCalls auditEvents).take 8 }

omit [Runtime] in
theorem thousand_positive : (1 : ℚ) ≤ 1000 := by norm_num

omit [Runtime] in
/-- `{ limit: 1000 }`. -/
def thousandToolCalls : ListToolCallsFilters :=
  { decision := none
    limit := some (.count 1000 thousand_positive)
    runId := none
    sessionId := none
    status := none
    toolName := none
    workspaceId := none }

def fetchedToolCalls (stores : DashboardStores) : List ToolCallRecord :=
  stores.store.listToolCalls thousandToolCalls

omit [Runtime] in
def fetchedEvents (stores : DashboardStores) : List AuditEvent :=
  stores.auditStore.list (.count 1000) {}

omit [Runtime] in
def isVisibleCall (auth : AuthContext) (toolCall : ToolCallRecord) : Bool :=
  visibleForWorkspace toolCall.workspaceId auth

omit [Runtime] in
def isVisibleEvent (auth : AuthContext) (event : AuditEvent) : Bool :=
  visibleForWorkspace event.workspaceId auth

def visibleToolCalls (auth : AuthContext) (stores : DashboardStores) : List ToolCallRecord :=
  (fetchedToolCalls stores).filter (isVisibleCall auth)

omit [Runtime] in
/-- The visible events of those fetched, in the order of the log. -/
def visibleEvents (auth : AuthContext) (stores : DashboardStores) : List AuditEvent :=
  (fetchedEvents stores).filter (isVisibleEvent auth)

def visibleAuditEvents (auth : AuthContext) (stores : DashboardStores) : List AuditEvent :=
  (visibleEvents auth stores).insertionSort (NewerFirst AuditEvent.timestamp)

omit [Runtime] in
def visiblePendingApprovals (auth : AuthContext) (stores : DashboardStores) :
    List ApprovalRecord :=
  stores.store.listPendingApprovals.filter
    (fun approval => visibleForWorkspace approval.workspaceId auth)

def dashboardOverview (auth : AuthContext) (window : DashboardWindow) (stores : DashboardStores)
    (now : Int) : DashboardOverview :=
  overviewOf now window (visiblePendingApprovals auth stores) stores.approvalDeliveries
    (visibleToolCalls auth stores) (visibleAuditEvents auth stores)

/-! ### Rows of other workspaces -/

omit [Runtime] in
/-- The stores differ in tool calls and events that the caller does not see, and in nothing
else. -/
structure DiffersElsewhere (auth : AuthContext) (first second : DashboardStores) : Prop where
  others : second.store = { first.store with toolCalls := second.store.toolCalls }
  approvalDeliveries : second.approvalDeliveries = first.approvalDeliveries
  toolCalls : second.store.toolCalls.entries.filter (fun entry => isVisibleCall auth entry.2) =
    first.store.toolCalls.entries.filter (fun entry => isVisibleCall auth entry.2)
  events : second.auditStore.lines.filter (isVisibleEvent auth) =
    first.auditStore.lines.filter (isVisibleEvent auth)

omit [Runtime] in
/-- The tool calls that the caller sees in the whole store. -/
def ownToolCalls (auth : AuthContext) (stores : DashboardStores) : List ToolCallRecord :=
  stores.store.toolCalls.values.filter (isVisibleCall auth)

omit [Runtime] in
/-- The events that the caller sees in the whole log, newest first. -/
def ownEvents (auth : AuthContext) (stores : DashboardStores) : List AuditEvent :=
  (stores.auditStore.lines.filter (isVisibleEvent auth)).reverse

omit [Runtime] in
/-- The store holds nothing of the caller's that other rows can push out of the overview: no
tool call, and among the newest thousand events no policy update and no failed integration. -/
structure NothingToPushOut (auth : AuthContext) (stores : DashboardStores) : Prop where
  toolCalls : ownToolCalls auth stores = []
  events : ∀ event ∈ (ownEvents auth stores).take 1000,
    isPolicyUpdate event = false ∧ isIntegrationFailureEvent event = false

theorem fetchedToolCalls_eq (stores : DashboardStores) :
    fetchedToolCalls stores =
      (stores.store.toolCalls.values.insertionSort
        (NewerFirst ToolCallRecord.createdAt)).take 1000 := by
  have all : stores.store.toolCalls.values.filter (memorySelects thousandToolCalls) =
      stores.store.toolCalls.values := List.filter_eq_self.mpr (fun _ _ => rfl)
  have slice : sliceEnd thousandToolCalls.limit = some 1000 := by
    show some (mathTrunc 1000).toNat = some 1000
    have floor : mathTrunc 1000 = 1000 := by
      rw [mathTrunc, if_pos (by norm_num)]
      exact Int.floor_ofNat 1000
    rw [floor]
    rfl
  rw [fetchedToolCalls, MemoryStore.listToolCalls, all, slice, Newest.limited]

omit [Runtime] in
theorem fetchedEvents_eq (stores : DashboardStores) :
    fetchedEvents stores = stores.auditStore.lines.reverse.take 1000 := by
  have limit : safeLimit (.count 1000) = some 1000 := by
    have floor : mathTrunc 1000 = 1000 := by
      rw [mathTrunc, if_pos (by norm_num)]
      exact Int.floor_ofNat 1000
    rw [safeLimit, floor]
    rfl
  rw [fetchedEvents, JsonlStore.list_eq, listedCount, limit]
  dsimp only
  rw [List.take_eq_take_iff, List.length_reverse]
  omega

theorem visibleToolCalls_first [Std.TransCmp Runtime.localeCompare] (auth : AuthContext)
    (stores : DashboardStores) :
    visibleToolCalls auth stores <+:
      (ownToolCalls auth stores).insertionSort (NewerFirst ToolCallRecord.createdAt) := by
  have part := StableSelection.filter_take_first (isVisibleCall auth)
    (stores.store.toolCalls.values.insertionSort (NewerFirst ToolCallRecord.createdAt)) 1000
  rw [filter_newestFirst] at part
  rw [visibleToolCalls, fetchedToolCalls_eq]
  exact part.trans (List.take_prefix _ _)

omit [Runtime] in
theorem visibleEvents_first (auth : AuthContext) (stores : DashboardStores) :
    visibleEvents auth stores <+: (ownEvents auth stores).take 1000 := by
  have part := StableSelection.filter_take_first (isVisibleEvent auth)
    stores.auditStore.lines.reverse 1000
  rw [List.filter_reverse] at part
  rw [visibleEvents, fetchedEvents_eq]
  exact part

namespace DiffersElsewhere

variable {auth : AuthContext} {first second : DashboardStores}

omit [Runtime] in
theorem own_calls (differs : DiffersElsewhere auth first second) :
    ownToolCalls auth second = ownToolCalls auth first := by
  have each : ∀ stores : DashboardStores, ownToolCalls auth stores =
      (stores.store.toolCalls.entries.filter (fun entry => isVisibleCall auth entry.2)).map
        Prod.snd := fun stores => List.filter_map
  rw [each, each, differs.toolCalls]

omit [Runtime] in
theorem own_events (differs : DiffersElsewhere auth first second) :
    ownEvents auth second = ownEvents auth first := by
  rw [ownEvents, differs.events, ownEvents]

omit [Runtime] in
theorem pending (differs : DiffersElsewhere auth first second) :
    visiblePendingApprovals auth second = visiblePendingApprovals auth first := by
  rw [visiblePendingApprovals, differs.others]
  rfl

theorem same_of_windows (differs : DiffersElsewhere auth first second) (window : DashboardWindow)
    (now : Int) (calls : visibleToolCalls auth second = visibleToolCalls auth first)
    (events : visibleEvents auth second = visibleEvents auth first) :
    dashboardOverview auth window second now = dashboardOverview auth window first now := by
  unfold dashboardOverview visibleAuditEvents
  rw [differs.pending, differs.approvalDeliveries, calls, events]

theorem same_of_counts [Std.TransCmp Runtime.localeCompare]
    (differs : DiffersElsewhere auth first second) (window : DashboardWindow) (now : Int)
    (calls : (visibleToolCalls auth second).length = (visibleToolCalls auth first).length)
    (events : (visibleEvents auth second).length = (visibleEvents auth first).length) :
    dashboardOverview auth window second now = dashboardOverview auth window first now := by
  apply differs.same_of_windows
  · have other := visibleToolCalls_first auth second
    rw [differs.own_calls] at other
    exact (List.prefix_of_prefix_length_le other (visibleToolCalls_first auth first)
      calls.le).eq_of_length calls
  · have other := visibleEvents_first auth second
    rw [differs.own_events] at other
    exact (List.prefix_of_prefix_length_le other (visibleEvents_first auth first)
      events.le).eq_of_length events

end DiffersElsewhere

/-! ### Stores with nothing to push out -/

theorem overviewOf_totalToolCalls (now : Int) (window : DashboardWindow)
    (approvals : List ApprovalRecord) (deliveries : List OverviewDelivery)
    (toolCalls : List ToolCallRecord) (events : List AuditEvent) :
    (overviewOf now window approvals deliveries toolCalls events).counts.totalToolCalls =
      toolCalls.length := rfl

theorem overviewOf_lastUpdatedAt (now : Int) (window : DashboardWindow)
    (approvals : List ApprovalRecord) (deliveries : List OverviewDelivery)
    (toolCalls : List ToolCallRecord) (events : List AuditEvent) :
    (overviewOf now window approvals deliveries toolCalls events).lastUpdatedAt =
      (events.find? isPolicyUpdate).map AuditEvent.timestamp := rfl

theorem overviewOf_lastFailure (now : Int) (window : DashboardWindow)
    (approvals : List ApprovalRecord) (deliveries : List OverviewDelivery)
    (toolCalls : List ToolCallRecord) (events : List AuditEvent) :
    (overviewOf now window approvals deliveries toolCalls events).lastFailure =
      (events.find? isIntegrationFailureEvent).map summarizeFailure := rfl

/-- Without tool calls only a policy update and a failed integration are read of the events. -/
theorem overviewOf_unreported {events : List AuditEvent}
    (unreported : ∀ event ∈ events,
      isPolicyUpdate event = false ∧ isIntegrationFailureEvent event = false)
    (now : Int) (window : DashboardWindow) (approvals : List ApprovalRecord)
    (deliveries : List OverviewDelivery) :
    overviewOf now window approvals deliveries [] events =
      overviewOf now window approvals deliveries [] [] := by
  have update : events.find? isPolicyUpdate = none := by
    rw [List.find?_eq_none]
    exact fun event listed => Bool.eq_false_iff.mp (unreported event listed).1
  have failure : events.find? isIntegrationFailureEvent = none := by
    rw [List.find?_eq_none]
    exact fun event listed => Bool.eq_false_iff.mp (unreported event listed).2
  unfold overviewOf
  rw [update, failure]
  rfl

theorem mem_visibleAuditEvents {auth : AuthContext} {stores : DashboardStores}
    {event : AuditEvent} :
    event ∈ visibleAuditEvents auth stores ↔ event ∈ visibleEvents auth stores :=
  List.mem_insertionSort _

theorem NothingToPushOut.overview [Std.TransCmp Runtime.localeCompare] {auth : AuthContext}
    {stores : DashboardStores} (nothing : NothingToPushOut auth stores)
    (window : DashboardWindow) (now : Int) :
    dashboardOverview auth window stores now =
      overviewOf now window (visiblePendingApprovals auth stores) stores.approvalDeliveries
        [] [] := by
  have noCalls : visibleToolCalls auth stores = [] := by
    have part := visibleToolCalls_first auth stores
    rw [nothing.toolCalls] at part
    exact List.prefix_nil.mp part
  rw [dashboardOverview, noCalls]
  apply overviewOf_unreported
  intro event listed
  have shown := mem_visibleAuditEvents.mp listed
  exact nothing.events event ((visibleEvents_first auth stores).subset shown)

theorem NothingToPushOut.same [Std.TransCmp Runtime.localeCompare] {auth : AuthContext}
    {first second : DashboardStores} (nothing : NothingToPushOut auth first)
    (differs : DiffersElsewhere auth first second) (window : DashboardWindow) (now : Int) :
    dashboardOverview auth window second now = dashboardOverview auth window first now := by
  have others : NothingToPushOut auth second :=
    { toolCalls := by rw [differs.own_calls, nothing.toolCalls]
      events := by rw [differs.own_events]; exact nothing.events }
  rw [others.overview, nothing.overview, differs.pending, differs.approvalDeliveries]

/-! ### Stores with other rows of other workspaces -/

omit [Runtime] in
/-- Rows of other workspaces that can stand beside the caller's own. -/
structure ForeignRows (auth : AuthContext) (stores : DashboardStores) where
  toolCalls : List ToolCallRecord
  events : List AuditEvent
  foreignCalls : ∀ toolCall ∈ toolCalls, isVisibleCall auth toolCall = false
  foreignEvents : ∀ event ∈ events, isVisibleEvent auth event = false
  callIds : (toolCalls.map ToolCallRecord.id ++
    stores.store.toolCalls.entries.map Prod.fst).Nodup
  eventIds : (stores.auditStore.lines.map AuditEvent.id ++ events.map AuditEvent.id).Nodup

namespace ForeignRows

variable {auth : AuthContext} {stores : DashboardStores}

omit [Runtime] in
def callEntries (rows : ForeignRows auth stores) : List (String × ToolCallRecord) :=
  rows.toolCalls.map (fun toolCall => (toolCall.id, toolCall)) ++
    stores.store.toolCalls.entries.filter (fun entry => isVisibleCall auth entry.2)

omit [Runtime] in
theorem callEntries_distinct (rows : ForeignRows auth stores) :
    (rows.callEntries.map Prod.fst).Nodup := by
  have keys : rows.callEntries.map Prod.fst = rows.toolCalls.map ToolCallRecord.id ++
      (stores.store.toolCalls.entries.filter
        (fun entry => isVisibleCall auth entry.2)).map Prod.fst := by
    rw [callEntries, List.map_append, List.map_map]
    rfl
  rw [keys]
  refine rows.callIds.sublist (List.Sublist.append_left ?_ _)
  exact List.filter_sublist.map Prod.fst

omit [Runtime] in
theorem callEntries_keyed (rows : ForeignRows auth stores) :
    ∀ entry ∈ rows.callEntries, entry.1 = entry.2.id := by
  intro entry listed
  rcases List.mem_append.mp listed with foreign | own
  · obtain ⟨toolCall, _, rfl⟩ := List.mem_map.mp foreign
    rfl
  · exact stores.keyed entry (List.mem_filter.mp own).1

omit [Runtime] in
def lines (rows : ForeignRows auth stores) : List AuditEvent :=
  stores.auditStore.lines.filter (isVisibleEvent auth) ++ rows.events

omit [Runtime] in
theorem lines_distinct (rows : ForeignRows auth stores) :
    (rows.lines.map AuditEvent.id).Nodup := by
  rw [lines, List.map_append]
  refine rows.eventIds.sublist (List.Sublist.append_right ?_ _)
  exact List.filter_sublist.map AuditEvent.id

omit [Runtime] in
/-- The caller's own rows with these rows of other workspaces, and no others, beside them. -/
def beside (rows : ForeignRows auth stores) : DashboardStores :=
  { store :=
      { stores.store with
        toolCalls := { entries := rows.callEntries, distinct := rows.callEntries_distinct } }
    auditStore :=
      { lines := rows.lines
        eventIds := rows.lines.map AuditEvent.id }
    approvalDeliveries := stores.approvalDeliveries
    keyed := rows.callEntries_keyed
    distinct := rows.lines_distinct }

omit [Runtime] in
theorem differs (rows : ForeignRows auth stores) : DiffersElsewhere auth stores rows.beside :=
  { others := rfl
    approvalDeliveries := rfl
    toolCalls := by
      show rows.callEntries.filter (fun entry => isVisibleCall auth entry.2) = _
      have none : (rows.toolCalls.map (fun toolCall => (toolCall.id, toolCall))).filter
          (fun entry => isVisibleCall auth entry.2) = [] := by
        rw [List.filter_eq_nil_iff]
        intro entry listed
        obtain ⟨toolCall, foreign, rfl⟩ := List.mem_map.mp listed
        exact Bool.eq_false_iff.mp (rows.foreignCalls toolCall foreign)
      rw [callEntries, List.filter_append, none, List.nil_append, List.filter_filter]
      simp only [Bool.and_self]
    events := by
      show rows.lines.filter (isVisibleEvent auth) = _
      have none : rows.events.filter (isVisibleEvent auth) = [] := by
        rw [List.filter_eq_nil_iff]
        exact fun event foreign => Bool.eq_false_iff.mp (rows.foreignEvents event foreign)
      rw [lines, List.filter_append, none, List.append_nil, List.filter_filter]
      simp only [Bool.and_self] }

omit [Runtime] in
theorem values_beside (rows : ForeignRows auth stores) :
    rows.beside.store.toolCalls.values = rows.toolCalls ++ ownToolCalls auth stores := by
  show rows.callEntries.map Prod.snd = _
  have own : ownToolCalls auth stores = (stores.store.toolCalls.entries.filter
      (fun entry => isVisibleCall auth entry.2)).map Prod.snd := List.filter_map
  rw [callEntries, List.map_append, List.map_map, own]
  congr 1
  exact List.map_id _

omit [Runtime] in
/-- No rows at all. -/
def none (auth : AuthContext) (stores : DashboardStores) : ForeignRows auth stores :=
  { toolCalls := []
    events := []
    foreignCalls := fun _ listed => absurd listed List.not_mem_nil
    foreignEvents := fun _ listed => absurd listed List.not_mem_nil
    callIds := stores.store.toolCalls.distinct
    eventIds := by
      rw [List.map_nil, List.append_nil]
      exact stores.distinct }

theorem visibleToolCalls_none (auth : AuthContext) (stores : DashboardStores) :
    visibleToolCalls auth (none auth stores).beside =
      ((ownToolCalls auth stores).insertionSort
        (NewerFirst ToolCallRecord.createdAt)).take 1000 := by
  rw [visibleToolCalls, fetchedToolCalls_eq, values_beside]
  show List.filter (isVisibleCall auth) (((ownToolCalls auth stores).insertionSort
    (NewerFirst ToolCallRecord.createdAt)).take 1000) = _
  rw [List.filter_eq_self]
  intro toolCall shown
  have own := (List.mem_insertionSort _).mp (List.mem_of_mem_take shown)
  exact (List.mem_filter.mp own).2

omit [Runtime] in
theorem visibleEvents_none (auth : AuthContext) (stores : DashboardStores) :
    visibleEvents auth (none auth stores).beside = (ownEvents auth stores).take 1000 := by
  have same : (none auth stores).beside.auditStore.lines.reverse = ownEvents auth stores := by
    show (stores.auditStore.lines.filter (isVisibleEvent auth) ++ []).reverse = _
    rw [List.append_nil, ownEvents]
  rw [visibleEvents, fetchedEvents_eq, same, List.filter_eq_self]
  intro event shown
  have own := List.mem_reverse.mp (List.mem_of_mem_take shown)
  exact (List.mem_filter.mp own).2

end ForeignRows

/-! ### A workspace that floods the windows -/

omit [Runtime] in
theorem exists_fresh (taken : List String) (count : Nat) :
    ∃ fresh : List String, fresh.length = count ∧ fresh.Nodup ∧ ∀ id ∈ fresh, id ∉ taken := by
  induction count with
  | zero => exact ⟨[], rfl, List.nodup_nil, fun _ listed => absurd listed List.not_mem_nil⟩
  | succ count ih =>
      obtain ⟨fresh, length, distinct, unused⟩ := ih
      obtain ⟨id, absent⟩ := Infinite.exists_notMem_finset (taken ++ fresh).toFinset
      rw [List.mem_toFinset, List.mem_append, not_or] at absent
      refine ⟨id :: fresh, by rw [List.length_cons, length], ?_, ?_⟩
      · exact List.nodup_cons.mpr ⟨absent.2, distinct⟩
      · intro other listed
        rcases List.mem_cons.mp listed with rfl | inFresh
        · exact absent.1
        · exact unused other inFresh

omit [Runtime] in
/-- A workspace that is not the caller's. -/
def elsewhere (auth : AuthContext) : String := auth.workspaceId ++ "-elsewhere"

omit [Runtime] in
theorem elsewhere_invisible {auth : AuthContext} (named : hasEveryScope auth = false) :
    visibleForWorkspace (some (elsewhere auth)) auth = false := by
  have longer : (elsewhere auth).length = auth.workspaceId.length + 10 :=
    String.length_append _ _
  have given : elsewhere auth ≠ "" := by
    intro empty
    rw [empty, String.length_empty] at longer
    omega
  have other : elsewhere auth ≠ auth.workspaceId := by
    intro same
    rw [same] at longer
    omega
  have kept : nonEmpty (some (elsewhere auth)) = some (elsewhere auth) := by
    rw [nonEmpty, Option.filter_some, if_pos (decide_eq_true given)]
  have different : (some (elsewhere auth) == some auth.workspaceId) = false := by
    rw [beq_eq_false_iff_ne]
    exact fun same => other (Option.some.inj same)
  rw [visibleForWorkspace, kept, different, named]
  rfl

omit [Runtime] in
def floodCall (auth : AuthContext) (createdAt : String) (id : String) : ToolCallRecord :=
  { legacyCall id .null createdAt with workspaceId := some (elsewhere auth) }

omit [Runtime] in
def floodEvent (auth : AuthContext) (id : String) : AuditEvent :=
  { id := id
    type := "tool_call.submitted"
    workspaceId := some (elsewhere auth)
    toolCallId := none
    approvalId := none
    actor := none
    auth := none
    inputHash := none
    policyVersionId := none
    policyVersionHash := none
    previousEventHash := none
    eventHash := none
    timestamp := "1970-01-01T00:00:00.000Z"
    data := [] }

/-- The creation text of the newest tool call that the caller sees. -/
def newestCreation (auth : AuthContext) (stores : DashboardStores) : String :=
  (((ownToolCalls auth stores).insertionSort (NewerFirst ToolCallRecord.createdAt)).head?.map
    ToolCallRecord.createdAt).getD ""

/-- A thousand tool calls of one creation text stay in front of a caller's newest one. -/
theorem flood_first [Std.TransCmp Runtime.localeCompare] {auth : AuthContext}
    {stores : DashboardStores} (ids : List String) :
    (ids.map (floodCall auth (newestCreation auth stores)) ++
        ownToolCalls auth stores).insertionSort (NewerFirst ToolCallRecord.createdAt) =
      ids.map (floodCall auth (newestCreation auth stores)) ++
        (ownToolCalls auth stores).insertionSort (NewerFirst ToolCallRecord.createdAt) := by
  have level : ∀ text : String, (Runtime.localeCompare text text).isLE = true := by
    intro text
    have same : Runtime.localeCompare text text = .eq := Std.ReflCmp.compare_self
    rw [same]
    rfl
  apply StableSelection.insertionSort_append_of_first
  · rw [List.pairwise_map]
    exact List.pairwise_of_forall (fun _ _ => level _)
  · intro toolCall listed head first
    obtain ⟨id, _, rfl⟩ := List.mem_map.mp listed
    have stamp : newestCreation auth stores = head.createdAt := by
      rw [newestCreation, Option.mem_def.mp first]
      rfl
    show (Runtime.localeCompare head.createdAt (newestCreation auth stores)).isLE = true
    rw [stamp]
    exact level _

theorem exists_flood [Std.TransCmp Runtime.localeCompare] {auth : AuthContext}
    (named : hasEveryScope auth = false) (stores : DashboardStores) :
    ∃ rows : ForeignRows auth stores,
      visibleToolCalls auth rows.beside = [] ∧ visibleEvents auth rows.beside = [] := by
  let keys := stores.store.toolCalls.entries.map Prod.fst
  let logged := stores.auditStore.lines.map AuditEvent.id
  obtain ⟨ids, thousand, distinct, fresh⟩ := exists_fresh (keys ++ logged) 1000
  let calls := ids.map (floodCall auth (newestCreation auth stores))
  let events := ids.map (floodEvent auth)
  have callIds : calls.map ToolCallRecord.id = ids := by
    rw [List.map_map]
    exact List.map_id ids
  have eventIds : events.map AuditEvent.id = ids := by
    rw [List.map_map]
    exact List.map_id ids
  have foreignCalls : ∀ toolCall ∈ calls, isVisibleCall auth toolCall = false := by
    intro toolCall listed
    obtain ⟨id, _, rfl⟩ := List.mem_map.mp listed
    exact elsewhere_invisible named
  have foreignEvents : ∀ event ∈ events, isVisibleEvent auth event = false := by
    intro event listed
    obtain ⟨id, _, rfl⟩ := List.mem_map.mp listed
    exact elsewhere_invisible named
  let rows : ForeignRows auth stores :=
    { toolCalls := calls
      events := events
      foreignCalls := foreignCalls
      foreignEvents := foreignEvents
      callIds := by
        rw [callIds]
        refine List.Nodup.append distinct stores.store.toolCalls.distinct ?_
        intro id isFresh isKey
        exact fresh id isFresh (List.mem_append_left logged isKey)
      eventIds := by
        rw [eventIds]
        refine List.Nodup.append stores.distinct distinct ?_
        intro id isLogged isFresh
        exact fresh id isFresh (List.mem_append_right keys isLogged) }
  refine ⟨rows, ?_, ?_⟩
  · have callCount : calls.length = 1000 := by rw [List.length_map, thousand]
    rw [visibleToolCalls, fetchedToolCalls_eq, rows.values_beside]
    show List.filter (isVisibleCall auth) (((calls ++ ownToolCalls auth stores).insertionSort
      (NewerFirst ToolCallRecord.createdAt)).take 1000) = []
    rw [flood_first ids, List.take_left' callCount, List.filter_eq_nil_iff]
    exact fun toolCall listed => Bool.eq_false_iff.mp (foreignCalls toolCall listed)
  · have eventCount : events.reverse.length = 1000 := by
      rw [List.length_reverse, List.length_map, thousand]
    rw [visibleEvents, fetchedEvents_eq]
    show List.filter (isVisibleEvent auth)
      ((stores.auditStore.lines.filter (isVisibleEvent auth) ++ events).reverse.take 1000) = []
    rw [List.reverse_append, List.take_left' eventCount, List.filter_eq_nil_iff]
    intro event listed
    exact Bool.eq_false_iff.mp (foreignEvents event (List.mem_reverse.mp listed))

/-- Where no other rows change the overview, they have nothing to push out of it. -/
theorem nothing_of_same [Std.TransCmp Runtime.localeCompare] {auth : AuthContext}
    (named : hasEveryScope auth = false) {window : DashboardWindow} {stores : DashboardStores}
    {now : Int}
    (same : ∀ other, DiffersElsewhere auth stores other →
      dashboardOverview auth window other now = dashboardOverview auth window stores now) :
    NothingToPushOut auth stores := by
  obtain ⟨flood, noCalls, noEvents⟩ := exists_flood named stores
  let alone := ForeignRows.none auth stores
  have equal : dashboardOverview auth window alone.beside now =
      dashboardOverview auth window flood.beside now :=
    (same alone.beside alone.differs).trans (same flood.beside flood.differs).symm
  have flooded : dashboardOverview auth window flood.beside now =
      overviewOf now window (visiblePendingApprovals auth flood.beside)
        flood.beside.approvalDeliveries [] [] := by
    rw [dashboardOverview, visibleAuditEvents, noCalls, noEvents]
    rfl
  rw [flooded] at equal
  refine { toolCalls := ?_, events := ?_ }
  · have total := congrArg (fun overview => overview.counts.totalToolCalls) equal
    rw [dashboardOverview, overviewOf_totalToolCalls, overviewOf_totalToolCalls,
      ForeignRows.visibleToolCalls_none, List.length_take, List.length_insertionSort,
      List.length_nil] at total
    apply List.eq_nil_of_length_eq_zero
    omega
  · have update := congrArg DashboardOverview.lastUpdatedAt equal
    rw [dashboardOverview, overviewOf_lastUpdatedAt, overviewOf_lastUpdatedAt, List.find?_nil,
      Option.map_none, Option.map_eq_none_iff, List.find?_eq_none] at update
    have failure := congrArg DashboardOverview.lastFailure equal
    rw [dashboardOverview, overviewOf_lastFailure, overviewOf_lastFailure, List.find?_nil,
      Option.map_none, Option.map_eq_none_iff, List.find?_eq_none] at failure
    intro event own
    rw [← ForeignRows.visibleEvents_none] at own
    have shown := mem_visibleAuditEvents.mpr own
    exact ⟨Bool.eq_false_iff.mpr (update event shown), Bool.eq_false_iff.mpr (failure event shown)⟩

/-- The overview of a store stays the same under every change elsewhere exactly when other rows
have nothing to push out of it. -/
theorem overview_separated_iff [Std.TransCmp Runtime.localeCompare] {auth : AuthContext}
    (named : hasEveryScope auth = false) (window : DashboardWindow) (stores : DashboardStores)
    (now : Int) :
    (∀ other, DiffersElsewhere auth stores other →
        dashboardOverview auth window other now = dashboardOverview auth window stores now) ↔
      NothingToPushOut auth stores :=
  ⟨nothing_of_same named, fun nothing _ differs => nothing.same differs window now⟩

end

end ActionProxy
