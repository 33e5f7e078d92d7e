import ActionProxy.Foundation.StableSelection
import ActionProxy.Routes.AuditQueries
import ActionProxy.Security.StableStringify
import ActionProxy.Storage.ToolCallQueries

/-!
The queue of authorized actions: the newest grants that the store lists for a caller, each
joined with its tool call, its receipt and its approval, and of these the ones of the status
asked for. The store cuts before the route selects.
-/

namespace ActionProxy

open JsonText

/-! ### Newest first -/

section

variable [Runtime] {Item : Type}

/-- `right.localeCompare(left)` on a text of each item does not put the right one first. -/
abbrev NewerFirst (text : Item → String) (left right : Item) : Prop :=
  (Runtime.localeCompare (text right) (text left)).isLE = true

theorem newerFirst_total [Std.TransCmp Runtime.localeCompare] (text : Item → String) :
    Std.Total (NewerFirst text) :=
  { total := fun left right => (localeBefore_preorder.total (text left) (text right)).symm }

theorem newerFirst_trans [Std.TransCmp Runtime.localeCompare] (text : Item → String) :
    IsTrans Item (NewerFirst text) :=
  { trans := fun _ _ _ first second => localeBefore_preorder.trans second first }

theorem filter_newestFirst [Std.TransCmp Runtime.localeCompare] (text : Item → String)
    (selected : Item → Bool) (items : List Item) :
    (items.insertionSort (NewerFirst text)).filter selected =
      (items.filter selected).insertionSort (NewerFirst text) := by
  have total := newerFirst_total text
  have trans := newerFirst_trans text
  exact StableSelection.filter_insertionSort selected items

end

/-! ### The query -/

inductive AuthorizedActionStatus where
  | completed | consumed | expired | failed | waiting
  deriving DecidableEq

inductive AuthorizedActionFilter where
  | all
  | only (status : AuthorizedActionStatus)

def AuthorizedActionFilter.admits : AuthorizedActionFilter → AuthorizedActionStatus → Bool
  | .all, _ => true
  | .only wanted, status => decide (status = wanted)

def authorizedActionFilter? (text : String) : Option AuthorizedActionFilter :=
  match text with
  | "all" => some .all
  | "completed" => some (.only .completed)
  | "consumed" => some (.only .consumed)
  | "expired" => some (.only .expired)
  | "failed" => some (.only .failed)
  | "waiting" => some (.only .waiting)
  | _ => none

structure AuthorizedActionsLimit where
  count : Nat
  positive : 1 ≤ count
  bounded : count ≤ 1000

theorem hundred_positive : 1 ≤ 100 := by decide

theorem hundred_bounded : 100 ≤ 1000 := by decide

def defaultActionsLimit : AuthorizedActionsLimit :=
  { count := 100, positive := hundred_positive, bounded := hundred_bounded }

/-- `z.coerce.number().int().min(1).max(1000)`. -/
def authorizedActionsLimit? [Runtime] (text : String) : Option AuthorizedActionsLimit :=
  (Runtime.parseNumber text).bind fun number =>
    let count := number.toRat.num.toNat
    if bounds : 0 ≤ number.exponent ∧ 1 ≤ count ∧ count ≤ 1000 then
      some { count := count, positive := bounds.2.1, bounded := bounds.2.2 }
    else none

/-- The texts of a query string. -/
structure AuthorizedActionsQueryInput where
  limit : Option String
  status : Option String

structure AuthorizedActionsQuery where
  limit : AuthorizedActionsLimit
  status : AuthorizedActionFilter

def authorizedActionsQuerySchema [Runtime] (input : AuthorizedActionsQueryInput) :
    Option AuthorizedActionsQuery := do
  let limit ← optionalField authorizedActionsLimit? input.limit
  let status ← optionalField authorizedActionFilter? input.status
  return { limit := limit.getD defaultActionsLimit, status := status.getD (.only .waiting) }

/-! ### The store -/

namespace MemoryStore

def listExecutionGrants [Runtime] (store : MemoryStore) (limit : Nat)
    (workspaceId : Option String) : List ExecutionGrantRecord :=
  ((store.executionGrants.values.filter
    (fun grant => passes (givenFilter workspaceId) (some grant.workspaceId))).insertionSort
      (NewerFirst ExecutionGrantRecord.createdAt)).take limit

def getApprovalByToolCallId (store : MemoryStore) (toolCallId : String) :
    Option ApprovalRecord :=
  store.approvals.values.find? (fun approval => approval.toolCallId == toolCallId)

def getActionReceiptByToolCallId (store : MemoryStore) (toolCallId : String) :
    Option ActionReceiptRecord :=
  store.actionReceipts.values.find? (fun receipt => receipt.toolCallId == toolCallId)

end MemoryStore

/-! ### The route -/

def hasEveryScope (auth : AuthContext) : Bool := auth.scopes.contains "*"

def visibleForWorkspace (workspaceId : Option String) (auth : AuthContext) : Bool :=
  (nonEmpty workspaceId).isNone || workspaceId == some auth.workspaceId || hasEveryScope auth

/-- What a listed action is joined from. -/
structure AuthorizedActionRow where
  approval : Option ApprovalRecord
  grant : ExecutionGrantRecord
  receipt : Option ActionReceiptRecord
  status : AuthorizedActionStatus
  toolCall : ToolCallRecord

section

variable [Runtime]

def authorizedActionStatus (grant : ExecutionGrantRecord) (receipt : Option ActionReceiptRecord)
    (toolCall : ToolCallRecord) (now : Int) : AuthorizedActionStatus :=
  let outcome := (receipt.bind ActionReceiptRecord.outcome).map ActionReceiptOutcome.status
  if outcome = some .failed ∨ toolCall.status = .failed then .failed
  else if outcome = some .succeeded ∨ toolCall.status = .executed then .completed
  else if (nonEmpty grant.consumedAt).isSome then .consumed
  -- a text that is no date is never passed
  else if (dateParse grant.expiresAt).any (fun expiry => decide (expiry ≤ now)) then .expired
  else .waiting

omit [Runtime] in
def grantReceipt (store : MemoryStore) (grant : ExecutionGrantRecord) :
    Option ActionReceiptRecord :=
  match nonEmpty grant.receiptId with
  | some receiptId => store.actionReceipts.get? receiptId
  | none => store.getActionReceiptByToolCallId grant.toolCallId

def authorizedActionRow (auth : AuthContext) (query : AuthorizedActionsQuery)
    (store : MemoryStore) (now : Int) (grant : ExecutionGrantRecord) : Option AuthorizedActionRow :=
  if visibleForWorkspace (some grant.workspaceId) auth then
    match store.toolCalls.get? grant.toolCallId with
    | none => none
    | some toolCall =>
        if visibleForWorkspace toolCall.workspaceId auth then
          let receipt := grantReceipt store grant
          let status := authorizedActionStatus grant receipt toolCall now
          if query.status.admits status then
            some
              { approval := store.getApprovalByToolCallId grant.toolCallId
                grant := grant
                receipt := receipt
                status := status
                toolCall := toolCall }
          else none
        else none
  else none

omit [Runtime] in
/-- The workspace that the route asks the store for. -/
def grantsWorkspace (auth : AuthContext) : Option String :=
  if hasEveryScope auth then none else some auth.workspaceId

def authorizedActions (auth : AuthContext) (query : AuthorizedActionsQuery) (store : MemoryStore)
    (now : Int) : List AuthorizedActionRow :=
  (store.listExecutionGrants query.limit.count (grantsWorkspace auth)).filterMap
    (authorizedActionRow auth query store now)

/-! ### Selecting before cutting -/

/-- The caller sees the grant and its tool call, and the status is one that is asked for. -/
def isWanted (auth : AuthContext) (query : AuthorizedActionsQuery) (store : MemoryStore)
    (now : Int) (grant : ExecutionGrantRecord) : Bool :=
  visibleForWorkspace (some grant.workspaceId) auth &&
    (store.toolCalls.get? grant.toolCallId).any fun toolCall =>
      visibleForWorkspace toolCall.workspaceId auth &&
        query.status.admits
          (authorizedActionStatus grant (grantReceipt store grant) toolCall now)

/-- The newest of the grants that are wanted. -/
def newestWanted (auth : AuthContext) (query : AuthorizedActionsQuery) (store : MemoryStore)
    (now : Int) : List ExecutionGrantRecord :=
  ((store.executionGrants.values.filter (isWanted auth query store now)).insertionSort
    (NewerFirst ExecutionGrantRecord.createdAt)).take query.limit.count

omit [Runtime] in
/-- The grant is of the workspace that the route asks for. -/
def isAskedFor (auth : AuthContext) (grant : ExecutionGrantRecord) : Bool :=
  passes (givenFilter (grantsWorkspace auth)) (some grant.workspaceId)

/-- The grants of the workspace that the route asks for, before the cut. -/
def askedGrants (auth : AuthContext) (store : MemoryStore) : List ExecutionGrantRecord :=
  (store.executionGrants.values.filter (isAskedFor auth)).insertionSort
    (NewerFirst ExecutionGrantRecord.createdAt)

/-- The newest wanted grants are asked for, and of the grants asked for either all of the first
ones are wanted or none of the later ones. -/
structure CutKeepsWanted (auth : AuthContext) (query : AuthorizedActionsQuery)
    (store : MemoryStore) (now : Int) : Prop where
  asked : ∀ grant ∈ newestWanted auth query store now, isAskedFor auth grant = true
  cut : (∀ grant ∈ (askedGrants auth store).take query.limit.count,
      isWanted auth query store now grant = true) ∨
    ∀ grant ∈ (askedGrants auth store).drop query.limit.count,
      isWanted auth query store now grant = false

theorem row_of_wanted {auth : AuthContext} {query : AuthorizedActionsQuery} {store : MemoryStore}
    {now : Int} {grant : ExecutionGrantRecord} :
    (authorizedActionRow auth query store now grant).map AuthorizedActionRow.grant =
      if isWanted auth query store now grant then some grant else none := by
  unfold authorizedActionRow isWanted
  cases visibleForWorkspace (some grant.workspaceId) auth with
  | false => rfl
  | true =>
      cases store.toolCalls.get? grant.toolCallId with
      | none => rfl
      | some toolCall =>
          rw [if_pos rfl, Option.any_some, Bool.true_and]
          dsimp only
          cases visibleForWorkspace toolCall.workspaceId auth with
          | false => rfl
          | true =>
              rw [if_pos rfl, Bool.true_and]
              cases query.status.admits
                (authorizedActionStatus grant (grantReceipt store grant) toolCall now) with
              | false => rfl
              | true => rfl

/-- The grants of the answer are the wanted ones of those that the store returned. -/
theorem authorizedActions_grants (auth : AuthContext) (query : AuthorizedActionsQuery)
    (store : MemoryStore) (now : Int) :
    (authorizedActions auth query store now).map AuthorizedActionRow.grant =
      ((askedGrants auth store).take query.limit.count).filter
        (isWanted auth query store now) := by
  have each : ∀ grants : List ExecutionGrantRecord,
      (grants.filterMap (authorizedActionRow auth query store now)).map AuthorizedActionRow.grant =
        grants.filter (isWanted auth query store now) := by
    intro grants
    rw [List.map_filterMap, ← List.filterMap_eq_filter]
    congr 1
    funext grant
    rw [row_of_wanted, Option.guard]
  exact each _

theorem listed_newest_iff [Std.TransCmp Runtime.localeCompare] (auth : AuthContext)
    (query : AuthorizedActionsQuery) (store : MemoryStore) (now : Int) :
    (authorizedActions auth query store now).map AuthorizedActionRow.grant =
        newestWanted auth query store now ↔
      CutKeepsWanted auth query store now := by
  have sorted : ∀ selected : ExecutionGrantRecord → Bool,
      (store.executionGrants.values.filter selected).insertionSort
          (NewerFirst ExecutionGrantRecord.createdAt) =
        (store.executionGrants.values.insertionSort
          (NewerFirst ExecutionGrantRecord.createdAt)).filter selected :=
    fun selected => (filter_newestFirst ExecutionGrantRecord.createdAt selected _).symm
  have exact := StableSelection.fetched_eq_iff (isAskedFor auth)
    (isWanted auth query store now)
    (store.executionGrants.values.insertionSort (NewerFirst ExecutionGrantRecord.createdAt))
    query.limit.count
  rw [← sorted, ← sorted] at exact
  rw [authorizedActions_grants]
  constructor
  · intro same
    obtain ⟨asked, cut⟩ := exact.mp same
    exact { asked := asked, cut := cut }
  · intro keeps
    exact exact.mpr ⟨keeps.asked, keeps.cut⟩

end

end ActionProxy
