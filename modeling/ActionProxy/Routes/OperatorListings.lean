import ActionProxy.Routes.DashboardOverview

/-!
What the listings of an operator leave out: when the queue of authorized actions is the newest
wanted ones, and when the overview of a workspace is the same whatever other workspaces hold.
-/

namespace ActionProxy

open JsonText

/-- The queue lists the newest wanted grants exactly when the cut keeps them. The overview of a
caller without every scope is the same under every change elsewhere exactly when other rows
have nothing to push out of it; two stores that differ elsewhere have the same overview when
their windows show equally many own rows, and never when the own tool calls shown differ. -/
theorem operator_listings_iff [Runtime] [Std.TransCmp Runtime.localeCompare] (auth : AuthContext)
    (now : Int) :
    (∀ (query : AuthorizedActionsQuery) (store : MemoryStore),
        (authorizedActions auth query store now).map AuthorizedActionRow.grant =
            newestWanted auth query store now ↔
          CutKeepsWanted auth query store now) ∧
      (hasEveryScope auth = false →
        ∀ (window : DashboardWindow) (stores : DashboardStores),
          ((∀ other, DiffersElsewhere auth stores other →
              dashboardOverview auth window other now =
                dashboardOverview auth window stores now) ↔
            NothingToPushOut auth stores) ∧
          ∀ other, DiffersElsewhere auth stores other →
            ((visibleToolCalls auth other).length = (visibleToolCalls auth stores).length →
              (visibleEvents auth other).length = (visibleEvents auth stores).length →
              dashboardOverview auth window other now =
                dashboardOverview auth window stores now) ∧
            (dashboardOverview auth window other now =
                dashboardOverview auth window stores now →
              (visibleToolCalls auth other).length =
                (visibleToolCalls auth stores).length)) := by
  refine ⟨fun query store => listed_newest_iff auth query store now, ?_⟩
  intro named window stores
  refine ⟨overview_separated_iff named window stores now, ?_⟩
  intro other differs
  refine ⟨fun calls events => differs.same_of_counts window now calls events, ?_⟩
  intro same
  have total := congrArg (fun overview => overview.counts.totalToolCalls) same
  rw [dashboardOverview, dashboardOverview, overviewOf_totalToolCalls,
    overviewOf_totalToolCalls] at total
  exact total

/-! ### A reader of one workspace -/

def listingReader : AuthContext :=
  { principalId := "reader"
    principalType := .serviceAccount
    displayName := "Reader"
    email := none
    groups := []
    scopes := ["tool_call:read"]
    authProvider := .apiKey
    clientId := none
    workspaceId := "workspace_1" }

def queueGrant (id : String) (consumedAt : Option String) (createdAt : String) :
    ExecutionGrantRecord :=
  { id := id, workspaceId := "workspace_1", toolCallId := "toolcall_1", toolName := "email.send"
    inputHash := "input_1", approvedEnvelopeHash := none, approvedInputHash := none
    policyVersionHash := none, receiptHash := none, receiptId := none, actor := "runner"
    auth := none, expiresAt := "2999-01-01T00:00:00.000Z", nonce := "1", signature := ""
    consumedAt := consumedAt, createdAt := createdAt }

def queueCall : ToolCallRecord := legacyCall "toolcall_1" .null "1970-01-01T00:00:00.000Z"

/-- A later tool call of another workspace. -/
def otherCall : ToolCallRecord :=
  { legacyCall "toolcall_2" .null "1970-01-01T00:00:01.000Z" with
    workspaceId := some "workspace_2" }

/-- A waiting grant and a later one that is consumed. -/
def queueStore : MemoryStore :=
  { storeOf [queueCall] with
    executionGrants := (KeyedTable.empty.set "grant_1"
      (queueGrant "grant_1" none "1970-01-01T00:00:01.000Z")).set "grant_2"
        (queueGrant "grant_2" (some "1970-01-01T00:00:03.000Z") "1970-01-01T00:00:02.000Z") }

def waitingQuery (limit : AuthorizedActionsLimit) : AuthorizedActionsQuery :=
  { limit := limit, status := .only .waiting }

theorem one_bounded : 1 ≤ 1000 := by decide

def oneAction : AuthorizedActionsLimit :=
  { count := 1, positive := Nat.le_refl 1, bounded := one_bounded }

theorem reader_named : hasEveryScope listingReader = false := by decide

theorem storeOf_keyed_nil : ∀ entry ∈ (storeOf []).toolCalls.entries, entry.1 = entry.2.id :=
  fun _ listed => absurd listed List.not_mem_nil

theorem storeOf_keyed_call :
    ∀ entry ∈ (storeOf [queueCall]).toolCalls.entries, entry.1 = entry.2.id := by
  intro entry listed
  obtain rfl := List.mem_singleton.mp listed
  rfl

theorem storeOf_keyed_calls :
    ∀ entry ∈ (storeOf [queueCall, otherCall]).toolCalls.entries, entry.1 = entry.2.id := by
  intro entry listed
  rcases List.mem_cons.mp listed with rfl | rest
  · rfl
  · obtain rfl := List.mem_singleton.mp rest
    rfl

def storesOf (store : MemoryStore)
    (keyed : ∀ entry ∈ store.toolCalls.entries, entry.1 = entry.2.id) : DashboardStores :=
  { store := store
    auditStore := .empty
    approvalDeliveries := []
    keyed := keyed
    distinct := List.nodup_nil }

def emptyStores : DashboardStores := storesOf (storeOf []) storeOf_keyed_nil

def callStores : DashboardStores := storesOf (storeOf [queueCall]) storeOf_keyed_call

def sharedStores : DashboardStores :=
  storesOf (storeOf [queueCall, otherCall]) storeOf_keyed_calls

theorem shared_elsewhere : DiffersElsewhere listingReader callStores sharedStores :=
  { others := by rfl
    approvalDeliveries := by rfl
    toolCalls := by rfl
    events := by rfl }

theorem sample_trans : Std.TransCmp (sampleRuntime []).localeCompare :=
  inferInstanceAs (Std.TransCmp (compare : String → String → Ordering))

theorem shared_calls :
    (@visibleToolCalls (sampleRuntime []) listingReader sharedStores).length =
      (@visibleToolCalls (sampleRuntime []) listingReader callStores).length := by
  decide +kernel

theorem shared_events : (visibleEvents listingReader sharedStores).length =
    (visibleEvents listingReader callStores).length := rfl

theorem queue_keeps : @CutKeepsWanted (sampleRuntime []) listingReader
    (waitingQuery defaultActionsLimit) queueStore 0 := by
  apply @CutKeepsWanted.mk (sampleRuntime [])
  · decide +kernel
  · exact Or.inr (by decide +kernel)

/-- At the default limit the queue shows the waiting grant; a workspace without rows has one
overview whatever the others hold, and a later call of another workspace leaves one call's
overview as it is. -/
theorem operator_listings_reader :
    (@authorizedActions (sampleRuntime []) listingReader (waitingQuery defaultActionsLimit)
        queueStore 0).map AuthorizedActionRow.grant =
      @newestWanted (sampleRuntime []) listingReader (waitingQuery defaultActionsLimit)
        queueStore 0 ∧
    (∀ other, DiffersElsewhere listingReader emptyStores other →
      @dashboardOverview (sampleRuntime []) listingReader .day other 0 =
        @dashboardOverview (sampleRuntime []) listingReader .day emptyStores 0) ∧
    @dashboardOverview (sampleRuntime []) listingReader .day sharedStores 0 =
      @dashboardOverview (sampleRuntime []) listingReader .day callStores 0 := by
  have listings := @operator_listings_iff (sampleRuntime []) sample_trans listingReader 0
  have nothing : NothingToPushOut listingReader emptyStores :=
    { toolCalls := by rfl
      events := fun _ listed => absurd listed List.not_mem_nil }
  refine ⟨(listings.1 _ _).mpr queue_keeps,
    (listings.2 reader_named .day emptyStores).1.mpr nothing, ?_⟩
  exact ((listings.2 reader_named .day callStores).2 sharedStores shared_elsewhere).1
    shared_calls shared_events

/-- A later consumed grant hides the waiting one at a limit of one, and rows of other workspaces
change the overview of a workspace with one tool call. -/
theorem operator_listings_cut_first :
    (@authorizedActions (sampleRuntime []) listingReader (waitingQuery oneAction) queueStore
        0).map (fun row => row.grant.id) = [] ∧
    (@newestWanted (sampleRuntime []) listingReader (waitingQuery oneAction) queueStore
        0).map ExecutionGrantRecord.id = ["grant_1"] ∧
    ¬ ∀ other, DiffersElsewhere listingReader callStores other →
      @dashboardOverview (sampleRuntime []) listingReader .day other 0 =
        @dashboardOverview (sampleRuntime []) listingReader .day callStores 0 := by
  refine ⟨by decide +kernel, by decide +kernel, ?_⟩
  intro same
  have nothing := @nothing_of_same (sampleRuntime []) sample_trans listingReader reader_named
    .day callStores 0 same
  have held : ownToolCalls listingReader callStores = [queueCall] := by rfl
  rw [nothing.toolCalls] at held
  cases held

end ActionProxy
