import ActionProxy.Foundation.KeyedTable
import ActionProxy.Foundation.LooseValue
import ActionProxy.Models

/-!
How calls to synchronize the presentation of an approval are coalesced: while a pass runs,
what later calls ask for is merged into one trailing pass. Calls and passes of one approval
go on in any order.
-/

namespace ActionProxy

open JsonText

/-! ### Work -/

/-- A delivery of an approval, with the coordinates of its message. -/
structure ApprovalDeliveryRecord where
  id : String
  approvalId : String
  channelId : String
  destination : Option String
  messageId : Option String
  deriving DecidableEq

structure ApprovalResolutionContext where
  actor : Option String
  auth : Option AuthContext
  decidedAt : String
  reason : Option String
  source : ApprovalDecisionSource

structure ApprovalPresentationSyncWork where
  approval : ApprovalRecord
  deliveriesOverride : Option (List ApprovalDeliveryRecord)
  includeStoredDeliveries : Bool
  resolution : Option ApprovalResolutionContext
  toolCall : ToolCallRecord

def ApprovalPresentationSyncWork.overrides (work : ApprovalPresentationSyncWork) :
    List ApprovalDeliveryRecord := work.deliveriesOverride.getD []

/-- The values of a `Map` that holds every delivery under its id. -/
def deliveriesById (deliveries : List ApprovalDeliveryRecord) : List ApprovalDeliveryRecord :=
  (deliveries.foldl (fun table delivery => table.set delivery.id delivery)
    KeyedTable.empty).values

def mergeApprovalPresentationSyncWork (current : Option ApprovalPresentationSyncWork)
    (incoming : ApprovalPresentationSyncWork) : ApprovalPresentationSyncWork :=
  match current with
  | none => incoming
  | some current =>
      let overrides := current.overrides ++ incoming.overrides
      { incoming with
        deliveriesOverride :=
          if overrides.length = 0 then none else some (deliveriesById overrides)
        includeStoredDeliveries :=
          current.includeStoredDeliveries || incoming.includeStoredDeliveries
        resolution := incoming.resolution <|> current.resolution }

/-- The deliveries a pass presents, when the store lists these. -/
def presentedDeliveries (stored : List ApprovalDeliveryRecord)
    (work : ApprovalPresentationSyncWork) : List ApprovalDeliveryRecord :=
  deliveriesById ((if work.includeStoredDeliveries then stored else []) ++ work.overrides)

/-! ### Calls and passes -/

/-- Where the drain of a batch is. -/
inductive DrainPhase where
  | scheduled (work : ApprovalPresentationSyncWork)
  | firstPass
  | trailingPass
  | drained
  | settled

def DrainPhase.running : DrainPhase → Bool
  | .firstPass | .trailingPass => true
  | _ => false

structure ApprovalPresentationSyncState where
  acceptingTrailing : Bool
  trailing : Option ApprovalPresentationSyncWork
  phase : DrainPhase

/-- A call waits for a batch, which has its work or came too early for it, or it is over. -/
inductive CallStatus where
  | waiting (batch : Nat) (joined : Bool)
  | returned

structure SyncCall where
  work : ApprovalPresentationSyncWork
  status : CallStatus

/-- A pass, and how many calls had been made when it started. -/
structure SyncPass where
  work : ApprovalPresentationSyncWork
  callsBefore : Nat

/-- The calls for one approval, with its entry in `approvalPresentationSyncs`. -/
structure SyncWorld where
  active : Option Nat
  states : List ApprovalPresentationSyncState
  calls : List SyncCall
  passes : List SyncPass

namespace SyncWorld

def initial : SyncWorld := { active := none, states := [], calls := [], passes := [] }

/-- Start a batch with the work. -/
def startBatch (world : SyncWorld) (work : ApprovalPresentationSyncWork) :
    SyncWorld × CallStatus :=
  ({ world with
      active := some world.states.length
      states := world.states ++
        [{ acceptingTrailing := true, trailing := none, phase := .scheduled work }] },
    .waiting world.states.length true)

/-- What a call does when it comes, or comes again after it was late. -/
def enter (world : SyncWorld) (work : ApprovalPresentationSyncWork) : SyncWorld × CallStatus :=
  match world.active with
  | none => world.startBatch work
  | some batch =>
      match world.states[batch]? with
      | none => world.startBatch work
      | some state =>
          if !state.acceptingTrailing then (world, .waiting batch false)
          else
            ({ world with
                states := world.states.set batch
                  { state with
                    trailing := some (mergeApprovalPresentationSyncWork state.trailing work) } },
              .waiting batch true)

/-- `syncApprovalPresentationBestEffort`, up to where it waits; `notifies` tells whether
there is a notifier that synchronizes presentations. -/
def syncApprovalPresentationBestEffort (notifies : Bool) (approval : ApprovalRecord)
    (toolCall : ToolCallRecord) (resolution : Option ApprovalResolutionContext)
    (deliveriesOverride : Option (List ApprovalDeliveryRecord)) (world : SyncWorld) : SyncWorld :=
  let work : ApprovalPresentationSyncWork :=
    { approval := approval
      deliveriesOverride := deliveriesOverride
      includeStoredDeliveries := deliveriesOverride.isNone
      resolution := resolution
      toolCall := toolCall }
  if approval.status = .pending ∨ notifies = false then
    { world with calls := world.calls ++ [{ work := work, status := .returned }] }
  else
    let entered := world.enter work
    { entered.1 with calls := world.calls ++ [{ work := work, status := entered.2 }] }

def setState (world : SyncWorld) (batch : Nat) (state : ApprovalPresentationSyncState) :
    SyncWorld :=
  { world with states := world.states.set batch state }

def startPass (world : SyncWorld) (work : ApprovalPresentationSyncWork) : SyncWorld :=
  { world with passes := world.passes ++ [{ work := work, callsBefore := world.calls.length }] }

/-- The drain of a batch begins with its first pass. -/
def begin (world : SyncWorld) (batch : Nat) : SyncWorld :=
  match world.states[batch]? with
  | some state =>
      match state.phase with
      | .scheduled work => (world.startPass work).setState batch { state with phase := .firstPass }
      | _ => world
  | none => world

/-- A pass ends. However it went, `performApprovalPresentationSync` catches it. -/
def endPass (world : SyncWorld) (batch : Nat) (_outcome : Except Thrown Unit) : SyncWorld :=
  match world.states[batch]? with
  | some state =>
      match state.phase with
      | .firstPass =>
          match state.trailing with
          | some trailing =>
              (world.startPass trailing).setState batch
                { acceptingTrailing := false, trailing := none, phase := .trailingPass }
          | none =>
              world.setState batch
                { acceptingTrailing := false, trailing := none, phase := .drained }
      | .trailingPass => world.setState batch { state with phase := .drained }
      | _ => world
  | none => world

/-- The `finally` of a drain: its batch is no longer the active one, and its promise
resolves. -/
def settle (world : SyncWorld) (batch : Nat) : SyncWorld :=
  match world.states[batch]? with
  | some state =>
      match state.phase with
      | .drained =>
          { world.setState batch { state with phase := .settled } with
            active := if world.active = some batch then none else world.active }
      | _ => world
  | none => world

/-- A call goes on after the promise it waits for: it is over, or it enters again. -/
def resume (world : SyncWorld) (number : Nat) : SyncWorld :=
  match world.calls[number]? with
  | some call =>
      match call.status with
      | .waiting batch joined =>
          match (world.states[batch]?).map ApprovalPresentationSyncState.phase with
          | some .settled =>
              if joined then
                { world with calls := world.calls.set number { call with status := .returned } }
              else
                let entered := world.enter call.work
                { entered.1 with
                  calls := world.calls.set number { call with status := entered.2 } }
          | _ => world
      | .returned => world
  | none => world

end SyncWorld

inductive SyncEvent where
  | called (approval : ApprovalRecord) (toolCall : ToolCallRecord)
      (resolution : Option ApprovalResolutionContext)
      (deliveriesOverride : Option (List ApprovalDeliveryRecord))
  | begun (batch : Nat)
  | passEnded (batch : Nat) (outcome : Except Thrown Unit)
  | settled (batch : Nat)
  | resumed (number : Nat)

/-- Events that are no new call. -/
def SyncEvent.internal : SyncEvent → Bool
  | .called .. => false
  | _ => true

def SyncWorld.step (notifies : Bool) (world : SyncWorld) : SyncEvent → SyncWorld
  | .called approval toolCall resolution deliveriesOverride =>
      world.syncApprovalPresentationBestEffort notifies approval toolCall resolution
        deliveriesOverride
  | .begun batch => world.begin batch
  | .passEnded batch outcome => world.endPass batch outcome
  | .settled batch => world.settle batch
  | .resumed number => world.resume number

/-- Any interleaving of calls, passes and what follows them. -/
def SyncWorld.run (notifies : Bool) (events : List SyncEvent) : SyncWorld :=
  events.foldl (SyncWorld.step notifies) .initial

/-! ### The last delivery of an id -/

/-- The last of the deliveries with the id. -/
def latest (id : String) (deliveries : List ApprovalDeliveryRecord) :
    Option ApprovalDeliveryRecord :=
  deliveries.reverse.find? (fun delivery => delivery.id = id)

theorem latest_append (id : String) (earlier later : List ApprovalDeliveryRecord) :
    latest id (earlier ++ later) = (latest id later).or (latest id earlier) := by
  unfold latest
  rw [List.reverse_append, List.find?_append]

theorem latest_isSome {delivery : ApprovalDeliveryRecord} {deliveries : List ApprovalDeliveryRecord}
    (listed : delivery ∈ deliveries) : ∃ last, latest delivery.id deliveries = some last := by
  unfold latest
  rw [← Option.isSome_iff_exists, List.find?_isSome]
  exact ⟨delivery, List.mem_reverse.mpr listed, decide_eq_true rfl⟩

theorem get?_foldl_set (id : String) (deliveries : List ApprovalDeliveryRecord)
    (table : KeyedTable String ApprovalDeliveryRecord) :
    (deliveries.foldl (fun table delivery => table.set delivery.id delivery) table).get? id =
      (latest id deliveries).or (table.get? id) := by
  induction deliveries generalizing table with
  | nil => rfl
  | cons delivery rest ih =>
      have split : latest id (delivery :: rest) =
          (latest id rest).or (latest id [delivery]) := latest_append id [delivery] rest
      rw [List.foldl_cons, ih, split, KeyedTable.get?_set]
      cases latest id rest with
      | some last => rfl
      | none =>
          by_cases same : id = delivery.id
          · rw [if_pos same]
            simp [latest, same]
          · have other : ¬ delivery.id = id := fun equal => same equal.symm
            rw [if_neg same]
            simp [latest, other]

/-- Every delivery is under its own id. -/
def DeliveriesKeyed (table : KeyedTable String ApprovalDeliveryRecord) : Prop :=
  ∀ entry ∈ table.entries, entry.2.id = entry.1

theorem deliveriesKeyed_set {table : KeyedTable String ApprovalDeliveryRecord}
    (keyed : DeliveriesKeyed table) (delivery : ApprovalDeliveryRecord) :
    DeliveriesKeyed (table.set delivery.id delivery) := by
  intro entry listed
  have found := (KeyedTable.get?_eq_some_iff _ entry.1 entry.2).mpr listed
  rw [KeyedTable.get?_set] at found
  split at found
  · rename_i same
    cases found
    exact same.symm
  · exact keyed entry ((table.get?_eq_some_iff entry.1 entry.2).mp found)

theorem deliveriesKeyed_foldl (deliveries : List ApprovalDeliveryRecord)
    {table : KeyedTable String ApprovalDeliveryRecord} (keyed : DeliveriesKeyed table) :
    DeliveriesKeyed
      (deliveries.foldl (fun table delivery => table.set delivery.id delivery) table) := by
  induction deliveries generalizing table with
  | nil => exact keyed
  | cons delivery rest ih => exact ih (deliveriesKeyed_set keyed delivery)

theorem latest_values {table : KeyedTable String ApprovalDeliveryRecord}
    (keyed : DeliveriesKeyed table) (id : String) : latest id table.values = table.get? id := by
  cases last : latest id table.values with
  | none =>
      cases found : table.get? id with
      | none => rfl
      | some delivery =>
          have listed := (table.get?_eq_some_iff id delivery).mp found
          have named : delivery.id = id := keyed (id, delivery) listed
          obtain ⟨other, also⟩ := latest_isSome (List.mem_map_of_mem (f := Prod.snd) listed)
          rw [named] at also
          exact absurd (last.symm.trans also) (by simp)
  | some delivery =>
      have named : delivery.id = id := by simpa using List.find?_some last
      have listed : delivery ∈ table.values :=
        List.mem_reverse.mp (List.mem_of_find?_eq_some last)
      obtain ⟨entry, present, rfl⟩ := List.mem_map.mp listed
      rw [← named, keyed entry present]
      exact ((table.get?_eq_some_iff entry.1 entry.2).mpr present).symm

/-- A `Map` by id keeps the last delivery of every id. -/
theorem latest_deliveriesById (id : String) (deliveries : List ApprovalDeliveryRecord) :
    latest id (deliveriesById deliveries) = latest id deliveries := by
  unfold deliveriesById
  have empty : DeliveriesKeyed KeyedTable.empty :=
    fun entry listed => absurd listed List.not_mem_nil
  rw [latest_values (deliveriesKeyed_foldl deliveries empty), get?_foldl_set]
  exact Option.or_none

/-! ### Merged work -/

/-- The work is what these were merged into, in this order. -/
inductive Merged : ApprovalPresentationSyncWork → List ApprovalPresentationSyncWork → Prop where
  | single (work : ApprovalPresentationSyncWork) : Merged work [work]
  | more {current : ApprovalPresentationSyncWork} {works : List ApprovalPresentationSyncWork}
      (merged : Merged current works) (incoming : ApprovalPresentationSyncWork) :
      Merged (mergeApprovalPresentationSyncWork (some current) incoming) (works ++ [incoming])

theorem Merged.latest {work : ApprovalPresentationSyncWork}
    {works : List ApprovalPresentationSyncWork} (merged : Merged work works) (id : String) :
    latest id work.overrides = ActionProxy.latest id (works.flatMap (·.overrides)) := by
  induction merged with
  | single work => simp
  | more merged incoming ih =>
      rename_i current works
      rw [List.flatMap_append, latest_append, ← ih, List.flatMap_singleton, ← latest_append]
      unfold mergeApprovalPresentationSyncWork
      dsimp only [ApprovalPresentationSyncWork.overrides]
      split
      · rename_i none
        rw [List.length_eq_zero_iff.mp none]
        rfl
      · exact latest_deliveriesById id _

/-- A pass presents, of the overrides it was merged from, the last delivery of every id. -/
theorem Merged.presents {work : ApprovalPresentationSyncWork}
    {works : List ApprovalPresentationSyncWork} (merged : Merged work works)
    (stored : List ApprovalDeliveryRecord) {asked : ApprovalPresentationSyncWork}
    (among : asked ∈ works) {delivery : ApprovalDeliveryRecord}
    (listed : delivery ∈ asked.overrides) :
    ∃ last, ActionProxy.latest delivery.id (works.flatMap (·.overrides)) = some last ∧
      last ∈ presentedDeliveries stored work := by
  have given : delivery ∈ works.flatMap (·.overrides) :=
    List.mem_flatMap.mpr ⟨asked, among, listed⟩
  obtain ⟨last, found⟩ := latest_isSome given
  refine ⟨last, found, ?_⟩
  have presented :
      ActionProxy.latest delivery.id (presentedDeliveries stored work) = some last := by
    unfold presentedDeliveries
    rw [latest_deliveriesById, latest_append, merged.latest, found]
    rfl
  exact List.mem_reverse.mp (List.mem_of_find?_eq_some presented)

end ActionProxy
