import ActionProxy.Storage.MemoryStore

/-!
Content exposures in the memory store: recording one, listing the first of a
scope, and what a listing says of everything that was recorded.
-/

namespace ActionProxy

/-- How a record of an exposure was answered. -/
inductive ExposureOutcome where
  | conflict | created | replay
  deriving DecidableEq

structure ListContentExposuresInput where
  influenceScopeId : String
  limit : Int
  workspaceId : String

structure ListContentExposuresResult where
  overflow : Bool
  records : List ContentExposureRecord
  revision : Int

namespace MemoryStore

/-! ### Operations -/

section

variable [Runtime]

def compareContentExposure (left right : ContentExposureRecord) : Ordering :=
  (Runtime.localeCompare left.observedAt right.observedAt).then
    (Runtime.localeCompare left.sourceToolCallId right.sourceToolCallId)

/-- The binary search for the place after every exposure that is not later. -/
def exposurePlace (ordered : List ContentExposureRecord) (record : ContentExposureRecord)
    (low high : Nat) : Nat :=
  if low < high then
    let middle := (low + high) / 2
    if (ordered[middle]?).all (fun other => (compareContentExposure other record).isLE) then
      exposurePlace ordered record (middle + 1) high
    else exposurePlace ordered record low middle
  else low
termination_by high - low

def maxMemoryExposurePrefix : Nat := 1001

def insertIntoBoundedExposurePrefix (ordered : List ContentExposureRecord)
    (record : ContentExposureRecord) : List ContentExposureRecord :=
  let place := exposurePlace ordered record 0 ordered.length
  if maxMemoryExposurePrefix ≤ place then ordered
  else
    let inserted := ordered.insertIdx place record
    if maxMemoryExposurePrefix < inserted.length then inserted.dropLast else inserted

def sameContentExposureEvidence (left right : ContentExposureRecord) : Bool :=
  left.integrity == right.integrity && left.sourceId == right.sourceId &&
    left.policyVersionHash == right.policyVersionHash

/-- A scope that has recorded nothing. -/
def emptyExposureScope : ContentExposureScope :=
  { orderedPrefix := [], records := .empty, revision := 0 }

/-- The scope as it is stored, or empty. -/
def exposureScope (store : MemoryStore) (key : String × String) : ContentExposureScope :=
  (store.contentExposureScopes.get? key).getD emptyExposureScope

def exposureKey (record : ContentExposureRecord) : String × String :=
  (record.workspaceId, record.influenceScopeId)

/-- The scope with one more exposure. -/
def addExposure (scope : ContentExposureScope) (record : ContentExposureRecord) :
    ContentExposureScope :=
  { orderedPrefix := insertIntoBoundedExposurePrefix scope.orderedPrefix record
    records := scope.records.set record.sourceToolCallId record
    revision := scope.revision + 1 }

def recordContentExposure (store : MemoryStore) (record : ContentExposureRecord) :
    ExposureOutcome × MemoryStore :=
  let scope := store.exposureScope (exposureKey record)
  match scope.records.get? record.sourceToolCallId with
  | some current =>
      (if sameContentExposureEvidence current record then .replay else .conflict, store)
  | none =>
      (.created,
        { store with
          contentExposureScopes :=
            store.contentExposureScopes.set (exposureKey record) (addExposure scope record) })

def contentExposureLimit (limit : Int) : Nat := (min 1000 (max 1 limit)).toNat

def listContentExposures (store : MemoryStore) (input : ListContentExposuresInput) :
    ListContentExposuresResult :=
  let limit := contentExposureLimit input.limit
  let scope := store.exposureScope (input.workspaceId, input.influenceScopeId)
  { overflow := decide ((limit : Int) < scope.revision)
    records := (scope.orderedPrefix.take (limit + 1)).take limit
    revision := scope.revision }

/-- The store after exposures recorded one after the other. -/
def recordExposures (store : MemoryStore) (history : List ContentExposureRecord) : MemoryStore :=
  history.foldl (fun store record => (store.recordContentExposure record).2) store

theorem recordExposures_append (store : MemoryStore) (history more : List ContentExposureRecord) :
    store.recordExposures (history ++ more) = (store.recordExposures history).recordExposures more :=
  List.foldl_append

/-! ### What a scope keeps -/

/-- The revision counts the records, and the ordered ones are all of them while
they fit. -/
structure ScopeKept (scope : ContentExposureScope) : Prop where
  counted : scope.revision = scope.records.values.length
  complete : scope.records.values.length ≤ maxMemoryExposurePrefix →
    scope.orderedPrefix.Perm scope.records.values

omit [Runtime] in
theorem scopeKept_empty : ScopeKept emptyExposureScope :=
  { counted := rfl
    complete := fun _ => List.Perm.refl [] }

theorem exposurePlace_le (ordered : List ContentExposureRecord) (record : ContentExposureRecord)
    (low high : Nat) (ends : high ≤ ordered.length) (order : low ≤ high) :
    exposurePlace ordered record low high ≤ ordered.length := by
  fun_induction exposurePlace ordered record low high with
  | case1 low high more middle after ih =>
      exact ih ends (by omega)
  | case2 low high more middle before ih =>
      exact ih (by omega) (by omega)
  | case3 low high done => omega

theorem insertIntoBoundedExposurePrefix_perm {ordered : List ContentExposureRecord}
    (record : ContentExposureRecord) (room : ordered.length < maxMemoryExposurePrefix) :
    (insertIntoBoundedExposurePrefix ordered record).Perm (record :: ordered) := by
  have place := exposurePlace_le ordered record 0 ordered.length (Nat.le_refl _) (Nat.zero_le _)
  have inserted := List.perm_insertIdx record ordered place
  rw [insertIntoBoundedExposurePrefix, if_neg (by omega), if_neg]
  · exact inserted
  · rw [inserted.length_eq, List.length_cons]
    omega

theorem ScopeKept.add {scope : ContentExposureScope} (kept : ScopeKept scope)
    {record : ContentExposureRecord} (new : scope.records.get? record.sourceToolCallId = none) :
    ScopeKept (addExposure scope record) ∧
      (addExposure scope record).records.values = scope.records.values ++ [record] := by
  have values : (addExposure scope record).records.values = scope.records.values ++ [record] :=
    KeyedTable.values_set_new new record
  refine ⟨?_, values⟩
  constructor
  · rw [values, List.length_append, List.length_singleton]
    show scope.revision + 1 = _
    rw [kept.counted]
    push_cast
    rfl
  · intro fits
    rw [values, List.length_append, List.length_singleton] at fits
    have ordered := kept.complete (by omega)
    have room : scope.orderedPrefix.length < maxMemoryExposurePrefix := by
      rw [ordered.length_eq]
      omega
    rw [values]
    exact (insertIntoBoundedExposurePrefix_perm record room).trans
      ((ordered.cons record).trans (List.perm_append_singleton record _).symm)

/-- Everything that was recorded in a scope, in the order it was. -/
def exposures (store : MemoryStore) (key : String × String) : List ContentExposureRecord :=
  (store.exposureScope key).records.values

def ExposuresKept (store : MemoryStore) : Prop :=
  ∀ key, ScopeKept (store.exposureScope key)

omit [Runtime] in
theorem exposuresKept_of_empty {store : MemoryStore}
    (unused : store.contentExposureScopes = .empty) : ExposuresKept store := by
  intro key
  rw [exposureScope, unused]
  exact scopeKept_empty

theorem exposureScope_recorded (store : MemoryStore) (record : ContentExposureRecord)
    (key : String × String) :
    (store.recordContentExposure record).2.exposureScope key = store.exposureScope key ∨
      (store.exposureScope key).records.get? record.sourceToolCallId = none ∧
        (store.recordContentExposure record).2.exposureScope key =
          addExposure (store.exposureScope key) record := by
  rw [recordContentExposure]
  split
  · exact Or.inl rfl
  · rename_i new
    by_cases same : key = exposureKey record
    · subst same
      refine Or.inr ⟨new, ?_⟩
      rw [exposureScope, KeyedTable.get?_set_self]
      rfl
    · refine Or.inl ?_
      rw [exposureScope, KeyedTable.get?_set_other _ same]
      rfl

theorem ExposuresKept.record {store : MemoryStore} (kept : ExposuresKept store)
    (record : ContentExposureRecord) : ExposuresKept (store.recordContentExposure record).2 := by
  intro key
  rcases exposureScope_recorded store record key with same | ⟨new, added⟩
  · rw [same]
    exact kept key
  · rw [added]
    exact ((kept key).add new).1

theorem ExposuresKept.record_extends {store : MemoryStore} (kept : ExposuresKept store)
    (record : ContentExposureRecord) (key : String × String) :
    store.exposures key <+: (store.recordContentExposure record).2.exposures key := by
  rcases exposureScope_recorded store record key with same | ⟨new, added⟩
  · rw [exposures, exposures, same]
  · rw [exposures, exposures, added, ((kept key).add new).2]
    exact List.prefix_append _ _

theorem ExposuresKept.run {store : MemoryStore} (kept : ExposuresKept store)
    (history : List ContentExposureRecord) : ExposuresKept (store.recordExposures history) := by
  induction history generalizing store with
  | nil => exact kept
  | cons record rest ih => exact ih (kept.record record)

theorem ExposuresKept.run_extends {store : MemoryStore} (kept : ExposuresKept store)
    (history : List ContentExposureRecord) (key : String × String) :
    store.exposures key <+: (store.recordExposures history).exposures key := by
  induction history generalizing store with
  | nil => exact List.prefix_refl _
  | cons record rest ih => exact (kept.record_extends record key).trans (ih (kept.record record))

theorem exposures_of_new {store : MemoryStore} (kept : ExposuresKept store) {key : String × String}
    {history : List ContentExposureRecord}
    (oneScope : ∀ record ∈ history, exposureKey record = key)
    (distinct : (history.map ContentExposureRecord.sourceToolCallId).Nodup)
    (new : ∀ record ∈ history,
      (store.exposureScope key).records.get? record.sourceToolCallId = none) :
    (store.recordExposures history).exposures key = store.exposures key ++ history := by
  induction history generalizing store with
  | nil => exact (List.append_nil _).symm
  | cons record rest ih =>
      obtain ⟨fresh, restDistinct⟩ := List.nodup_cons.mp distinct
      have sameKey := oneScope record List.mem_cons_self
      have isNew := new record List.mem_cons_self
      have added : (store.recordContentExposure record).2.exposureScope key =
          addExposure (store.exposureScope key) record := by
        rw [recordContentExposure, sameKey, isNew, exposureScope, KeyedTable.get?_set_self]
        rfl
      have values := ((kept key).add isNew).2
      show ((store.recordContentExposure record).2.recordExposures rest).exposures key = _
      rw [ih (kept.record record) (fun other listed => oneScope other (List.mem_cons_of_mem _ listed))
        restDistinct]
      · rw [exposures, added, values, exposures, List.append_assoc]
        rfl
      · intro other listed
        rw [added]
        show ((store.exposureScope key).records.set record.sourceToolCallId record).get? _ = none
        rw [KeyedTable.get?_set_other]
        · exact new other (List.mem_cons_of_mem _ listed)
        · intro same
          exact fresh (List.mem_map.mpr ⟨other, listed, same⟩)

omit [Runtime] in
/-- A listing overflows when more was recorded than its limit; otherwise it is complete. -/
theorem ExposuresKept.listing {store : MemoryStore} (kept : ExposuresKept store)
    (input : ListContentExposuresInput) :
    let recorded := store.exposures (input.workspaceId, input.influenceScopeId)
    let listing := store.listContentExposures input
    listing.overflow = decide (contentExposureLimit input.limit < recorded.length) ∧
      (recorded.length ≤ contentExposureLimit input.limit → listing.records.Perm recorded) := by
  have scope := kept (input.workspaceId, input.influenceScopeId)
  refine ⟨?_, ?_⟩
  · rw [listContentExposures, exposures]
    simp only [scope.counted, Nat.cast_lt]
  · intro within
    have bound : contentExposureLimit input.limit ≤ 1000 := by
      rw [contentExposureLimit]
      omega
    have ordered := scope.complete (within.trans (bound.trans (by decide)))
    have all : (store.listContentExposures input).records =
        (store.exposureScope (input.workspaceId, input.influenceScopeId)).orderedPrefix := by
      have short := ordered.length_eq.trans_le within
      rw [listContentExposures, List.take_take, List.take_of_length_le]
      omega
    rw [all]
    exact ordered

end

end MemoryStore

end ActionProxy
