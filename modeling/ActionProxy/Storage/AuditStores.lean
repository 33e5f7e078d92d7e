import ActionProxy.Security.AuditChain
import Mathlib.Data.Rat.Floor

/-!
The stores under the audit chain and what the verifier reports of them. Both
stores keep an event id once and list newest first: the JSONL store reverses its
append order, the SQLite store orders by the timestamp text. The chain store
reads the newest event, links the next one to it and moves its timestamp past
it, one append at a time.
-/

namespace ActionProxy

open JsonText

/-! ### The store interface -/

inductive AuditListLimit where
  | all
  | count (value : ℚ)
  /-- A number that is not finite. -/
  | notFinite

/-- `Math.trunc`. -/
def mathTrunc (value : ℚ) : Int := if 0 ≤ value then ⌊value⌋ else ⌈value⌉

def safeLimit : AuditListLimit → Option Nat
  | .all => none
  | .count value => some (max 1 (mathTrunc value)).toNat
  | .notFinite => some 100

/-- How many stored events a limit lets a listing show. -/
def listedCount (limit : AuditListLimit) (stored : Nat) : Nat :=
  match safeLimit limit with
  | none => stored
  | some count => min count stored

theorem listedCount_pos (limit : AuditListLimit) {stored : Nat} (some_stored : 0 < stored) :
    0 < listedCount limit stored := by
  unfold listedCount
  split
  · exact some_stored
  · rename_i count found
    have positive : 0 < count := by
      cases limit <;> simp only [safeLimit, Option.some.injEq, reduceCtorEq] at found <;> omega
    omega

theorem head?_take_listedCount {limit : AuditListLimit} {rows : List AuditEvent} {stored : Nat}
    (all : rows.length = stored) : (rows.take (listedCount limit stored)).head? = rows.head? := by
  cases rows with
  | nil => simp
  | cons newest older =>
      obtain ⟨rest, positive⟩ := Nat.exists_eq_succ_of_ne_zero
        (Nat.ne_of_gt (listedCount_pos limit (show 0 < stored by simp at all; omega)))
      rw [positive, List.take_succ_cons]
      rfl

structure AuditListFilters where
  «from» : Option String := none
  «to» : Option String := none
  toolCallId : Option String := none
  workspaceId : Option String := none

/-- A filter applies when it is given and not the empty text. -/
def filterAllows (filter : Option String) (test : String → Bool) : Bool :=
  match filter with
  | none => true
  | some value => value == "" || test value

def auditEventInRange (event : AuditEvent) (filters : AuditListFilters) : Bool :=
  filterAllows filters.from (fun value => !decide (event.timestamp < value)) &&
  filterAllows filters.«to» (fun value => !decide (value < event.timestamp)) &&
  filterAllows filters.toolCallId (fun value => event.toolCallId == some value) &&
  filterAllows filters.workspaceId (fun value => event.workspaceId == some value)

/-- The operations every audit store offers. -/
structure AuditStore (Store : Type) where
  append : AuditEvent → Store → Store
  list : AuditListLimit → AuditListFilters → Store → List AuditEvent

/-- An event written as JSON text and parsed again. -/
def jsonRoundTrip (event : AuditEvent) : AuditEvent :=
  { event with auth := event.auth.map stripMembers, data := stripMembers event.data }

/-! ### The JSONL store -/

structure JsonlStore where
  /-- The lines of the file, oldest first. -/
  lines : List AuditEvent
  eventIds : List String

namespace JsonlStore

def append (event : AuditEvent) (store : JsonlStore) : JsonlStore :=
  if event.id ∈ store.eventIds then store
  else { lines := store.lines ++ [jsonRoundTrip event], eventIds := event.id :: store.eventIds }

def list (limit : AuditListLimit) (filters : AuditListFilters) (store : JsonlStore) :
    List AuditEvent :=
  let events := store.lines.filter (auditEventInRange · filters)
  (match safeLimit limit with
    | none => events
    | some count => events.drop (events.length - count)).reverse

def empty : JsonlStore := { lines := [], eventIds := [] }

def auditStore : AuditStore JsonlStore := { append := append, list := list }

theorem list_filtered (limit : AuditListLimit) (filters : AuditListFilters) (store : JsonlStore) :
    store.list limit filters =
      (store.lines.filter (auditEventInRange · filters)).reverse.take
        (listedCount limit (store.lines.filter (auditEventInRange · filters)).length) := by
  unfold list listedCount
  cases safeLimit limit with
  | none =>
      simp only
      rw [List.take_of_length_le (by simp)]
  | some count =>
      simp only
      rw [List.reverse_drop]
      congr 1
      omega

theorem list_eq (limit : AuditListLimit) (store : JsonlStore) :
    store.list limit {} = store.lines.reverse.take (listedCount limit store.lines.length) := by
  have unfiltered : store.lines.filter (auditEventInRange · {}) = store.lines :=
    List.filter_eq_self.mpr (fun _ _ => rfl)
  rw [list_filtered, unfiltered]

theorem list_head (store : JsonlStore) :
    (store.list (.count 1) {}).head? = store.lines.reverse.head? := by
  rw [list_eq]
  exact head?_take_listedCount (by simp)

end JsonlStore

/-! ### The SQLite store -/

/-- The rows of the audit table, newest insertion first. A row holds the
columns of an event; an absent text is `NULL`. -/
structure SqliteAuditTable where
  rows : List AuditEvent

namespace SqliteAuditTable

/-- A column read back: an empty text comes back undefined. -/
def optionalString : Option String → Option String
  | some value => if value = "" then none else some value
  | none => none

def auditEventFromRow (row : AuditEvent) : AuditEvent :=
  { row with
    actor := optionalString row.actor
    approvalId := optionalString row.approvalId
    eventHash := optionalString row.eventHash
    inputHash := optionalString row.inputHash
    policyVersionHash := optionalString row.policyVersionHash
    policyVersionId := optionalString row.policyVersionId
    previousEventHash := optionalString row.previousEventHash
    toolCallId := optionalString row.toolCallId
    workspaceId := optionalString row.workspaceId }

/-- `INSERT OR IGNORE` on the primary key. -/
def append (event : AuditEvent) (table : SqliteAuditTable) : SqliteAuditTable :=
  if table.rows.any (fun row => row.id == event.id) then table
  else { rows := jsonRoundTrip event :: table.rows }

/-- `ORDER BY timestamp DESC`; the timestamp index is read backwards, so rows
of one timestamp come newest first. -/
def newestFirst (rows : List AuditEvent) : List AuditEvent :=
  rows.insertionSort (fun left right => right.timestamp ≤ left.timestamp)

def list (limit : AuditListLimit) (filters : AuditListFilters) (table : SqliteAuditTable) :
    List AuditEvent :=
  let rows := newestFirst (table.rows.filter (auditEventInRange · filters))
  (match safeLimit limit with
    | none => rows
    | some count => rows.take count).map auditEventFromRow

def empty : SqliteAuditTable := { rows := [] }

def auditStore : AuditStore SqliteAuditTable := { append := append, list := list }

theorem list_filtered (limit : AuditListLimit) (filters : AuditListFilters)
    (table : SqliteAuditTable) :
    table.list limit filters =
      ((newestFirst (table.rows.filter (auditEventInRange · filters))).take
        (listedCount limit (table.rows.filter (auditEventInRange · filters)).length)).map
          auditEventFromRow := by
  have length : (newestFirst (table.rows.filter (auditEventInRange · filters))).length =
      (table.rows.filter (auditEventInRange · filters)).length := List.length_insertionSort _ _
  unfold list listedCount
  cases safeLimit limit with
  | none =>
      simp only
      rw [List.take_of_length_le (Nat.le_of_eq length)]
  | some count =>
      simp only
      rw [← length, List.take_eq_take_iff.mpr]
      omega

theorem orderedInsert_after {rows : List AuditEvent} {row : AuditEvent}
    (after : ∀ other ∈ rows, row.timestamp < other.timestamp) (rest : List AuditEvent)
    (first : ∀ other ∈ rest.head?, other.timestamp ≤ row.timestamp) :
    (rows ++ rest).orderedInsert (fun left right => right.timestamp ≤ left.timestamp) row =
      rows ++ row :: rest := by
  induction rows with
  | nil =>
      cases rest with
      | nil => rfl
      | cons next others =>
          rw [List.nil_append, List.orderedInsert_cons, if_pos (first next rfl)]
          rfl
  | cons other others ih =>
      have later := after other List.mem_cons_self
      rw [List.cons_append, List.orderedInsert_cons, if_neg (not_le_of_gt later),
        ih (fun other member => after other (List.mem_cons_of_mem _ member))]
      rfl

/-- Rows dated in insertion order are listed as they are; rows dated before all
of them come after, in their own order. -/
theorem newestFirst_append {dated undated : List AuditEvent}
    (sorted : dated.Pairwise (fun newer older => older.timestamp < newer.timestamp))
    (before : ∀ row ∈ undated, ∀ other ∈ dated, row.timestamp < other.timestamp)
    (level : ∀ row ∈ undated, ∀ other ∈ undated, row.timestamp = other.timestamp) :
    newestFirst (undated ++ dated) = dated ++ undated := by
  induction undated with
  | nil =>
      rw [List.nil_append, List.append_nil]
      apply List.Pairwise.insertionSort_eq
      exact sorted.imp (fun order => le_of_lt order)
  | cons row rows ih =>
      have rest := ih (fun row member => before row (List.mem_cons_of_mem _ member))
        (fun row member other inRows => level row (List.mem_cons_of_mem _ member) other
          (List.mem_cons_of_mem _ inRows))
      rw [newestFirst] at rest ⊢
      rw [List.cons_append, List.insertionSort_cons, rest]
      apply orderedInsert_after (before row List.mem_cons_self)
      intro other member
      have listed := List.mem_of_mem_head? member
      rw [level row List.mem_cons_self other (List.mem_cons_of_mem _ listed)]

end SqliteAuditTable

/-! ### Ids and time values of a run -/

/-- The time value of the next event after one of the given time value. -/
def nextMillis (previous : Option Int) (candidate : Int) : Int :=
  match previous with
  | none => candidate
  | some previous => if previous < candidate then candidate else previous + 1

/-- The text of the first time value past year 9999. -/
def lateText : String := "+010000-01-01T00:00:00.000Z"

theorem toISOString_late : IsoTime.toISOString (IsoTime.maxPlain + 1) = some lateText := by
  decide

theorem nextMillis_low {last : Option Int} {candidate : Int}
    (low : IsoTime.minPlain ≤ candidate) : IsoTime.minPlain ≤ nextMillis last candidate := by
  unfold nextMillis
  split
  · exact low
  · split <;> omega

/-! ### The chain store -/

section

variable [Runtime] {Store : Type}

/-- The timestamp of the next event; nothing when printing it throws. -/
def nextAuditTimestamp (candidate : String) (previous : Option String) : Option String :=
  match previous with
  | none => some candidate
  | some previous =>
      if previous = "" then some candidate
      else
        match dateParse previous with
        | none => some candidate
        | some previousMillis =>
            match dateParse candidate with
            | none => IsoTime.toISOString (previousMillis + 1)
            | some candidateMillis =>
                if previousMillis < candidateMillis then some candidate
                else IsoTime.toISOString (previousMillis + 1)

/-- The event linked to the newest stored one, and its own hash. -/
def linkedEvent (event : AuditEvent) (previous : Option AuditEvent) (timestamp : String) :
    AuditEvent :=
  let chained :=
    { event with
      previousEventHash := previous.bind AuditEvent.eventHash
      timestamp := timestamp }
  { chained with eventHash := some (auditEventHash chained) }

def chainedEvent (event : AuditEvent) (previous : Option AuditEvent) : Option AuditEvent :=
  (nextAuditTimestamp event.timestamp (previous.map AuditEvent.timestamp)).map
    (linkedEvent event previous)

/-- One append through the chain; a rejected one leaves the store as it is. -/
def appendChained (inner : AuditStore Store) (store : Store) (event : AuditEvent) : Store :=
  match chainedEvent event (inner.list (.count 1) {} store).head? with
  | none => store
  | some chained => inner.append chained store

def verifyAuditStore (inner : AuditStore Store) (limit : AuditListLimit) (store : Store) :
    AuditVerificationResult :=
  verifyAuditEvents (inner.list limit {} store).reverse

/-! ### Canonical timestamps -/

/-- A canonical ISO timestamp of a four-digit year. -/
def IsCanonical (source : String) : Prop :=
  ∃ millis, IsoTime.minPlain ≤ millis ∧ millis ≤ IsoTime.maxPlain ∧
    IsoTime.toISOString millis = some source

/-- The time value of an event's own timestamp. -/
def occurrence (event : AuditEvent) : Int := (dateParse event.timestamp).getD 0

theorem occurrence_of_canonical {event : AuditEvent} (canonical : IsCanonical event.timestamp) :
    IsoTime.minPlain ≤ occurrence event ∧ occurrence event ≤ IsoTime.maxPlain ∧
      IsoTime.toISOString (occurrence event) = some event.timestamp := by
  obtain ⟨millis, low, high, printed⟩ := canonical
  have read : dateParse event.timestamp = some millis := IsoTime.parseDate_toISOString printed
  rw [occurrence, read]
  exact ⟨low, high, printed⟩

/-- Rows, newest first, that an unbroken run of appends has left. -/
structure ChainedRows (rows : List AuditEvent) (last : Option Int) : Prop where
  rooted : HashChain.Rooted auditView rows
  dated : last.bind IsoTime.toISOString = rows.head?.map AuditEvent.timestamp
  started : last.isSome = (rows.head?.map AuditEvent.timestamp).isSome

/-- The JSON round trip drops undefined members only, which no hash sees. -/
theorem auditEventHash_jsonRoundTrip (event : AuditEvent) :
    auditEventHash (jsonRoundTrip event) = auditEventHash event := by
  have objects : ∀ members : JsonObject,
      textWith localeOrder (.obj (stripMembers members)) = textWith localeOrder (.obj members) :=
    fun members => textWith_stripUndefined localeOrder (.obj members)
  have entries : memberTexts localeOrder (hashInput (jsonRoundTrip event)) =
      memberTexts localeOrder (hashInput event) := by
    simp only [hashInput, jsonRoundTrip, memberTexts_cons, Option.map_map, Option.map_some,
      Function.comp_def, objects]
  simp only [auditEventHash, stableStringify, textWith_stripUndefined]
  rw [textWith, textWith, entries]

theorem ChainedRows.cons {rows : List AuditEvent} {last : Option Int}
    (chained : ChainedRows rows last) (event : AuditEvent) {millis : Int} {timestamp : String}
    (printed : IsoTime.toISOString millis = some timestamp) :
    ChainedRows (jsonRoundTrip (linkedEvent event rows.head? timestamp) :: rows) (some millis) :=
  { rooted := by
      refine ⟨?_, ?_, chained.rooted⟩
      · change some _ = some (auditEventHash (jsonRoundTrip _))
        rw [auditEventHash_jsonRoundTrip]
        rfl
      · cases rows <;> rfl
    dated := printed
    started := rfl }

theorem ChainedRows.hash_ne_empty {rows : List AuditEvent} {last : Option Int}
    (chained : ChainedRows rows last) (hexadecimal : ∀ text, sha256Hex text ≠ "")
    {row : AuditEvent} (member : row ∈ rows) : row.eventHash ≠ some "" := by
  have stamped : row.eventHash = some (auditEventHash row) := chained.rooted.stamp_of_mem member
  rw [stamped]
  intro empty
  exact hexadecimal _ (Option.some.inj empty)

/-! ### Runs over the JSONL store -/

namespace JsonlStore

end JsonlStore

/-! ### Rows read back from SQLite -/

namespace SqliteAuditTable

/-- A sealed row whose link is not an empty text. -/
structure SealedRow (row : AuditEvent) : Prop where
  stamped : row.eventHash = some (auditEventHash row)
  linked : row.previousEventHash ≠ some ""

/-- A table whose rows are a chain dated up to year 9999, with later rows on
top of it that all follow the chain's newest row. -/
structure Ready (table : SqliteAuditTable) (chain late : List AuditEvent) (last : Option Int) :
    Prop where
  rows : table.rows = late ++ chain
  chained : ChainedRows chain last
  allSealed : ∀ row ∈ late ++ chain, SealedRow row
  plain : ∀ row ∈ chain, ∃ millis, IsoTime.toISOString millis = some row.timestamp ∧
    IsoTime.minPlain ≤ millis ∧ ∀ newest ∈ last, millis ≤ newest
  bounded : ∀ newest ∈ last, newest ≤ IsoTime.maxPlain
  sorted : chain.Pairwise (fun newer older => older.timestamp < newer.timestamp)
  lateRows : ∀ row ∈ late, row.timestamp = lateText ∧ row.previousEventHash ≠ none
  filled : late ≠ [] → last = some IsoTime.maxPlain

section

variable {table : SqliteAuditTable} {chain late : List AuditEvent} {last : Option Int}

theorem Ready.newestFirst_eq (ready : Ready table chain late last) :
    newestFirst table.rows = chain ++ late := by
  rw [ready.rows]
  apply newestFirst_append ready.sorted
  · intro row inLate other inChain
    obtain ⟨millis, printed, low, below⟩ := ready.plain other inChain
    rw [(ready.lateRows row inLate).1]
    have newest := ready.filled (List.ne_nil_of_mem inLate)
    have high := below IsoTime.maxPlain (by rw [newest]; rfl)
    exact IsoTime.toISOString_late_lt printed toISOString_late low high (by omega)
  · intro row inLate other inLate'
    rw [(ready.lateRows row inLate).1, (ready.lateRows other inLate').1]

theorem Ready.list_eq (ready : Ready table chain late last) (limit : AuditListLimit) :
    table.list limit {} =
      ((chain ++ late).take (listedCount limit (chain ++ late).length)).map
        auditEventFromRow := by
  have unfiltered : table.rows.filter (auditEventInRange · {}) = table.rows :=
    List.filter_eq_self.mpr (fun _ _ => rfl)
  unfold list listedCount
  rw [unfiltered, ready.newestFirst_eq]
  cases safeLimit limit with
  | none => simp only [List.take_length]
  | some count =>
      simp only
      rw [List.take_eq_take_min]

theorem Ready.sealedRow_linked (ready : Ready table chain late last)
    (hexadecimal : ∀ text, sha256Hex text ≠ "") (event : AuditEvent) (timestamp : String) :
    SealedRow (jsonRoundTrip (linkedEvent event chain.head? timestamp)) :=
  { stamped := by
      rw [auditEventHash_jsonRoundTrip]
      rfl
    linked := by
      cases chain with
      | nil =>
          intro link
          cases link
      | cons newest older =>
          exact ready.chained.hash_ne_empty hexadecimal List.mem_cons_self }

theorem Ready.extend (ready : Ready table chain [] last)
    (hexadecimal : ∀ text, sha256Hex text ≠ "") {event : AuditEvent}
    (canonical : IsCanonical event.timestamp)
    (within : nextMillis last (occurrence event) ≤ IsoTime.maxPlain) {timestamp : String}
    (printed : IsoTime.toISOString (nextMillis last (occurrence event)) = some timestamp) :
    Ready { rows := jsonRoundTrip (linkedEvent event chain.head? timestamp) :: table.rows }
      (jsonRoundTrip (linkedEvent event chain.head? timestamp) :: chain) []
      (some (nextMillis last (occurrence event))) := by
  have eventLow := (occurrence_of_canonical canonical).1
  have later : ∀ newest ∈ last, newest < nextMillis last (occurrence event) := by
    intro newest found
    rw [Option.mem_def.mp found]
    unfold nextMillis
    simp only
    split <;> omega
  exact
    { rows := by rw [ready.rows]; rfl
      chained := ready.chained.cons event printed
      allSealed := by
        intro row member
        rcases List.mem_cons.mp member with atHead | inChain
        · rw [atHead]
          exact ready.sealedRow_linked hexadecimal event timestamp
        · exact ready.allSealed row inChain
      plain := by
        intro row member
        rcases List.mem_cons.mp member with atHead | inChain
        · rw [atHead]
          refine ⟨_, printed, nextMillis_low eventLow, ?_⟩
          intro newest found
          cases found
          exact Int.le_refl _
        · obtain ⟨millis, rowPrinted, low, below⟩ := ready.plain row inChain
          refine ⟨millis, rowPrinted, low, ?_⟩
          intro newest found
          cases found
          cases last with
          | none =>
              have started := ready.chained.started
              cases chain with
              | nil => cases inChain
              | cons head tail => cases started
          | some newest => exact Int.le_trans (below newest rfl) (Int.le_of_lt (later newest rfl))
      bounded := by
        intro newest found
        cases found
        exact within
      sorted := by
        refine List.pairwise_cons.mpr ⟨?_, ready.sorted⟩
        intro row inChain
        obtain ⟨millis, rowPrinted, low, below⟩ := ready.plain row inChain
        cases last with
        | none =>
            have started := ready.chained.started
            cases chain with
            | nil => cases inChain
            | cons head tail => cases started
        | some newest =>
            have earlier : millis < nextMillis (some newest) (occurrence event) :=
              Int.lt_of_le_of_lt (below newest rfl) (later newest rfl)
            exact IsoTime.toISOString_lt rowPrinted printed low earlier within
      lateRows := by simp
      filled := by simp }

end

end SqliteAuditTable

end

end ActionProxy
