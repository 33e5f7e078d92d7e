import Mathlib.Data.Bool.AllAny
import ActionProxy.Foundation.FileLines
import ActionProxy.Foundation.JsonPath
import ActionProxy.Foundation.JsonPrefix
import ActionProxy.Storage.AuditStores

/-!
The JSONL audit log as the bytes of its file: how the store opens it, appends to it and lists
it, through the chain or not, and what becomes of a log whose last append was cut off.
-/

namespace ActionProxy

open JsonText FileLines TextScan

/-! ### Events as JSON -/

def AuditEvent.members (event : AuditEvent) : JsonObject :=
  [("id", some (.str event.id)),
    ("type", some (.str event.type)),
    ("workspaceId", event.workspaceId.map .str),
    ("toolCallId", event.toolCallId.map .str),
    ("approvalId", event.approvalId.map .str),
    ("actor", event.actor.map .str),
    ("auth", event.auth.map .obj),
    ("inputHash", event.inputHash.map .str),
    ("policyVersionId", event.policyVersionId.map .str),
    ("policyVersionHash", event.policyVersionHash.map .str),
    ("previousEventHash", event.previousEventHash.map .str),
    ("eventHash", event.eventHash.map .str),
    ("timestamp", some (.str event.timestamp)),
    ("data", some (.obj event.data))]

def eventText (value : Json) (key : String) : Option String := (field? value key).bind asString?

def eventObject (value : Json) (key : String) : Option JsonObject :=
  match field? value key with
  | some (.obj members) => some members
  | _ => none

/-- `as AuditEvent`, on a value that is one. -/
def asAuditEvent (value : Json) : AuditEvent :=
  { id := (eventText value "id").getD ""
    type := (eventText value "type").getD ""
    workspaceId := eventText value "workspaceId"
    toolCallId := eventText value "toolCallId"
    approvalId := eventText value "approvalId"
    actor := eventText value "actor"
    auth := eventObject value "auth"
    inputHash := eventText value "inputHash"
    policyVersionId := eventText value "policyVersionId"
    policyVersionHash := eventText value "policyVersionHash"
    previousEventHash := eventText value "previousEventHash"
    eventHash := eventText value "eventHash"
    timestamp := (eventText value "timestamp").getD ""
    data := (eventObject value "data").getD [] }

def AuditEvent.text (event : AuditEvent) : List Char := textWith insertionOrder (.obj event.members)

/-! ### The file -/

/-- The file, and the ids the open store knows. -/
structure JsonlFile where
  bytes : List UInt8
  eventIds : List String

namespace JsonlFile

section

variable (nearest : JsonNumber → Option JsonNumber)

/-- The id of a line that is read as JSON; an empty one is no id. -/
def lineId (line : List Char) : Option String :=
  ((jsonParse nearest (String.ofList line)).bind (eventText · "id")).filter (fun id => id != "")

/-- The constructor on a file: a line that cannot be read is passed over. -/
def reopened (bytes : List UInt8) : JsonlFile :=
  { bytes := bytes
    eventIds := (fileLines (Utf8Stream.decode bytes)).filterMap (lineId nearest) }

def append (event : AuditEvent) (file : JsonlFile) : JsonlFile :=
  if event.id ∈ file.eventIds then file
  else
    { bytes := file.bytes ++ Utf8Stream.utf8 (event.text ++ ['\n'])
      eventIds := event.id :: file.eventIds }

/-- The events of the lines; nothing when one cannot be read. -/
def events (file : JsonlFile) : Option (List AuditEvent) :=
  ((fileLines (Utf8Stream.decode file.bytes)).mapM
    (fun line => jsonParse nearest (String.ofList line))).map (List.map asAuditEvent)

/-- `list`; nothing when it throws. -/
def list (limit : AuditListLimit) (filters : AuditListFilters) (file : JsonlFile) :
    Option (List AuditEvent) :=
  (file.events nearest).map (fun events =>
    JsonlStore.list limit filters { lines := events, eventIds := file.eventIds })

variable [Runtime]

/-- An append through the chain; nothing when it is rejected. -/
def appendChained (file : JsonlFile) (event : AuditEvent) : Option JsonlFile :=
  (file.list nearest (.count 1) {}).bind (fun listed =>
    (chainedEvent event listed.head?).map (fun chained => file.append chained))

/-- Appends one at a time, all of which complete. -/
def appendEach (file : JsonlFile) (events : List AuditEvent) : Option JsonlFile :=
  events.foldlM (appendChained nearest) file

/-- `verifyAuditStore`; nothing when it throws. -/
def verifyAuditStore (limit : AuditListLimit) (file : JsonlFile) :
    Option AuditVerificationResult :=
  (file.list nearest limit {}).map (fun listed => verifyAuditEvents listed.reverse)

/-! ### Surviving a torn append -/

/-- The objects of the event have each key once, and its numbers are numbers of the
language. -/
structure Writable (event : AuditEvent) : Prop where
  data : distinctKeys (.obj event.data) = true
  dataExact : exactNumbers nearest (.obj event.data) = true
  auth : ∀ members ∈ event.auth, distinctKeys (.obj members) = true
  authExact : ∀ members ∈ event.auth, exactNumbers nearest (.obj members) = true

/-- A text that is no date, or one of a date up to the bound. -/
def DatedUntil (bound : Int) (text : String) : Prop :=
  ∀ millis ∈ dateParse text, -IsoTime.maxTime ≤ millis ∧ millis ≤ bound

/-- The events of a log that was written in one piece, dated up to the year 9999. -/
structure WrittenLog (log : List AuditEvent) : Prop where
  writable : ∀ event ∈ log, Writable nearest event
  named : ∀ event ∈ log, event.id ≠ ""
  distinct : (log.map AuditEvent.id).Nodup
  dated : ∀ event ∈ log, DatedUntil IsoTime.maxPlain event.timestamp

/-- Events that are appended later: as many as there are time values after the year 9999. -/
structure LaterEvents (later : List AuditEvent) : Prop where
  writable : ∀ event ∈ later, Writable nearest event
  dated : ∀ event ∈ later, DatedUntil IsoTime.maxPlain event.timestamp
  fits : IsoTime.maxPlain + later.length ≤ IsoTime.maxTime

/-- Every append completes, and every event that was appended is listed once. -/
structure Keeps (file : JsonlFile) (later : List AuditEvent) : Prop where
  completes : ∃ final, file.appendEach nearest later = some final ∧
    (∀ limit, (final.verifyAuditStore nearest limit).isSome = true) ∧
    ∃ listed, final.list nearest .all {} = some listed ∧
      ∀ event ∈ later, (listed.filter (fun other => other.id == event.id)).length = 1

/-- The log can be verified, and any later events are kept. -/
structure Survives (file : JsonlFile) : Prop where
  verifies : ∀ limit, (file.verifyAuditStore nearest limit).isSome = true
  keeps : ∀ later, LaterEvents nearest later → Keeps nearest file later

end

/-! ### Lines of events -/

section

variable {nearest : JsonNumber → Option JsonNumber}

theorem eventPart_cases {event : AuditEvent} {member : String × Json}
    (listed : member ∈ definedMembers event.members) :
    (∃ text, member.2 = .str text) ∨ (∃ object ∈ event.auth, member.2 = .obj object) ∨
      member.2 = .obj event.data := by
  let Part (value : Json) : Prop := (∃ text, value = .str text) ∨
    (∃ object ∈ event.auth, value = .obj object) ∨ value = .obj event.data
  have text : ∀ given : Option String, ∀ value ∈ given.map Json.str, Part value := by
    intro given value same
    obtain ⟨found, -, isText⟩ := Option.map_eq_some_iff.mp same
    exact Or.inl ⟨found, isText.symm⟩
  have auth : ∀ value ∈ event.auth.map Json.obj, Part value := by
    intro value same
    obtain ⟨object, given, isObject⟩ := Option.map_eq_some_iff.mp same
    exact Or.inr (Or.inl ⟨object, given, isObject.symm⟩)
  have data : ∀ value ∈ some (Json.obj event.data), Part value := by
    intro value same
    exact Or.inr (Or.inr (Option.some.inj same).symm)
  have each : ∀ entry ∈ event.members, ∀ value ∈ entry.2, Part value := by
    simp only [AuditEvent.members, List.forall_mem_cons]
    exact ⟨text (some event.id), text (some event.type), text _, text _, text _, text _, auth,
      text _, text _, text _, text _, text _, text (some event.timestamp), data,
      List.forall_mem_nil _⟩
  have held : (member.1, some member.2) ∈ event.members := mem_of_mem_definedMembers listed
  exact each _ held member.2 rfl

theorem Writable.distinct {event : AuditEvent} (writable : Writable nearest event) :
    distinctKeys (.obj event.members) = true := by
  refine everyObject_obj.mpr ⟨decide_eq_true ?_, ?_⟩
  · simp [AuditEvent.members]
  · intro member listed
    rcases eventPart_cases listed with ⟨text, same⟩ | ⟨object, given, same⟩ | same
    · rw [same]
      rfl
    · rw [same]
      exact writable.auth object given
    · rw [same]
      exact writable.data

theorem Writable.exact {event : AuditEvent} (writable : Writable nearest event) :
    exactNumbers nearest (.obj event.members) = true := by
  refine everyPart_obj.mpr ⟨rfl, ?_⟩
  intro member listed
  rcases eventPart_cases listed with ⟨text, same⟩ | ⟨object, given, same⟩ | same
  · rw [same]
    rfl
  · rw [same]
    exact writable.authExact object given
  · rw [same]
    exact writable.dataExact

/-- An event as it comes back from its line. -/
def readBack (event : AuditEvent) : AuditEvent :=
  asAuditEvent (printed insertionOrder (.obj event.members))

theorem eventText_readBack {event : AuditEvent} {key text : String}
    (given : member? event.members key = some (.str text)) :
    eventText (printed insertionOrder (.obj event.members)) key = some text := by
  have found := jsonAt_printed [key] (.obj event.members)
  rw [jsonAt_obj, given, printed_obj, jsonAt_obj] at found
  obtain ⟨value, inside, same⟩ := Option.bind_eq_some_iff.mp found
  rw [printed_obj]
  change (member? _ key).bind asString? = some text
  rw [inside, Option.bind_some]
  cases same
  rfl

theorem readBack_id (event : AuditEvent) : (readBack event).id = event.id := by
  have given : member? event.members "id" = some (.str event.id) := rfl
  rw [readBack, asAuditEvent, eventText_readBack given]
  rfl

theorem readBack_timestamp (event : AuditEvent) :
    (readBack event).timestamp = event.timestamp := by
  have given : member? event.members "timestamp" = some (.str event.timestamp) := by
    simp [AuditEvent.members, member?_cons]
  rw [readBack, asAuditEvent, eventText_readBack given]
  rfl

theorem text_eq (event : AuditEvent) : ∃ inside, event.text = '\x7b' :: inside ++ ['\x7d'] :=
  ⟨_, textWith.eq_7 _ _⟩

theorem solid_of_braces {line inside : List Char} (split : line = '\x7b' :: inside ++ ['\x7d'])
    (single : '\n' ∉ line) : Solid line := by
  refine
    { nonempty := by rw [split]; exact List.cons_ne_nil _ _
      first := ?_
      last := ?_
      single := single }
  · intro char first
    rw [split] at first
    obtain rfl := Option.some.inj first
    rfl
  · intro char last
    rw [split, List.getLast?_concat] at last
    obtain rfl := Option.some.inj last
    rfl

theorem text_single (event : AuditEvent) : '\n' ∉ event.text := by
  have visible : Visible event.text := visible_textWith _ _
  intro newline
  have shown := visible _ newline
  revert shown
  decide

theorem text_solid (event : AuditEvent) : Solid event.text := by
  obtain ⟨inside, split⟩ := text_eq event
  exact solid_of_braces split (text_single event)

theorem texts_solid (rows : List AuditEvent) :
    ∀ line ∈ rows.map AuditEvent.text, Solid line := by
  intro line listed
  obtain ⟨row, -, rfl⟩ := List.mem_map.mp listed
  exact text_solid row

theorem Writable.parsed {event : AuditEvent} (writable : Writable nearest event) :
    jsonParse nearest (String.ofList event.text) =
      some (printed insertionOrder (.obj event.members)) :=
  jsonParse_printed insertionOrder writable.distinct writable.exact

/-! ### A file in one piece -/

/-- The file holds these events, each in a line of its own, and the store knows them. -/
structure Holds (nearest : JsonNumber → Option JsonNumber) (file : JsonlFile)
    (rows : List AuditEvent) : Prop where
  bytes : file.bytes = Utf8Stream.utf8 (terminated (rows.map AuditEvent.text))
  writable : ∀ row ∈ rows, Writable nearest row
  known : ∀ id, id ∈ file.eventIds ↔ id ∈ rows.map AuditEvent.id
  distinct : (rows.map AuditEvent.id).Nodup

variable {file : JsonlFile} {rows : List AuditEvent}

theorem Holds.lines (holds : Holds nearest file rows) :
    fileLines (Utf8Stream.decode file.bytes) = rows.map AuditEvent.text := by
  rw [holds.bytes, Utf8Stream.decode_utf8]
  exact fileLines_terminated (texts_solid rows)

theorem Holds.events (holds : Holds nearest file rows) :
    file.events nearest = some (rows.map readBack) := by
  have read : (rows.map AuditEvent.text).mapM
      (fun line => jsonParse nearest (String.ofList line)) =
        some (rows.map (fun row => printed insertionOrder (.obj row.members))) := by
    rw [List.mapM_map]
    apply mapM_of_each
    intro row listed
    rw [Function.comp_apply]
    exact (holds.writable row listed).parsed
  rw [JsonlFile.events, holds.lines, read, Option.map_some, List.map_map]
  rfl

theorem Holds.list (holds : Holds nearest file rows) (limit : AuditListLimit)
    (filters : AuditListFilters) :
    file.list nearest limit filters =
      some (JsonlStore.list limit filters
        { lines := rows.map readBack, eventIds := file.eventIds }) := by
  rw [JsonlFile.list, holds.events]
  rfl

theorem Holds.append (holds : Holds nearest file rows) {event : AuditEvent}
    (writable : Writable nearest event) (fresh : event.id ∉ file.eventIds) :
    Holds nearest (file.append event) (rows ++ [event]) := by
  rw [JsonlFile.append, if_neg fresh]
  exact
    { bytes := by
        change file.bytes ++ _ = _
        rw [holds.bytes, ← Utf8Stream.utf8_append, List.map_append, List.map_singleton,
          terminated_concat]
      writable := by
        intro row listed
        rcases List.mem_append.mp listed with before | isLast
        · exact holds.writable row before
        · exact (List.mem_singleton.mp isLast) ▸ writable
      known := by
        intro id
        rw [List.map_append, List.mem_append, ← holds.known, List.mem_cons, or_comm,
          List.map_singleton, List.mem_singleton]
      distinct := by
        rw [List.map_append, List.map_singleton]
        apply List.Nodup.append holds.distinct (List.nodup_singleton _)
        rw [List.disjoint_singleton]
        exact fun before => fresh ((holds.known _).mpr before) }

/-! ### Appending through the chain -/

variable [Runtime]

theorem DatedUntil.mono {lower bound : Int} {text : String} (dated : DatedUntil lower text)
    (below : lower ≤ bound) : DatedUntil bound text := by
  intro millis read
  have within := dated millis read
  exact ⟨within.1, within.2.trans below⟩

theorem next_printed {millis bound : Int} (low : -IsoTime.maxTime ≤ millis) (below : millis ≤ bound)
    (fits : bound < IsoTime.maxTime) :
    ∃ text, IsoTime.toISOString (millis + 1) = some text ∧ DatedUntil (bound + 1) text := by
  have printed : (IsoTime.toISOString (millis + 1)).isSome = true :=
    IsoTime.toISOString_isSome.mpr ⟨by omega, by omega⟩
  obtain ⟨text, same⟩ := Option.isSome_iff_exists.mp printed
  refine ⟨text, same, ?_⟩
  intro found read
  have back : dateParse text = some (millis + 1) := IsoTime.parseDate_toISOString same
  rw [back] at read
  obtain rfl := Option.some.inj read
  omega

/-- The next event can be dated, at most one step later than every event so far. -/
theorem nextAuditTimestamp_dated {candidate : String} {previous : Option String} {bound : Int}
    (candidateDated : DatedUntil IsoTime.maxPlain candidate)
    (previousDated : ∀ text ∈ previous, DatedUntil bound text)
    (plain : IsoTime.maxPlain ≤ bound) (fits : bound < IsoTime.maxTime) :
    ∃ timestamp, nextAuditTimestamp candidate previous = some timestamp ∧
      DatedUntil (bound + 1) timestamp := by
  have kept : DatedUntil (bound + 1) candidate := candidateDated.mono (by omega)
  cases previous with
  | none => exact ⟨candidate, rfl, kept⟩
  | some previous =>
      unfold nextAuditTimestamp
      by_cases empty : previous = ""
      · exact ⟨candidate, if_pos empty, kept⟩
      · cases read : dateParse previous with
        | none =>
            simp only [if_neg empty, read]
            exact ⟨candidate, rfl, kept⟩
        | some previousMillis =>
            have within := previousDated previous rfl previousMillis read
            have next := next_printed within.1 within.2 fits
            simp only [if_neg empty, read]
            cases dateParse candidate with
            | none => exact next
            | some candidateMillis =>
                simp only
                split
                · exact ⟨candidate, rfl, kept⟩
                · exact next

/-- The newest event is dated up to the bound. -/
def LastDated (bound : Int) (rows : List AuditEvent) : Prop :=
  ∀ row ∈ rows.getLast?, DatedUntil bound row.timestamp

/-- One append completes; the event is in the file then, and so is all that was there. -/
theorem Holds.appendChained (holds : Holds nearest file rows) {bound : Int}
    (lastDated : LastDated bound rows) (plain : IsoTime.maxPlain ≤ bound)
    (fits : bound < IsoTime.maxTime) {event : AuditEvent} (writable : Writable nearest event)
    (dated : DatedUntil IsoTime.maxPlain event.timestamp) :
    ∃ next nextRows, file.appendChained nearest event = some next ∧
      Holds nearest next nextRows ∧ LastDated (bound + 1) nextRows ∧
      event.id ∈ nextRows.map AuditEvent.id ∧ rows <+: nextRows := by
  have newest : (JsonlStore.list (.count 1) {}
      { lines := rows.map readBack, eventIds := file.eventIds }).head? =
        rows.getLast?.map readBack := by
    rw [JsonlStore.list_head, List.head?_reverse, List.getLast?_map]
  have previous : ∀ text ∈ (rows.getLast?.map readBack).map AuditEvent.timestamp,
      DatedUntil bound text := by
    intro text given
    rw [Option.map_map] at given
    obtain ⟨row, isLast, same⟩ := Option.map_eq_some_iff.mp given
    rw [← same, Function.comp_apply, readBack_timestamp]
    exact lastDated row isLast
  obtain ⟨timestamp, dates, within⟩ := nextAuditTimestamp_dated dated previous plain fits
  have completes : file.appendChained nearest event =
      some (file.append (linkedEvent event (rows.getLast?.map readBack) timestamp)) := by
    rw [JsonlFile.appendChained, holds.list, Option.bind_some, newest, chainedEvent, dates]
    rfl
  by_cases known : event.id ∈ file.eventIds
  · refine ⟨file, rows, ?_, holds, ?_, (holds.known _).mp known, List.prefix_refl rows⟩
    · rw [completes]
      exact congrArg some (if_pos known)
    · intro row isLast
      exact (lastDated row isLast).mono (by omega)
  · have linked : Writable nearest (linkedEvent event (rows.getLast?.map readBack) timestamp) :=
      { data := writable.data
        dataExact := writable.dataExact
        auth := writable.auth
        authExact := writable.authExact }
    refine ⟨_, _, completes, holds.append linked known, ?_, ?_, List.prefix_append _ _⟩
    · intro row isLast
      rw [List.getLast?_concat] at isLast
      obtain rfl := Option.some.inj isLast
      exact within
    · rw [List.map_append, List.mem_append]
      exact Or.inr List.mem_cons_self

/-- A run of appends completes, and every event of it is in the file at its end. -/
theorem Holds.appendEach (holds : Holds nearest file rows) {bound : Int}
    (lastDated : LastDated bound rows) (plain : IsoTime.maxPlain ≤ bound)
    {later : List AuditEvent} (writable : ∀ event ∈ later, Writable nearest event)
    (dated : ∀ event ∈ later, DatedUntil IsoTime.maxPlain event.timestamp)
    (fits : bound + later.length ≤ IsoTime.maxTime) :
    ∃ final finalRows, file.appendEach nearest later = some final ∧
      Holds nearest final finalRows ∧ rows <+: finalRows ∧
      ∀ event ∈ later, event.id ∈ finalRows.map AuditEvent.id := by
  induction later generalizing file rows bound with
  | nil => exact ⟨file, rows, rfl, holds, List.prefix_refl rows, List.forall_mem_nil _⟩
  | cons event rest inductionHypothesis =>
      rw [List.length_cons] at fits
      obtain ⟨next, nextRows, appended, nextHolds, nextDated, inside, kept⟩ :=
        holds.appendChained lastDated plain (by omega) (writable event List.mem_cons_self)
          (dated event List.mem_cons_self)
      obtain ⟨final, finalRows, completes, finalHolds, restKept, restInside⟩ :=
        inductionHypothesis nextHolds nextDated (by omega)
          (fun other listed => writable other (List.mem_cons_of_mem event listed))
          (fun other listed => dated other (List.mem_cons_of_mem event listed)) (by omega)
      refine ⟨final, finalRows, ?_, finalHolds, kept.trans restKept, ?_⟩
      · rw [JsonlFile.appendEach, List.foldlM_cons, appended]
        exact completes
      · intro other listed
        rcases List.mem_cons.mp listed with rfl | later
        · exact List.map_subset AuditEvent.id restKept.subset inside
        · exact restInside other later

omit [Runtime] in
theorem Holds.list_all (holds : Holds nearest file rows) :
    file.list nearest .all {} = some (rows.map readBack).reverse := by
  rw [holds.list, JsonlStore.list_eq]
  refine congrArg some (List.take_of_length_le ?_)
  rw [List.length_reverse]
  rfl

omit [Runtime] in
theorem Holds.listed_once (holds : Holds nearest file rows) {id : String}
    (inside : id ∈ rows.map AuditEvent.id) :
    ((rows.map readBack).reverse.filter (fun other => other.id == id)).length = 1 := by
  have ids : (rows.map readBack).map AuditEvent.id = rows.map AuditEvent.id := by
    rw [List.map_map]
    exact List.map_congr_left (fun row _ => readBack_id row)
  calc ((rows.map readBack).reverse.filter (fun other => other.id == id)).length
      = (rows.map readBack).reverse.countP (fun other => other.id == id) :=
        List.countP_eq_length_filter.symm
    _ = (rows.map readBack).countP (fun other => other.id == id) := List.countP_reverse
    _ = ((rows.map readBack).map AuditEvent.id).count id :=
        (List.countP_map (p := fun other => other == id) (f := AuditEvent.id)).symm
    _ = 1 := by
        rw [ids]
        exact List.count_eq_one_of_mem holds.distinct inside

theorem Holds.verifies (holds : Holds nearest file rows) (limit : AuditListLimit) :
    (file.verifyAuditStore nearest limit).isSome = true := by
  rw [JsonlFile.verifyAuditStore, holds.list]
  rfl

theorem Holds.survives (holds : Holds nearest file rows)
    (lastDated : LastDated IsoTime.maxPlain rows) : Survives nearest file := by
  refine ⟨holds.verifies, ?_⟩
  intro later events
  obtain ⟨final, finalRows, completes, finalHolds, -, inside⟩ :=
    holds.appendEach lastDated le_rfl events.writable events.dated events.fits
  exact ⟨final, completes, finalHolds.verifies, _, finalHolds.list_all,
    fun event listed => finalHolds.listed_once (inside event listed)⟩

/-! ### Reopening -/

variable {log : List AuditEvent}

omit [Runtime] in
theorem lineId_text {event : AuditEvent} (writable : Writable nearest event)
    (named : event.id ≠ "") : lineId nearest event.text = some event.id := by
  have given : member? event.members "id" = some (.str event.id) := rfl
  rw [lineId, writable.parsed, Option.bind_some, eventText_readBack given,
    Option.filter_some, if_pos]
  exact bne_iff_ne.mpr named

theorem WrittenLog.holds (written : WrittenLog nearest log) :
    Holds nearest
      (reopened nearest (Utf8Stream.utf8 (terminated (log.map AuditEvent.text)))) log :=
  { bytes := rfl
    writable := written.writable
    known := by
      intro id
      have ids : (log.map AuditEvent.text).filterMap (lineId nearest) = log.map AuditEvent.id := by
        rw [List.filterMap_map, ← List.filterMap_eq_map]
        apply List.filterMap_congr
        intro event listed
        rw [Function.comp_apply]
        exact lineId_text (written.writable event listed) (written.named event listed)
      rw [reopened, Utf8Stream.decode_utf8, fileLines_terminated (texts_solid log), ids]
    distinct := written.distinct }

theorem WrittenLog.survives (written : WrittenLog nearest log) :
    Survives nearest
      (reopened nearest (Utf8Stream.utf8 (terminated (log.map AuditEvent.text)))) := by
  apply written.holds.survives
  intro row isLast
  exact written.dated row (List.mem_of_mem_getLast? isLast)

/-! ### A torn line -/

theorem unverified_of_unread {line : List Char}
    (listed : line ∈ fileLines (Utf8Stream.decode file.bytes))
    (unread : jsonParse nearest (String.ofList line) = none) (limit : AuditListLimit) :
    file.verifyAuditStore nearest limit = none := by
  rw [JsonlFile.verifyAuditStore, JsonlFile.list, JsonlFile.events, mapM_unread listed unread]
  rfl

omit [Runtime] in
theorem isObjectText {event : AuditEvent} (writable : Writable nearest event) :
    IsObjectText nearest event.text :=
  isObjectText_textWith insertionOrder writable.distinct writable.exact

omit [Runtime] in
theorem written_torn {event : AuditEvent} {torn : List UInt8}
    (cut : torn <+: Utf8Stream.utf8 event.text) (nonempty : torn ≠ []) :
    ∃ start, Utf8Stream.written torn = '\x7b' :: start := by
  obtain ⟨inside, split⟩ := text_eq event
  have brace : String.utf8EncodeChar '\x7b' = [123] := by decide
  rw [split, List.cons_append] at cut
  exact Utf8Stream.written_opens brace cut nonempty

omit [Runtime] in
/-- The torn line cannot be read, or nothing but its newline is missing. -/
theorem torn_unread {event : AuditEvent} (writable : Writable nearest event)
    {torn : List UInt8} (cut : torn <+: Utf8Stream.utf8 event.text) (nonempty : torn ≠ []) :
    (∃ line back, Utf8Stream.decode torn = line ++ back ∧ Solid line ∧
      (∀ char ∈ back, isSpace char = true) ∧ jsonParse nearest (String.ofList line) = none) ∨
      (Utf8Stream.written torn = event.text ∧ Utf8Stream.held torn = []) := by
  have inText := Utf8Stream.written_of_prefix cut
  have single : '\n' ∉ Utf8Stream.written torn :=
    fun newline => text_single event (inText.subset newline)
  have brace : isSpace '\x7b' = false := by decide
  obtain ⟨start, read⟩ := written_torn cut nonempty
  rcases List.eq_nil_or_concat' (Utf8Stream.replaced (Utf8Stream.held torn)) with
    nothing | ⟨front, last, split⟩
  · have decoded : Utf8Stream.decode torn = Utf8Stream.written torn := by
      rw [Utf8Stream.decode, nothing, List.append_nil]
    obtain ⟨line, spaces, split, opens, ends, blank⟩ := exists_core brace start
    rw [← read] at split
    have isStart : line <+: Utf8Stream.written torn := ⟨spaces, split.symm⟩
    by_cases whole : line = event.text
    · right
      rw [whole] at isStart
      exact ⟨inText.eq_of_length_le isStart.length_le, Utf8Stream.replaced_eq_nil nothing⟩
    · left
      have lineNonempty : line ≠ [] := by
        rintro rfl
        cases opens
      refine ⟨line, spaces, decoded.trans split, ?_, blank,
        (isObjectText writable).prefix_unparsed (isStart.trans inText) lineNonempty whole⟩
      exact
        { nonempty := lineNonempty
          first := by
            intro char first
            rw [opens] at first
            obtain rfl := Option.some.inj first
            exact brace
          last := ends
          single := fun newline => single (isStart.subset newline) }
  · left
    have replaced : ∀ char ∈ front ++ [last], char = Utf8Stream.replacement :=
      fun char listed => Utf8Stream.mem_replaced (split ▸ listed)
    obtain rfl := replaced last (List.mem_append_right _ List.mem_cons_self)
    have decoded : Utf8Stream.decode torn =
        Utf8Stream.written torn ++ front ++ [Utf8Stream.replacement] := by
      rw [Utf8Stream.decode, split, List.append_assoc]
    have opens : (Utf8Stream.written torn ++ front ++ [Utf8Stream.replacement]).head? =
        some '\x7b' := by
      rw [read]
      rfl
    refine ⟨_, [], decoded.trans (List.append_nil _).symm, ?_, List.forall_mem_nil _,
      unparsed_of_last opens (by decide) (by decide)⟩
    exact
      { nonempty := List.append_ne_nil_of_right_ne_nil _ (List.cons_ne_nil _ _)
        first := by
          intro char first
          rw [opens] at first
          obtain rfl := Option.some.inj first
          exact brace
        last := by
          intro char isLast
          rw [List.getLast?_concat] at isLast
          obtain rfl := Option.some.inj isLast
          decide
        single := by
          intro newline
          rw [List.append_assoc, List.mem_append] at newline
          rcases newline with inStart | inBack
          · exact single inStart
          · have same := replaced _ inBack
            revert same
            decide }

omit [Runtime] in
theorem lines_torn {torn : List UInt8} {line back : List Char}
    (read : Utf8Stream.decode torn = line ++ back) (solid : Solid line)
    (spaces : ∀ char ∈ back, isSpace char = true) :
    fileLines (Utf8Stream.decode
      (Utf8Stream.utf8 (terminated (log.map AuditEvent.text)) ++ torn)) =
        log.map AuditEvent.text ++ [line] := by
  rw [Utf8Stream.decode_utf8_append, read]
  exact fileLines_unterminated (texts_solid log) solid spaces

/-- An event with nothing but an id. -/
def freshEvent (id : String) : AuditEvent :=
  { id := id
    type := ""
    workspaceId := none
    toolCallId := none
    approvalId := none
    actor := none
    auth := none
    inputHash := none
    policyVersionId := none
    policyVersionHash := none
    previousEventHash := none
    eventHash := none
    timestamp := "1970-01-01T00:00:00.000Z"
    data := [] }

omit [Runtime] in
theorem freshEvent_writable (id : String) : Writable nearest (freshEvent id) :=
  { data := rfl
    dataExact := rfl
    auth := by
      intro members given
      cases given
    authExact := by
      intro members given
      cases given }

theorem freshEvent_dated (id : String) :
    DatedUntil IsoTime.maxPlain (freshEvent id).timestamp := by
  intro millis read
  have printed : IsoTime.toISOString 0 = some "1970-01-01T00:00:00.000Z" := by decide
  have back : dateParse "1970-01-01T00:00:00.000Z" = some 0 :=
    IsoTime.parseDate_toISOString printed
  cases back.symm.trans read
  decide

theorem freshEvent_later (id : String) : LaterEvents nearest [freshEvent id] :=
  { writable := by
      intro event listed
      obtain rfl := List.mem_singleton.mp listed
      exact freshEvent_writable id
    dated := by
      intro event listed
      obtain rfl := List.mem_singleton.mp listed
      exact freshEvent_dated id
    fits := by
      rw [List.length_singleton]
      decide }

/-- A next event is written on the line whose newline is missing, and cannot be read there. -/
theorem glued_unverified {event : AuditEvent} (writable : Writable nearest event)
    {torn : List UInt8} (whole : Utf8Stream.written torn = event.text)
    (nothing : Utf8Stream.held torn = [])
    (isFile : file.bytes = Utf8Stream.utf8 (terminated (log.map AuditEvent.text)) ++ torn)
    {other : AuditEvent} (unknown : other.id ∉ file.eventIds) {next : JsonlFile}
    (appended : file.appendChained nearest other = some next) (limit : AuditListLimit) :
    next.verifyAuditStore nearest limit = none := by
  obtain ⟨listed, -, mapped⟩ := Option.bind_eq_some_iff.mp appended
  obtain ⟨chained, chains, rfl⟩ := Option.map_eq_some_iff.mp mapped
  obtain ⟨timestamp, -, rfl⟩ := Option.map_eq_some_iff.mp chains
  generalize isLinked : linkedEvent other listed.head? timestamp = linked
  have sameId : linked.id = other.id := by
    rw [← isLinked]
    rfl
  have bytes : (file.append linked).bytes =
      Utf8Stream.utf8 (terminated (log.map AuditEvent.text)) ++
        (torn ++ Utf8Stream.utf8 (linked.text ++ ['\n'])) := by
    rw [JsonlFile.append, if_neg (sameId ▸ unknown), ← List.append_assoc, ← isFile]
  have read : Utf8Stream.decode (torn ++ Utf8Stream.utf8 (linked.text ++ ['\n'])) =
      event.text ++ linked.text ++ ['\n'] := by
    rw [Utf8Stream.decode_append_of_held nothing, Utf8Stream.decode_utf8, whole, List.append_assoc]
  have solid : Solid (event.text ++ linked.text) := by
    obtain ⟨first, firstSplit⟩ := text_eq event
    obtain ⟨second, secondSplit⟩ := text_eq linked
    have split : event.text ++ linked.text =
        '\x7b' :: (first ++ '\x7d' :: '\x7b' :: second) ++ ['\x7d'] := by
      rw [firstSplit, secondSplit]
      simp
    apply solid_of_braces split
    rw [List.mem_append, not_or]
    exact ⟨text_single event, text_single linked⟩
  have visible : skipSpace linked.text ≠ [] := by
    obtain ⟨inside, split⟩ := text_eq linked
    rw [skipSpace_opened (by rw [split]; rfl), split]
    exact List.cons_ne_nil _ _
  have spaces : ∀ char ∈ ['\n'], isSpace char = true :=
    List.all_iff_forall_prop.mp (by decide)
  have listed : event.text ++ linked.text ∈
      fileLines (Utf8Stream.decode (file.append linked).bytes) := by
    rw [bytes, lines_torn read solid spaces]
    exact List.mem_append_right _ List.mem_cons_self
  exact unverified_of_unread listed ((isObjectText writable).append_unparsed visible) limit

theorem torn_fails {event : AuditEvent} (writable : Writable nearest event)
    {torn : List UInt8} (cut : torn <+: Utf8Stream.utf8 event.text) (nonempty : torn ≠ []) :
    ¬ Survives nearest (reopened nearest
      (Utf8Stream.utf8 (terminated (log.map AuditEvent.text)) ++ torn)) := by
  intro survives
  generalize isFile : reopened nearest
    (Utf8Stream.utf8 (terminated (log.map AuditEvent.text)) ++ torn) = file at survives
  have bytes : file.bytes = Utf8Stream.utf8 (terminated (log.map AuditEvent.text)) ++ torn := by
    rw [← isFile]
    rfl
  rcases torn_unread writable cut nonempty with
    ⟨line, back, read, solid, spaces, unread⟩ | ⟨whole, nothing⟩
  · have listed : line ∈ fileLines (Utf8Stream.decode file.bytes) := by
      rw [bytes, lines_torn read solid spaces]
      exact List.mem_append_right _ List.mem_cons_self
    have verifies := survives.verifies .all
    rw [unverified_of_unread listed unread] at verifies
    cases verifies
  · obtain ⟨fresh, unknown⟩ := Infinite.exists_notMem_finset file.eventIds.toFinset
    rw [List.mem_toFinset] at unknown
    obtain ⟨final, completes, verifies, -⟩ := (survives.keeps _ (freshEvent_later fresh)).completes
    have appended : file.appendChained nearest (freshEvent fresh) = some final := by
      rw [JsonlFile.appendEach, List.foldlM_cons] at completes
      obtain ⟨next, appended, same⟩ := Option.bind_eq_some_iff.mp completes
      cases same
      exact appended
    have verified := verifies .all
    rw [glued_unverified writable whole nothing bytes unknown appended] at verified
    cases verified

/-- Of the logs whose last append was cut off, those survive to which it had written nothing. -/
theorem torn_log_survives_iff (written : WrittenLog nearest log) {next : AuditEvent}
    (writable : Writable nearest next) {torn : List UInt8}
    (isStart : torn <+: Utf8Stream.utf8 (next.text ++ ['\n']))
    (proper : torn ≠ Utf8Stream.utf8 (next.text ++ ['\n'])) :
    Survives nearest (reopened nearest
      (Utf8Stream.utf8 (terminated (log.map AuditEvent.text)) ++ torn)) ↔ torn = [] := by
  constructor
  · intro survives
    have newline : Utf8Stream.utf8 (next.text ++ ['\n']) = Utf8Stream.utf8 next.text ++ [10] := by
      rw [Utf8Stream.utf8_append]
      rfl
    rw [newline] at isStart proper
    rcases List.prefix_concat_iff.mp isStart with whole | cut
    · exact absurd whole proper
    · by_contra nonempty
      exact torn_fails writable cut nonempty survives
  · rintro rfl
    rw [List.append_nil]
    exact written.survives

end

section

/-- A reader that rounds no number. -/
abbrev exactly : JsonNumber → Option JsonNumber := some

theorem oneEvent_written : @WrittenLog exactly (sampleRuntime []) [freshEvent "first"] :=
  let _ := sampleRuntime []
  { writable := by
      intro event listed
      obtain rfl := List.mem_singleton.mp listed
      exact freshEvent_writable "first"
    named := by
      intro event listed
      obtain rfl := List.mem_singleton.mp listed
      decide
    distinct := List.nodup_singleton _
    dated := by
      intro event listed
      obtain rfl := List.mem_singleton.mp listed
      exact freshEvent_dated "first" }

/-- One byte of the next line is enough. -/
theorem oneByte_torn : ¬ @Survives exactly (sampleRuntime []) (reopened exactly
    (Utf8Stream.utf8 (terminated ([freshEvent "first"].map AuditEvent.text)) ++ [123])) := by
  have general := @torn_log_survives_iff exactly (sampleRuntime []) [freshEvent "first"]
    oneEvent_written (freshEvent "second") (freshEvent_writable "second") [123] ⟨_, rfl⟩
    (by decide +kernel)
  exact fun survives => List.cons_ne_nil _ _ (general.mp survives)

theorem torn_log_lost : ¬ ∀ (log : List AuditEvent) (next : AuditEvent) (torn : List UInt8),
    @WrittenLog exactly (sampleRuntime []) log → Writable exactly next →
      torn <+: Utf8Stream.utf8 (next.text ++ ['\n']) →
      torn ≠ Utf8Stream.utf8 (next.text ++ ['\n']) →
      @Survives exactly (sampleRuntime []) (reopened exactly
        (Utf8Stream.utf8 (terminated (log.map AuditEvent.text)) ++ torn)) := by
  intro general
  have brace : [123] <+: Utf8Stream.utf8 (freshEvent "second").text := ⟨_, rfl⟩
  exact @torn_fails exactly (sampleRuntime []) [freshEvent "first"] (freshEvent "second")
    (freshEvent_writable "second") [123] brace (List.cons_ne_nil _ _)
    (general [freshEvent "first"] (freshEvent "second") [123] oneEvent_written
      (freshEvent_writable "second") ⟨_, rfl⟩ (by decide +kernel))

end

end JsonlFile

end ActionProxy
