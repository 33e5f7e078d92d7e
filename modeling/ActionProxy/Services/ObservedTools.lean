import ActionProxy.Foundation.HeldRecords
import ActionProxy.Services.ToolSuggestions

/-!
The records of the tools that were observed on one workspace. Observing a tool, dismissing it and
refreshing the coverage each read whole records, wait, and write whole records back; nothing keeps
two of them from holding the same record. Each call takes one turn for each of its waits.
-/

namespace ActionProxy

open JsonText

/-- What a call of `observeTool` passes for its workspace. -/
structure ObserveToolInput where
  agentId : Option String
  input : Option JsonObject
  mcpProfileId : Option String
  mcpServerName : Option String
  policy : PolicyFile
  schemaHash : Option String
  source : ObservedToolSource
  toolName : String

def ObservedToolSource.text : ObservedToolSource → String
  | .local_demo => "local_demo"
  | .mcp_discovery => "mcp_discovery"
  | .runtime => "runtime"

/-- The distinct sources in the order of their texts. -/
def mergeSources (left right : List ObservedToolSource) : List ObservedToolSource :=
  (left ++ right).dedup.insertionSort (fun first second => codeUnitsLe first.text second.text = true)

def mergeStrings (left right : List String) : List String :=
  sortedUnique ((left ++ right).filter (· ≠ ""))

def mergeOptional (values : Option (List String)) (value : Option String) : Option (List String) :=
  let merged := mergeStrings (values.getD []) (nonEmpty value).toList
  if merged = [] then none else some merged

section

variable [Runtime]

/-! ### Shapes -/

mutual

def shapeOf : Json → Json
  | .null => .str "object"
  | .bool _ => .str "boolean"
  | .num _ => .str "number"
  | .str _ => .str "string"
  | .arr [] => .arr []
  | .arr (first :: _) => .arr [shapeOf first]
  | .obj members => .obj (localeOrder.arrange (shapeOfMembers members))

def shapeOfMembers : List (String × Option Json) → List (String × Option Json)
  | [] => []
  | (key, some value) :: rest => (key, some (shapeOf value)) :: shapeOfMembers rest
  | (key, none) :: rest => (key, some (.str "undefined")) :: shapeOfMembers rest

end

/-- The first sixteen digits of the hash. -/
def shortHash (text : String) : String := String.ofList ((sha256Hex text).toList.take 16)

def schemaHashForJsonShape (input : JsonObject) : String :=
  shortHash (stableStringify (shapeOf (.obj input)))

def observedToolId (workspaceId toolName : String) : String :=
  "observed_" ++ shortHash (workspaceId ++ ":" ++ toolName)

/-! ### Observing a tool -/

def ObserveToolInput.observedHash (input : ObserveToolInput) : Option String :=
  input.schemaHash.or (input.input.map schemaHashForJsonShape)

omit [Runtime] in
/-- Two hashes that differ, neither of them empty. -/
def hashesDiffer : Option String → Option String → Option (String × String)
  | some previous, some current =>
      if previous ≠ "" ∧ current ≠ "" ∧ previous ≠ current then some (previous, current) else none
  | _, _ => none

/-- The record that `observeTool` writes over the one it read. -/
def observedRecord (workspaceId now : String) (input : ObserveToolInput)
    (existing : Option ObservedToolRecord) : ObservedToolRecord :=
  let schemaHash := input.observedHash
  let coverage := coverageForPolicy input.policy input.toolName
  let changed := hashesDiffer (existing.bind ObservedToolRecord.schemaHash) schemaHash
  let schemaChange : Option SchemaChange :=
    match changed with
    | some (previous, current) =>
        some { currentSchemaHash := current, previousSchemaHash := previous
               reviewState := .needs_review }
    | none => existing.bind ObservedToolRecord.schemaChange
  { id := (existing.map ObservedToolRecord.id).getD (observedToolId workspaceId input.toolName)
    workspaceId := workspaceId
    toolName := input.toolName
    sources := mergeSources ((existing.map ObservedToolRecord.sources).getD []) [input.source]
    sourceIds :=
      { agentIds := mergeOptional (existing.bind fun record => record.sourceIds.agentIds)
          input.agentId
        mcpProfileIds := mergeOptional (existing.bind fun record => record.sourceIds.mcpProfileIds)
          input.mcpProfileId
        mcpServerNames := mergeOptional
          (existing.bind fun record => record.sourceIds.mcpServerNames) input.mcpServerName }
    firstSeenAt := (existing.map ObservedToolRecord.firstSeenAt).getD now
    lastSeenAt := now
    callCount := (existing.map ObservedToolRecord.callCount).getD 0 +
      (if input.source = .runtime ∨ input.source = .local_demo then 1 else 0)
    schemaChange := schemaChange
    schemaHash := schemaHash.or (existing.bind ObservedToolRecord.schemaHash)
    coverage := coverage
    status :=
      if changed.isSome ∨ SchemaChange.needsReview schemaChange then .unresolved
      else if coverage.status = .covered then .resolved
      else if existing.map ObservedToolRecord.status = some .dismissed then .dismissed
      else .unresolved
    suggestion := suggestionForToolName input.toolName
    createdAt := (existing.map ObservedToolRecord.createdAt).getD now
    updatedAt := now }

/-! ### Dismissing a tool -/

/-- What `get` makes of the record it read and the records it listed. -/
def enrichedRecord (policy : PolicyFile) (record : ObservedToolRecord)
    (records : List ObservedToolRecord) : Option ObservedToolRecord :=
  (withWildcardSuggestions [refreshRecordView false record policy] policy records).head?

omit [Runtime] in
def dismissedRecord (now : String) (record : ObservedToolRecord) : ObservedToolRecord :=
  { record with
    schemaChange := reviewedSchemaChange record.schemaChange
    status := .dismissed
    updatedAt := now }

/-! ### The store -/

abbrev ObservedToolTable := KeyedTable String ObservedToolRecord

omit [Runtime] in
def getObservedToolByName (workspaceId toolName : String) (tools : ObservedToolTable) :
    Option ObservedToolRecord :=
  tools.values.find? (fun record =>
    decide (record.workspaceId = workspaceId) && decide (record.toolName = toolName))

/-- The records of the workspace, those last seen first. -/
def listObservedTools (workspaceId : String) (tools : ObservedToolTable) :
    List ObservedToolRecord :=
  (tools.values.filter (fun record => decide (record.workspaceId = workspaceId))).insertionSort
    (fun left right => (Runtime.localeCompare right.lastSeenAt left.lastSeenAt).isLE = true)

/-! ### Calls -/

inductive DetectorCall where
  | observeTool (now : String) (input : ObserveToolInput)
  | dismiss (now id : String) (policy : PolicyFile)
  | refreshPolicyCoverage (policy : PolicyFile)

/-- The audit events of the detector, with what they tell of the tool. -/
inductive DetectorEvent where
  | tool_observed (source : ObservedToolSource) (record : ObservedToolRecord)
  | schema_changed (toolName previousSchemaHash newSchemaHash : String)
  | dismissed (toolName : String)

inductive DetectorAnswer where
  | observed (input : ObserveToolInput) (record : ObservedToolRecord)
  | dismissed (record : ObservedToolRecord)
  | notFound (message : String)
  | refreshed

/-- A call at the point it has reached. -/
inductive RunningCall where
  /-- `observeTool` has read the record. -/
  | observing (now : String) (input : ObserveToolInput) (existing : Option ObservedToolRecord)
  /-- It has written the record; the audit event, if there is one, comes next. -/
  | observed (input : ObserveToolInput) (record : ObservedToolRecord) (event : Option DetectorEvent)
  /-- `dismiss` has read the record. -/
  | getting (now id : String) (policy : PolicyFile) (record : ObservedToolRecord)
  /-- It has made of the record what it writes. -/
  | dismissing (record updated : ObservedToolRecord)
  | dismissed (updated : ObservedToolRecord)
  /-- `refreshPolicyCoverage` still writes these. -/
  | refreshing (policy : PolicyFile) (records : List ObservedToolRecord)
  | answered (answer : DetectorAnswer)

/-- What is noted of the calls: that one began, the hash that an observation wrote, and the audit
events. No call reads the notes. -/
inductive DetectorNote where
  | began (call : DetectorCall)
  | recorded (toolName : String) (schemaHash : Option String)
  | audited (event : DetectorEvent)

omit [Runtime] in
def observedToolNotFound (id : String) : RunningCall :=
  .answered (.notFound ("Observed tool not found: " ++ id))

/-- The audit event of an observation. -/
def observationEvent (input : ObserveToolInput) (existing : Option ObservedToolRecord)
    (record : ObservedToolRecord) : Option DetectorEvent :=
  match existing with
  | none => some (.tool_observed input.source record)
  | some earlier =>
      (hashesDiffer earlier.schemaHash input.observedHash).map
        (fun hashes => .schema_changed input.toolName hashes.1 hashes.2)

variable (workspaceId : String)

/-- A call reads before it first waits. -/
def enterDetector (call : DetectorCall) (tools : ObservedToolTable) : RunningCall :=
  match call with
  | .observeTool now input =>
      .observing now input (getObservedToolByName workspaceId input.toolName tools)
  | .dismiss now id policy =>
      match tools.get? id with
      | none => observedToolNotFound id
      | some record =>
          if record.workspaceId ≠ workspaceId then observedToolNotFound id
          else .getting now id policy record
  | .refreshPolicyCoverage policy => .refreshing policy (listObservedTools workspaceId tools)

abbrev DetectorTurn :=
  HeldRecords.Turn String ObservedToolRecord RunningCall DetectorNote

omit [Runtime] in
/-- A turn that writes nothing. -/
def DetectorTurn.quiet (call : RunningCall) : DetectorTurn :=
  { call := call, written := none, entries := [] }

def turnDetector (call : RunningCall) (tools : ObservedToolTable) : DetectorTurn :=
  match call with
  | .observing now input existing =>
      let record := observedRecord workspaceId now input existing
      { call := .observed input record (observationEvent input existing record)
        written := some (record.id, record)
        entries := [.recorded input.toolName input.observedHash] }
  | .observed input record event =>
      { call := .answered (.observed input record)
        written := none
        entries := event.toList.map .audited }
  | .getting now id policy record =>
      match enrichedRecord policy record (listObservedTools workspaceId tools) with
      | none => .quiet (observedToolNotFound id)
      | some enriched => .quiet (.dismissing record (dismissedRecord now enriched))
  | .dismissing _ updated =>
      { call := .dismissed updated, written := some (updated.id, updated), entries := [] }
  | .dismissed updated =>
      { call := .answered (.dismissed updated)
        written := none
        entries := [.audited (.dismissed updated.toolName)] }
  | .refreshing _ [] => .quiet (.answered .refreshed)
  | .refreshing policy (record :: rest) =>
      let updated := refreshRecordView true record policy
      { call := .refreshing policy rest, written := some (updated.id, updated), entries := [] }
  | .answered answer => .quiet (.answered answer)

/-- The records a call has read and not yet written. -/
def heldTools : RunningCall → List (String × Option ObservedToolRecord)
  | .observing _ input existing => [(observedToolId workspaceId input.toolName, existing)]
  | .getting _ _ _ record => [(record.id, some record)]
  | .dismissing record _ => [(record.id, some record)]
  | .refreshing _ records => records.map (fun record => (record.id, some record))
  | .observed _ _ _ => []
  | .dismissed _ => []
  | .answered _ => []

/-- The calls of one workspace. -/
def policyDetector :
    HeldRecords.Machine String ObservedToolRecord DetectorCall RunningCall DetectorNote :=
  { enter := enterDetector workspaceId
    entered := .began
    turn := turnDetector workspaceId
    holds := heldTools workspaceId }

end

abbrev DetectorWorld :=
  HeldRecords.World String ObservedToolRecord RunningCall DetectorNote

end ActionProxy
