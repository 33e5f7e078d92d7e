import ActionProxy.Contracts.CanonicalJson
import ActionProxy.Foundation.NamedRange
import ActionProxy.Storage.AuditStores

/-!
The queries of the audit log: which texts the schema accepts for a range of dates, which
events the stores list for it, and how far that is the range of the instants meant. The
schema reads a date by `Date.parse`, and everything after it compares the texts.
-/

namespace ActionProxy

open JsonText NamedRange

section

variable [Runtime]

/-! ### The schemas -/

/-- A date of a query: a text that `Date.parse` reads, with what it reads. -/
structure DateText where
  text : String
  millis : Int
  given : text ≠ ""
  read : dateParse text = some millis

omit [Runtime] in
inductive AuditFormat where
  | json | siem
  deriving DecidableEq

omit [Runtime] in
/-- The texts of a query string. -/
structure AuditQueryInput where
  format : Option String
  «from» : Option String
  limit : Option String
  toolCallId : Option String
  «to» : Option String

structure AuditQuery where
  format : Option AuditFormat
  «from» : Option DateText
  limit : Option JsonNumber
  toolCallId : Option String
  «to» : Option DateText

/-- `isoDateStringSchema`; `Date.parse` of the empty text is `NaN`. -/
def isoDateString (text : String) : Option DateText :=
  if empty : text = "" then none
  else
    match read : dateParse text with
    | none => none
    | some millis => some { text := text, millis := millis, given := empty, read := read }

omit [Runtime] in
def auditFormat? (text : String) : Option AuditFormat :=
  match text with
  | "json" => some .json
  | "siem" => some .siem
  | _ => none

/-- `z.coerce.number().min(1).max(5000)`. -/
def auditLimit? (text : String) : Option JsonNumber :=
  (Runtime.parseNumber text).filter fun number =>
    decide (1 ≤ number.toRat) && decide (number.toRat ≤ 5000)

omit [Runtime] in
/-- `z.string().min(1)`. -/
def auditToolCallId? (text : String) : Option String := if text = "" then none else some text

omit [Runtime] in
/-- A field that may be left out. -/
def optionalField {α : Type} (field : String → Option α) : Option String → Option (Option α)
  | none => some none
  | some text => (field text).map some

def auditQueryBaseSchema (input : AuditQueryInput) : Option AuditQuery := do
  let format ← optionalField auditFormat? input.format
  let low ← optionalField isoDateString input.from
  let limit ← optionalField auditLimit? input.limit
  let toolCallId ← optionalField auditToolCallId? input.toolCallId
  let high ← optionalField isoDateString input.«to»
  return { format := format, «from» := low, limit := limit, toolCallId := toolCallId, «to» := high }

/-- `!input.from || !input.to || input.from <= input.to`. -/
def validAuditRange (query : AuditQuery) : Bool :=
  query.from.all fun low => query.«to».all fun high => codeUnitsLe low.text high.text

/-- The export takes no limit. -/
def auditExportQuerySchema (input : AuditQueryInput) : Option AuditQuery :=
  (auditQueryBaseSchema { input with limit := none }).filter validAuditRange

/-! ### The listing -/

/-- What a query asks of the store; a caller of every scope asks of no workspace. -/
def auditFilters (query : AuditQuery) (workspaceId : Option String) : AuditListFilters :=
  { «from» := query.from.map DateText.text
    «to» := query.«to».map DateText.text
    toolCallId := query.toolCallId
    workspaceId := workspaceId }

/-- `query.limit ?? 100`. -/
def auditListLimit (query : AuditQuery) : AuditListLimit :=
  .count ((query.limit.map JsonNumber.toRat).getD 100)

variable {Store : Type}

/-- The events of `/v1/audit`. -/
def auditEvents (auditStore : AuditStore Store) (query : AuditQuery) (workspaceId : Option String)
    (store : Store) : List AuditEvent :=
  auditStore.list (auditListLimit query) (auditFilters query workspaceId) store

def DateText.bound (date : DateText) : Int × String := (date.millis, date.text)

end

end ActionProxy
