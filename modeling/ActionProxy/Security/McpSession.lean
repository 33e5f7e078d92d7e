import ActionProxy.Contracts.CanonicalJson
import ActionProxy.Foundation.Base64Url
import ActionProxy.Foundation.LooseValue
import ActionProxy.Services.ApprovalPublication

/-!
Signed MCP transport sessions: what an authority issues, what it accepts of a token, and
the idempotency keys of a session. The keyed hash, the rounding of numbers and the reading
of bytes that are no UTF-8 are parameters.
-/

namespace ActionProxy

open JsonText

def mcpSessionVersion : String := "actionproxy.mcp-session.v2"

structure McpSessionBinding where
  adapterId : String
  catalogRevision : String
  expiresAt : JsonNumber
  issuedAt : JsonNumber
  principalId : String
  protocolVersion : String
  resource : String
  sessionId : String
  tenantId : String
  deriving DecidableEq

structure McpSessionExpectedBinding where
  adapterId : String
  catalogRevision : String
  principalId : String
  protocolVersion : Option String
  resource : String
  tenantId : String

/-- What a session is issued for: an expected binding that names its protocol version. -/
structure McpSessionInput where
  adapterId : String
  catalogRevision : String
  principalId : String
  protocolVersion : String
  resource : String
  tenantId : String

inductive McpSessionErrorCode where
  | bindingMismatch | expired | invalid
  deriving DecidableEq

def McpSessionErrorCode.text : McpSessionErrorCode → String
  | .bindingMismatch => "mcp_session_binding_mismatch"
  | .expired => "mcp_session_expired"
  | .invalid => "mcp_session_invalid"

structure McpSessionError where
  code : McpSessionErrorCode
  message : String
  deriving DecidableEq

def invalidSession : McpSessionError :=
  { code := .invalid, message := "MCP session is invalid." }

def McpSessionBinding.json (session : McpSessionBinding) : Json :=
  .obj [
    ("adapterId", some (.str session.adapterId)),
    ("catalogRevision", some (.str session.catalogRevision)),
    ("expiresAt", some (.num session.expiresAt)),
    ("issuedAt", some (.num session.issuedAt)),
    ("principalId", some (.str session.principalId)),
    ("protocolVersion", some (.str session.protocolVersion)),
    ("resource", some (.str session.resource)),
    ("sessionId", some (.str session.sessionId)),
    ("tenantId", some (.str session.tenantId)),
    ("version", some (.str mcpSessionVersion))]

/-- A text is trimmed, and must then be neither empty nor long. -/
def requiredString (value name : String) : Except String String :=
  let normalized := TextScan.trim value
  if normalized = "" ∨ 1024 < normalized.utf8ByteSize then
    .error ("MCP session " ++ name ++ " must be a non-empty bounded string.")
  else .ok normalized

/-! ### Reading a session -/

def memberString (members : JsonObject) (key : String) : Option String :=
  match member? members key with
  | some (.str text) => some text
  | _ => none

/-- A member that is a safe integer. -/
def memberInteger (members : JsonObject) (key : String) : Option JsonNumber :=
  match member? members key with
  | some (.num number) => if isSafeInteger number then some number else none
  | _ => none

/-- The session that a parsed payload is, if it is one. -/
def readSession : Json → Option McpSessionBinding
  | .obj members => do
      let version ← memberString members "version"
      let adapterId ← memberString members "adapterId"
      let catalogRevision ← memberString members "catalogRevision"
      let principalId ← memberString members "principalId"
      let protocolVersion ← memberString members "protocolVersion"
      let resource ← memberString members "resource"
      let sessionId ← memberString members "sessionId"
      let tenantId ← memberString members "tenantId"
      let issuedAt ← memberInteger members "issuedAt"
      let expiresAt ← memberInteger members "expiresAt"
      if version = mcpSessionVersion ∧ issuedAt.less expiresAt then
        some {
          adapterId := adapterId
          catalogRevision := catalogRevision
          expiresAt := expiresAt
          issuedAt := issuedAt
          principalId := principalId
          protocolVersion := protocolVersion
          resource := resource
          sessionId := sessionId
          tenantId := tenantId }
      else none
  | _ => none

/-- What the language and its platform supply: rounding to a number (nothing when it is
infinite), the keyed hash, and the reading of bytes that are no UTF-8. -/
structure SessionPlatform where
  nearest : JsonNumber → Option JsonNumber
  /-- A rounded number is a number. -/
  rounded : ∀ exact number, nearest exact = some number → nearest number = some number
  hmacSha256 : String → String → Fin 32 → UInt8
  repaired : List UInt8 → String

/-- The bytes of a text. -/
def utf8Bytes (text : String) : List UInt8 := text.toUTF8.data.toList

namespace SessionPlatform

variable (platform : SessionPlatform)

/-- `buffer.toString('utf8')`. -/
def utf8Text (bytes : List UInt8) : String :=
  (String.fromUTF8? ⟨bytes.toArray⟩).getD (platform.repaired bytes)

def parseSession (payload : String) : Option McpSessionBinding :=
  (jsonParse platform.nearest (platform.utf8Text (Base64Url.decode payload.toList))).bind
    readSession

/-- The text of a keyed hash. -/
def signature (secret payload : String) : String :=
  String.ofList (Base64Url.encode (List.ofFn (platform.hmacSha256 secret payload)))

end SessionPlatform

/-! ### The authority -/

/-- An authority, with what its constructor requires. -/
structure McpSessionAuthority where
  secret : String
  ttlMs : JsonNumber
  longSecret : 32 ≤ secret.utf8ByteSize
  positive : JsonNumber.zero.less ttlMs = true

inductive McpJsonRpcId where
  | number (value : JsonNumber)
  | text (value : String)
  deriving DecidableEq

def McpJsonRpcId.typeof : McpJsonRpcId → String
  | .number _ => "number"
  | .text _ => "string"

def McpJsonRpcId.json : McpJsonRpcId → Json
  | .number value => .num value
  | .text value => .str value

/-- A number must be a safe integer. -/
def McpJsonRpcId.accepted : McpJsonRpcId → Bool
  | .number value => isSafeInteger value
  | .text _ => true

/-- The session is the expected one, which need not name a protocol version. -/
def McpSessionBinding.agrees (session : McpSessionBinding)
    (expected : McpSessionExpectedBinding) : Bool :=
  session.adapterId == expected.adapterId && session.catalogRevision == expected.catalogRevision &&
    session.principalId == expected.principalId && session.resource == expected.resource &&
    session.tenantId == expected.tenantId &&
    expected.protocolVersion.all (session.protocolVersion == ·)

namespace McpSessionAuthority

/-- The constructor. -/
def create {nearest : JsonNumber → Option JsonNumber} (secret : String)
    (ttlMs : JsNumber nearest) : Except String McpSessionAuthority :=
  if long : 32 ≤ secret.utf8ByteSize then
    match ttlMs with
    | .finite value _ =>
        if positive : JsonNumber.zero.less value = true then
          .ok { secret := secret, ttlMs := value, longSecret := long, positive := positive }
        else .error "MCP session TTL must be a positive number."
    | _ => .error "MCP session TTL must be a positive number."
  else .error "MCP session secret must contain at least 32 UTF-8 bytes."

variable (platform : SessionPlatform) (authority : McpSessionAuthority)

def sign (payload : String) : String := platform.signature authority.secret payload

/-- `issue`, at what the clock shows and with the session id that was drawn. -/
def issue (issuedAt : JsonNumber) (drawnId : String) (input : McpSessionInput) :
    Except String (McpSessionBinding × String) := do
  let adapterId ← requiredString input.adapterId "adapterId"
  let catalogRevision ← requiredString input.catalogRevision "catalogRevision"
  let principalId ← requiredString input.principalId "principalId"
  let protocolVersion ← requiredString input.protocolVersion "protocolVersion"
  let resource ← requiredString input.resource "resource"
  let sessionId ← requiredString drawnId "sessionId"
  let tenantId ← requiredString input.tenantId "tenantId"
  match platform.nearest (issuedAt.sum authority.ttlMs) with
  | none => .error "Non-finite number at $.expiresAt."
  | some expiresAt =>
      let session : McpSessionBinding :=
        { adapterId := adapterId
          catalogRevision := catalogRevision
          expiresAt := expiresAt
          issuedAt := issuedAt
          principalId := principalId
          protocolVersion := protocolVersion
          resource := resource
          sessionId := sessionId
          tenantId := tenantId }
      let payload :=
        String.ofList (Base64Url.encode (utf8Bytes (canonicalJsonStringify session.json)))
      return (session, payload ++ "." ++ authority.sign platform payload)

def verify (token : String) (expected : McpSessionExpectedBinding) (now : JsonNumber) :
    Except McpSessionError McpSessionBinding :=
  match (token.toList.splitOn '.').map String.ofList with
  | [payload, signature] =>
      if payload = "" ∨ signature = "" ∨ signature ≠ authority.sign platform payload then
        .error invalidSession
      else
        match platform.parseSession payload with
        | none => .error invalidSession
        | some session =>
            if !now.less session.expiresAt then
              .error { code := .expired, message := "MCP session has expired." }
            else if !session.agrees expected then
              .error
                { code := .bindingMismatch
                  message := "MCP session does not match the authenticated transport." }
            else .ok session
  | _ => .error invalidSession

end McpSessionAuthority

/-- What the idempotency key of a request is the hash of. -/
def idempotencyMaterial (session : McpSessionBinding) (requestId : McpJsonRpcId) : Json :=
  .obj [
    ("adapterId", some (.str session.adapterId)),
    ("requestId", some (.obj [
      ("type", some (.str requestId.typeof)),
      ("value", some requestId.json)])),
    ("resource", some (.str session.resource)),
    ("sessionId", some (.str session.sessionId)),
    ("tenantId", some (.str session.tenantId)),
    ("version", some (.str "actionproxy.mcp-idempotency.v1"))]

def idempotencyKey [Runtime] (session : McpSessionBinding) (requestId : McpJsonRpcId) :
    Except McpSessionError String :=
  if requestId.accepted then
    .ok ("mcp_" ++ hashCanonicalJson (idempotencyMaterial session requestId))
  else
    .error
      { code := .invalid
        message := "MCP JSON-RPC request id must be a safe integer or string." }

/-! ### Reading back what was issued -/

theorem SessionPlatform.utf8Text_utf8Bytes (platform : SessionPlatform) (text : String) :
    platform.utf8Text (utf8Bytes text) = text := by
  unfold SessionPlatform.utf8Text utf8Bytes
  have bytes : (⟨(text.toUTF8.data.toList).toArray⟩ : ByteArray) = text.toByteArray := by
    rw [Array.toArray_toList]
    rfl
  have valid : text.toByteArray.IsValidUTF8 := text.isValidUTF8
  rw [bytes, String.fromUTF8?, dif_pos valid]
  rfl

theorem utf8Bytes_ne_nil {text : String} (some_ : text ≠ "") : utf8Bytes text ≠ [] := by
  intro empty
  have data : text.toByteArray.data = #[] := Array.toList_eq_nil_iff.mp empty
  have bytes : text.toByteArray = "".toByteArray := ByteArray.ext data
  exact some_ (String.toByteArray_inj.mp bytes)

theorem canonicalJsonStringify_obj_ne_empty (members : JsonObject) :
    canonicalJsonStringify (.obj members) ≠ "" := by
  intro empty
  have chars := congrArg String.toList empty
  unfold canonicalJsonStringify at chars
  rw [String.toList_ofList, textWith] at chars
  cases chars

theorem memberString_of_same {left right : JsonObject} (same : Same (.obj left) (.obj right))
    (distinct : (left.map Prod.fst).Nodup) {key text : String}
    (found : member? left key = some (.str text)) : memberString right key = some text := by
  have related := same_obj_member same distinct key
  unfold memberString
  rw [found] at related
  generalize member? right key = other at related
  cases related with
  | some values =>
      cases values
      rfl

theorem memberInteger_of_same {left right : JsonObject} (same : Same (.obj left) (.obj right))
    (distinct : (left.map Prod.fst).Nodup) {key : String} {number : JsonNumber}
    (safe : isSafeInteger number = true) (found : member? left key = some (.num number)) :
    memberInteger right key = some number := by
  have related := same_obj_member same distinct key
  unfold memberInteger
  rw [found] at related
  generalize member? right key = other at related
  cases related with
  | some values =>
      cases values
      exact if_pos safe

/-- The times of the session are safe integers, the expiry after the issue. -/
structure McpSessionBinding.Timed (session : McpSessionBinding) : Prop where
  issued : isSafeInteger session.issuedAt = true
  expires : isSafeInteger session.expiresAt = true
  order : session.issuedAt.less session.expiresAt = true

theorem readSession_of_same {session : McpSessionBinding} (timed : session.Timed) {parsed : Json}
    (same : Same session.json parsed) : readSession parsed = some session := by
  unfold McpSessionBinding.json at same
  obtain ⟨members, rfl⟩ : ∃ members, parsed = .obj members := by
    cases same
    exact ⟨_, rfl⟩
  have text {key text : String} (found : member? _ key = some (.str text)) :=
    memberString_of_same same (by simp) found
  have integer {key : String} {number : JsonNumber} (safe : isSafeInteger number = true)
      (found : member? _ key = some (.num number)) :=
    memberInteger_of_same same (by simp) safe found
  have version : memberString members "version" = some mcpSessionVersion := text rfl
  have adapterId : memberString members "adapterId" = some session.adapterId := text rfl
  have catalogRevision : memberString members "catalogRevision" = some session.catalogRevision :=
    text rfl
  have principalId : memberString members "principalId" = some session.principalId := text rfl
  have protocolVersion : memberString members "protocolVersion" = some session.protocolVersion :=
    text rfl
  have resource : memberString members "resource" = some session.resource := text rfl
  have sessionId : memberString members "sessionId" = some session.sessionId := text rfl
  have tenantId : memberString members "tenantId" = some session.tenantId := text rfl
  have issuedAt : memberInteger members "issuedAt" = some session.issuedAt :=
    integer timed.issued rfl
  have expiresAt : memberInteger members "expiresAt" = some session.expiresAt :=
    integer timed.expires rfl
  unfold readSession
  dsimp only
  rw [version, adapterId, catalogRevision, principalId, protocolVersion, resource, sessionId,
    tenantId, issuedAt, expiresAt]
  exact if_pos ⟨rfl, timed.order⟩

namespace McpSessionBinding

theorem distinct (session : McpSessionBinding) : distinctKeys session.json = true := by
  unfold distinctKeys everyObject
  simp [json, onMembers, everyPart, everyMember]

theorem exact {nearest : JsonNumber → Option JsonNumber} {session : McpSessionBinding}
    (issued : nearest session.issuedAt = some session.issuedAt)
    (expires : nearest session.expiresAt = some session.expiresAt) :
    exactNumbers nearest session.json = true := by
  unfold exactNumbers
  simp [json, everyPart, everyMember, issued, expires]

end McpSessionBinding

namespace McpSessionAuthority

variable {platform : SessionPlatform} {authority : McpSessionAuthority}

/-- What `issue` gives: trimmed texts, the time to live added, and a signed payload. -/
structure Issues (platform : SessionPlatform) (authority : McpSessionAuthority)
    (now : JsonNumber) (drawnId : String) (input : McpSessionInput)
    (session : McpSessionBinding) (token : String) : Prop where
  adapterId : session.adapterId = TextScan.trim input.adapterId
  catalogRevision : session.catalogRevision = TextScan.trim input.catalogRevision
  principalId : session.principalId = TextScan.trim input.principalId
  protocolVersion : session.protocolVersion = TextScan.trim input.protocolVersion
  resource : session.resource = TextScan.trim input.resource
  sessionId : session.sessionId = TextScan.trim drawnId
  tenantId : session.tenantId = TextScan.trim input.tenantId
  issuedAt : session.issuedAt = now
  expiresAt : platform.nearest (now.sum authority.ttlMs) = some session.expiresAt
  token : token = String.ofList (Base64Url.encode (utf8Bytes (canonicalJsonStringify session.json)))
    ++ "." ++ authority.sign platform
      (String.ofList (Base64Url.encode (utf8Bytes (canonicalJsonStringify session.json))))

theorem requiredString_ok {value name normalized : String}
    (accepted : requiredString value name = .ok normalized) :
    normalized = TextScan.trim value ∧ normalized ≠ "" := by
  unfold requiredString at accepted
  dsimp only at accepted
  split at accepted
  · cases accepted
  · rename_i kept
    cases accepted
    exact ⟨rfl, fun empty => kept (Or.inl empty)⟩

theorem ok_of_bind {ε α β : Type} {first : Except ε α} {next : α → Except ε β} {value : β}
    (done : (first >>= next) = .ok value) :
    ∃ middle, first = .ok middle ∧ next middle = .ok value := by
  cases first with
  | error error => cases done
  | ok middle => exact ⟨middle, rfl, done⟩

theorem issues_of_issue {now : JsonNumber} {drawnId : String} {input : McpSessionInput}
    {session : McpSessionBinding} {token : String}
    (issued : authority.issue platform now drawnId input = .ok (session, token)) :
    Issues platform authority now drawnId input session token := by
  unfold issue at issued
  obtain ⟨adapterId, adapter, issued⟩ := ok_of_bind issued
  obtain ⟨catalogRevision, catalog, issued⟩ := ok_of_bind issued
  obtain ⟨principalId, principal, issued⟩ := ok_of_bind issued
  obtain ⟨protocolVersion, protocol, issued⟩ := ok_of_bind issued
  obtain ⟨resource, target, issued⟩ := ok_of_bind issued
  obtain ⟨sessionId, drawn, issued⟩ := ok_of_bind issued
  obtain ⟨tenantId, tenant, issued⟩ := ok_of_bind issued
  split at issued
  · cases issued
  · rename_i expiresAt expires
    cases issued
    exact {
      adapterId := (requiredString_ok adapter).1
      catalogRevision := (requiredString_ok catalog).1
      principalId := (requiredString_ok principal).1
      protocolVersion := (requiredString_ok protocol).1
      resource := (requiredString_ok target).1
      sessionId := (requiredString_ok drawn).1
      tenantId := (requiredString_ok tenant).1
      issuedAt := rfl
      expiresAt := expires
      token := rfl }

theorem parseSession_payload {session : McpSessionBinding} (timed : session.Timed)
    (issued : platform.nearest session.issuedAt = some session.issuedAt)
    (expires : platform.nearest session.expiresAt = some session.expiresAt) :
    platform.parseSession
      (String.ofList (Base64Url.encode (utf8Bytes (canonicalJsonStringify session.json)))) =
      some session := by
  unfold SessionPlatform.parseSession
  rw [String.toList_ofList, Base64Url.decode_encode, platform.utf8Text_utf8Bytes]
  obtain ⟨parsed, read, same, -⟩ := jsonParse_text codeUnitOrder session.distinct
    (McpSessionBinding.exact issued expires)
  unfold canonicalJsonStringify
  rw [read]
  exact readSession_of_same timed same

theorem token_parts {payload signature : List Char} (inPayload : '.' ∉ payload)
    (inSignature : '.' ∉ signature) :
    ((String.ofList payload ++ "." ++ String.ofList signature).toList.splitOn '.').map
      String.ofList = [String.ofList payload, String.ofList signature] := by
  have chars : (String.ofList payload ++ "." ++ String.ofList signature).toList =
      payload ++ '.' :: signature := by
    rw [String.toList_append, String.toList_append, String.toList_ofList, String.toList_ofList]
    simp
  rw [chars, List.splitOn_append_cons_self_of_not_mem inPayload,
    List.splitOn_eq_singleton inSignature]
  rfl

theorem verify_token {session : McpSessionBinding} {payload : List Char}
    (inPayload : '.' ∉ payload) (some_ : payload ≠ [])
    (read : platform.parseSession (String.ofList payload) = some session)
    (expected : McpSessionExpectedBinding) (now : JsonNumber) :
    authority.verify platform
      (String.ofList payload ++ "." ++ authority.sign platform (String.ofList payload))
      expected now =
      if !now.less session.expiresAt then
        .error { code := .expired, message := "MCP session has expired." }
      else if !session.agrees expected then
        .error
          { code := .bindingMismatch
            message := "MCP session does not match the authenticated transport." }
      else .ok session := by
  have digest : List.ofFn (platform.hmacSha256 authority.secret (String.ofList payload)) ≠ [] := by
    intro empty
    have size := congrArg List.length empty
    rw [List.length_ofFn] at size
    cases size
  have parts := token_parts inPayload (Base64Url.period_not_mem_encode
    (List.ofFn (platform.hmacSha256 authority.secret (String.ofList payload))))
  have signed : authority.sign platform (String.ofList payload) = String.ofList (Base64Url.encode
      (List.ofFn (platform.hmacSha256 authority.secret (String.ofList payload)))) := rfl
  have nonempty : ¬ (String.ofList payload = "" ∨
      authority.sign platform (String.ofList payload) = "" ∨
      authority.sign platform (String.ofList payload) ≠
        authority.sign platform (String.ofList payload)) := by
    rintro (empty | empty | other)
    · exact some_ (by simpa using congrArg String.toList empty)
    · rw [signed] at empty
      exact Base64Url.encode_ne_nil digest (by simpa using congrArg String.toList empty)
    · exact other rfl
  unfold verify
  rw [← signed] at parts
  rw [parts]
  dsimp only
  rw [if_neg nonempty, read]

end McpSessionAuthority

/-! ### Exact verification -/

/-- The expected binding is that of the session; it may leave the protocol version open. -/
structure McpSessionBinding.Expected (session : McpSessionBinding)
    (expected : McpSessionExpectedBinding) : Prop where
  adapterId : expected.adapterId = session.adapterId
  catalogRevision : expected.catalogRevision = session.catalogRevision
  principalId : expected.principalId = session.principalId
  protocolVersion : ∀ version, expected.protocolVersion = some version →
    version = session.protocolVersion
  resource : expected.resource = session.resource
  tenantId : expected.tenantId = session.tenantId

theorem McpSessionBinding.agrees_iff {session : McpSessionBinding}
    {expected : McpSessionExpectedBinding} :
    session.agrees expected = true ↔ session.Expected expected := by
  unfold McpSessionBinding.agrees
  simp only [Bool.and_eq_true, beq_iff_eq, Option.all_eq_true]
  constructor
  · rintro ⟨⟨⟨⟨⟨adapterId, catalogRevision⟩, principalId⟩, resource⟩, tenantId⟩, protocol⟩
    exact ⟨adapterId.symm, catalogRevision.symm, principalId.symm,
      fun version given => (protocol version given).symm, resource.symm, tenantId.symm⟩
  · rintro ⟨adapterId, catalogRevision, principalId, protocol, resource, tenantId⟩
    exact ⟨⟨⟨⟨⟨adapterId.symm, catalogRevision.symm⟩, principalId.symm⟩, resource.symm⟩,
      tenantId.symm⟩, fun version given => (protocol version given).symm⟩

section

variable {platform : SessionPlatform} {authority : McpSessionAuthority}

/-- The token of a timed session is verified exactly before the session expires and
against its binding, and gives the session. -/
theorem verify_issued_iff {now : JsonNumber} (held : platform.nearest now = some now)
    {drawnId : String} {input : McpSessionInput} {session : McpSessionBinding} {token : String}
    (issued : authority.issue platform now drawnId input = .ok (session, token))
    (timed : session.Timed) (expected : McpSessionExpectedBinding) (later : JsonNumber)
    (read : McpSessionBinding) :
    authority.verify platform token expected later = .ok read ↔
      read = session ∧ later.less session.expiresAt = true ∧ session.Expected expected := by
  have facts := McpSessionAuthority.issues_of_issue issued
  have back := McpSessionAuthority.parseSession_payload timed
    (facts.issuedAt.symm ▸ held) (platform.rounded _ _ facts.expiresAt)
  have printed : canonicalJsonStringify session.json ≠ "" :=
    canonicalJsonStringify_obj_ne_empty _
  have payload : Base64Url.encode (utf8Bytes (canonicalJsonStringify session.json)) ≠ [] :=
    Base64Url.encode_ne_nil (utf8Bytes_ne_nil printed)
  rw [facts.token, McpSessionAuthority.verify_token (Base64Url.period_not_mem_encode _) payload
    back, ← McpSessionBinding.agrees_iff]
  split
  · rename_i late
    simp only [Bool.not_eq_true'] at late
    simp [late]
  · rename_i inTime
    split
    · rename_i other
      simp only [Bool.not_eq_true'] at other
      simp [other]
    · rename_i same
      simp only [Bool.not_eq_true', Bool.not_eq_false] at inTime same
      simp [inTime, same, eq_comm]

end

/-! ### Idempotency keys -/

section

variable [Runtime]

omit [Runtime] in
theorem requestId_of_same {left right : McpJsonRpcId}
    (same : Option.Rel Same (some left.json) (some right.json)) : left = right := by
  cases same with
  | some values =>
      cases left with
      | number value =>
          cases right with
          | number other =>
              cases values
              rfl
          | text other => cases values
      | text value =>
          cases right with
          | number other => cases values
          | text other =>
              cases values
              rfl

/-- Two requests have one key only when they agree on the adapter, the resource, the
session, the tenant and the id. -/
theorem idempotencyKey_injective (injective : Function.Injective sha256Hex)
    {session other : McpSessionBinding} {requestId otherId : McpJsonRpcId} {key : String}
    (first : idempotencyKey session requestId = .ok key)
    (second : idempotencyKey other otherId = .ok key) :
    session.adapterId = other.adapterId ∧ session.resource = other.resource ∧
      session.sessionId = other.sessionId ∧ session.tenantId = other.tenantId ∧
      requestId = otherId := by
  unfold idempotencyKey at first second
  split at first
  · split at second
    · have hashes := (Except.ok.inj first).trans (Except.ok.inj second).symm
      have material := same_of_hashCanonicalJson_eq injective
        ((String.append_right_inj _).mp hashes)
      have parts := same_obj_zip material (by simp) rfl
      simp only [List.zip_cons_cons, List.forall_mem_cons] at parts
      obtain ⟨adapter, request, resource, sessionId, tenant, _⟩ := parts
      have requests := rel_obj_zip request (by simp) rfl
      simp only [List.zip_cons_cons, List.forall_mem_cons] at requests
      obtain ⟨_, value, _⟩ := requests
      exact ⟨required_eq_of_rel adapter, required_eq_of_rel resource,
        required_eq_of_rel sessionId, required_eq_of_rel tenant, requestId_of_same value⟩
    · cases second
  · cases first

/-- A token verifies exactly before its session expires and against its binding, with the
texts as they were trimmed, and idempotency keys tell requests apart by the adapter, the
resource, the session, the tenant and the id with its type. -/
theorem mcp_session_exact (platform : SessionPlatform) (authority : McpSessionAuthority)
    (injective : Function.Injective sha256Hex) :
    (∀ (now : JsonNumber) (drawnId : String) (input : McpSessionInput)
        (session : McpSessionBinding) (token : String), platform.nearest now = some now →
        authority.issue platform now drawnId input = .ok (session, token) → session.Timed →
        McpSessionAuthority.Issues platform authority now drawnId input session token ∧
          ∀ expected later read, authority.verify platform token expected later = .ok read ↔
            read = session ∧ later.less session.expiresAt = true ∧ session.Expected expected) ∧
      ∀ (session other : McpSessionBinding) (requestId otherId : McpJsonRpcId) (key : String),
        idempotencyKey session requestId = .ok key → idempotencyKey other otherId = .ok key →
        session.adapterId = other.adapterId ∧ session.resource = other.resource ∧
          session.sessionId = other.sessionId ∧ session.tenantId = other.tenantId ∧
          requestId = otherId := by
  constructor
  · intro now drawnId input session token held issued timed
    exact ⟨McpSessionAuthority.issues_of_issue issued, verify_issued_iff held issued timed⟩
  · intro session other requestId otherId key first second
    exact idempotencyKey_injective injective first second

end

private def plainPlatform : SessionPlatform :=
  { nearest := some
    rounded := fun _ _ _ => rfl
    hmacSha256 := fun _ _ _ => 0
    repaired := fun _ => "" }

private def minuteAuthority : McpSessionAuthority :=
  { secret := "an-mcp-session-secret-of-32-bytes"
    ttlMs := JsonNumber.ofDigit 59999 (by decide)
    longSecret := by decide +kernel
    positive := by decide }

private def adapterInput : McpSessionInput :=
  { adapterId := " adapter", catalogRevision := "catalog", principalId := "user"
    protocolVersion := "2025-06-18", resource := "resource", tenantId := "tenant" }

private def adapterSession : McpSessionBinding :=
  { adapterId := "adapter", catalogRevision := "catalog"
    expiresAt := JsonNumber.ofInt 60000, issuedAt := JsonNumber.ofInt 1, principalId := "user"
    protocolVersion := "2025-06-18", resource := "resource", sessionId := "session"
    tenantId := "tenant" }

private theorem adapter_issued : ∃ token,
    minuteAuthority.issue plainPlatform (JsonNumber.ofInt 1) "session" adapterInput =
      .ok (adapterSession, token) := by
  have required {value normalized name : String} (trimmed : TextScan.trim value = normalized)
      (bounded : ¬ (normalized = "" ∨ 1024 < normalized.utf8ByteSize)) :
      requiredString value name = .ok normalized := by
    unfold requiredString
    rw [trimmed]
    exact if_neg bounded
  have expires : plainPlatform.nearest ((JsonNumber.ofInt 1).sum minuteAuthority.ttlMs) =
      some (JsonNumber.ofInt 60000) := by
    decide +kernel
  have adapter : requiredString adapterInput.adapterId "adapterId" = .ok "adapter" :=
    required (by decide +kernel) (by decide +kernel)
  have catalog : requiredString adapterInput.catalogRevision "catalogRevision" = .ok "catalog" :=
    required (by decide +kernel) (by decide +kernel)
  have principal : requiredString adapterInput.principalId "principalId" = .ok "user" :=
    required (by decide +kernel) (by decide +kernel)
  have protocol : requiredString adapterInput.protocolVersion "protocolVersion" =
      .ok "2025-06-18" := required (by decide +kernel) (by decide +kernel)
  have resource : requiredString adapterInput.resource "resource" = .ok "resource" :=
    required (by decide +kernel) (by decide +kernel)
  have drawn : requiredString "session" "sessionId" = .ok "session" :=
    required (by decide +kernel) (by decide +kernel)
  have tenant : requiredString adapterInput.tenantId "tenantId" = .ok "tenant" :=
    required (by decide +kernel) (by decide +kernel)
  unfold McpSessionAuthority.issue
  rw [adapter, catalog, principal, protocol, resource, drawn, tenant, expires]
  exact ⟨_, rfl⟩

theorem mcp_session_exact_adapter : ∃ token,
    minuteAuthority.issue plainPlatform (JsonNumber.ofInt 1) "session" adapterInput =
        .ok (adapterSession, token) ∧
      ∀ expected later read,
        minuteAuthority.verify plainPlatform token expected later = .ok read ↔
          read = adapterSession ∧ later.less adapterSession.expiresAt = true ∧
            adapterSession.Expected expected := by
  obtain ⟨token, issued⟩ := adapter_issued
  have timed : adapterSession.Timed := ⟨by decide, by decide, by decide⟩
  have general := @mcp_session_exact (sampleRuntime []) plainPlatform minuteAuthority
    (@knownDigest_injective [] (by decide) (by decide))
  exact ⟨token, issued, (general.1 _ _ _ _ _ rfl issued timed).2⟩

/-- The key of a request does not depend on the principal of its session. -/
theorem idempotencyKey_not_injective :
    ¬ ∀ (session other : McpSessionBinding) (requestId : McpJsonRpcId) (key : String),
      @idempotencyKey (sampleRuntime []) session requestId = .ok key →
      @idempotencyKey (sampleRuntime []) other requestId = .ok key → session = other := by
  intro injective
  have same := injective adapterSession { adapterSession with principalId := "other" } (.text "1")
    _ rfl rfl
  have principals : "user" = "other" := congrArg McpSessionBinding.principalId same
  exact absurd principals (by decide)

end ActionProxy
