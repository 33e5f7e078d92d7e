import ActionProxy.Foundation.JsonSize
import ActionProxy.Routes.Projections
import ActionProxy.Services.OutcomeAnswer
import ActionProxy.Wrapper.DeliveryEvidence

/-!
The outcome of a result on its way to the server and back: the body that the wrapper
sends, what the outcome route reads of it, and the answer of the route. The wrapper checks
the size of the result, the server the size of the body, and the wrapper again the size of
the answer.
-/

namespace ActionProxy.Wrapper

open JsonText

/-- `bodyLimit` of the server. -/
def BODY_LIMIT : Nat := 1024 * 1024

def DEFAULT_MAX_HTTP_RESPONSE_BYTES : Nat := 1024 * 1024

/-! ### The request -/

def OutcomeStatus.text : OutcomeStatus → String
  | .cancelled => "cancelled"
  | .failed => "failed"
  | .timed_out => "timed_out"
  | .unknown_outcome => "unknown_outcome"
  | .succeeded => "succeeded"

def ResultDelivery.json (delivery : ResultDelivery) : Json :=
  .obj [("byteCount", some (.num (JsonNumber.ofInt delivery.byteCount))),
    ("canonicalResultHash", some (.str delivery.canonicalResultHash)),
    ("modelVisible", some (.bool delivery.modelVisible)),
    ("version", some (.str delivery.version))]

def OutcomeReport.json (report : OutcomeReport) : Json :=
  .obj [("error", report.error.map .str),
    ("result", report.result),
    ("resultDelivery", report.resultDelivery.map ResultDelivery.json),
    ("status", some (.str report.status.text))]

/-- The body of `reportExecutionGrantOutcome`. -/
def OutcomeReport.body (report : OutcomeReport) : String :=
  String.ofList (textWith insertionOrder report.json)

/-! ### The route -/

/-- `/^[a-f0-9]{64}$/`. -/
def isHexDigest (text : String) : Bool :=
  text.toList.length == 64 &&
    text.toList.all fun char => char.isDigit || ('a' ≤ char && char ≤ 'f')

/-- The value of an integer that is not negative. -/
def natural? (number : JsonNumber) : Option Nat :=
  if !number.negative && decide (0 ≤ number.exponent) then
    some (number.significand * 10 ^ number.exponent.toNat)
  else none

/-- A member that may be absent, else has to be read. -/
def optionalMember {α : Type} (members : JsonObject) (name : String) (read : Json → Option α) :
    Option (Option α) :=
  match member? members name with
  | none => some none
  | some value => (read value).map some

def readByteCount : Json → Option Nat
  | .num number => (natural? number).filter (· ≤ 16 * 1024 * 1024)
  | _ => none

def readResultDelivery : Json → Option ResultDeliveryMetadataV1
  | .obj members =>
      if members.all fun member =>
          ["byteCount", "canonicalResultHash", "modelVisible", "version"].contains member.1 then do
        let byteCount ← (member? members "byteCount").bind readByteCount
        let canonicalResultHash ←
          ((member? members "canonicalResultHash").bind asString?).filter isHexDigest
        let modelVisible ← member? members "modelVisible"
        let version ← (member? members "version").bind asString?
        match modelVisible with
        | .bool modelVisible =>
            if version = "actionproxy.result-delivery.v1" then
              some
                { byteCount := byteCount
                  canonicalResultHash := canonicalResultHash
                  modelVisible := modelVisible
                  version := version }
            else none
        | _ => none
      else none
  | _ => none

def readReportedStatus : Json → Option ReportedStatus
  | .str "cancelled" => some .cancelled
  | .str "failed" => some .failed
  | .str "succeeded" => some .succeeded
  | .str "timed_out" => some .timedOut
  | .str "unknown_outcome" => some .unknownOutcome
  | _ => none

/-- `reportExecutionGrantOutcomeSchema`, with the check of remediation descriptors. -/
def readOutcomeInput (remediationDescriptor : Json → Option JsonObject) (body : Json) :
    Option ReportExecutionGrantOutcomeInput :=
  match body with
  | .obj members => do
      let error ← optionalMember members "error" asString?
      let remediation ← optionalMember members "remediation" remediationDescriptor
      let result ← optionalMember members "result" fun value => asRecord? (some value)
      let resultDelivery ← optionalMember members "resultDelivery" readResultDelivery
      let status ← (member? members "status").bind readReportedStatus
      some
        { error := error
          remediation := remediation
          result := result
          resultDelivery := resultDelivery
          status := status }
  | _ => none

/-- What the server reads of a body within its limit; `admits` says which values its body
parser lets through. -/
def receiveOutcome (nearest : JsonNumber → Option JsonNumber) (admits : Json → Bool)
    (remediationDescriptor : Json → Option JsonObject) (body : String) :
    Option ReportExecutionGrantOutcomeInput :=
  ((jsonParse nearest body).filter admits).bind (readOutcomeInput remediationDescriptor)

/-- The grant in the answer of the route. -/
def grantAnswer (grant : ExecutionGrantRecord) : Json :=
  .obj [("consumedAt", grant.consumedAt.map .str),
    ("expiresAt", some (.str grant.expiresAt)),
    ("id", some (.str grant.id)),
    ("inputHash", some (.str grant.inputHash)),
    ("policyVersionHash", grant.policyVersionHash.map .str),
    ("receiptHash", grant.receiptHash.map .str),
    ("receiptId", grant.receiptId.map .str),
    ("toolCallId", some (.str grant.toolCallId)),
    ("toolName", some (.str grant.toolName))]

def redactReceiptSignature (receipt : ActionReceiptRecord) : ActionReceiptRecord :=
  { receipt with signature := redactedText }

section

variable [Runtime]

/-- The answer of the outcome route. -/
def outcomeAnswer (grant : ExecutionGrantRecord) (recorded : RecordedOutcome) : Json :=
  .obj [("grant", some (grantAnswer grant)),
    ("ok", some (.bool true)),
    ("receipt", recorded.receipt.map fun receipt => (redactReceiptSignature receipt).json),
    ("toolCall", some (reportedToolCall recorded.toolCall).json)]

def outcomeResponse (grant : ExecutionGrantRecord) (recorded : RecordedOutcome) : String :=
  String.ofList (textWith insertionOrder (outcomeAnswer grant recorded))

end

/-! ### What the server reads of the wrapper's body -/

theorem natural?_ofInt (value : Nat) : natural? (JsonNumber.ofInt value) = some value := by
  by_cases zero : value = 0
  · subst zero
    rfl
  · obtain ⟨nonneg, magnitude⟩ := JsonNumber.trimZeros_scaled value value 0
    have nonzero : (value : Int) ≠ 0 := by omega
    have notNegative : decide ((value : Int) < 0) = false := decide_eq_false (by omega)
    rw [JsonNumber.ofInt, dif_neg nonzero]
    simp only [natural?, Int.natAbs_natCast, notNegative, decide_eq_true nonneg]
    rw [Int.sub_zero] at magnitude
    exact congrArg some magnitude

theorem readByteCount_ofInt {count : Nat} (small : count ≤ 16 * 1024 * 1024) :
    readByteCount (.num (JsonNumber.ofInt count)) = some count := by
  rw [readByteCount, natural?_ofInt, Option.filter_some, if_pos (decide_eq_true small)]

theorem readResultDelivery_json {delivery : ResultDelivery}
    (small : delivery.byteCount ≤ 16 * 1024 * 1024)
    (digest : isHexDigest delivery.canonicalResultHash = true)
    (version : delivery.version = "actionproxy.result-delivery.v1") :
    readResultDelivery delivery.json = some delivery.received := by
  have count : readByteCount (.num (JsonNumber.ofInt delivery.byteCount)) = some delivery.byteCount :=
    readByteCount_ofInt small
  have hash : (some delivery.canonicalResultHash).filter isHexDigest =
      some delivery.canonicalResultHash := by
    rw [Option.filter_some, if_pos digest]
  change (do
    let byteCount ← readByteCount (.num (JsonNumber.ofInt delivery.byteCount))
    let canonicalResultHash ← (some delivery.canonicalResultHash).filter isHexDigest
    if delivery.version = "actionproxy.result-delivery.v1" then
      some
        { byteCount := byteCount
          canonicalResultHash := canonicalResultHash
          modelVisible := delivery.modelVisible
          version := delivery.version : ResultDeliveryMetadataV1 }
    else none) = some delivery.received
  rw [count, hash]
  exact if_pos version

/-- The statuses a result is reported with. -/
def reportedAs (status : OutcomeStatus) : ReportedStatus :=
  match status with
  | .cancelled => .cancelled
  | .failed => .failed
  | .timed_out => .timedOut
  | .unknown_outcome => .unknownOutcome
  | .succeeded => .succeeded

theorem readReportedStatus_text (status : OutcomeStatus) :
    readReportedStatus (.str status.text) = some (reportedAs status) := by
  cases status <;> rfl

section

variable {nearest : JsonNumber → Option JsonNumber} {remediationDescriptor : Json → Option JsonObject}

/-- What is read of the body of a report that carries a result and its evidence. -/
theorem readOutcomeInput_json {error : Option String} {members : JsonObject}
    {delivery : ResultDelivery} {status : OutcomeStatus}
    (small : delivery.byteCount ≤ 16 * 1024 * 1024)
    (digest : isHexDigest delivery.canonicalResultHash = true)
    (version : delivery.version = "actionproxy.result-delivery.v1")
    (whole : complete (.obj members) = true) :
    readOutcomeInput remediationDescriptor (printed insertionOrder
      (OutcomeReport.json
        { error := error
          result := some (.obj members)
          resultDelivery := some delivery
          status := status })) =
      some
        { error := error
          remediation := none
          result := some members
          resultDelivery := some delivery.received
          status := reportedAs status } := by
  have evidence := readResultDelivery_json small digest version
  have result : printed insertionOrder (.obj members) = .obj members := printed_complete whole
  have last : ∀ error : Option String, (do
      let resultDelivery ← (readResultDelivery delivery.json).map some
      let status ← readReportedStatus (.str status.text)
      some
        { error := error
          remediation := none
          result := some members
          resultDelivery := resultDelivery
          status := status : ReportExecutionGrantOutcomeInput }) =
      some
        { error := error
          remediation := none
          result := some members
          resultDelivery := some delivery.received
          status := reportedAs status } := by
    intro error
    rw [evidence, readReportedStatus_text]
    rfl
  unfold OutcomeReport.json
  rw [printed_obj]
  cases error with
  | none =>
      change readOutcomeInput remediationDescriptor (.obj
        [("result", some (printed insertionOrder (.obj members))),
          ("resultDelivery", some delivery.json), ("status", some (.str status.text))]) = _
      rw [result]
      exact last none
  | some error =>
      change readOutcomeInput remediationDescriptor (.obj
        [("error", some (.str error)), ("result", some (printed insertionOrder (.obj members))),
          ("resultDelivery", some delivery.json), ("status", some (.str status.text))]) = _
      rw [result]
      exact last (some error)

theorem jsonParse_body {error : Option String} {result : Json} {delivery : ResultDelivery}
    {status : OutcomeStatus} (distinct : distinctKeys result = true)
    (exact : exactNumbers nearest result = true)
    (count : nearest (JsonNumber.ofInt delivery.byteCount) =
      some (JsonNumber.ofInt delivery.byteCount)) :
    let report : OutcomeReport :=
      { error := error
        result := some result
        resultDelivery := some delivery
        status := status }
    jsonParse nearest report.body = some (printed insertionOrder report.json) := by
  intro report
  have parts : ∀ check : Json → Bool, (∀ text, check (.str text) = true) →
      check report.json = true → everyPart check result = true →
      everyPart check delivery.json = true → everyPart check report.json = true := by
    intro check texts here inside evidence
    refine everyPart_obj.mpr ⟨here, ?_⟩
    cases error with
    | none => simp [report, inside, evidence, everyPart, texts]
    | some error => simp [report, inside, evidence, everyPart, texts]
  have keys : (fun members : JsonObject => decide (members.map Prod.fst).Nodup)
      [("error", report.error.map .str), ("result", report.result),
        ("resultDelivery", report.resultDelivery.map ResultDelivery.json),
        ("status", some (.str report.status.text))] = true := by
    simp only [List.map_cons, List.map_nil]
    decide
  have counted : exactNumbers nearest delivery.json = true := by
    unfold ResultDelivery.json exactNumbers
    simp only [everyPart, everyMember, count, BEq.rfl, Bool.and_self]
  apply jsonParse_printed
  · exact parts _ (fun _ => rfl) keys distinct rfl
  · exact parts _ (fun _ => rfl) rfl exact counted

end

end ActionProxy.Wrapper
