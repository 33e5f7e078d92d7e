import ActionProxy.Foundation.JsonParse
import ActionProxy.Foundation.TextScan
import ActionProxy.Services.PresentationSync

/-!
How the messages of a decided approval are edited in Telegram. Deliveries that share a message
share one edit; the edits go on side by side until all have ended or a deadline has passed, and
write into one table of results, from which the answer is read.
-/

namespace ActionProxy

open JsonText

/-! ### Deliveries and their messages -/

inductive ApprovalNotificationProvider where
  | email | slack | telegram
  deriving DecidableEq

inductive ApprovalDeliveryStatus where
  | failed | sent
  deriving DecidableEq

/-- A delivery with what its presentation reads. -/
structure PresentedDelivery extends ApprovalDeliveryRecord where
  provider : ApprovalNotificationProvider
  status : ApprovalDeliveryStatus
  recipientTelegramChatId : Option String
  data : JsonObject

inductive PresentationStatus where
  | failed | updated
  deriving DecidableEq

structure ApprovalPresentationResult where
  deliveryId : String
  error : Option String
  status : PresentationStatus
  deriving DecidableEq

structure MessageCoordinates where
  chatId : String
  messageId : Nat
  deriving DecidableEq

def stringCoordinate : Option Json → Option String
  | some (.str text) => TextScan.content text
  | some (.num number) => TextScan.content (String.ofList number.text)
  | _ => none

/-- The number of a text that matches `^[1-9]\d*$`. -/
def positiveDigits (text : List Char) : Option Nat :=
  match text with
  | [] => none
  | first :: rest =>
      if '1' ≤ first ∧ first ≤ '9' ∧ rest.all Char.isDigit then
        some (Nat.ofDigitChars 10 (first :: rest) 0)
      else none

def telegramDeliveryCoordinates (delivery : PresentedDelivery) : Option MessageCoordinates :=
  let chatId := stringCoordinate (member? delivery.data "telegramChatId") <|>
    stringCoordinate (delivery.recipientTelegramChatId.map .str) <|>
    stringCoordinate (delivery.destination.map .str)
  match chatId, delivery.messageId.bind TextScan.content with
  | some chatId, some rawMessageId =>
      match positiveDigits rawMessageId.toList with
      | some messageId =>
          if messageId ≤ Number.MAX_SAFE_INTEGER then
            some { chatId := chatId, messageId := messageId }
          else none
      | none => none
  | _, _ => none

def approvalUrlFromDelivery (delivery : PresentedDelivery) : Option String :=
  match member? delivery.data "approvalUrl" with
  | some (.str text) => TextScan.content text
  | _ => none

/-- `JSON.stringify([chatId, messageId])`. -/
def targetKey (coordinates : MessageCoordinates) : String :=
  String.ofList (textWith insertionOrder
    (.arr [.str coordinates.chatId, .num (JsonNumber.ofInt coordinates.messageId)]))

structure TelegramEditTarget extends MessageCoordinates where
  approvalUrl : Option String
  deliveries : List PresentedDelivery

abbrev PresentationResults := KeyedTable String ApprovalPresentationResult

abbrev TelegramTargets := KeyedTable String TelegramEditTarget

/-- One delivery of the loop: a result for malformed coordinates, else a place at a target. -/
def addDelivery (tables : PresentationResults × TelegramTargets) (delivery : PresentedDelivery) :
    PresentationResults × TelegramTargets :=
  match telegramDeliveryCoordinates delivery with
  | none =>
      (tables.1.set delivery.id
        { deliveryId := delivery.id
          error := some ("Telegram presentation update skipped: delivery has missing or " ++
            "malformed message coordinates.")
          status := .failed }, tables.2)
  | some coordinates =>
      let key := targetKey coordinates
      match tables.2.get? key with
      | some existing =>
          (tables.1, tables.2.set key
            { existing with
              deliveries := existing.deliveries ++ [delivery]
              approvalUrl := existing.approvalUrl <|> approvalUrlFromDelivery delivery })
      | none =>
          (tables.1, tables.2.set key
            { coordinates with
              approvalUrl := approvalUrlFromDelivery delivery
              deliveries := [delivery] })

def setTargetPresentationResult (results : PresentationResults) (target : TelegramEditTarget)
    (status : PresentationStatus) (error : Option String) : PresentationResults :=
  target.deliveries.foldl (fun results delivery =>
    results.set delivery.id
      { deliveryId := delivery.id, error := error.filter (· ≠ ""), status := status }) results

def presentationResultsInDeliveryOrder (deliveries : List PresentedDelivery)
    (results : PresentationResults) : List ApprovalPresentationResult :=
  deliveries.filterMap (fun delivery => results.get? delivery.id)

/-! ### Edits -/

/-- What a promise is rejected with. -/
structure Rejection where
  /-- An `Error` with the name `AbortError`. -/
  aborts : Bool
  /-- Its message, or the value as a text; a value may have none, and asking for it throws. -/
  text : Option String
  deriving DecidableEq

/-- How the request for an edit ends. -/
inductive EditAnswer where
  | failed (error : Rejection)
  | response (ok : Bool) (status : Nat) (text : String)

structure TelegramServiceConfig where
  botToken : String
  deriving DecidableEq

/-- What a call reads: its deliveries, the text of a decided approval, and the platform. -/
structure TelegramPresentation where
  approvalStatus : ApprovalStatus
  deliveries : List PresentedDelivery
  text : String
  /-- The double nearest to a decimal. -/
  nearest : JsonNumber → Option JsonNumber
  /-- The text of an error without tokens, in one line of a bounded length. -/
  sanitized : String → Option String → String

structure TelegramBody where
  description : Option Json
  ok : Bool

def parseTelegramSendMessageBody (nearest : JsonNumber → Option JsonNumber) (text : String) :
    TelegramBody :=
  let invalid : TelegramBody := { description := some (.str "invalid_json_response"), ok := false }
  if text = "" then { description := some (.str "empty_response"), ok := false }
  else
    match jsonParse nearest text with
    | some (.obj members) =>
        match member? members "ok" with
        | some (.bool ok) => { description := member? members "description", ok := ok }
        | _ => invalid
    | _ => invalid

section

variable [Runtime]

/-- Whether the description says so; one that is neither a text nor missing throws. -/
def isMessageNotModified : Option Json → Except Rejection Bool
  | some (.str description) =>
      .ok (decide ("message is not modified".toList <:+:
        (Runtime.toLowerCase description).toList))
  | none | some .null => .ok false
  | _ => .error
      { aborts := false, text := some "description?.toLowerCase is not a function" }

/-- What an edit comes to, once its request was answered. -/
def editApprovalMessage (nearest : JsonNumber → Option JsonNumber) : EditAnswer → Except Rejection Unit
  | .failed error => .error error
  | .response ok status text =>
      let body := parseTelegramSendMessageBody nearest text
      if ok && body.ok then .ok ()
      else do
        let notModified ← isMessageNotModified body.description
        if notModified then .ok ()
        else
          let shown := match body.description with
            | some (.str description) => description
            | _ => toString status
          .error { aborts := false, text := some ("Telegram editMessageText failed: " ++ shown) }

end

structure TelegramEditRequest extends MessageCoordinates where
  approvalUrl : Option String
  text : String

/-! ### Calls -/

inductive ConfigOutcome where
  | resolved (config : Option TelegramServiceConfig)
  | failed (error : Rejection)
  deriving DecidableEq

/-- What settled first: the configuration or the deadline. -/
inductive ConfigRace where
  | open
  | timedOut
  | settled (outcome : ConfigOutcome)
  deriving DecidableEq

/-- What settled first: all edits, one that threw, or the deadline. -/
inductive EditRace where
  | open
  | timedOut
  | completed
  | threw
  deriving DecidableEq

inductive TelegramPhase where
  | configuring (race : ConfigRace)
  | editing (race : EditRace)
  | returned (results : List ApprovalPresentationResult)
  | rejected
  deriving DecidableEq

def TelegramPhase.ended : TelegramPhase → Bool
  | .returned _ | .rejected => true
  | _ => false

structure TelegramSync where
  phase : TelegramPhase
  results : PresentationResults
  targets : TelegramTargets
  /-- The configuration the edits were started with. -/
  config : Option TelegramServiceConfig
  completed : List String
  requests : List TelegramEditRequest
  /-- The messages whose edit succeeded before the call ended. -/
  succeeded : List MessageCoordinates

inductive TelegramAct where
  | configured (outcome : ConfigOutcome)
  | deadline
  | edited (key : String) (answer : EditAnswer)
  | allEdited
  | resume

namespace TelegramPresentation

variable (call : TelegramPresentation)

def sent : List PresentedDelivery :=
  call.deliveries.filter (fun delivery =>
    decide (delivery.provider = .telegram) && decide (delivery.status = .sent))

def tables : PresentationResults × TelegramTargets :=
  call.sent.foldl addDelivery (KeyedTable.empty, KeyedTable.empty)

def start : TelegramSync :=
  let phase :=
    if call.sent.isEmpty || decide (call.approvalStatus = .pending) then .returned []
    else if call.tables.2.entries.isEmpty then
      .returned (presentationResultsInDeliveryOrder call.sent call.tables.1)
    else .configuring .open
  { phase := phase
    results := call.tables.1
    targets := call.tables.2
    config := none
    completed := []
    requests := []
    succeeded := [] }

/-- Every target gets the result. -/
def failAll (state : TelegramSync) (error : String) : PresentationResults :=
  state.targets.values.foldl (fun results target =>
    setTargetPresentationResult results target .failed (some error)) state.results

/-- The targets whose edit has not ended get the result of an edit that is too late. -/
def failLate (state : TelegramSync) : PresentationResults :=
  state.targets.entries.foldl (fun results entry =>
    if entry.1 ∈ state.completed then results
    else setTargetPresentationResult results entry.2 .failed
      (some "Telegram editMessageText timed out after 3000ms.")) state.results

/-- The call returns what the results say of its deliveries. -/
def returns (state : TelegramSync) (results : PresentationResults) : TelegramSync :=
  { state with
    phase := .returned (presentationResultsInDeliveryOrder call.sent results)
    results := results }

def request (target : TelegramEditTarget) : TelegramEditRequest :=
  { chatId := target.chatId
    messageId := target.messageId
    approvalUrl := target.approvalUrl
    text := call.text }

/-- The call goes on after a race. -/
def resume (state : TelegramSync) : Option TelegramSync :=
  match state.phase with
  | .configuring .timedOut =>
      some (call.returns state
        (failAll state "Telegram presentation update timed out after 3000ms."))
  | .configuring (.settled (.failed error)) =>
      match error.text with
      | some text => some (call.returns state (failAll state (call.sanitized text none)))
      | none => some { state with phase := .rejected }
  | .configuring (.settled (.resolved none)) =>
      some (call.returns state (failAll state "Telegram is not fully configured."))
  | .configuring (.settled (.resolved (some config))) =>
      some { state with
        phase := .editing .open
        config := some config
        requests := state.requests ++ state.targets.values.map call.request }
  | .editing .timedOut => some (call.returns state (failLate state))
  | .editing .completed => some (call.returns state state.results)
  | .editing .threw => some { state with phase := .rejected }
  | _ => none

variable [Runtime]

/-- The task of an edit goes on to its end. -/
def finishEdit (state : TelegramSync) (config : TelegramServiceConfig) (key : String)
    (target : TelegramEditTarget) (answer : EditAnswer) : TelegramSync :=
  let ended := { state with completed := key :: state.completed }
  match editApprovalMessage call.nearest answer with
  | .ok () =>
      { ended with
        results := setTargetPresentationResult state.results target .updated none
        succeeded :=
          if state.phase.ended then state.succeeded
          else target.toMessageCoordinates :: state.succeeded }
  | .error error =>
      if error.aborts then
        { ended with
          results := setTargetPresentationResult state.results target .failed
            (some "Telegram editMessageText timed out after 3000ms.") }
      else
        match error.text with
        | some text =>
            { ended with
              results := setTargetPresentationResult state.results target .failed
                (some (call.sanitized text (some config.botToken))) }
        | none =>
            { ended with
              phase := match state.phase with
                | .editing .open => .editing .threw
                | phase => phase }

def step (state : TelegramSync) : TelegramAct → Option TelegramSync
  | .configured outcome =>
      match state.phase with
      | .configuring .open => some { state with phase := .configuring (.settled outcome) }
      | _ => none
  | .deadline =>
      match state.phase with
      | .configuring .open => some { state with phase := .configuring .timedOut }
      | .editing .open => some { state with phase := .editing .timedOut }
      | _ => none
  | .edited key answer =>
      match state.config, state.targets.get? key with
      | some config, some target =>
          if key ∈ state.completed then none
          else some (call.finishEdit state config key target answer)
      | _, _ => none
  | .allEdited =>
      match state.phase with
      | .editing .open =>
          if state.targets.entries.all (fun entry => decide (entry.1 ∈ state.completed)) then
            some { state with phase := .editing .completed }
          else none
      | _ => none
  | .resume => call.resume state

/-- The state after these steps, where each can be taken. -/
def run (state : TelegramSync) : List TelegramAct → Option TelegramSync
  | [] => some state
  | act :: rest => (call.step state act).bind (fun next => run next rest)

end TelegramPresentation

end ActionProxy
