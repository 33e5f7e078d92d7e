import ActionProxy.Foundation.FileLines
import ActionProxy.Foundation.JsonIndent
import ActionProxy.Foundation.MailText
import ActionProxy.Security.Redaction

/-!
Approval mails over SMTP. The text of a mail has bare line feeds, and dots are doubled after
each of them, while a receiver drops a dot only after a carriage return and a line feed; the
header is not guarded against line ends in its values.
-/

namespace ActionProxy

open JsonText MailText

/-- What a mail takes of the configuration. -/
structure EmailServiceConfig where
  «from» : String

structure EmailMessage where
  «from» : String
  subject : String
  text : String
  «to» : String

/-! ### Messages -/

section

variable [Runtime]

def redactForNotification (input : JsonObject) : JsonObject :=
  redactJsonObject input { fields := none, replacement := some "[redacted]" }

/-- The lines of an approval mail, before they are joined by line feeds. -/
def approvalLines (approval : ApprovalRecord) (toolCall : ToolCallRecord) (approvalUrl : String) :
    List (List Char) :=
  let payload := indentedText 0 (.obj (redactForNotification toolCall.input))
  [ ("Approval required for " ++ toolCall.toolName ++ ".").toList,
    [],
    ("Risk: " ++ toolCall.risk.getD "unknown").toList,
    ("Requested by: " ++ toolCall.requestedBy).toList,
    ("Agent: " ++ toolCall.agentId).toList,
    ("Reason: " ++ toolCall.reason).toList,
    [],
    ("Approval ID: " ++ approval.id).toList,
    ("Tool call ID: " ++ toolCall.id).toList,
    [],
    ("Review and decide in ActionProxy: " ++ approvalUrl).toList,
    [],
    "Payload summary:".toList,
    payload ]

def buildApprovalEmailMessage (config : EmailServiceConfig) (approval : ApprovalRecord)
    (toolCall : ToolCallRecord) (approvalUrl recipient : String) : EmailMessage :=
  { «from» := config.«from»
    subject := "ActionProxy approval required: " ++ toolCall.toolName
    text := String.ofList (FileLines.joined (approvalLines approval toolCall approvalUrl))
    «to» := recipient }

end

/-- The id of a mail that is sent at a time in milliseconds. -/
def smtpMessageId (now : Nat) : String := "<actionproxy-" ++ toString now ++ "@localhost>"

def formatSmtpMessage (message : EmailMessage) (messageId : String) : List Char :=
  let body := stuffed message.text.toList
  joinCrLf
    [ ("From: " ++ message.«from»).toList,
      ("To: " ++ message.«to»).toList,
      ("Subject: " ++ message.subject).toList,
      ("Message-ID: " ++ messageId).toList,
      "Content-Type: text/plain; charset=utf-8".toList,
      [],
      body,
      ['.'],
      [] ]

/-! ### What a receiver should read -/

/-- A value behind the name of its field. -/
def fieldOf (name value : String) : List Char × List Char := (name.toList, ' ' :: value.toList)

def intendedFields (message : EmailMessage) (messageId : String) :
    List (List Char × List Char) :=
  [ fieldOf "From" message.«from»,
    fieldOf "To" message.«to»,
    fieldOf "Subject" message.subject,
    fieldOf "Message-ID" messageId,
    fieldOf "Content-Type" "text/plain; charset=utf-8" ]

/-- The mail is received as one message, with its fields and its text up to line ends. -/
def FramedFaithfully (message : EmailMessage) (messageId : String) : Prop :=
  ∃ mail, receive (formatSmtpMessage message messageId) = some mail ∧
    mail.fields = intendedFields message messageId ∧
    lineEnds mail.body = lineEnds message.text.toList

theorem fieldLine_fieldOf (name value : String) :
    fieldLine (fieldOf name value) = (name ++ ": " ++ value).toList := by
  rw [fieldLine, fieldOf, String.toList_append, String.toList_append, List.append_assoc]
  rfl

theorem formatSmtpMessage_eq (message : EmailMessage) (messageId : String) :
    formatSmtpMessage message messageId =
      sentMail (intendedFields message messageId) message.text.toList := by
  rw [sentMail, intendedFields, List.map_cons, List.map_cons, List.map_cons, List.map_cons,
    List.map_cons, List.map_nil, fieldLine_fieldOf, fieldLine_fieldOf, fieldLine_fieldOf,
    fieldLine_fieldOf, fieldLine_fieldOf]
  rfl

theorem intendedFields_named (message : EmailMessage) (messageId : String) :
    ∀ field ∈ intendedFields message messageId, FieldName field.1 := by
  have named (name value : String) (plain : ':' ∉ name.toList)
      (starts : ∃ first rest, name.toList = first :: rest ∧ first ≠ '.' ∧ first ≠ ' ' ∧
        first ≠ '\t') : FieldName (fieldOf name value).1 := { plain := plain, starts := starts }
  intro field listed
  simp only [intendedFields, List.mem_cons, List.not_mem_nil, or_false] at listed
  rcases listed with rfl | rfl | rfl | rfl | rfl
  · exact named _ _ (by decide) ⟨'F', _, rfl, by decide⟩
  · exact named _ _ (by decide) ⟨'T', _, rfl, by decide⟩
  · exact named _ _ (by decide) ⟨'S', _, rfl, by decide⟩
  · exact named _ _ (by decide) ⟨'M', _, rfl, by decide⟩
  · exact named _ _ (by decide) ⟨'C', _, rfl, by decide⟩

theorem crLfFree_fieldOf_iff {name value : String} (plain : '\n' ∉ name.toList) :
    CrLfFree (fieldLine (fieldOf name value)) ↔ CrLfFree (' ' :: value.toList) := by
  rw [fieldLine, fieldOf]
  constructor
  · exact fun free => free.of_append_right.tail
  · intro free
    have apart : (':' :: ' ' :: value.toList).head? ≠ some '\n' := by
      rw [List.head?_cons]
      decide
    exact (crLfFree_of_not_mem plain).append
      (free.cons (fun isReturn => absurd isReturn (by decide))) apart

theorem crLfFree_space_iff {value : List Char} : CrLfFree (' ' :: value) ↔ CrLfFree value := by
  constructor
  · exact CrLfFree.tail
  · exact fun free => free.cons (fun isReturn => absurd isReturn (by decide))

theorem smtpMessageId_free (now : Nat) : CrLfFree (smtpMessageId now).toList := by
  apply crLfFree_of_not_mem
  intro listed
  rw [smtpMessageId, String.toList_append, String.toList_append, List.mem_append,
    List.mem_append] at listed
  rcases listed with (before | digits) | after
  · exact absurd before (by decide)
  · rw [Nat.toString_eq_repr, Nat.toList_repr] at digits
    have digit := JsonNumber.isDigit_toDigits digits
    exact absurd digit (by decide)
  · exact absurd after (by decide)

/-- A mail with an undotted text is framed faithfully exactly when its fields hold no line end
and its text has no bare dot. -/
theorem framedFaithfully_iff {message : EmailMessage} {messageId : String}
    (idFree : CrLfFree messageId.toList) (undotted : message.text.toList.head? ≠ some '.') :
    FramedFaithfully message messageId ↔
      CrLfFree message.«from».toList ∧ CrLfFree message.«to».toList ∧
        CrLfFree message.subject.toList ∧ bareDot message.text.toList = false := by
  have typeFree : CrLfFree "text/plain; charset=utf-8".toList :=
    crLfFree_of_not_mem (by decide)
  have sent (fromFree : CrLfFree message.«from».toList) (toFree : CrLfFree message.«to».toList)
      (subjectFree : CrLfFree message.subject.toList) :
      receive (formatSmtpMessage message messageId) =
        some { fields := intendedFields message messageId
               body := received message.text.toList } := by
    rw [formatSmtpMessage_eq]
    refine receive_sentMail (intendedFields_named message messageId) ?_ undotted
    intro field listed
    simp only [intendedFields, List.mem_cons, List.not_mem_nil, or_false] at listed
    rcases listed with rfl | rfl | rfl | rfl | rfl
    · exact (crLfFree_fieldOf_iff (by decide)).mpr (crLfFree_space_iff.mpr fromFree)
    · exact (crLfFree_fieldOf_iff (by decide)).mpr (crLfFree_space_iff.mpr toFree)
    · exact (crLfFree_fieldOf_iff (by decide)).mpr (crLfFree_space_iff.mpr subjectFree)
    · exact (crLfFree_fieldOf_iff (by decide)).mpr (crLfFree_space_iff.mpr idFree)
    · exact (crLfFree_fieldOf_iff (by decide)).mpr (crLfFree_space_iff.mpr typeFree)
  constructor
  · rintro ⟨mail, reads, fields, body⟩
    have free := receive_free reads
    rw [fields] at free
    have fromFree : CrLfFree message.«from».toList :=
      crLfFree_space_iff.mp (free (fieldOf "From" message.«from») (by simp [intendedFields]))
    have toFree : CrLfFree message.«to».toList :=
      crLfFree_space_iff.mp (free (fieldOf "To" message.«to») (by simp [intendedFields]))
    have subjectFree : CrLfFree message.subject.toList :=
      crLfFree_space_iff.mp (free (fieldOf "Subject" message.subject) (by simp [intendedFields]))
    rw [sent fromFree toFree subjectFree] at reads
    cases reads
    exact ⟨fromFree, toFree, subjectFree, (lineEnds_received_iff _).mp body⟩
  · rintro ⟨fromFree, toFree, subjectFree, plain⟩
    refine ⟨_, sent fromFree toFree subjectFree, rfl, ?_⟩
    exact (lineEnds_received_iff _).mpr plain

/-! ### Approval mails -/

theorem bareDot_joined {lines : List (List Char)} (undotted : ∀ line ∈ lines, line.head? ≠ some '.') :
    bareDot (FileLines.joined lines) = lines.any bareDot := by
  induction lines with
  | nil => rfl
  | cons line rest inductionHypothesis =>
      rw [List.forall_mem_cons] at undotted
      cases rest with
      | nil => rw [List.any_cons, List.any_nil, Bool.or_false]; rfl
      | cons next rest =>
          have head : (FileLines.joined (next :: rest)).head? ≠ some '.' := by
            have first := undotted.2 next List.mem_cons_self
            cases next with
            | nil =>
                cases rest with
                | nil => exact first
                | cons other rest =>
                    intro starts
                    cases starts
            | cons char next =>
                cases rest with
                | nil => exact first
                | cons other rest => exact first
          rw [FileLines.joined, bareDot_append_lf line head, inductionHypothesis undotted.2,
            List.any_cons (l := next :: rest)]

theorem bareDot_of_laid {text : List Char} (laid : Laid text) : bareDot text = false := by
  induction laid with
  | nil => rfl
  | cons plain _ inductionHypothesis => rw [bareDot_cons plain, inductionHypothesis]
  | @feed char rest mark _ inductionHypothesis =>
      have plain : char ≠ '.' ∧ char ≠ '\r' ∧ char ≠ '\n' := by
        rcases mark with rfl | rfl | rfl
        · decide
        · decide
        · decide
      have undotted : (char :: rest).head? ≠ some '.' :=
        fun same => plain.1 (Option.some.inj same)
      have parted := bareDot_append_lf [] undotted
      rw [List.nil_append, bareDot_cons plain.2, inductionHypothesis] at parted
      exact parted

theorem head_indentedBlock (opening closing : Char) (margin : Nat) (parts : List (List Char)) :
    (indentedBlock opening closing margin parts).head? = some opening := by
  cases parts <;> rfl

theorem bareDot_behind (name : String)
    (plain : name.toList.all (fun char => decide (char ≠ '\r' ∧ char ≠ '\n')) = true)
    (value : String) : bareDot (name ++ value).toList = bareDot value.toList := by
  rw [String.toList_append, bareDot_plain_append (List.all_iff_forall_prop.mp plain)]

section

variable [Runtime]

/-- The values that stand in the text of a mail, the first with the full stop behind it. -/
def interpolated (approval : ApprovalRecord) (toolCall : ToolCallRecord) (approvalUrl : String) :
    List String :=
  [ toolCall.toolName ++ ".", toolCall.risk.getD "unknown", toolCall.requestedBy,
    toolCall.agentId, toolCall.reason, approval.id, toolCall.id, approvalUrl ]

theorem approvalLines_undotted (approval : ApprovalRecord) (toolCall : ToolCallRecord)
    (approvalUrl : String) :
    ∀ line ∈ approvalLines approval toolCall approvalUrl, line.head? ≠ some '.' := by
  have named (name value : String) (first : Char) (rest : List Char)
      (starts : name.toList = first :: rest) (plain : first ≠ '.') :
      (name ++ value).toList.head? ≠ some '.' := by
    rw [String.toList_append, starts]
    exact fun same => plain (Option.some.inj same)
  intro line listed
  simp only [approvalLines, List.mem_cons, List.not_mem_nil, or_false] at listed
  rcases listed with rfl | rfl | rfl | rfl | rfl | rfl | rfl | rfl | rfl | rfl | rfl | rfl | rfl |
    rfl
  · rw [String.append_assoc]
    exact named _ _ 'A' _ rfl (by decide)
  · decide
  · exact named _ _ 'R' _ rfl (by decide)
  · exact named _ _ 'R' _ rfl (by decide)
  · exact named _ _ 'A' _ rfl (by decide)
  · exact named _ _ 'R' _ rfl (by decide)
  · decide
  · exact named _ _ 'A' _ rfl (by decide)
  · exact named _ _ 'T' _ rfl (by decide)
  · decide
  · exact named _ _ 'R' _ rfl (by decide)
  · decide
  · decide
  · rw [indentedText, head_indentedBlock]
    decide

theorem bareDot_approvalLines_iff (approval : ApprovalRecord) (toolCall : ToolCallRecord)
    (approvalUrl : String) :
    bareDot (FileLines.joined (approvalLines approval toolCall approvalUrl)) = false ↔
      ∀ value ∈ interpolated approval toolCall approvalUrl, bareDot value.toList = false := by
  have payload : bareDot (indentedText 0 (.obj (redactForNotification toolCall.input))) = false :=
    bareDot_of_laid (laid_indentedText _ 0)
  have empty : bareDot [] = false := rfl
  have summary : bareDot "Payload summary:".toList = false := by decide
  rw [bareDot_joined (approvalLines_undotted approval toolCall approvalUrl), List.any_eq_false]
  simp only [approvalLines, interpolated, List.forall_mem_cons, List.not_mem_nil, false_implies,
    implies_true, and_true, payload, empty, summary, String.append_assoc, Bool.not_eq_true]
  rw [bareDot_behind "Approval required for " (by decide), bareDot_behind "Risk: " (by decide),
    bareDot_behind "Requested by: " (by decide), bareDot_behind "Agent: " (by decide),
    bareDot_behind "Reason: " (by decide), bareDot_behind "Approval ID: " (by decide),
    bareDot_behind "Tool call ID: " (by decide),
    bareDot_behind "Review and decide in ActionProxy: " (by decide)]
  tauto

theorem approvalText (config : EmailServiceConfig) (approval : ApprovalRecord)
    (toolCall : ToolCallRecord) (approvalUrl recipient : String) :
    (buildApprovalEmailMessage config approval toolCall approvalUrl recipient).text.toList =
      FileLines.joined (approvalLines approval toolCall approvalUrl) := String.toList_ofList

theorem approvalText_undotted (config : EmailServiceConfig) (approval : ApprovalRecord)
    (toolCall : ToolCallRecord) (approvalUrl recipient : String) :
    (buildApprovalEmailMessage config approval toolCall approvalUrl recipient).text.toList.head? ≠
      some '.' := by
  rw [approvalText]
  intro starts
  unfold approvalLines at starts
  rw [FileLines.joined, String.toList_append, String.toList_append] at starts
  exact absurd (Option.some.inj starts) (by decide)

/-- An approval mail is framed faithfully exactly when sender, recipient and tool name hold no
line end and none of the values in its text has a dot right after a bare line feed. -/
theorem smtp_framing_faithful_iff (config : EmailServiceConfig) (approval : ApprovalRecord)
    (toolCall : ToolCallRecord) (approvalUrl recipient : String) (now : Nat) :
    FramedFaithfully (buildApprovalEmailMessage config approval toolCall approvalUrl recipient)
        (smtpMessageId now) ↔
      CrLfFree config.«from».toList ∧ CrLfFree recipient.toList ∧
        CrLfFree toolCall.toolName.toList ∧
        ∀ value ∈ interpolated approval toolCall approvalUrl, bareDot value.toList = false := by
  have subject (name : String) : CrLfFree ("ActionProxy approval required: " ++ name).toList ↔
      CrLfFree name.toList := by
    rw [String.toList_append]
    constructor
    · exact CrLfFree.of_append_right
    · intro free
      have space : "ActionProxy approval required: ".toList =
          "ActionProxy approval required:".toList ++ [' '] := by decide
      rw [space, List.append_assoc]
      have apart : ([' '] ++ name.toList).head? ≠ some '\n' := by
        rw [List.singleton_append, List.head?_cons]
        decide
      exact (crLfFree_of_not_mem (by decide)).append (crLfFree_space_iff.mpr free) apart
  rw [framedFaithfully_iff (smtpMessageId_free now) (approvalText_undotted _ _ _ _ _),
    approvalText, bareDot_approvalLines_iff]
  exact and_congr_right (fun _ => and_congr_right (fun _ => and_congr_left (fun _ =>
    subject toolCall.toolName)))

end

private def mailedCall (toolName : String) : ToolCallRecord :=
  { id := "toolcall_1", workspaceId := none, toolName := toolName, input := []
    inputHash := none, actionEnvelope := none, actionEnvelopeHash := none
    canonicalActionRequestHash := none, canonicalActionRequestVersion := none
    canonicalDecisionInputHash := none, canonicalPolicyContext := none
    contentInfluence := none, influenceScopeId := none, requestedBy := "agent"
    requestedByAuth := none, agentId := "agent", reason := "refund", metadata := []
    status := .pendingApproval, decision := some .requireApproval
    authorizationDecision := some .requireApproval, authorizationReason := none
    decisionTrace := none, policyReason := none, policyVersionId := none
    policyVersionHash := none, resultDelivery := none, resultSource := none
    resultWithheld := none, risk := none, result := none, error := none
    createdAt := "2026-07-10T10:00:00.000Z", updatedAt := "2026-07-10T10:00:00.000Z" }

private def mailedApproval : ApprovalRecord :=
  { id := "approval_1", workspaceId := none, toolCallId := "toolcall_1", status := .pending
    requestedBy := "agent", requestedByAuth := none, authorization := none
    authorizationConsumedAt := none, authorizationConsumedReason := none, approvedBy := none
    cancelledAt := none, cancelledBy := none, cancellationReason := none, expiredAt := none
    finalizedAt := none, rejectedBy := none, note := none, rejectionReason := none
    originalInput := [], originalEnvelopeHash := none, originalInputHash := none
    editedInput := none, approvedEnvelopeHash := none, approvedInputHash := none
    reviewHash := none, approverUsers := none, approverGroups := none
    requiredApprovals := none, separationOfDuties := none, supersededAt := none
    supersededByApprovalId := none, decisions := none
    createdAt := "2026-07-10T10:00:00.000Z", updatedAt := "2026-07-10T10:00:00.000Z" }

private def mailed (toolName : String) : EmailMessage :=
  @buildApprovalEmailMessage (sampleRuntime []) { «from» := "gate@example.com" } mailedApproval
    (mailedCall toolName) "https://gate.example.com/#/approvals/approval_1" "owner@example.com"

/-- The fields of the mail about a tool name with a line end, as a receiver splits them. -/
private def splitFields : List (List Char × List Char) :=
  [ fieldOf "From" "gate@example.com",
    fieldOf "To" "owner@example.com",
    fieldOf "Subject" "ActionProxy approval required: refund",
    fieldOf "Bcc" "all@example.com",
    fieldOf "Message-ID" (smtpMessageId 0),
    fieldOf "Content-Type" "text/plain; charset=utf-8" ]

private theorem splitFields_named : ∀ field ∈ splitFields, FieldName field.1 := by
  have named (name value : String) (plain : ':' ∉ name.toList)
      (starts : ∃ first rest, name.toList = first :: rest ∧ first ≠ '.' ∧ first ≠ ' ' ∧
        first ≠ '\t') : FieldName (fieldOf name value).1 := { plain := plain, starts := starts }
  intro field listed
  simp only [splitFields, List.mem_cons, List.not_mem_nil, or_false] at listed
  rcases listed with rfl | rfl | rfl | rfl | rfl | rfl
  · exact named _ _ (by decide) ⟨'F', _, rfl, by decide⟩
  · exact named _ _ (by decide) ⟨'T', _, rfl, by decide⟩
  · exact named _ _ (by decide) ⟨'S', _, rfl, by decide⟩
  · exact named _ _ (by decide) ⟨'B', _, rfl, by decide⟩
  · exact named _ _ (by decide) ⟨'M', _, rfl, by decide⟩
  · exact named _ _ (by decide) ⟨'C', _, rfl, by decide⟩

private theorem splitFields_free : ∀ field ∈ splitFields, CrLfFree (fieldLine field) := by
  have free (name value : String) (plain : '\n' ∉ name.toList) (valueFree : CrLfFree value.toList) :
      CrLfFree (fieldLine (fieldOf name value)) :=
    (crLfFree_fieldOf_iff plain).mpr (crLfFree_space_iff.mpr valueFree)
  intro field listed
  simp only [splitFields, List.mem_cons, List.not_mem_nil, or_false] at listed
  rcases listed with rfl | rfl | rfl | rfl | rfl | rfl
  · exact free _ _ (by decide) (crLfFree_of_not_mem (by decide))
  · exact free _ _ (by decide) (crLfFree_of_not_mem (by decide))
  · exact free _ _ (by decide) (crLfFree_of_not_mem (by decide))
  · exact free _ _ (by decide) (crLfFree_of_not_mem (by decide))
  · exact free _ _ (by decide) (smtpMessageId_free 0)
  · exact free _ _ (by decide) (crLfFree_of_not_mem (by decide))

/-- The line of the subject is the line of a shorter subject and one more line. -/
private theorem subject_splits :
    fieldLine (fieldOf "Subject"
        ("ActionProxy approval required: " ++ "refund\r\nBcc: all@example.com")) =
      fieldLine (fieldOf "Subject" "ActionProxy approval required: refund") ++
        '\r' :: '\n' :: fieldLine (fieldOf "Bcc" "all@example.com") := by
  rw [fieldLine, fieldOf, String.toList_append]
  decide

private theorem mailed_splits :
    formatSmtpMessage (mailed "refund\r\nBcc: all@example.com") (smtpMessageId 0) =
      sentMail splitFields (mailed "refund\r\nBcc: all@example.com").text.toList := by
  have subject : fieldLine (fieldOf "Subject" (mailed "refund\r\nBcc: all@example.com").subject) =
      fieldLine (fieldOf "Subject" "ActionProxy approval required: refund") ++
        '\r' :: '\n' :: fieldLine (fieldOf "Bcc" "all@example.com") := subject_splits
  rw [formatSmtpMessage_eq, sentMail, sentMail, intendedFields, splitFields]
  simp only [List.map_cons, List.map_nil, List.cons_append, List.nil_append, joinCrLf, subject,
    List.append_assoc]
  rfl

/-- A tool name with a line end adds a field to the header of the mail. -/
theorem tool_name_adds_header :
    (receive (formatSmtpMessage (mailed "refund\r\nBcc: all@example.com") (smtpMessageId 0))).map
        (fun mail => mail.fields.map (fun field => String.ofList field.1)) =
      some ["From", "To", "Subject", "Bcc", "Message-ID", "Content-Type"] ∧
    ¬ FramedFaithfully (mailed "refund\r\nBcc: all@example.com") (smtpMessageId 0) := by
  have receives := receive_sentMail splitFields_named splitFields_free
    (@approvalText_undotted (sampleRuntime []) { «from» := "gate@example.com" } mailedApproval
      (mailedCall "refund\r\nBcc: all@example.com")
      "https://gate.example.com/#/approvals/approval_1" "owner@example.com")
  rw [← mailed, ← mailed_splits] at receives
  have names : (receive (formatSmtpMessage (mailed "refund\r\nBcc: all@example.com")
      (smtpMessageId 0))).map (fun mail => mail.fields.map (fun field => String.ofList field.1)) =
      some ["From", "To", "Subject", "Bcc", "Message-ID", "Content-Type"] := by
    rw [receives, Option.map_some]
    simp only [splitFields, fieldOf, List.map_cons, List.map_nil, String.ofList_toList]
  refine ⟨names, ?_⟩
  rintro ⟨mail, reads, fields, -⟩
  rw [reads, Option.map_some, fields] at names
  have lengths := congrArg List.length (Option.some.inj names)
  simp [intendedFields] at lengths

end ActionProxy
