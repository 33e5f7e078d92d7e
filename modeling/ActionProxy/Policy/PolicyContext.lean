import ActionProxy.Contracts.ApprovalAuthorization
import ActionProxy.Policy.EvaluatePolicy

/-!
Where a policy context comes from: the fields derived from an input at ingress,
frozen on the tool call, and read back when the tool call is evaluated again.
-/

namespace ActionProxy

open JsonText

def canonicalActionRequestVersion : String := "actionproxy.action-request.v1"

inductive TrustClassification where
  | asserted | derived | externallyVerified | trusted
  deriving DecidableEq

def TrustClassification.text : TrustClassification → String
  | .asserted => "asserted"
  | .derived => "derived"
  | .externallyVerified => "externally_verified"
  | .trusted => "trusted"

inductive ActionOperationKind where
  | custom | delete | externalSend | financial | read | write
  deriving DecidableEq

def ActionOperationKind.text : ActionOperationKind → String
  | .custom => "custom"
  | .delete => "delete"
  | .externalSend => "external_send"
  | .financial => "financial"
  | .read => "read"
  | .write => "write"

def operationKinds : List ActionOperationKind :=
  [.custom, .delete, .externalSend, .financial, .read, .write]

/-! ### Sourced fields -/

def provenanceJson (trust : TrustClassification) (source : String) : Json :=
  .obj [("source", some (.str source)), ("trust", some (.str trust.text))]

def sourced (value : Json) (trust : TrustClassification) (source : String) : Json :=
  .obj [
    ("present", some (.bool true)),
    ("provenance", some (provenanceJson trust source)),
    ("value", some value)]

def absent (trust : TrustClassification) (source : String) : Json :=
  .obj [("present", some (.bool false)), ("provenance", some (provenanceJson trust source))]

def sourcedOrAbsent (value : Option Json) (trust : TrustClassification) (source : String) : Json :=
  value.elim (absent trust source) (fun value => sourced value trust source)

/-! ### Derivation at ingress -/

def finiteNumber (value : Option Json) : Option JsonNumber :=
  match value with
  | some (.num number) => some number
  | _ => none

/-- The amount an input states as a number. -/
def derivedAmount (input : JsonObject) : Option JsonNumber :=
  finiteNumber (member? input "amount") <|> finiteNumber (member? input "amountCents")

def derivedCurrency (input : JsonObject) : Option String := stringContext (member? input "currency")

def hasRecipient (value : Option Json) : Bool :=
  match value with
  | some (.str text) => (TextScan.content text).isSome
  | some (.arr items) => items.any (fun item => ((asString? item).bind TextScan.content).isSome)
  | _ => false

def derivedRecipientDomain (input : JsonObject) : Option String :=
  if ["to", "cc", "bcc", "recipient"].any (fun name => hasRecipient (member? input name)) then
    some "external"
  else none

def externallyVerifiedAuth (auth : Option AuthContext) : Bool :=
  auth.any (fun auth => auth.authProvider != .none && auth.authProvider != .tunnelSingleUser)

def approverGroupField (auth : Option AuthContext) : Json :=
  if externallyVerifiedAuth auth then
    absent .externallyVerified "auth.groups.no-single-group-selected"
  else if auth.any (fun auth => auth.authProvider == .tunnelSingleUser) then
    absent .trusted "server.tunnel-single-user.no-approver-group"
  else absent .trusted "server.no-verified-approver-group"

/-- The policy fields a registered action contract supplies. -/
structure TrustedPolicy where
  customerVisible : Bool
  operationKind : ActionOperationKind
  risk : String
  source : String

/-- The policy context of a canonical request: derived from its input, with the
fields of a registered contract in place of the unresolved ones. -/
def canonicalPolicyContext (input : JsonObject) (auth : Option AuthContext)
    (trusted : Option TrustedPolicy) : JsonObject :=
  [("amount", some (sourcedOrAbsent ((derivedAmount input).map .num) .derived
      "arguments.amount|amountCents")),
    ("approverGroup", some (approverGroupField auth)),
    ("currency", some (sourcedOrAbsent ((derivedCurrency input).map .str) .derived
      "arguments.currency")),
    ("customerVisible", some (trusted.elim
      (absent .trusted "server.customer-visibility.not-resolved")
      (fun policy => sourced (.bool policy.customerVisible) .trusted policy.source))),
    ("operationKind", some (trusted.elim
      (absent .derived "normalizer.operation-kind.unmapped")
      (fun policy => sourced (.str policy.operationKind.text) .trusted policy.source))),
    ("recipientDomain", some (sourcedOrAbsent ((derivedRecipientDomain input).map .str) .derived
      "arguments.recipients")),
    ("risk", some (trusted.elim
      (absent .trusted "policy.rule.risk")
      (fun policy => sourced (.str policy.risk) .trusted policy.source)))]

/-- `deriveCanonicalPolicyContext`. -/
def deriveCanonicalPolicyContext (input : JsonObject) (auth : Option AuthContext) : JsonObject :=
  canonicalPolicyContext input auth none

/-! ### Reading a context back -/

def canonicalPolicyFields : List String :=
  ["amount", "approverGroup", "currency", "customerVisible", "operationKind", "recipientDomain",
    "risk"]

def isCanonicalPolicyField (value : Json) : Bool :=
  match value with
  | .obj members =>
      match member? members "present", member? members "provenance" with
      | some (.bool present), some (.obj provenance) =>
          (stringContext (member? provenance "source")).isSome &&
            [TrustClassification.asserted, .derived, .externallyVerified, .trusted].any
              (fun trust => (member? provenance "trust").bind asString? == some trust.text) &&
            present == (members.map Prod.fst).contains "value"
      | _, _ => false
  | _ => false

def isCanonicalPolicyContext (members : JsonObject) : Bool :=
  sortedUnique (members.map Prod.fst) == canonicalPolicyFields &&
    members.length == canonicalPolicyFields.length &&
    canonicalPolicyFields.all (fun name => (member? members name).any isCanonicalPolicyField)

/-- `field.present ? field.value : undefined`. -/
def fieldValue (field : Json) : Option Json :=
  if booleanContext (field? field "present") = some true then field? field "value" else none

def canonicalValue (context : JsonObject) (name : String) : Option Json :=
  (member? context name).bind fieldValue

@[simp] theorem fieldValue_absent (trust : TrustClassification) (source : String) :
    fieldValue (absent trust source) = none := by
  simp [fieldValue, absent, field?, member?, definedMembers, booleanContext]

@[simp] theorem fieldValue_sourced (value : Json) (trust : TrustClassification) (source : String) :
    fieldValue (sourced value trust source) = some value := by
  simp [fieldValue, sourced, field?, member?, definedMembers, booleanContext, List.lookup_cons]

@[simp] theorem fieldValue_sourcedOrAbsent (value : Option Json) (trust : TrustClassification)
    (source : String) : fieldValue (sourcedOrAbsent value trust source) = value := by
  cases value <;> simp [sourcedOrAbsent]

theorem canonicalPolicyContext_distinct (input : JsonObject) (auth : Option AuthContext)
    (trusted : Option TrustedPolicy) :
    ((canonicalPolicyContext input auth trusted).map Prod.fst).Nodup := by
  simp [canonicalPolicyContext]

/-- What each field of a canonical context gives back. -/
structure CanonicalValues (input : JsonObject) (trusted : Option TrustedPolicy)
    (context : JsonObject) : Prop where
  amount : canonicalValue context "amount" = (derivedAmount input).map .num
  approverGroup : canonicalValue context "approverGroup" = none
  currency : canonicalValue context "currency" = (derivedCurrency input).map .str
  customerVisible : canonicalValue context "customerVisible" =
    trusted.map (fun policy => .bool policy.customerVisible)
  operationKind : canonicalValue context "operationKind" =
    trusted.map (fun policy => .str policy.operationKind.text)
  recipientDomain : canonicalValue context "recipientDomain" =
    (derivedRecipientDomain input).map .str
  risk : canonicalValue context "risk" = trusted.map (fun policy => .str policy.risk)

theorem fieldValue_approverGroupField (auth : Option AuthContext) :
    fieldValue (approverGroupField auth) = none := by
  unfold approverGroupField
  split
  · exact fieldValue_absent _ _
  split
  · exact fieldValue_absent _ _
  · exact fieldValue_absent _ _

theorem fieldValue_trusted (trusted : Option TrustedPolicy) (value : TrustedPolicy → Json)
    (trust : TrustClassification) (missing : String) :
    fieldValue (trusted.elim (absent trust missing)
      (fun policy => sourced (value policy) .trusted policy.source)) = trusted.map value := by
  cases trusted with
  | none => exact fieldValue_absent _ _
  | some policy => exact fieldValue_sourced _ _ _

theorem canonicalValues (input : JsonObject) (auth : Option AuthContext)
    (trusted : Option TrustedPolicy) :
    CanonicalValues input trusted (canonicalPolicyContext input auth trusted) := by
  have value : ∀ {name : String} {field : Json},
      (name, some field) ∈ canonicalPolicyContext input auth trusted →
      canonicalValue (canonicalPolicyContext input auth trusted) name = fieldValue field := by
    intro name field listed
    rw [canonicalValue, member?_of_mem (canonicalPolicyContext_distinct input auth trusted) listed]
    rfl
  constructor
  · exact (value (.head _)).trans (fieldValue_sourcedOrAbsent _ _ _)
  · exact (value (.tail _ (.head _))).trans (fieldValue_approverGroupField auth)
  · exact (value (.tail _ (.tail _ (.head _)))).trans (fieldValue_sourcedOrAbsent _ _ _)
  · exact (value (.tail _ (.tail _ (.tail _ (.head _))))).trans (fieldValue_trusted _ _ _ _)
  · exact (value (.tail _ (.tail _ (.tail _ (.tail _ (.head _)))))).trans
      (fieldValue_trusted _ _ _ _)
  · exact (value (.tail _ (.tail _ (.tail _ (.tail _ (.tail _ (.head _))))))).trans
      (fieldValue_sourcedOrAbsent _ _ _)
  · exact (value (.tail _ (.tail _ (.tail _ (.tail _ (.tail _ (.tail _ (.head _)))))))).trans
      (fieldValue_trusted _ _ _ _)

theorem derivedCurrency_content {input : JsonObject} {currency : String}
    (derived : derivedCurrency input = some currency) :
    TextScan.content currency = some currency ∧ currency ≠ "" := by
  obtain ⟨text, _, content⟩ := Option.bind_eq_some_iff.mp derived
  exact TextScan.content_eq_some content

theorem operationKind_content (kind : ActionOperationKind) :
    TextScan.content kind.text = some kind.text := by
  cases kind <;> rfl

theorem operationKind_listed (kind : ActionOperationKind) : kind ∈ operationKinds := by
  cases kind <;> decide

/-- Whether a prepared action's contract supplied the field. -/
def contractField (context : JsonObject) (name expectedSource : String) : Bool :=
  ((member? context name).bind (fun field => booleanContext (field? field "present"))).any id &&
    ((member? context name).bind (fun field => field? field "provenance")).any (fun provenance =>
      (field? provenance "trust").bind asString? == some TrustClassification.trusted.text &&
        (field? provenance "source").bind asString? == some expectedSource)

/-- The source named by a prepared action's binding. -/
def contractSource (binding : JsonObject) : String :=
  "action-contract:" ++ ((member? binding "contractId").bind asString?).getD "" ++ "@" ++
    ((member? binding "contractVersion").bind asString?).getD ""

def preparedPolicyFailure (context binding : JsonObject) : Option String :=
  let missing (name : String) : Bool := !contractField context name (contractSource binding)
  let message (name : String) : String :=
    "Prepared action has no trusted frozen " ++ name ++ " policy binding."
  firstFailure [
    (missing "customerVisible", message "customerVisible"),
    (missing "operationKind", message "operationKind"),
    (missing "risk", message "risk"),
    ((booleanContext (canonicalValue context "customerVisible")).isNone,
      "Prepared action customerVisible policy binding is invalid."),
    (!operationKinds.any (fun kind =>
        (canonicalValue context "operationKind").bind asString? == some kind.text),
      "Prepared action operationKind policy binding is invalid."),
    ((stringContext (canonicalValue context "risk")).isNone,
      "Prepared action risk policy binding is invalid.")]

theorem stringContext_source (trust : TrustClassification) {source : String}
    (given : (TextScan.content source).isSome = true) :
    (stringContext (member? [("source", some (.str source)), ("trust", some (.str trust.text))]
      "source")).isSome = true := by
  simpa [stringContext, member?, definedMembers, asString?] using given

theorem isCanonicalPolicyField_sourced {value : Json} {trust : TrustClassification}
    {source : String} (given : (TextScan.content source).isSome = true) :
    isCanonicalPolicyField (sourced value trust source) = true := by
  have named := stringContext_source trust given
  cases trust <;>
    simp_all [isCanonicalPolicyField, sourced, provenanceJson, member?, definedMembers, List.lookup_cons,
      TrustClassification.text, asString?]

theorem isCanonicalPolicyField_absent {trust : TrustClassification}
    {source : String} (given : (TextScan.content source).isSome = true) :
    isCanonicalPolicyField (absent trust source) = true := by
  have named := stringContext_source trust given
  cases trust <;>
    simp_all [isCanonicalPolicyField, absent, provenanceJson, member?, definedMembers, List.lookup_cons,
      TrustClassification.text, asString?]

theorem isCanonicalPolicyField_sourcedOrAbsent {value : Option Json} {trust : TrustClassification}
    {source : String} (given : (TextScan.content source).isSome = true) :
    isCanonicalPolicyField (sourcedOrAbsent value trust source) = true := by
  cases value with
  | none => exact isCanonicalPolicyField_absent given
  | some value => exact isCanonicalPolicyField_sourced given

theorem isCanonicalPolicyField_approverGroup (auth : Option AuthContext) :
    isCanonicalPolicyField (approverGroupField auth) = true := by
  unfold approverGroupField
  split
  · exact isCanonicalPolicyField_absent (by decide)
  split
  · exact isCanonicalPolicyField_absent (by decide)
  · exact isCanonicalPolicyField_absent (by decide)

theorem isCanonicalPolicyField_trusted {trusted : Option TrustedPolicy}
    (sources : ∀ policy, trusted = some policy → (TextScan.content policy.source).isSome = true)
    (value : TrustedPolicy → Json) (trust : TrustClassification) {missing : String}
    (given : (TextScan.content missing).isSome = true) :
    isCanonicalPolicyField (trusted.elim (absent trust missing)
      (fun policy => sourced (value policy) .trusted policy.source)) = true := by
  cases trusted with
  | none => exact isCanonicalPolicyField_absent given
  | some policy => exact isCanonicalPolicyField_sourced (sources policy rfl)

theorem isCanonicalPolicyContext_canonical (input : JsonObject) (auth : Option AuthContext)
    {trusted : Option TrustedPolicy}
    (sources : ∀ policy, trusted = some policy → (TextScan.content policy.source).isSome = true) :
    isCanonicalPolicyContext (canonicalPolicyContext input auth trusted) = true := by
  have field : ∀ {name : String} {value : Json},
      (name, some value) ∈ canonicalPolicyContext input auth trusted →
      isCanonicalPolicyField value = true →
      (member? (canonicalPolicyContext input auth trusted) name).any isCanonicalPolicyField =
        true := by
    intro name value listed valid
    rw [member?_of_mem (canonicalPolicyContext_distinct input auth trusted) listed]
    exact valid
  have names : sortedUnique ((canonicalPolicyContext input auth trusted).map Prod.fst) =
      canonicalPolicyFields := by
    change sortedUnique canonicalPolicyFields = canonicalPolicyFields
    decide
  have all : ∀ name ∈ canonicalPolicyFields,
      (member? (canonicalPolicyContext input auth trusted) name).any isCanonicalPolicyField =
        true := by
    simp only [canonicalPolicyFields, List.forall_mem_cons]
    refine ⟨?_, ?_, ?_, ?_, ?_, ?_, ?_, ?_⟩
    · exact field (.head _) (isCanonicalPolicyField_sourcedOrAbsent (by decide))
    · exact field (.tail _ (.head _)) (isCanonicalPolicyField_approverGroup auth)
    · exact field (.tail _ (.tail _ (.head _)))
        (isCanonicalPolicyField_sourcedOrAbsent (by decide))
    · exact field (.tail _ (.tail _ (.tail _ (.head _))))
        (isCanonicalPolicyField_trusted sources _ _ (by decide))
    · exact field (.tail _ (.tail _ (.tail _ (.tail _ (.head _)))))
        (isCanonicalPolicyField_trusted sources _ _ (by decide))
    · exact field (.tail _ (.tail _ (.tail _ (.tail _ (.tail _ (.head _))))))
        (isCanonicalPolicyField_sourcedOrAbsent (by decide))
    · exact field (.tail _ (.tail _ (.tail _ (.tail _ (.tail _ (.tail _ (.head _)))))))
        (isCanonicalPolicyField_trusted sources _ _ (by decide))
    · intro name unlisted
      cases unlisted
  unfold isCanonicalPolicyContext
  rw [names, List.all_eq_true.mpr all]
  rfl

theorem contractField_sourced {context : JsonObject} {name : String} {value : Json}
    {source : String} (stated : member? context name = some (sourced value .trusted source)) :
    contractField context name source = true := by
  unfold contractField
  rw [stated]
  simp [field?, sourced, provenanceJson, member?, definedMembers, List.lookup_cons, booleanContext,
    TrustClassification.text, asString?]

theorem preparedPolicyFailure_canonical (input : JsonObject) (auth : Option AuthContext)
    {policy : TrustedPolicy} {binding : JsonObject}
    (source : policy.source = contractSource binding)
    (risk : (TextScan.content policy.risk).isSome = true) :
    preparedPolicyFailure (canonicalPolicyContext input auth (some policy)) binding = none := by
  have values := canonicalValues input auth (some policy)
  have supplied : ∀ {name : String} {value : Json},
      (name, some (sourced value .trusted policy.source)) ∈
        canonicalPolicyContext input auth (some policy) →
      contractField (canonicalPolicyContext input auth (some policy)) name
        (contractSource binding) = true := by
    intro name value listed
    rw [← source]
    exact contractField_sourced
      (member?_of_mem (canonicalPolicyContext_distinct input auth (some policy)) listed)
  have visible := supplied (.tail _ (.tail _ (.tail _ (.head _))))
  have kind := supplied (.tail _ (.tail _ (.tail _ (.tail _ (.head _)))))
  have level := supplied
    (.tail _ (.tail _ (.tail _ (.tail _ (.tail _ (.tail _ (.head _)))))))
  have known : operationKinds.any (fun kind =>
      ((canonicalValue (canonicalPolicyContext input auth (some policy)) "operationKind").bind
        asString? == some kind.text)) = true := by
    rw [values.operationKind, List.any_eq_true]
    exact ⟨policy.operationKind, operationKind_listed policy.operationKind, by simp [asString?]⟩
  rw [preparedPolicyFailure, firstFailure_eq_none_iff]
  simp only [List.forall_mem_cons, visible, kind, level, known, values.customerVisible,
    values.risk, Bool.not_true]
  refine ⟨trivial, trivial, trivial, rfl, trivial, ?_, ?_⟩
  · simpa [stringContext, asString?] using risk
  · intro check unlisted
    cases unlisted

theorem derivedRecipientDomain_cases (input : JsonObject) :
    derivedRecipientDomain input = some "external" ∨ derivedRecipientDomain input = none := by
  unfold derivedRecipientDomain
  split
  · exact Or.inl rfl
  · exact Or.inr rfl

section

variable [Runtime]

def validatedFrozenCanonicalPolicyContext (toolCall : ToolCallRecord) :
    Except String JsonObject :=
  match toolCall.canonicalPolicyContext with
  | none => .error "Canonical tool call has no valid frozen policy context."
  | some context =>
      if !isCanonicalPolicyContext context then
        .error "Canonical tool call has no valid frozen policy context."
      else
        let traced := toolCall.decisionTrace.map (fun trace => member? trace "canonicalPolicyContext")
        let tracedValid := traced.all (fun traced => match traced with
          | some (.obj members) => isCanonicalPolicyContext members
          | _ => false)
        if !tracedValid then
          .error "Canonical decision trace has no valid frozen policy context."
        else if traced.any (fun traced => traced.any (fun traced =>
            hashJson traced != hashJson (.obj context))) then
          .error "Canonical policy context no longer matches its decision trace."
        else
          match toolCall.actionEnvelope.bind ActionEnvelope.preparedAction with
          | none => .ok context
          | some binding =>
              match preparedPolicyFailure context binding with
              | some failure => .error failure
              | none => .ok context

def policyContextFromCanonicalFields (context input : JsonObject) : PolicyEvaluationContext :=
  { amount := numberContext (canonicalValue context "amount")
    approverGroup := stringContext (canonicalValue context "approverGroup")
    currency := stringContext (canonicalValue context "currency")
    customerVisible := booleanContext (canonicalValue context "customerVisible")
    input := some input
    metadata := none
    operationKind := stringContext (canonicalValue context "operationKind")
    recipientDomain := stringContext (canonicalValue context "recipientDomain")
    risk := stringContext (canonicalValue context "risk") }

/-- A value stated of an action, before the text its metadata has. A stated value that
is no text matches no condition, as the empty text does. -/
def statedText (stated : Option Json) (otherwise : Option String) : Option String :=
  match notNull stated with
  | none => otherwise
  | some value => some ((asString? value).getD "")

/-- The context of a call that was not canonically submitted. -/
def legacyPolicyContext (toolCall : ToolCallRecord) : PolicyEvaluationContext :=
  let metadata := toolCall.metadata
  let enveloped (part name : String) : Option Json := do
    let envelope ← toolCall.actionEnvelope
    field? (← member? envelope.body part) name
  { amount :=
      numberContext (member? metadata "amount") <|> numberContext (member? toolCall.input "amount")
        <|> numberContext (member? toolCall.input "amountCents")
    approverGroup := stringContext (member? metadata "approverGroup")
    currency :=
      stringContext (notNull (member? metadata "currency") <|> member? toolCall.input "currency")
    customerVisible := booleanContext (member? metadata "customerVisible")
    input := some toolCall.input
    metadata := some metadata
    operationKind :=
      statedText (enveloped "operation" "kind") (stringContext (member? metadata "operationKind"))
    recipientDomain := stringContext (member? metadata "recipientDomain")
    risk :=
      statedText (enveloped "context" "risk") (stringContext (member? metadata "riskKind")) }

def policyContextFromToolCall (toolCall : ToolCallRecord) :
    Except String PolicyEvaluationContext :=
  if toolCall.canonicalActionRequestVersion = some canonicalActionRequestVersion then
    (validatedFrozenCanonicalPolicyContext toolCall).map
      (fun context => policyContextFromCanonicalFields context toolCall.input)
  else .ok (legacyPolicyContext toolCall)

end

end ActionProxy
