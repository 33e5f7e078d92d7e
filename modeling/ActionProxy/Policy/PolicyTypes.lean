import ActionProxy.Models
import ActionProxy.Foundation.KeyedTable
import ActionProxy.Foundation.TextScan

/-!
Policy files as `parsePolicy` returns them, what its schema guarantees of them,
and the JSON value their version hash is taken of.
-/

namespace ActionProxy

open JsonText

inductive PolicyResultSource where
  | none
  | classified (integrity : ContentIntegrity) (sourceId : Option String)

structure PolicyApprovers where
  groups : Option (List String)
  users : Option (List String)
  requiredApprovals : Option Int
  separationOfDuties : Option Bool

structure PolicyExternalExecution where
  grantTtlSeconds : Option Int
  requireGrantConsumption : Option Bool

structure PolicyRedaction where
  fields : Option (List String)
  replacement : Option String

structure PolicyRule where
  approval : ApprovalMode
  approvers : Option PolicyApprovers
  conditions : Option (List (String × Json))
  externalExecution : Option PolicyExternalExecution
  influence : Option PolicyInfluenceGuard
  notifyChannels : Option (Option (List String))
  redaction : Option PolicyRedaction
  resultSource : Option PolicyResultSource
  risk : Option String
  reason : Option String

/-- A rule that only decides. -/
def PolicyRule.plain (approval : ApprovalMode) : PolicyRule :=
  { approval := approval
    approvers := none
    conditions := none
    externalExecution := none
    influence := none
    notifyChannels := none
    redaction := none
    resultSource := none
    risk := none
    reason := none }

structure PolicyFile where
  version : JsonNumber
  default : PolicyRule
  tools : KeyedTable String PolicyRule

/-! ### What the schema accepts -/

/-- `/^[A-Za-z0-9][A-Za-z0-9._:-]{0,127}$/u`. -/
def isSourceId (text : String) : Bool :=
  match text.toList with
  | [] => false
  | first :: rest =>
      first.isAlphanum && decide (rest.length ≤ 127) &&
        rest.all (fun char => char.isAlphanum || ['.', '_', ':', '-'].contains char)

def PolicyResultSource.accepted : PolicyResultSource → Bool
  | .none => true
  | .classified _ sourceId => sourceId.all isSourceId

def PolicyApprovers.accepted (approvers : PolicyApprovers) : Bool :=
  approvers.groups.all (fun groups => groups.all (· != "")) &&
  approvers.users.all (fun users => users.all (· != "")) &&
  approvers.requiredApprovals.all (fun count => decide (1 ≤ count ∧ count ≤ 10))

/-- The members of an object of the language have distinct names. -/
def distinctMembers : Json → Bool
  | .obj members => decide (members.map Prod.fst).Nodup
  | _ => true

def conditionsAccepted (conditions : List (String × Json)) : Bool :=
  decide (conditions.map Prod.fst).Nodup && conditions.all (fun condition =>
    distinctMembers condition.2)

/-- `ruleSchema`, for the checks that the types do not carry. -/
def PolicyRule.accepted (rule : PolicyRule) : Bool :=
  rule.approvers.all PolicyApprovers.accepted &&
  rule.conditions.all conditionsAccepted &&
  rule.externalExecution.all (fun execution =>
    execution.grantTtlSeconds.all (fun seconds => decide (1 ≤ seconds ∧ seconds ≤ 86400))) &&
  rule.influence.all (fun influence =>
    !influence.allowFrom.isEmpty && decide influence.allowFrom.Nodup) &&
  rule.notifyChannels.all (fun channels => channels.all (fun names => names.all (· != ""))) &&
  rule.redaction.all (fun redaction => redaction.fields.all (fun fields => fields.all (· != ""))) &&
  rule.resultSource.all PolicyResultSource.accepted &&
  (rule.risk != some "open_world_read" ||
    match rule.resultSource with
    | some (.classified .publicUntrusted _) => true
    | _ => false)

/-- `policySchema`; a record of the schema never keeps the name `__proto__`. -/
def PolicyFile.accepted (policy : PolicyFile) : Bool :=
  policy.default.accepted &&
  policy.tools.entries.all (fun entry => entry.1 != "__proto__" && entry.2.accepted)

/-! ### As JSON -/

def textsJson (texts : List String) : Json := .arr (texts.map .str)

def integerJson (value : Int) : Json := .num (JsonNumber.ofInt value)

def PolicyApprovers.json (approvers : PolicyApprovers) : Json :=
  .obj [
    ("groups", approvers.groups.map textsJson),
    ("users", approvers.users.map textsJson),
    ("requiredApprovals", approvers.requiredApprovals.map integerJson),
    ("separationOfDuties", approvers.separationOfDuties.map .bool)]

def PolicyExternalExecution.json (execution : PolicyExternalExecution) : Json :=
  .obj [
    ("grantTtlSeconds", execution.grantTtlSeconds.map integerJson),
    ("requireGrantConsumption", execution.requireGrantConsumption.map .bool)]

def PolicyInfluenceGuard.json (influence : PolicyInfluenceGuard) : Json :=
  .obj [
    ("allowFrom", some (textsJson (influence.allowFrom.map influenceSourceText))),
    ("otherwise", some (.str influence.otherwise.text))]

def PolicyRedaction.json (redaction : PolicyRedaction) : Json :=
  .obj [
    ("fields", redaction.fields.map textsJson),
    ("replacement", redaction.replacement.map .str)]

def PolicyResultSource.json : PolicyResultSource → Json
  | .none => .str "none"
  | .classified integrity sourceId =>
      .obj [("integrity", some (.str integrity.text)), ("sourceId", sourceId.map .str)]

def conditionsJson (conditions : List (String × Json)) : Json :=
  .obj (conditions.map (fun condition => (condition.1, some condition.2)))

def PolicyRule.members (rule : PolicyRule) : JsonObject :=
  [("approval", some (.str rule.approval.text)),
    ("approvers", rule.approvers.map PolicyApprovers.json),
    ("conditions", rule.conditions.map conditionsJson),
    ("externalExecution", rule.externalExecution.map PolicyExternalExecution.json),
    ("influence", rule.influence.map PolicyInfluenceGuard.json),
    ("notify", rule.notifyChannels.map (fun channels =>
      .obj [("channels", channels.map textsJson)])),
    ("redaction", rule.redaction.map PolicyRedaction.json),
    ("resultSource", rule.resultSource.map PolicyResultSource.json),
    ("risk", rule.risk.map .str),
    ("reason", rule.reason.map .str)]

def PolicyRule.json (rule : PolicyRule) : Json := .obj rule.members

def PolicyFile.toolMembers (policy : PolicyFile) : JsonObject :=
  policy.tools.entries.map (fun entry => (entry.1, some entry.2.json))

def PolicyFile.members (policy : PolicyFile) : JsonObject :=
  [("version", some (.num policy.version)),
    ("default", some policy.default.json),
    ("tools", some (.obj policy.toolMembers))]

def PolicyFile.json (policy : PolicyFile) : Json := .obj policy.members

/-- `currentPolicyVersionHash`. -/
def PolicyFile.versionHash [Runtime] (policy : PolicyFile) : String := hashJson policy.json

end ActionProxy
