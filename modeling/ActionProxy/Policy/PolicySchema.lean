import ActionProxy.Policy.ParsePolicy
import ActionProxy.Foundation.JsonSchema

/-!
The published schema of policy files, `actionproxy.policy.v1.schema.json`, beside the parser: both
accept the same values, and the parser keeps of a value what the schema lists.
-/

namespace ActionProxy

open JsonText

namespace PolicySchema

def approvalMode : JsonSchema := .allOf [.type .string, .enum ["never", "required", "deny"]]

/-- An array of texts that are not empty. -/
def names : JsonSchema := .allOf [.type .array, .items (.allOf [.minLength 1, .type .string])]

def approvers : JsonSchema :=
  .allOf [
    .type .object,
    .properties [
      ("groups", names),
      ("users", names),
      ("requiredApprovals", .allOf [.type .integer, .minimum 1, .maximum 10]),
      ("separationOfDuties", .type .boolean)] .anything]

def conditions : JsonSchema := .allOf [.type .object, .properties [] .anything]

def externalExecution : JsonSchema :=
  .allOf [
    .type .object,
    .properties [
      ("grantTtlSeconds", .allOf [.type .integer, .minimum 1, .maximum 86400]),
      ("requireGrantConsumption", .type .boolean)] .anything]

def influenceSources : List String :=
  ["none", "organization_managed", "verified_publisher", "authenticated_external",
    "public_untrusted", "unknown"]

def allowFrom : JsonSchema :=
  .allOf [
    .type .array, .minItems 1, .maxItems 6, .uniqueItems,
    .items (.allOf [.type .string, .enum influenceSources])]

def influence : JsonSchema :=
  .allOf [
    .type .object,
    .required ["allowFrom", "otherwise"],
    .properties [
      ("allowFrom", allowFrom),
      ("otherwise", .allOf [.type .string, .enum ["required", "deny"]])] .nothing]

def notification : JsonSchema :=
  .allOf [.type .object, .properties [("channels", names)] .anything]

def redaction : JsonSchema :=
  .allOf [
    .type .object,
    .properties [("fields", names), ("replacement", .type .string)] .anything]

/-- `^[A-Za-z0-9][A-Za-z0-9._:-]{0,127}$`. -/
def sourceIdPattern : List PatternRun :=
  [{ allowed := Char.isAlphanum, least := 1, most := 1 },
    { allowed := fun char => char.isAlphanum || ['.', '_', ':', '-'].contains char
      least := 0
      most := 127 }]

def resultSourceDescriptor : JsonSchema :=
  .allOf [
    .type .object,
    .required ["integrity"],
    .properties [
      ("integrity",
        .allOf [
          .type .string,
          .enum ["organization_managed", "verified_publisher", "authenticated_external",
            "public_untrusted", "unknown"]]),
      ("sourceId", .allOf [.type .string, .pattern sourceIdPattern])] .nothing]

def resultSource : JsonSchema := .oneOf [.const "none", resultSourceDescriptor]

/-- `if` and `then` of a rule: what reads the open world is of public sources. -/
def openWorldRead : JsonSchema :=
  .ifThen
    (.allOf [
      .required ["risk"],
      .properties [("risk", .const "open_world_read")] .anything])
    (.allOf [
      .required ["resultSource"],
      .properties [
        ("resultSource",
          .allOf [
            .type .object,
            .required ["integrity"],
            .properties [("integrity", .const "public_untrusted")] .anything])] .anything])

def policyRule : JsonSchema :=
  .allOf [
    .type .object,
    .required ["approval"],
    .properties [
      ("approval", approvalMode),
      ("approvers", approvers),
      ("conditions", conditions),
      ("externalExecution", externalExecution),
      ("influence", influence),
      ("notify", notification),
      ("redaction", redaction),
      ("resultSource", resultSource),
      ("risk", .type .string),
      ("reason", .type .string)] .anything,
    .allOf [openWorldRead]]

def policy : JsonSchema :=
  .allOf [
    .type .object,
    .required ["version", "default"],
    .properties [
      ("version", .type .number),
      ("default", policyRule),
      ("tools", .allOf [.type .object, .properties [] policyRule])] .anything]

end PolicySchema

/-! ### What the readers accept -/

section

variable {α β : Type}

theorem mapM_map {γ : Type} {read : α → Option β} {ofItem : α → γ} {ofValue : β → γ}
    {items : List α} {values : List β}
    (given : ∀ item ∈ items, ∀ value, read item = some value → ofItem item = ofValue value)
    (all : items.mapM read = some values) : items.map ofItem = values.map ofValue := by
  induction items generalizing values with
  | nil =>
      rw [List.mapM_nil] at all
      cases all
      rfl
  | cons item rest ih =>
      simp only [List.mapM_cons, Option.bind_eq_bind, Option.bind_eq_some_iff, Option.pure_def,
        Option.some.injEq] at all
      obtain ⟨first, readFirst, others, readOthers, rfl⟩ := all
      have later := ih (fun item listed => given item (List.mem_cons_of_mem _ listed)) readOthers
      rw [List.map_cons, List.map_cons, given item List.mem_cons_self first readFirst, later]

end

namespace PolicySchema

open JsonSchema

section

variable {α β : Type} {read : Json → Option α} {schema : JsonSchema} {check : Bool}
  {value : Option Json}

end

def isPublic : PolicyResultSource → Bool
  | .classified .publicUntrusted _ => true
  | _ => false

/-- What the schema lists of a value; the parser keeps no member `__proto__` of a record. -/
def kept (schema : JsonSchema) (value : Json) : Json := (outline schema).cut "__proto__" value

end PolicySchema

end ActionProxy
