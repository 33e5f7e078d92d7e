import ActionProxy.Policy.PolicyTypes
import ActionProxy.Contracts.ActionRequest

/-!
Policy evaluation: the exact rule of a tool, then the first wildcard rule in the
order of the file, then the default, each with the trace of the rules tried.
-/

namespace ActionProxy

open JsonText

structure PolicyEvaluationContext where
  amount : Option JsonNumber
  approverGroup : Option String
  currency : Option String
  customerVisible : Option Bool
  input : Option JsonObject
  metadata : Option JsonObject
  operationKind : Option String
  recipientDomain : Option String
  risk : Option String

inductive PolicyTraceMatchType where
  | default | exact | wildcard | providerFailure
  deriving DecidableEq

def PolicyTraceMatchType.text : PolicyTraceMatchType → String
  | .default => "default"
  | .exact => "exact"
  | .wildcard => "wildcard"
  | .providerFailure => "provider_failure"

structure PolicyTraceConditionEvaluation where
  actual : Option Json
  expected : Json
  key : String
  matched : Bool

structure PolicyTraceRuleEvaluation where
  conditions : List PolicyTraceConditionEvaluation
  conditionsMatched : Bool
  «exists» : Bool
  matchType : PolicyTraceMatchType
  pattern : String
  prefixMatched : Option Bool
  selected : Bool

/-- `approval` and `rule` are those of the selected rule; a member of the object
prototype that a tool name happens to find has neither. -/
structure PolicyEvaluation where
  decision : PolicyDecision
  approval : Option ApprovalMode
  risk : String
  reason : String
  matchedRule : String
  rule : Option PolicyRule

structure PolicyEvaluationTrace where
  decision : PolicyDecision
  evaluation : PolicyEvaluation
  fallbackPath : List PolicyTraceMatchType
  matchType : PolicyTraceMatchType
  matchedRule : String
  ruleEvaluations : List PolicyTraceRuleEvaluation

/-! ### Traces as values -/

def PolicyTraceConditionEvaluation.json (evaluation : PolicyTraceConditionEvaluation) : Json :=
  .obj [
    ("actual", evaluation.actual),
    ("expected", some evaluation.expected),
    ("key", some (.str evaluation.key)),
    ("matched", some (.bool evaluation.matched))]

def PolicyTraceRuleEvaluation.json (evaluation : PolicyTraceRuleEvaluation) : Json :=
  .obj [
    ("conditions", some (.arr (evaluation.conditions.map PolicyTraceConditionEvaluation.json))),
    ("conditionsMatched", some (.bool evaluation.conditionsMatched)),
    ("exists", some (.bool evaluation.exists)),
    ("matchType", some (.str evaluation.matchType.text)),
    ("pattern", some (.str evaluation.pattern)),
    ("prefixMatched", evaluation.prefixMatched.map .bool),
    ("selected", some (.bool evaluation.selected))]

/-! ### Reading values -/

/-- A member of an optional object, as `object?.name`. -/
def memberOf (object : Option JsonObject) (name : String) : Option Json :=
  object.bind (fun members => member? members name)

/-- What `??` keeps on its left: a value that is neither undefined nor null. -/
def notNull (value : Option Json) : Option Json :=
  value.filter (fun value => match value with | .null => false | _ => true)

/-- `stringContext`, `stringMetadata` and `optionalString`. -/
def stringContext (value : Option Json) : Option String :=
  (value.bind asString?).bind TextScan.content

def booleanContext (value : Option Json) : Option Bool :=
  value.bind (fun value => match value with | .bool flag => some flag | _ => none)

def stringList (value : Option Json) : List String :=
  match value with
  | some (.str text) => (TextScan.splitCommas text).filterMap TextScan.content
  | some (.arr items) =>
      (items.filterMap asString?).filter (fun item => (TextScan.content item).isSome)
  | _ => []

section

variable [Runtime]

/-- `numberContext` and `numberMetadata`. -/
def numberContext (value : Option Json) : Option JsonNumber :=
  match value with
  | some (.num number) => some number
  | some (.str text) => (TextScan.content text).bind (fun _ => Runtime.parseNumber text)
  | _ => none

/-- `/@([^>\s,]+)>?$/` on the trimmed lower-case text. -/
def emailDomain (value : String) : Option String :=
  let domainAfter (tail : List Char) : Option String :=
    match tail with
    | '@' :: rest =>
        let domain := if rest.getLast? = some '>' then rest.dropLast else rest
        if domain ≠ [] && domain.all (fun char =>
            char != '>' && char != ',' && !TextScan.isSpace char) then
          some (String.ofList domain)
        else none
    | _ => none
  (Runtime.toLowerCase (TextScan.trim value)).toList.tails.findSome? domainAfter

/-- The recipients an input names. -/
def inputRecipients (input : Option JsonObject) : List String :=
  stringList (memberOf input "to") ++ stringList (memberOf input "cc") ++
    stringList (memberOf input "bcc") ++ stringList (memberOf input "recipient")

def recipientDomainContext (context : PolicyEvaluationContext) : Option String :=
  match nonEmpty context.recipientDomain with
  | some explicit => some explicit
  | none =>
      let recipients := inputRecipients context.input
      if recipients.isEmpty then none
      else
        match stringContext (memberOf context.metadata "internalDomain") with
        | none => some "external"
        | some internalDomain =>
            if recipients.all (fun recipient =>
                emailDomain recipient == some (Runtime.toLowerCase internalDomain)) then
              some "internal"
            else some "external"

/-! ### Conditions -/

mutual

/-- `expected` is the text or a list that has it, at any depth. -/
def matchesText (actual : String) : Json → Bool
  | .str expected => expected == actual
  | .arr items => anyMatchesText actual items
  | _ => false

def anyMatchesText (actual : String) : List Json → Bool
  | [] => false
  | item :: rest => matchesText actual item || anyMatchesText actual rest

end

def matchesOne (expected : Json) (actual : Option String) : Bool :=
  (nonEmpty actual).any (fun actual => matchesText actual expected)

def matchesBoolean (expected : Json) (actual : Option Bool) : Bool :=
  match expected with
  | .bool expected => actual == some expected
  | _ => false

def matchesAmount (expected : Json) (actual : Option JsonNumber) : Bool :=
  match actual, expected with
  | none, _ => false
  | some actual, .num expected => actual == expected
  | some actual, .obj members =>
      let bound (name : String) : Option JsonNumber := numberContext (member? members name)
      (bound "gt").all (fun limit => limit.less actual) &&
      (bound "gte").all (fun limit => !actual.less limit) &&
      (bound "lt").all (fun limit => actual.less limit) &&
      (bound "lte").all (fun limit => !limit.less actual) &&
      (bound "eq").all (fun limit => actual == limit) &&
      ["gt", "gte", "lt", "lte", "eq"].any (fun name => (bound name).isSome)
  | some _, _ => false

/-- The values a condition is compared with. -/
structure ConditionValues where
  approverGroup : Option String
  amount : Option JsonNumber
  currency : Option String
  customerVisible : Option Bool
  operationKind : Option String
  recipientDomain : Option String
  risk : Option String

def conditionValues (context : PolicyEvaluationContext) : ConditionValues :=
  { approverGroup :=
      context.approverGroup <|> stringContext (memberOf context.metadata "approverGroup")
    amount :=
      numberContext (context.amount.map .num <|> notNull (memberOf context.input "amount") <|>
        memberOf context.input "amountCents")
    currency := context.currency <|> stringContext (memberOf context.input "currency")
    customerVisible :=
      context.customerVisible <|> booleanContext (memberOf context.metadata "customerVisible")
    operationKind :=
      context.operationKind <|> stringContext (memberOf context.metadata "operationKind")
    recipientDomain := recipientDomainContext context
    risk := context.risk <|> stringContext (memberOf context.metadata "riskKind") }

/-- The value compared and whether it matched. -/
def evaluateConditionOn (key : String) (expected : Json) (toolName : String)
    (values : ConditionValues) : Option Json × Bool :=
  match key with
  | "actionId" => (some (.str toolName), matchesOne expected (some toolName))
  | "approverGroup" => (values.approverGroup.map .str, matchesOne expected values.approverGroup)
  | "amount" | "amountThreshold" => (values.amount.map .num, matchesAmount expected values.amount)
  | "currency" => (values.currency.map .str, matchesOne expected values.currency)
  | "customerVisible" =>
      (values.customerVisible.map .bool, matchesBoolean expected values.customerVisible)
  | "operation" | "operationKind" =>
      (values.operationKind.map .str, matchesOne expected values.operationKind)
  | "recipientDomain" =>
      (values.recipientDomain.map .str, matchesOne expected values.recipientDomain)
  | "risk" | "riskKind" => (values.risk.map .str, matchesOne expected values.risk)
  | _ => (none, false)

def evaluateCondition (key : String) (expected : Json) (toolName : String)
    (context : PolicyEvaluationContext) : Option Json × Bool :=
  evaluateConditionOn key expected toolName (conditionValues context)

def evaluateConditions (conditions : Option (List (String × Json))) (toolName : String)
    (context : PolicyEvaluationContext) : List PolicyTraceConditionEvaluation :=
  (conditions.getD []).map fun condition =>
    let evaluated := evaluateCondition condition.1 condition.2 toolName context
    { actual := evaluated.1, expected := condition.2, key := condition.1, matched := evaluated.2 }

/-- Every condition of the rule matches. -/
def conditionsMatch (conditions : Option (List (String × Json))) (toolName : String)
    (context : PolicyEvaluationContext) : Bool :=
  (evaluateConditions conditions toolName context).all PolicyTraceConditionEvaluation.matched

/-! ### Rules -/

/-- The names every object inherits from the object prototype. -/
def prototypeNames : List String :=
  ["constructor", "toString", "toLocaleString", "valueOf", "hasOwnProperty", "isPrototypeOf",
    "propertyIsEnumerable", "__proto__", "__defineGetter__", "__defineSetter__",
    "__lookupGetter__", "__lookupSetter__"]

/-- The rule of a tool's own name; an inherited name finds a member that is no rule. -/
def findExactRule (policy : PolicyFile) (toolName : String) : Option (Option PolicyRule) :=
  match policy.tools.get? toolName with
  | some rule => some (some rule)
  | none => if prototypeNames.contains toolName then some none else none

def toEvaluation (rule : Option PolicyRule) (matchedRule : String) : PolicyEvaluation :=
  let risk := (rule.bind PolicyRule.risk).getD "unknown"
  let reason := rule.bind PolicyRule.reason
  let evaluation (decision : PolicyDecision) (given : String) : PolicyEvaluation :=
    { decision := decision
      approval := rule.map PolicyRule.approval
      risk := risk
      reason := reason.getD given
      matchedRule := matchedRule
      rule := rule }
  match rule.map PolicyRule.approval with
  | some .never => evaluation .allow "Policy allowed this tool."
  | some .required => evaluation .requireApproval "Policy requires approval for this tool."
  | _ => evaluation .deny "Policy denied this tool."

def isWildcard (pattern : String) : Bool := TextScan.endsWith pattern ".*"

/-- The pattern is a wildcard whose namespace holds the tool name. -/
def wildcardCovers (pattern toolName : String) : Bool :=
  isWildcard pattern && TextScan.startsWith toolName (TextScan.dropLast pattern)

def wildcardEvaluation (pattern : String) (rule : PolicyRule) (toolName : String)
    (context : PolicyEvaluationContext) : PolicyTraceRuleEvaluation :=
  let matched := conditionsMatch rule.conditions toolName context
  { conditions := evaluateConditions rule.conditions toolName context
    conditionsMatched := matched
    «exists» := true
    matchType := .wildcard
    pattern := pattern
    prefixMatched := some true
    selected := matched }

/-- The wildcard rules tried in order, up to the first whose conditions match. -/
def findWildcardRule (toolName : String) (context : PolicyEvaluationContext) :
    List (String × PolicyRule) →
      List PolicyTraceRuleEvaluation × Option (String × PolicyRule)
  | [] => ([], none)
  | (pattern, rule) :: rest =>
      if !wildcardCovers pattern toolName then findWildcardRule toolName context rest
      else if conditionsMatch rule.conditions toolName context then
        ([wildcardEvaluation pattern rule toolName context], some (pattern, rule))
      else
        let later := findWildcardRule toolName context rest
        (wildcardEvaluation pattern rule toolName context :: later.1, later.2)

def exactEvaluation (rule : Option PolicyRule) (toolName : String)
    (context : PolicyEvaluationContext) : PolicyTraceRuleEvaluation :=
  let conditions := rule.bind PolicyRule.conditions
  let matched := conditionsMatch conditions toolName context
  { conditions := evaluateConditions conditions toolName context
    conditionsMatched := matched
    «exists» := true
    matchType := .exact
    pattern := toolName
    prefixMatched := none
    selected := matched }

def defaultEvaluation : PolicyTraceRuleEvaluation :=
  { conditions := []
    conditionsMatched := true
    «exists» := true
    matchType := .default
    pattern := "default"
    prefixMatched := none
    selected := true }

def traceOf (evaluation : PolicyEvaluation) (matchType : PolicyTraceMatchType)
    (fallbackPath : List PolicyTraceMatchType) (ruleEvaluations : List PolicyTraceRuleEvaluation) :
    PolicyEvaluationTrace :=
  { decision := evaluation.decision
    evaluation := evaluation
    fallbackPath := fallbackPath
    matchType := matchType
    matchedRule := evaluation.matchedRule
    ruleEvaluations := ruleEvaluations }

/-- The conditions of the exact rule, when there is one, match. -/
def exactApplies (policy : PolicyFile) (toolName : String) (context : PolicyEvaluationContext) :
    Bool :=
  (findExactRule policy toolName).any fun rule =>
    conditionsMatch (rule.bind PolicyRule.conditions) toolName context

def evaluatePolicyTrace (policy : PolicyFile) (toolName : String)
    (context : PolicyEvaluationContext) : PolicyEvaluationTrace :=
  let exactRule := findExactRule policy toolName
  let tried := (exactRule.map (fun rule => exactEvaluation rule toolName context)).toList
  if exactApplies policy toolName context then
    traceOf (toEvaluation (exactRule.bind id) toolName) .exact [.exact] tried
  else
    let exactPath : List PolicyTraceMatchType := if exactRule.isSome then [.exact] else []
    let wildcards := findWildcardRule toolName context policy.tools.entries
    match wildcards.2 with
    | some (pattern, rule) =>
        traceOf (toEvaluation (some rule) pattern) .wildcard (exactPath ++ [.wildcard])
          (tried ++ wildcards.1)
    | none =>
        traceOf (toEvaluation (some policy.default) "default") .default
          (exactPath ++ (if wildcards.1.isEmpty then [] else [.wildcard]) ++ [.default])
          (tried ++ wildcards.1 ++ [defaultEvaluation])

def evaluatePolicy (policy : PolicyFile) (toolName : String)
    (context : PolicyEvaluationContext) : PolicyEvaluation :=
  (evaluatePolicyTrace policy toolName context).evaluation

end

end ActionProxy
