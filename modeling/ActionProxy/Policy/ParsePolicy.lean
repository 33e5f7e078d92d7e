import ActionProxy.Policy.ProviderBoundary
import ActionProxy.Foundation.JsonParse

/-!
`parsePolicy`: the reading of a policy out of any value, field by field as the schema has
them. What is read is accepted, and a policy's own value is read back as the policy.
-/

namespace ActionProxy

open JsonText

/-! ### Readers -/

/-- A member that may be absent. -/
def readOptional {α : Type} (read : Json → Option α) (value : Option Json) : Option (Option α) :=
  match value with
  | none => some none
  | some value => (read value).map some

def readFlag : Json → Option Bool
  | .bool flag => some flag
  | _ => none

/-- `z.array(z.string().min(1))`. -/
def readNames : Json → Option (List String)
  | .arr items => items.mapM (fun item => nonEmpty (asString? item))
  | _ => none

/-- `z.number().int().min(low).max(high)`. -/
def readInteger (low high : Int) : Json → Option Int
  | .num number =>
      if 0 ≤ number.exponent ∧ low ≤ number.scaled 0 ∧ number.scaled 0 ≤ high then
        some (number.scaled 0)
      else none
  | _ => none

/-- `z.enum`. -/
def readEnum {α : Type} (values : List α) (text : α → String) (value : Json) : Option α :=
  values.find? (fun choice => equalsText (some value) (text choice))

def readApprovers (value : Json) : Option PolicyApprovers := do
  let members ← asRecord? (some value)
  let groups ← readOptional readNames (member? members "groups")
  let users ← readOptional readNames (member? members "users")
  let requiredApprovals ← readOptional (readInteger 1 10) (member? members "requiredApprovals")
  let separationOfDuties ← readOptional readFlag (member? members "separationOfDuties")
  return {
    groups := groups
    users := users
    requiredApprovals := requiredApprovals
    separationOfDuties := separationOfDuties }

/-- `z.record(z.unknown())`; the name `__proto__` is not kept. -/
def readConditions (value : Json) : Option (List (String × Json)) :=
  (asRecord? (some value)).map fun members =>
    (definedMembers members).filter (fun member => member.1 != "__proto__")

def readExternalExecution (value : Json) : Option PolicyExternalExecution := do
  let members ← asRecord? (some value)
  let grantTtlSeconds ← readOptional (readInteger 1 86400) (member? members "grantTtlSeconds")
  let requireGrantConsumption ←
    readOptional readFlag (member? members "requireGrantConsumption")
  return {
    grantTtlSeconds := grantTtlSeconds
    requireGrantConsumption := requireGrantConsumption }

/-- A strict object has members of these names only. -/
def strict (names : List String) (members : JsonObject) : Bool :=
  members.all (fun member => names.contains member.1)

theorem required_narrows : ApprovalMode.required ≠ .never := by decide

theorem deny_narrows : ApprovalMode.deny ≠ .never := by decide

def influenceGuard? (allowFrom : List ContentInfluenceSource) :
    ApprovalMode → Option PolicyInfluenceGuard
  | .required => some { allowFrom := allowFrom, otherwise := .required, narrows := required_narrows }
  | .deny => some { allowFrom := allowFrom, otherwise := .deny, narrows := deny_narrows }
  | .never => none

def readSources : Json → Option (List ContentInfluenceSource)
  | .arr items => items.mapM (readEnum sourceOrder influenceSourceText)
  | _ => none

def readInfluence (value : Json) : Option PolicyInfluenceGuard := do
  let members ← asRecord? (some value)
  guard (strict ["allowFrom", "otherwise"] members)
  let allowFrom ← (member? members "allowFrom").bind readSources
  guard (allowFrom ≠ [] ∧ allowFrom.length ≤ sourceOrder.length ∧ allowFrom.Nodup)
  let otherwise ← (member? members "otherwise").bind
    (readEnum [.required, .deny] ApprovalMode.text)
  influenceGuard? allowFrom otherwise

def readNotify (value : Json) : Option (Option (List String)) := do
  let members ← asRecord? (some value)
  readOptional readNames (member? members "channels")

def readRedaction (value : Json) : Option PolicyRedaction := do
  let members ← asRecord? (some value)
  let fields ← readOptional readNames (member? members "fields")
  let replacement ← readOptional asString? (member? members "replacement")
  return { fields := fields, replacement := replacement }

def readSourceId (value : Json) : Option String := (asString? value).filter isSourceId

def readResultSource (value : Json) : Option PolicyResultSource :=
  if equalsText (some value) "none" then some .none
  else do
    let members ← asRecord? (some value)
    guard (strict ["integrity", "sourceId"] members)
    let integrity ← (member? members "integrity").bind
      (readEnum contentIntegrityValues ContentIntegrity.text)
    let sourceId ← readOptional readSourceId (member? members "sourceId")
    return .classified integrity sourceId

/-- The refinement of a rule: what reads the open world says so of its results. -/
def classifiesOpenWorld (rule : PolicyRule) : Bool :=
  rule.risk != some "open_world_read" ||
    match rule.resultSource with
    | some (.classified .publicUntrusted _) => true
    | _ => false

def readRule (value : Json) : Option PolicyRule := do
  let members ← asRecord? (some value)
  let approval ← (member? members "approval").bind
    (readEnum [.never, .required, .deny] ApprovalMode.text)
  let approvers ← readOptional readApprovers (member? members "approvers")
  let conditions ← readOptional readConditions (member? members "conditions")
  let externalExecution ←
    readOptional readExternalExecution (member? members "externalExecution")
  let influence ← readOptional readInfluence (member? members "influence")
  let notifyChannels ← readOptional readNotify (member? members "notify")
  let redaction ← readOptional readRedaction (member? members "redaction")
  let resultSource ← readOptional readResultSource (member? members "resultSource")
  let risk ← readOptional asString? (member? members "risk")
  let reason ← readOptional asString? (member? members "reason")
  let rule : PolicyRule :=
    { approval := approval
      approvers := approvers
      conditions := conditions
      externalExecution := externalExecution
      influence := influence
      notifyChannels := notifyChannels
      redaction := redaction
      resultSource := resultSource
      risk := risk
      reason := reason }
  if classifiesOpenWorld rule then some rule else none

/-- A member of `z.record(ruleSchema)`: its value is a rule, whatever its name. -/
def readTool (member : String × Option Json) : Option (String × PolicyRule) :=
  (member.2.bind readRule).map fun rule => (member.1, rule)

def putTool (table : KeyedTable String PolicyRule) (tool : String × PolicyRule) :
    KeyedTable String PolicyRule :=
  if tool.1 = "__proto__" then table else table.set tool.1 tool.2

/-- The rules by name, in the order they are first named in. -/
def toolTable (tools : List (String × PolicyRule)) : KeyedTable String PolicyRule :=
  tools.foldl putTool KeyedTable.empty

def readTools (value : Json) : Option (KeyedTable String PolicyRule) := do
  let members ← asRecord? (some value)
  let tools ← members.mapM readTool
  return toolTable tools

def readVersion : Json → Option JsonNumber
  | .num number => some number
  | _ => none

/-- `policySchema.safeParse`; without tools there are none. -/
def parsePolicy (parsed : Option Json) : Option PolicyFile := do
  let members ← asRecord? parsed
  let version ← (member? members "version").bind readVersion
  let byDefault ← (member? members "default").bind readRule
  let tools ← readOptional readTools (member? members "tools")
  return { version := version, default := byDefault, tools := tools.getD KeyedTable.empty }

/-! ### What is read -/

section

variable {α β : Type}

theorem mem_of_mapM {read : α → Option β} {items : List α} {values : List β}
    (all : items.mapM read = some values) {value : β} (listed : value ∈ values) :
    ∃ item ∈ items, read item = some value := by
  induction items generalizing values with
  | nil =>
      simp only [List.mapM_nil, Option.pure_def, Option.some.injEq] at all
      subst all
      cases listed
  | cons item rest ih =>
      simp only [List.mapM_cons, Option.bind_eq_bind, Option.bind_eq_some_iff, Option.pure_def,
        Option.some.injEq] at all
      obtain ⟨first, readFirst, others, readOthers, rfl⟩ := all
      rcases List.mem_cons.mp listed with rfl | later
      · exact ⟨item, List.mem_cons_self, readFirst⟩
      · obtain ⟨source, inside, same⟩ := ih readOthers later
        exact ⟨source, List.mem_cons_of_mem _ inside, same⟩

theorem mapM_render {read : α → Option β} {render : β → α} {values : List β}
    (back : ∀ value ∈ values, read (render value) = some value) :
    (values.map render).mapM read = some values := by
  induction values with
  | nil => rfl
  | cons value rest ih =>
      have others := ih (fun later listed => back later (List.mem_cons_of_mem _ listed))
      rw [List.map_cons, List.mapM_cons, back value List.mem_cons_self, others]
      rfl

theorem readOptional_all {read : Json → Option α} {check : α → Bool} {value : Option Json}
    {given : Option α} (sound : ∀ source present, read source = some present → check present = true)
    (all : readOptional read value = some given) : given.all check = true := by
  cases given with
  | none => rfl
  | some present =>
      cases value with
      | none => cases all
      | some source =>
          obtain ⟨_, readSource, same⟩ := Option.map_eq_some_iff.mp all
          cases same
          exact sound source present readSource

theorem readOptional_render {read : Json → Option α} {render : α → Json} {check : α → Bool}
    {given : Option α} (back : ∀ present, check present = true → read (render present) = some present)
    (all : given.all check = true) : readOptional read (given.map render) = some given := by
  cases given with
  | none => rfl
  | some present =>
      rw [Option.map_some, readOptional, back present all]
      rfl

theorem readEnum_render {values : List α} {text : α → String}
    (injective : ∀ left ∈ values, ∀ right ∈ values, text left = text right → left = right)
    {value : α} (listed : value ∈ values) :
    readEnum values text (.str (text value)) = some value := by
  cases found : readEnum values text (.str (text value)) with
  | none =>
      have missed := List.find?_eq_none.mp found value listed
      simp at missed
  | some other =>
      have hit : equalsText (some (.str (text value))) (text other) = true :=
        List.find?_some (p := fun choice => equalsText (some (.str (text value))) (text choice))
          found
      rw [AnyProvider.equalsText_str, beq_iff_eq] at hit
      rw [injective other (List.mem_of_find?_eq_some found) value listed hit.symm]

end

theorem readNames_named {value : Json} {names : List String} (read : readNames value = some names) :
    names.all (· != "") = true := by
  cases value with
  | arr items =>
      rw [List.all_eq_true]
      intro name listed
      obtain ⟨item, _, given⟩ := mem_of_mapM read listed
      have kept := (Option.filter_eq_some_iff.mp given).2
      simpa using kept
  | _ => cases read

theorem readNames_texts {names : List String} (named : names.all (· != "") = true) :
    readNames (textsJson names) = some names := by
  rw [textsJson, readNames]
  apply mapM_render
  intro name listed
  have given := List.all_eq_true.mp named name listed
  rw [asString?, nonEmpty, Option.filter_some]
  simp at given
  simp [given]

theorem readInteger_bounded {low high : Int} {value : Json} {integer : Int}
    (read : readInteger low high value = some integer) : low ≤ integer ∧ integer ≤ high := by
  cases value with
  | num number =>
      rw [readInteger] at read
      split at read
      · rename_i bounds
        cases read
        exact bounds.2
      · cases read
  | _ => cases read

theorem readInteger_integer {low high integer : Int} (above : low ≤ integer)
    (below : integer ≤ high) : readInteger low high (integerJson integer) = some integer := by
  obtain ⟨whole, scaled⟩ := JsonNumber.ofInt_scaled integer
  rw [integerJson, readInteger, scaled, if_pos ⟨whole, above, below⟩]

theorem readNames_optional {names : Option (List String)}
    (named : names.all (fun names => names.all (· != "")) = true) :
    readOptional readNames (names.map textsJson) = some names :=
  readOptional_render (fun _ given => readNames_texts given) named

theorem readInteger_optional {low high : Int} {integer : Option Int}
    (bounded : integer.all (fun integer => decide (low ≤ integer ∧ integer ≤ high)) = true) :
    readOptional (readInteger low high) (integer.map integerJson) = some integer := by
  refine readOptional_render ?_ bounded
  intro present within
  have bounds := of_decide_eq_true within
  exact readInteger_integer bounds.1 bounds.2

theorem readInteger_all {low high : Int} {value : Option Json} {integer : Option Int}
    (read : readOptional (readInteger low high) value = some integer) :
    integer.all (fun integer => decide (low ≤ integer ∧ integer ≤ high)) = true :=
  readOptional_all (fun _ _ given => decide_eq_true (readInteger_bounded given)) read

theorem readFlag_optional (flag : Option Bool) :
    readOptional readFlag (flag.map .bool) = some flag := by
  cases flag <;> rfl

theorem readText_optional (text : Option String) :
    readOptional asString? (text.map .str) = some text := by
  cases text <;> rfl

/-! ### The parts of a rule -/

theorem readApprovers_accepted {value : Json} {approvers : PolicyApprovers}
    (read : readApprovers value = some approvers) : approvers.accepted = true := by
  simp only [readApprovers, Option.bind_eq_bind, Option.bind_eq_some_iff, Option.pure_def,
    Option.some.injEq] at read
  obtain ⟨members, _, groups, readGroups, users, readUsers, required, readRequired, separation, _,
    rfl⟩ := read
  have groupsNamed := readOptional_all (fun _ _ given => readNames_named given) readGroups
  have usersNamed := readOptional_all (fun _ _ given => readNames_named given) readUsers
  simp only [PolicyApprovers.accepted, groupsNamed, usersNamed, readInteger_all readRequired,
    Bool.and_self]

theorem readApprovers_json {approvers : PolicyApprovers} (accepted : approvers.accepted = true) :
    readApprovers approvers.json = some approvers := by
  simp only [PolicyApprovers.accepted, Bool.and_eq_true] at accepted
  obtain ⟨⟨groups, users⟩, counted⟩ := accepted
  simp only [readApprovers, PolicyApprovers.json, AnyProvider.asRecord?_obj, member?_cons,
    member?_nil, String.reduceEq, if_true, if_false, Option.or_none, readNames_optional groups,
    readNames_optional users, readInteger_optional counted, readFlag_optional,
    Option.bind_eq_bind, Option.bind_some, Option.pure_def]

def PolicyExternalExecution.accepted (execution : PolicyExternalExecution) : Bool :=
  execution.grantTtlSeconds.all (fun seconds => decide (1 ≤ seconds ∧ seconds ≤ 86400))

theorem readExternalExecution_accepted {value : Json} {execution : PolicyExternalExecution}
    (read : readExternalExecution value = some execution) : execution.accepted = true := by
  simp only [readExternalExecution, Option.bind_eq_bind, Option.bind_eq_some_iff, Option.pure_def,
    Option.some.injEq] at read
  obtain ⟨members, _, seconds, readSeconds, required, _, rfl⟩ := read
  exact readInteger_all readSeconds

theorem readExternalExecution_json {execution : PolicyExternalExecution}
    (accepted : execution.accepted = true) :
    readExternalExecution execution.json = some execution := by
  simp only [readExternalExecution, PolicyExternalExecution.json, AnyProvider.asRecord?_obj,
    member?_cons, member?_nil, String.reduceEq, if_true, if_false, Option.or_none,
    readInteger_optional accepted, readFlag_optional, Option.bind_eq_bind, Option.bind_some,
    Option.pure_def]

def PolicyInfluenceGuard.accepted (influence : PolicyInfluenceGuard) : Bool :=
  !influence.allowFrom.isEmpty && decide influence.allowFrom.Nodup

theorem readInfluence_accepted {value : Json} {influence : PolicyInfluenceGuard}
    (read : readInfluence value = some influence) : influence.accepted = true := by
  simp only [readInfluence, Option.bind_eq_bind, Option.bind_eq_some_iff, guard] at read
  obtain ⟨members, _, _, _, allowFrom, _, _, bounds, otherwise, _, made⟩ := read
  split at bounds
  · rename_i given
    obtain ⟨some', _, distinct⟩ := given
    have same : influence.allowFrom = allowFrom := by
      cases otherwise with
      | never => cases made
      | required =>
          cases made
          rfl
      | deny =>
          cases made
          rfl
    rw [PolicyInfluenceGuard.accepted, same, decide_eq_true distinct, Bool.and_true]
    cases allowFrom with
    | nil => exact absurd rfl some'
    | cons _ _ => rfl
  · cases bounds

theorem source_length_le {sources : List ContentInfluenceSource} (distinct : sources.Nodup) :
    sources.length ≤ sourceOrder.length :=
  (distinct.subperm (fun source _ => mem_sourceOrder source)).length_le

theorem readInfluence_json {influence : PolicyInfluenceGuard}
    (accepted : influence.accepted = true) : readInfluence influence.json = some influence := by
  obtain ⟨allowFrom, otherwise, narrows⟩ := influence
  simp only [PolicyInfluenceGuard.accepted, Bool.and_eq_true, decide_eq_true_eq] at accepted
  obtain ⟨given, distinct⟩ := accepted
  have sources : readSources (textsJson (allowFrom.map influenceSourceText)) = some allowFrom := by
    rw [textsJson, List.map_map, readSources]
    apply mapM_render
    intro source _
    exact readEnum_render
      (fun left _ right _ same => AnyProvider.influenceSourceText_injective same)
      (mem_sourceOrder source)
  have some' : allowFrom ≠ [] := by
    rintro rfl
    cases given
  have bounds : allowFrom ≠ [] ∧ allowFrom.length ≤ sourceOrder.length ∧ allowFrom.Nodup :=
    ⟨some', source_length_le distinct, distinct⟩
  have mode : readEnum [.required, .deny] ApprovalMode.text (.str otherwise.text) =
      some otherwise := by
    cases otherwise with
    | never => exact absurd rfl narrows
    | required => rfl
    | deny => rfl
  have named : strict ["allowFrom", "otherwise"] [
      ("allowFrom", some (textsJson (allowFrom.map influenceSourceText))),
      ("otherwise", some (.str otherwise.text))] = true := rfl
  simp only [readInfluence, PolicyInfluenceGuard.json, AnyProvider.asRecord?_obj, member?_cons,
    member?_nil, String.reduceEq, if_true, if_false, Option.some_or, sources, mode, named, guard,
    if_pos bounds, Option.bind_eq_bind, Option.bind_some, Option.pure_def]
  cases otherwise with
  | never => exact absurd rfl narrows
  | required => rfl
  | deny => rfl

theorem readNotify_named {value : Json} {channels : Option (List String)}
    (read : readNotify value = some channels) :
    channels.all (fun names => names.all (· != "")) = true := by
  simp only [readNotify, Option.bind_eq_bind, Option.bind_eq_some_iff] at read
  obtain ⟨members, _, readChannels⟩ := read
  exact readOptional_all (fun _ _ given => readNames_named given) readChannels

theorem readNotify_json {channels : Option (List String)}
    (named : channels.all (fun names => names.all (· != "")) = true) :
    readNotify (.obj [("channels", channels.map textsJson)]) = some channels := by
  simp only [readNotify, AnyProvider.asRecord?_obj, member?_cons, member?_nil, if_true,
    Option.or_none, readNames_optional named, Option.bind_eq_bind, Option.bind_some]

theorem readRedaction_named {value : Json} {redaction : PolicyRedaction}
    (read : readRedaction value = some redaction) :
    redaction.fields.all (fun fields => fields.all (· != "")) = true := by
  simp only [readRedaction, Option.bind_eq_bind, Option.bind_eq_some_iff, Option.pure_def,
    Option.some.injEq] at read
  obtain ⟨members, _, fields, readFields, replacement, _, rfl⟩ := read
  exact readOptional_all (fun _ _ given => readNames_named given) readFields

theorem readRedaction_json {redaction : PolicyRedaction}
    (named : redaction.fields.all (fun fields => fields.all (· != "")) = true) :
    readRedaction redaction.json = some redaction := by
  simp only [readRedaction, PolicyRedaction.json, AnyProvider.asRecord?_obj, member?_cons,
    member?_nil, String.reduceEq, if_true, if_false, Option.or_none, readNames_optional named,
    readText_optional, Option.bind_eq_bind, Option.bind_some, Option.pure_def]

theorem readResultSource_accepted {value : Json} {source : PolicyResultSource}
    (read : readResultSource value = some source) : source.accepted = true := by
  unfold readResultSource at read
  split at read
  · cases read
    rfl
  · simp only [Option.bind_eq_bind, Option.bind_eq_some_iff, Option.pure_def,
      Option.some.injEq] at read
    obtain ⟨members, _, _, _, integrity, _, sourceId, readId, rfl⟩ := read
    exact readOptional_all (fun _ _ given => (Option.filter_eq_some_iff.mp given).2) readId

theorem readResultSource_json {source : PolicyResultSource} (accepted : source.accepted = true) :
    readResultSource source.json = some source := by
  cases source with
  | none => rfl
  | classified integrity sourceId =>
      have kind : readEnum contentIntegrityValues ContentIntegrity.text (.str integrity.text) =
          some integrity := by
        cases integrity <;> rfl
      have id : readOptional readSourceId (sourceId.map .str) = some sourceId :=
        readOptional_render (fun _ given => Option.filter_eq_some_iff.mpr ⟨rfl, given⟩) accepted
      have named : strict ["integrity", "sourceId"] [("integrity", some (.str integrity.text)),
          ("sourceId", sourceId.map .str)] = true := rfl
      have other : equalsText (some (PolicyResultSource.classified integrity sourceId).json)
          "none" = false := rfl
      rw [readResultSource, other]
      simp only [PolicyResultSource.json, AnyProvider.asRecord?_obj, member?_cons, member?_nil,
        String.reduceEq, if_true, if_false, Option.or_none, Option.some_or, kind, id, named, guard,
        Option.bind_eq_bind, Option.bind_some, Option.pure_def, Bool.false_eq_true]

theorem readConditions_named {value : Json} {conditions : List (String × Json)}
    (read : readConditions value = some conditions) :
    conditions.all (fun condition => condition.1 != "__proto__") = true := by
  obtain ⟨members, _, rfl⟩ := Option.map_eq_some_iff.mp read
  rw [List.all_eq_true]
  intro condition listed
  exact (List.mem_filter.mp listed).2

theorem readConditions_json {conditions : List (String × Json)}
    (named : conditions.all (fun condition => condition.1 != "__proto__") = true) :
    readConditions (conditionsJson conditions) = some conditions := by
  rw [readConditions, conditionsJson, AnyProvider.asRecord?_obj, Option.map_some,
    definedMembers_some_map, List.filter_eq_self.mpr (List.all_eq_true.mp named)]

/-! ### Rules -/

/-- What the schema says of a rule that its type does not. -/
def PolicyRule.readable (rule : PolicyRule) : Bool :=
  rule.approvers.all PolicyApprovers.accepted &&
  rule.conditions.all (fun conditions =>
    conditions.all (fun condition => condition.1 != "__proto__")) &&
  rule.externalExecution.all PolicyExternalExecution.accepted &&
  rule.influence.all PolicyInfluenceGuard.accepted &&
  rule.notifyChannels.all (fun channels => channels.all (fun names => names.all (· != ""))) &&
  rule.redaction.all (fun redaction => redaction.fields.all (fun fields => fields.all (· != ""))) &&
  rule.resultSource.all PolicyResultSource.accepted &&
  classifiesOpenWorld rule

theorem readRule_parts {value : Json} {rule : PolicyRule} (read : readRule value = some rule) :
    ∃ members, value = .obj members ∧
      readOptional readConditions (member? members "conditions") = some rule.conditions ∧
      rule.readable = true := by
  simp only [readRule, Option.bind_eq_bind, Option.bind_eq_some_iff] at read
  obtain ⟨members, record, approval, _, approvers, readApprovers', conditions, readConditions',
    execution, readExecution, influence, readInfluence', channels, readChannels, redaction,
    readRedaction', source, readSource, risk, _, reason, _, checked⟩ := read
  split at checked
  · rename_i classified
    cases checked
    refine ⟨members, Option.some_inj.mp (AnyProvider.asRecord?_eq_some record), readConditions', ?_⟩
    have approversRead := readOptional_all (fun _ _ => readApprovers_accepted) readApprovers'
    have conditionsRead := readOptional_all (fun _ _ => readConditions_named) readConditions'
    have executionRead := readOptional_all (fun _ _ => readExternalExecution_accepted) readExecution
    have influenceRead := readOptional_all (fun _ _ => readInfluence_accepted) readInfluence'
    have channelsRead := readOptional_all (fun _ _ => readNotify_named) readChannels
    have redactionRead := readOptional_all (fun _ _ => readRedaction_named) readRedaction'
    have sourceRead := readOptional_all (fun _ _ => readResultSource_accepted) readSource
    simp only [PolicyRule.readable, approversRead, conditionsRead, executionRead, influenceRead,
      channelsRead, redactionRead, sourceRead, classified, Bool.and_self]
  · cases checked

theorem readRule_json {rule : PolicyRule} (readable : rule.readable = true) :
    readRule rule.json = some rule := by
  have classified : classifiesOpenWorld rule = true := by
    simp only [PolicyRule.readable, Bool.and_eq_true] at readable
    exact readable.2
  simp only [PolicyRule.readable, Bool.and_eq_true] at readable
  obtain ⟨⟨⟨⟨⟨⟨⟨approvers, conditions⟩, execution⟩, influence⟩, channels⟩, redaction⟩, source⟩, _⟩ :=
    readable
  have approval : readEnum [.never, .required, .deny] ApprovalMode.text (.str rule.approval.text) =
      some rule.approval := by
    cases rule.approval <;> rfl
  simp only [readRule, PolicyRule.json, PolicyRule.members, AnyProvider.asRecord?_obj,
    member?_cons, member?_nil, String.reduceEq, if_true, if_false, Option.or_none, Option.some_or,
    Option.bind_eq_bind, Option.bind_some, approval,
    readOptional_render (fun _ => readApprovers_json) approvers,
    readOptional_render (fun _ => readConditions_json) conditions,
    readOptional_render (fun _ => readExternalExecution_json) execution,
    readOptional_render (fun _ => readInfluence_json) influence,
    readOptional_render (fun _ => readNotify_json) channels,
    readOptional_render (fun _ => readRedaction_json) redaction,
    readOptional_render (fun _ => readResultSource_json) source, readText_optional, classified]

/-! ### Policies -/

private theorem get?_toolTable (tools : List (String × PolicyRule))
    (table : KeyedTable String PolicyRule) {key : String} {rule : PolicyRule}
    (found : (tools.foldl putTool table).get? key = some rule) :
    table.get? key = some rule ∨ ((key, rule) ∈ tools ∧ key ≠ "__proto__") := by
  induction tools generalizing table with
  | nil => exact Or.inl found
  | cons tool rest ih =>
      rcases ih _ found with before | ⟨later, named⟩
      · rw [putTool] at before
        split at before
        · exact Or.inl before
        · rename_i named
          rw [KeyedTable.get?_set] at before
          split at before
          · rename_i same
            cases before
            subst same
            exact Or.inr ⟨List.mem_cons_self, named⟩
          · exact Or.inl before
      · exact Or.inr ⟨List.mem_cons_of_mem _ later, named⟩

theorem mem_toolTable {tools : List (String × PolicyRule)} {entry : String × PolicyRule}
    (listed : entry ∈ (toolTable tools).entries) : entry ∈ tools ∧ entry.1 ≠ "__proto__" := by
  have found := ((toolTable tools).get?_eq_some_iff entry.1 entry.2).mpr listed
  rcases get?_toolTable tools KeyedTable.empty found with absent | present
  · cases absent
  · exact present

private theorem toolTable_entries (tools : List (String × PolicyRule))
    (table : KeyedTable String PolicyRule)
    (distinct : ((table.entries ++ tools).map Prod.fst).Nodup)
    (named : ∀ tool ∈ tools, tool.1 ≠ "__proto__") :
    (tools.foldl putTool table).entries = table.entries ++ tools := by
  induction tools generalizing table with
  | nil => simp
  | cons tool rest ih =>
      have fresh : table.get? tool.1 = none := by
        rw [KeyedTable.get?_eq_none_iff]
        intro listed
        rw [List.map_append, List.nodup_append] at distinct
        exact distinct.2.2 tool.1 listed tool.1 (by simp) rfl
      have added := table.entries_set_new fresh tool.2
      rw [List.foldl_cons, putTool, if_neg (named tool List.mem_cons_self), ih, added,
        List.append_assoc]
      · rfl
      · rw [added, List.append_assoc]
        exact distinct
      · intro later listed
        exact named later (List.mem_cons_of_mem _ listed)

theorem toolTable_of_entries {table : KeyedTable String PolicyRule}
    (named : ∀ entry ∈ table.entries, entry.1 ≠ "__proto__") :
    toolTable table.entries = table := by
  have entries := toolTable_entries table.entries KeyedTable.empty
    (by simpa [KeyedTable.empty] using table.distinct) named
  obtain ⟨listed, distinct⟩ := table
  unfold toolTable
  cases built : listed.foldl putTool KeyedTable.empty with
  | mk other _ =>
      simp only at entries
      rw [built] at entries
      simp only [KeyedTable.empty, List.nil_append] at entries
      subst entries
      rfl

def PolicyFile.readable (policy : PolicyFile) : Bool :=
  policy.default.readable &&
  policy.tools.entries.all (fun entry => entry.1 != "__proto__" && entry.2.readable)

theorem readTools_readable {value : Json} {tools : KeyedTable String PolicyRule}
    (read : readTools value = some tools) :
    tools.entries.all (fun entry => entry.1 != "__proto__" && entry.2.readable) = true := by
  simp only [readTools, Option.bind_eq_bind, Option.bind_eq_some_iff, Option.pure_def,
    Option.some.injEq] at read
  obtain ⟨members, _, listed, readListed, rfl⟩ := read
  rw [List.all_eq_true]
  intro entry inside
  obtain ⟨source, named⟩ := mem_toolTable inside
  obtain ⟨member, _, readMember⟩ := mem_of_mapM readListed source
  obtain ⟨rule, given, rfl⟩ := Option.map_eq_some_iff.mp readMember
  obtain ⟨item, _, readItem⟩ := Option.bind_eq_some_iff.mp given
  obtain ⟨_, _, _, readable⟩ := readRule_parts readItem
  simp [named, readable]

theorem readTools_json {policy : PolicyFile} (readable : policy.readable = true) :
    readTools (.obj policy.toolMembers) = some policy.tools := by
  simp only [PolicyFile.readable, Bool.and_eq_true, List.all_eq_true, bne_iff_ne] at readable
  have listed : policy.toolMembers.mapM readTool = some policy.tools.entries := by
    rw [PolicyFile.toolMembers]
    apply mapM_render
    intro entry inside
    rw [readTool, Option.bind_some, readRule_json (readable.2 entry inside).2]
    rfl
  rw [readTools, AnyProvider.asRecord?_obj, Option.bind_eq_bind, Option.bind_some, listed,
    Option.bind_eq_bind, Option.bind_some,
    toolTable_of_entries (fun entry inside => (readable.2 entry inside).1)]
  rfl

theorem parsePolicy_readable {parsed : Option Json} {policy : PolicyFile}
    (read : parsePolicy parsed = some policy) : policy.readable = true := by
  simp only [parsePolicy, Option.bind_eq_bind, Option.bind_eq_some_iff, Option.pure_def,
    Option.some.injEq] at read
  obtain ⟨members, _, version, _, byDefault, readDefault, tools, readTools', rfl⟩ := read
  obtain ⟨source, _, given⟩ := readDefault
  obtain ⟨_, _, _, defaultReadable⟩ := readRule_parts given
  have toolsReadable := readOptional_all (fun _ _ => readTools_readable) readTools'
  rw [PolicyFile.readable, Bool.and_eq_true]
  refine ⟨defaultReadable, ?_⟩
  cases tools with
  | none => rfl
  | some tools => exact toolsReadable

theorem parsePolicy_json {policy : PolicyFile} (readable : policy.readable = true) :
    parsePolicy (some policy.json) = some policy := by
  have tools := readTools_json readable
  simp only [PolicyFile.readable, Bool.and_eq_true] at readable
  have byDefault := readRule_json readable.1
  simp only [parsePolicy, PolicyFile.json, PolicyFile.members, AnyProvider.asRecord?_obj,
    member?_cons, member?_nil, String.reduceEq, if_true, if_false, Option.some_or, readVersion,
    byDefault, readOptional, tools, Option.map_some, Option.bind_eq_bind, Option.bind_some,
    Option.pure_def, Option.getD_some]

theorem parsePolicy_idempotent {parsed : Option Json} {policy : PolicyFile}
    (read : parsePolicy parsed = some policy) : parsePolicy (some policy.json) = some policy :=
  parsePolicy_json (parsePolicy_readable read)

/-! ### What is accepted -/

theorem distinctMembers_of_distinctKeys {value : Json} (distinct : distinctKeys value = true) :
    distinctMembers value = true := by
  cases value with
  | obj members => exact (everyObject_obj.mp distinct).1
  | _ => rfl

theorem readConditions_accepted {value : Json} {conditions : List (String × Json)}
    (distinct : distinctKeys value = true) (read : readConditions value = some conditions) :
    conditionsAccepted conditions = true := by
  obtain ⟨members, record, rfl⟩ := Option.map_eq_some_iff.mp read
  obtain rfl := Option.some_inj.mp (AnyProvider.asRecord?_eq_some record)
  obtain ⟨keys, values⟩ := everyObject_obj.mp distinct
  rw [conditionsAccepted, Bool.and_eq_true, List.all_eq_true]
  constructor
  · have defined := (definedMembers_keys members).nodup (of_decide_eq_true keys)
    exact decide_eq_true ((List.filter_sublist.map Prod.fst).nodup defined)
  · intro condition listed
    exact distinctMembers_of_distinctKeys (values condition (List.mem_filter.mp listed).1)

theorem distinctKeys_member {members : JsonObject} {key : String} {value : Json}
    (distinct : distinctKeys (.obj members) = true) (found : member? members key = some value) :
    distinctKeys value = true :=
  (everyObject_obj.mp distinct).2 (key, value) (mem_of_lookup found)

theorem readRule_accepted {value : Json} {rule : PolicyRule} (distinct : distinctKeys value = true)
    (read : readRule value = some rule) : rule.accepted = true := by
  obtain ⟨members, rfl, conditions, readable⟩ := readRule_parts read
  have conditionsTaken : rule.conditions.all conditionsAccepted = true := by
    cases given : rule.conditions with
    | none => rfl
    | some stated =>
        rw [given] at conditions
        cases found : member? members "conditions" with
        | none =>
            rw [found] at conditions
            cases conditions
        | some source =>
            rw [found] at conditions
            obtain ⟨_, readSource, same⟩ := Option.map_eq_some_iff.mp conditions
            cases same
            exact readConditions_accepted (distinctKeys_member distinct found) readSource
  simp only [PolicyRule.readable, Bool.and_eq_true] at readable
  obtain ⟨⟨⟨⟨⟨⟨⟨approvers, _⟩, execution⟩, influence⟩, channels⟩, redaction⟩, source⟩,
    classified⟩ := readable
  have executionBounded : rule.externalExecution.all (fun execution =>
      execution.grantTtlSeconds.all (fun seconds => decide (1 ≤ seconds ∧ seconds ≤ 86400))) = true :=
    execution
  have influenceGiven : rule.influence.all (fun influence =>
      !influence.allowFrom.isEmpty && decide influence.allowFrom.Nodup) = true := influence
  simp only [PolicyRule.accepted, approvers, conditionsTaken, executionBounded, influenceGiven,
    channels, redaction, source, Bool.true_and]
  exact classified

theorem readTools_accepted {value : Json} {tools : KeyedTable String PolicyRule}
    (distinct : distinctKeys value = true) (read : readTools value = some tools) :
    tools.entries.all (fun entry => entry.1 != "__proto__" && entry.2.accepted) = true := by
  simp only [readTools, Option.bind_eq_bind, Option.bind_eq_some_iff, Option.pure_def,
    Option.some.injEq] at read
  obtain ⟨members, record, listed, readListed, rfl⟩ := read
  obtain rfl := Option.some_inj.mp (AnyProvider.asRecord?_eq_some record)
  rw [List.all_eq_true]
  intro entry inside
  obtain ⟨source, named⟩ := mem_toolTable inside
  obtain ⟨member, present, readMember⟩ := mem_of_mapM readListed source
  obtain ⟨rule, given, rfl⟩ := Option.map_eq_some_iff.mp readMember
  obtain ⟨item, stated, readItem⟩ := Option.bind_eq_some_iff.mp given
  have defined : (member.1, item) ∈ definedMembers members :=
    List.mem_filterMap.mpr ⟨member, present, by rw [stated]; rfl⟩
  have accepted := readRule_accepted ((everyObject_obj.mp distinct).2 _ defined) readItem
  simp [named, accepted]

/-- What `parsePolicy` returns is accepted, as no object of the language names a member
twice. -/
theorem parsePolicy_accepted {parsed : Json} {policy : PolicyFile}
    (distinct : distinctKeys parsed = true) (read : parsePolicy (some parsed) = some policy) :
    policy.accepted = true := by
  simp only [parsePolicy, Option.bind_eq_bind, Option.bind_eq_some_iff, Option.pure_def,
    Option.some.injEq] at read
  obtain ⟨members, record, version, _, byDefault, ⟨source, found, given⟩, tools, readTools', rfl⟩ :=
    read
  obtain rfl := Option.some_inj.mp (AnyProvider.asRecord?_eq_some record)
  have defaultAccepted := readRule_accepted (distinctKeys_member distinct found) given
  rw [PolicyFile.accepted, Bool.and_eq_true]
  refine ⟨defaultAccepted, ?_⟩
  cases listed : member? members "tools" with
  | none =>
      rw [listed] at readTools'
      cases readTools'
      rfl
  | some value =>
      rw [listed] at readTools'
      obtain ⟨_, read, same⟩ := Option.map_eq_some_iff.mp readTools'
      cases same
      exact readTools_accepted (distinctKeys_member distinct listed) read

/-- Approval for every tool, and none for `ping`. -/
private def pingPolicy : Json :=
  .obj
    [("version", some (.num (JsonNumber.ofInt 1))),
      ("default", some (.obj [("approval", some (.str "required"))])),
      ("tools", some (.obj [("ping", some (.obj [("approval", some (.str "never"))]))]))]

theorem parsePolicy_accepted_ping :
    ∃ policy, parsePolicy (some pingPolicy) = some policy ∧ policy.accepted = true := by
  obtain ⟨policy, read⟩ : ∃ policy, parsePolicy (some pingPolicy) = some policy :=
    Option.isSome_iff_exists.mp (by decide)
  exact ⟨policy, read, parsePolicy_accepted (by decide) read⟩

end ActionProxy
