import ActionProxy.Contracts.CanonicalJson
import ActionProxy.Services.ApprovalPublication

/-!
The catalog of the MCP route: the tools a deployment adds to the demo tools, what the server
advertises of each, and the revision that stands for the catalog in a signed session.
-/

namespace ActionProxy

open JsonText

/-! ### Tools -/

structure McpToolAnnotations where
  destructiveHint : Bool
  idempotentHint : Bool
  openWorldHint : Bool
  readOnlyHint : Bool
  deriving DecidableEq

def McpToolAnnotations.json (annotations : McpToolAnnotations) : Json :=
  .obj
    [("destructiveHint", some (.bool annotations.destructiveHint)),
      ("idempotentHint", some (.bool annotations.idempotentHint)),
      ("openWorldHint", some (.bool annotations.openWorldHint)),
      ("readOnlyHint", some (.bool annotations.readOnlyHint))]

/-- A tool without its handler. Its schema is a JSON object: no member is undefined, and no
object has a key twice. -/
structure McpAdditionalTool where
  annotations : McpToolAnnotations
  description : String
  inputSchema : JsonObject
  name : String
  requiredScope : String
  title : String
  defined : complete (.obj inputSchema) = true
  distinct : distinctKeys (.obj inputSchema) = true

def isMcpToolNameChar (char : Char) : Bool :=
  ('a' ≤ char && char ≤ 'z') || ('0' ≤ char && char ≤ '9') ||
    char == '.' || char == '_' || char == '-'

/-- `/^[a-z0-9][a-z0-9._-]{0,255}$/u` -/
def isMcpToolName (name : String) : Bool :=
  match name.toList with
  | [] => false
  | first :: rest =>
      (('a' ≤ first && first ≤ 'z') || ('0' ≤ first && first ≤ '9')) &&
        rest.length ≤ 255 && rest.all isMcpToolNameChar

/-! ### Descriptors -/

def toolSecuritySchemes (oauthPresented : Bool) (scope : String) : Json :=
  if oauthPresented then
    .arr [.obj [("scopes", some (.arr [.str scope])), ("type", some (.str "oauth2"))]]
  else .arr [.obj [("type", some (.str "noauth"))]]

def descriptorMeta (securitySchemes : Json) (catalogRevision : Option String) : Json :=
  .obj
    (("actionproxy/catalogRevision", (nonEmpty catalogRevision).map .str) ::
      [("securitySchemes", some securitySchemes)])

/-- What the server advertises of a tool. -/
def additionalToolDescriptor (tool : McpAdditionalTool) (oauthPresented : Bool)
    (catalogRevision : Option String) : JsonObject :=
  let securitySchemes := toolSecuritySchemes oauthPresented tool.requiredScope
  [("_meta", some (descriptorMeta securitySchemes catalogRevision)),
    ("annotations", some tool.annotations.json),
    ("description", some (.str tool.description)),
    ("inputSchema", some (.obj tool.inputSchema)),
    ("name", some (.str tool.name)),
    ("securitySchemes", some securitySchemes),
    ("title", some (.str tool.title))]

/-- A text argument of a demo tool. -/
def textArgument (maxLength : Int) : Json :=
  .obj
    [("maxLength", some (.num (.ofInt maxLength))), ("minLength", some (.num (.ofInt 1))),
      ("type", some (.str "string"))]

/-- The schema of an object with these required arguments. -/
def argumentSchema (arguments : JsonObject) (required : List String) : JsonObject :=
  [("additionalProperties", some (.bool false)), ("properties", some (.obj arguments)),
    ("required", some (.arr (required.map .str))), ("type", some (.str "object"))]

def docsSearchSchema : JsonObject := argumentSchema [("query", some (textArgument 16384))] ["query"]

def sendEmailSchema : JsonObject :=
  argumentSchema
    [("body", some (textArgument (128 * 1024))), ("subject", some (textArgument 4096)),
      ("to", some (textArgument 4096))]
    ["to", "subject", "body"]

def deleteCustomerSchema : JsonObject :=
  argumentSchema
    [("customerId", some (textArgument 4096)), ("reason", some (textArgument 16384))]
    ["customerId", "reason"]

def toolCallIdSchema : JsonObject :=
  argumentSchema [("toolCallId", some (textArgument 512))] ["toolCallId"]

private theorem argumentSchemas_wellFormed :
    (complete (.obj docsSearchSchema) = true ∧ distinctKeys (.obj docsSearchSchema) = true) ∧
      (complete (.obj sendEmailSchema) = true ∧ distinctKeys (.obj sendEmailSchema) = true) ∧
      (complete (.obj deleteCustomerSchema) = true ∧
        distinctKeys (.obj deleteCustomerSchema) = true) ∧
      complete (.obj toolCallIdSchema) = true ∧ distinctKeys (.obj toolCallIdSchema) = true := by
  decide +kernel

theorem docsSearchSchema_defined : complete (.obj docsSearchSchema) = true :=
  argumentSchemas_wellFormed.1.1

theorem docsSearchSchema_distinct : distinctKeys (.obj docsSearchSchema) = true :=
  argumentSchemas_wellFormed.1.2

theorem sendEmailSchema_defined : complete (.obj sendEmailSchema) = true :=
  argumentSchemas_wellFormed.2.1.1

theorem sendEmailSchema_distinct : distinctKeys (.obj sendEmailSchema) = true :=
  argumentSchemas_wellFormed.2.1.2

theorem deleteCustomerSchema_defined : complete (.obj deleteCustomerSchema) = true :=
  argumentSchemas_wellFormed.2.2.1.1

theorem deleteCustomerSchema_distinct : distinctKeys (.obj deleteCustomerSchema) = true :=
  argumentSchemas_wellFormed.2.2.1.2

theorem toolCallIdSchema_defined : complete (.obj toolCallIdSchema) = true :=
  argumentSchemas_wellFormed.2.2.2.1

theorem toolCallIdSchema_distinct : distinctKeys (.obj toolCallIdSchema) = true :=
  argumentSchemas_wellFormed.2.2.2.2

def readOnlyAnnotations : McpToolAnnotations :=
  { destructiveHint := false
    idempotentHint := true
    openWorldHint := false
    readOnlyHint := true }

def builtinTools : List McpAdditionalTool :=
  [{ annotations := readOnlyAnnotations
     description := "Search the local demo documentation through ActionProxy governance."
     inputSchema := docsSearchSchema
     name := "docs.search"
     requiredScope := "tool_call:submit"
     title := "Search Docs"
     defined := docsSearchSchema_defined
     distinct := docsSearchSchema_distinct },
    { annotations :=
        { destructiveHint := true
          idempotentHint := false
          openWorldHint := true
          readOnlyHint := false }
      description := "Submit a demo email action to ActionProxy for policy and human approval. " ++
        "Community mock execution sends no real email."
      inputSchema := sendEmailSchema
      name := "gmail.send_email"
      requiredScope := "tool_call:submit"
      title := "Send Email"
      defined := sendEmailSchema_defined
      distinct := sendEmailSchema_distinct },
    { annotations :=
        { destructiveHint := true
          idempotentHint := false
          openWorldHint := false
          readOnlyHint := false }
      description := "Demonstrate a destructive action that ActionProxy policy denies."
      inputSchema := deleteCustomerSchema
      name := "dangerous.delete_customer"
      requiredScope := "tool_call:submit"
      title := "Delete Customer Demo"
      defined := deleteCustomerSchema_defined
      distinct := deleteCustomerSchema_distinct },
    { annotations := readOnlyAnnotations
      description := "Read status for an action created by this authenticated MCP adapter."
      inputSchema := toolCallIdSchema
      name := "actionproxy.get_action_status"
      requiredScope := "tool_call:read"
      title := "Get Action Status"
      defined := toolCallIdSchema_defined
      distinct := toolCallIdSchema_distinct },
    { annotations := readOnlyAnnotations
      description := "Reload an approved action after ActionProxy has completed authoritative " ++
        "finalization."
      inputSchema := toolCallIdSchema
      name := "actionproxy.resume_approved_action"
      requiredScope := "tool_call:read"
      title := "Resume Approved Action"
      defined := toolCallIdSchema_defined
      distinct := toolCallIdSchema_distinct }]

def toolDescriptors (includeBuiltinTools : Bool) (additionalTools : List McpAdditionalTool)
    (oauthPresented : Bool) (catalogRevision : Option String) : List JsonObject :=
  ((if includeBuiltinTools then builtinTools else []) ++ additionalTools).map
    (fun tool => additionalToolDescriptor tool oauthPresented catalogRevision)

/-- `String(descriptor.name)`. -/
def descriptorName (descriptor : JsonObject) : String :=
  ((member? descriptor "name").bind asString?).getD "undefined"

/-- The tools in the order they are registered, or the message of the error. -/
def registerTools (reserved : List String) :
    List McpAdditionalTool → List McpAdditionalTool → Except String (List McpAdditionalTool)
  | registrations, [] => .ok registrations
  | registrations, tool :: rest =>
      if !isMcpToolName tool.name then .error s!"Invalid additional MCP tool name: {tool.name}"
      else if tool.name ∈ reserved ∨ tool.name ∈ registrations.map McpAdditionalTool.name then
        .error s!"Duplicate MCP tool registration: {tool.name}"
      else registerTools reserved (registrations ++ [tool]) rest

def validateAdditionalTools (tools : List McpAdditionalTool) (includeBuiltinTools : Bool) :
    Except String (List McpAdditionalTool) :=
  registerTools
    (if includeBuiltinTools then (toolDescriptors true [] true none).map descriptorName else [])
    [] tools

/-! ### The revision -/

def textItems : Json → List String
  | .arr items => items.filterMap asString?
  | _ => []

/-- The scopes of the security schemes of a descriptor, sorted. -/
def descriptorScopes (descriptor : JsonObject) : List String :=
  let securitySchemes := match member? descriptor "securitySchemes" with
    | some (.arr schemes) => schemes
    | _ => []
  (securitySchemes.flatMap (fun scheme =>
    ((field? scheme "scopes").map textItems).getD [])).insertionSort
      (fun left right => codeUnitsLe left right = true)

/-- What the revision covers of a descriptor. -/
def revisionEntry (descriptor : JsonObject) : JsonObject :=
  [("annotations", member? descriptor "annotations"),
    ("description", member? descriptor "description"),
    ("inputSchema", member? descriptor "inputSchema"),
    ("name", member? descriptor "name"),
    ("scopes", some (.arr ((descriptorScopes descriptor).map .str)))]

def sortedEntries (descriptors : List JsonObject) : List JsonObject :=
  (descriptors.map revisionEntry).insertionSort
    (fun left right => codeUnitsLe (descriptorName left) (descriptorName right) = true)

def mcpCatalogRevision [Runtime] (includeBuiltinTools : Bool)
    (additionalTools : List McpAdditionalTool) : String :=
  "mcp_catalog_" ++ hashCanonicalJson (.obj
    [("tools", some (.arr
        ((sortedEntries (toolDescriptors includeBuiltinTools additionalTools true none)).map
          .obj))),
      ("version", some (.str "actionproxy.mcp-catalog.v1"))])

/-- A catalog that the route accepts. -/
structure McpCatalog where
  includeBuiltinTools : Bool
  additionalTools : List McpAdditionalTool
  accepted : validateAdditionalTools additionalTools includeBuiltinTools = .ok additionalTools

namespace McpCatalog

def tools (catalog : McpCatalog) : List McpAdditionalTool :=
  (if catalog.includeBuiltinTools then builtinTools else []) ++ catalog.additionalTools

def revision [Runtime] (catalog : McpCatalog) : String :=
  mcpCatalogRevision catalog.includeBuiltinTools catalog.additionalTools

/-- What is advertised, under one authentication presentation and without the revision. -/
def advertised (catalog : McpCatalog) : List JsonObject :=
  toolDescriptors catalog.includeBuiltinTools catalog.additionalTools true none

end McpCatalog

/-- The same descriptors up to their order. -/
def SameDescriptors (left right : List JsonObject) : Prop :=
  ∃ arranged, List.Forall₂ (fun first second => Same (.obj first) (.obj second)) left arranged ∧
    arranged.Perm right

def withoutTitle (descriptor : JsonObject) : JsonObject :=
  descriptor.filter (fun member => member.1 != "title")

/-- Catalogs of the same tools, some of them under other titles. -/
def DifferInTitles (left right : McpCatalog) : Prop :=
  SameDescriptors (left.advertised.map withoutTitle) (right.advertised.map withoutTitle) ∧
    ¬ SameDescriptors left.advertised right.advertised

/-! ### What a descriptor says -/

theorem descriptorName_tool (tool : McpAdditionalTool) (oauthPresented : Bool)
    (catalogRevision : Option String) :
    descriptorName (additionalToolDescriptor tool oauthPresented catalogRevision) = tool.name := by
  simp [descriptorName, additionalToolDescriptor, member?_cons, asString?]

/-- What the revision covers of a tool. -/
def toolEntry (tool : McpAdditionalTool) : JsonObject :=
  [("annotations", some tool.annotations.json), ("description", some (.str tool.description)),
    ("inputSchema", some (.obj tool.inputSchema)), ("name", some (.str tool.name)),
    ("scopes", some (.arr [.str tool.requiredScope]))]

theorem revisionEntry_tool (tool : McpAdditionalTool) :
    revisionEntry (additionalToolDescriptor tool true none) = toolEntry tool := by
  simp [revisionEntry, descriptorScopes, additionalToolDescriptor, toolSecuritySchemes, toolEntry,
    member?_cons, member?_nil, field?, textItems, asString?]

/-- Tools that are advertised alike, their titles apart. -/
structure McpAdditionalTool.Agrees (left right : McpAdditionalTool) : Prop where
  annotations : left.annotations = right.annotations
  description : left.description = right.description
  inputSchema : Same (.obj left.inputSchema) (.obj right.inputSchema)
  name : left.name = right.name
  requiredScope : left.requiredScope = right.requiredScope

theorem value_of_rel {left right : Json} (related : Option.Rel Same (some left) (some right)) :
    Same left right := by
  cases related with
  | some same => exact same

theorem bool_eq_of_rel {left right : Bool}
    (related : Option.Rel Same (some (.bool left)) (some (.bool right))) : left = right := by
  cases value_of_rel related
  rfl

theorem annotations_eq_of_same {left right : McpToolAnnotations}
    (same : Same left.json right.json) : left = right := by
  have entries := same_obj_zip same (by simp) rfl
  simp only [List.zip_cons_cons, List.zip_nil_right, List.forall_mem_cons] at entries
  obtain ⟨destructive, idempotent, openWorld, readOnly, -⟩ := entries
  cases left
  cases right
  cases bool_eq_of_rel destructive
  cases bool_eq_of_rel idempotent
  cases bool_eq_of_rel openWorld
  cases bool_eq_of_rel readOnly
  rfl

theorem scope_eq_of_rel {left right : String}
    (related : Option.Rel Same (some (.arr [.str left])) (some (.arr [.str right]))) :
    left = right := by
  cases value_of_rel related with
  | arr items =>
      cases items with
      | cons head tail => exact same_str_iff.mp head

theorem same_members {left right : List (String × Option Json)}
    (members : SameMembers (definedMembers left) (definedMembers right)) :
    Same (.obj left) (.obj right) :=
  Same.obj (List.Perm.refl _) members (List.Perm.refl _)

theorem toolEntry_same_iff {left right : McpAdditionalTool} :
    Same (.obj (toolEntry left)) (.obj (toolEntry right)) ↔ left.Agrees right := by
  constructor
  · intro same
    have entries := same_obj_zip same (by simp [toolEntry]) rfl
    simp only [toolEntry, List.zip_cons_cons, List.zip_nil_right, List.forall_mem_cons] at entries
    obtain ⟨annotations, description, inputSchema, name, scopes, -⟩ := entries
    exact
      { annotations := annotations_eq_of_same (value_of_rel annotations)
        description := required_eq_of_rel description
        inputSchema := value_of_rel inputSchema
        name := required_eq_of_rel name
        requiredScope := scope_eq_of_rel scopes }
  · intro agrees
    apply same_members
    simp only [toolEntry, definedMembers_some, definedMembers_nil, agrees.annotations,
      agrees.description, agrees.name, agrees.requiredScope]
    exact .cons (same_refl _) (.cons (same_refl _) (.cons agrees.inputSchema
      (.cons (same_refl _) (.cons (same_refl _) .nil))))

theorem withoutTitle_tool (tool : McpAdditionalTool) :
    withoutTitle (additionalToolDescriptor tool true none) =
      [("_meta", some (descriptorMeta (toolSecuritySchemes true tool.requiredScope) none)),
        ("annotations", some tool.annotations.json),
        ("description", some (.str tool.description)),
        ("inputSchema", some (.obj tool.inputSchema)),
        ("name", some (.str tool.name)),
        ("securitySchemes", some (toolSecuritySchemes true tool.requiredScope))] := rfl

theorem schemes_eq_of_rel {left right : String}
    (related : Option.Rel Same (some (toolSecuritySchemes true left))
      (some (toolSecuritySchemes true right))) : left = right := by
  cases value_of_rel related with
  | arr items =>
      cases items with
      | cons head tail =>
          have entries := same_obj_zip head (by simp) rfl
          simp only [List.zip_cons_cons, List.zip_nil_right, List.forall_mem_cons] at entries
          exact scope_eq_of_rel entries.1

/-- Without their titles, descriptors are the same for tools that agree. -/
theorem untitled_same_iff {left right : McpAdditionalTool} :
    Same (.obj (withoutTitle (additionalToolDescriptor left true none)))
      (.obj (withoutTitle (additionalToolDescriptor right true none))) ↔ left.Agrees right := by
  rw [withoutTitle_tool, withoutTitle_tool]
  constructor
  · intro same
    have entries := same_obj_zip same (by simp) rfl
    simp only [List.zip_cons_cons, List.zip_nil_right, List.forall_mem_cons] at entries
    obtain ⟨-, annotations, description, inputSchema, name, schemes, -⟩ := entries
    exact
      { annotations := annotations_eq_of_same (value_of_rel annotations)
        description := required_eq_of_rel description
        inputSchema := value_of_rel inputSchema
        name := required_eq_of_rel name
        requiredScope := schemes_eq_of_rel schemes }
  · intro agrees
    apply same_members
    simp only [definedMembers_some, definedMembers_nil, agrees.annotations, agrees.description,
      agrees.name, agrees.requiredScope]
    exact .cons (same_refl _) (.cons (same_refl _) (.cons (same_refl _) (.cons agrees.inputSchema
      (.cons (same_refl _) (.cons (same_refl _) .nil)))))

theorem agrees_of_same {left right : McpAdditionalTool}
    (same : Same (.obj (additionalToolDescriptor left true none))
      (.obj (additionalToolDescriptor right true none))) : left.Agrees right := by
  have entries := same_obj_zip same (by simp [additionalToolDescriptor]) rfl
  simp only [additionalToolDescriptor, List.zip_cons_cons, List.zip_nil_right,
    List.forall_mem_cons] at entries
  obtain ⟨-, annotations, description, inputSchema, name, schemes, -⟩ := entries
  exact
    { annotations := annotations_eq_of_same (value_of_rel annotations)
      description := required_eq_of_rel description
      inputSchema := value_of_rel inputSchema
      name := required_eq_of_rel name
      requiredScope := schemes_eq_of_rel schemes }

/-! ### Names are unique -/

theorem registerTools_ok {reserved : List String} {registrations tools found : List McpAdditionalTool}
    (accepted : registerTools reserved registrations tools = .ok found)
    (distinct : (reserved ++ registrations.map McpAdditionalTool.name).Nodup) :
    found = registrations ++ tools ∧ (reserved ++ found.map McpAdditionalTool.name).Nodup := by
  induction tools generalizing registrations with
  | nil =>
      cases accepted
      rw [List.append_nil]
      exact ⟨rfl, distinct⟩
  | cons tool rest inductionHypothesis =>
      rw [registerTools] at accepted
      split at accepted
      · cases accepted
      · split at accepted
        · cases accepted
        · rename_i fresh
          have later := inductionHypothesis accepted (by
            rw [List.map_append, List.map_singleton, ← List.append_assoc]
            apply List.Nodup.append distinct (List.nodup_singleton _)
            rw [List.disjoint_singleton, List.mem_append]
            exact fresh)
          rw [List.append_assoc, List.singleton_append] at later
          exact later

theorem builtinTools_nodup : (builtinTools.map McpAdditionalTool.name).Nodup := by decide

theorem descriptorName_tools (tools : List McpAdditionalTool) (oauthPresented : Bool)
    (catalogRevision : Option String) :
    (tools.map (fun tool => additionalToolDescriptor tool oauthPresented catalogRevision)).map
      descriptorName = tools.map McpAdditionalTool.name := by
  rw [List.map_map]
  exact List.map_congr_left (fun tool _ => descriptorName_tool tool oauthPresented catalogRevision)

theorem McpCatalog.names_nodup (catalog : McpCatalog) :
    (catalog.tools.map McpAdditionalTool.name).Nodup := by
  have accepted := catalog.accepted
  rw [validateAdditionalTools] at accepted
  rw [McpCatalog.tools, List.map_append]
  by_cases builtin : catalog.includeBuiltinTools = true
  · rw [if_pos builtin, toolDescriptors, descriptorName_tools, if_pos rfl, List.append_nil]
      at accepted
    rw [if_pos builtin]
    exact (registerTools_ok accepted (by simpa using builtinTools_nodup)).2
  · rw [if_neg builtin] at accepted
    rw [if_neg builtin]
    exact (registerTools_ok accepted List.nodup_nil).2

/-! ### Sorted entries -/

theorem McpCatalog.advertised_eq (catalog : McpCatalog) :
    catalog.advertised =
      catalog.tools.map (fun tool => additionalToolDescriptor tool true none) := rfl

def toolsByName (tools : List McpAdditionalTool) : List McpAdditionalTool :=
  tools.insertionSort (fun left right => codeUnitsLe left.name right.name = true)

theorem toolEntry_name (tool : McpAdditionalTool) : descriptorName (toolEntry tool) = tool.name := by
  simp [descriptorName, toolEntry, member?_cons, asString?]

theorem McpCatalog.sortedEntries_eq (catalog : McpCatalog) :
    sortedEntries catalog.advertised = (toolsByName catalog.tools).map toolEntry := by
  have entries : catalog.advertised.map revisionEntry = catalog.tools.map toolEntry := by
    rw [catalog.advertised_eq, List.map_map]
    exact List.map_congr_left (fun tool _ => revisionEntry_tool tool)
  rw [sortedEntries, entries]
  symm
  apply List.map_insertionSort
  intro left _ right _
  rw [toolEntry_name, toolEntry_name]

theorem forall₂_of_map {Item Name : Type} {name : Item → Name} {related : Item → Item → Prop}
    {left right : List Item} (names : left.map name = right.map name)
    (each : ∀ item ∈ left, ∀ other ∈ right, name item = name other → related item other) :
    List.Forall₂ related left right := by
  induction left generalizing right with
  | nil =>
      cases right with
      | nil => exact .nil
      | cons other others => cases names
  | cons item items inductionHypothesis =>
      cases right with
      | nil => cases names
      | cons other others =>
          obtain ⟨sameName, sameNames⟩ := List.cons.inj names
          refine .cons (each item List.mem_cons_self other List.mem_cons_self sameName)
            (inductionHypothesis sameNames ?_)
          intro next inItems another inOthers
          exact each next (List.mem_cons_of_mem item inItems) another
            (List.mem_cons_of_mem other inOthers)

theorem toolsByName_perm (tools : List McpAdditionalTool) : (toolsByName tools).Perm tools :=
  List.perm_insertionSort _ tools

theorem toolsByName_sorted (tools : List McpAdditionalTool) :
    ((toolsByName tools).map McpAdditionalTool.name).Pairwise
      (fun left right => codeUnitsLe left right = true) := by
  have _ : Std.Total (fun left right : McpAdditionalTool =>
      codeUnitsLe left.name right.name = true) :=
    ⟨fun left right => codeUnitsLe_preorder.total left.name right.name⟩
  have _ : IsTrans McpAdditionalTool (fun left right =>
      codeUnitsLe left.name right.name = true) :=
    ⟨fun _ _ _ first second => codeUnitsLe_preorder.trans first second⟩
  exact List.pairwise_map.mpr (List.pairwise_insertionSort _ tools)

theorem agrees_sorted {left right : List McpAdditionalTool}
    (distinct : (right.map McpAdditionalTool.name).Nodup) :
    List.Forall₂ McpAdditionalTool.Agrees (toolsByName left) (toolsByName right) ↔
      ∃ arranged, List.Forall₂ McpAdditionalTool.Agrees left arranged ∧ arranged.Perm right := by
  constructor
  · intro sorted
    obtain ⟨arranged, agrees, perm⟩ := List.perm_comp_forall₂ (toolsByName_perm left).symm sorted
    exact ⟨arranged, agrees, perm.trans (toolsByName_perm right)⟩
  · intro same
    obtain ⟨arranged, agrees, perm⟩ := same
    have names : left.map McpAdditionalTool.name = arranged.map McpAdditionalTool.name :=
      map_eq_of_forall₂ agrees (fun tool _ other together => together.name)
    have namesPerm : ((toolsByName left).map McpAdditionalTool.name).Perm
        ((toolsByName right).map McpAdditionalTool.name) := by
      have first := (toolsByName_perm left).map McpAdditionalTool.name
      rw [names] at first
      exact first.trans ((perm.trans (toolsByName_perm right).symm).map _)
    have sameNames : (toolsByName left).map McpAdditionalTool.name =
        (toolsByName right).map McpAdditionalTool.name :=
      List.Perm.eq_of_pairwise (fun first second _ _ => codeUnitsLe_antisymm first second)
        (toolsByName_sorted left) (toolsByName_sorted right) namesPerm
    apply forall₂_of_map sameNames
    intro item inLeft other inRight sameName
    have listed := (toolsByName_perm left).mem_iff.mp inLeft
    obtain ⟨found, inArranged, together⟩ : ∃ found ∈ arranged, item.Agrees found := by
      obtain ⟨place, bound, isItem⟩ := List.mem_iff_getElem.mp listed
      have related := agrees.get bound (agrees.length_eq ▸ bound)
      rw [List.get_eq_getElem, isItem] at related
      exact ⟨_, List.getElem_mem _, related⟩
    have foundIn := perm.mem_iff.mp inArranged
    have otherIn := (toolsByName_perm right).mem_iff.mp inRight
    have same := List.inj_on_of_nodup_map distinct foundIn otherIn (together.name.symm.trans sameName)
    exact same ▸ together

/-! ### The revision -/

theorem distinct_toolEntry (tool : McpAdditionalTool) :
    distinctKeys (.obj (toolEntry tool)) = true := by
  have schema := tool.distinct
  unfold distinctKeys everyObject at schema ⊢
  simpa [toolEntry, McpToolAnnotations.json, onMembers, everyPart, everyMember, everyItem]
    using schema

/-- What is hashed for tools in this order. -/
def revisionMaterial (tools : List McpAdditionalTool) : Json :=
  .obj
    [("tools", some (.arr (tools.map (fun tool => .obj (toolEntry tool))))),
      ("version", some (.str "actionproxy.mcp-catalog.v1"))]

theorem revisionMaterial_same_iff {left right : List McpAdditionalTool} :
    Same (revisionMaterial left) (revisionMaterial right) ↔
      List.Forall₂ McpAdditionalTool.Agrees left right := by
  constructor
  · intro same
    have parts := same_obj_zip same (by simp) rfl
    simp only [List.zip_cons_cons, List.zip_nil_right, List.forall_mem_cons] at parts
    cases value_of_rel parts.1 with
    | arr items =>
        have related := forall₂_of_sameItems items
        rw [List.forall₂_map_left_iff, List.forall₂_map_right_iff] at related
        exact related.imp (fun _ _ => toolEntry_same_iff.mp)
  · intro agrees
    apply same_members
    simp only [definedMembers_some, definedMembers_nil]
    refine .cons (.arr (sameItems_of_forall₂ ?_)) (.cons (same_refl _) .nil)
    rw [List.forall₂_map_left_iff, List.forall₂_map_right_iff]
    exact agrees.imp (fun _ _ => toolEntry_same_iff.mpr)

theorem distinct_revisionMaterial (tools : List McpAdditionalTool) :
    distinctKeys (revisionMaterial tools) = true := by
  refine everyObject_obj.mpr ⟨by simp, ?_⟩
  simp only [definedMembers_some, definedMembers_nil, List.forall_mem_cons]
  refine ⟨everyObject_arr.mpr ?_, rfl, List.forall_mem_nil _⟩
  intro item listed
  obtain ⟨tool, -, rfl⟩ := List.mem_map.mp listed
  exact distinct_toolEntry tool

section

variable [Runtime] {left right : McpCatalog}

theorem McpCatalog.revision_eq (catalog : McpCatalog) : catalog.revision =
    "mcp_catalog_" ++ hashCanonicalJson (revisionMaterial (toolsByName catalog.tools)) := by
  have sorted := catalog.sortedEntries_eq
  rw [McpCatalog.advertised] at sorted
  rw [McpCatalog.revision, mcpCatalogRevision, sorted, List.map_map]
  rfl

/-- Revisions are equal for tools that agree in the order of their names. -/
theorem McpCatalog.revision_eq_iff (injective : Function.Injective sha256Hex) :
    left.revision = right.revision ↔
      List.Forall₂ McpAdditionalTool.Agrees (toolsByName left.tools) (toolsByName right.tools) := by
  rw [left.revision_eq, right.revision_eq, ← revisionMaterial_same_iff]
  constructor
  · intro same
    exact same_of_hashCanonicalJson_eq injective ((String.append_right_inj _).mp same)
  · intro same
    have text := textWith_eq_of_same codeUnitsLe_preorder same (distinct_revisionMaterial _)
      (tieFree_of_antisymm codeUnitsLe_antisymm _)
    rw [hashCanonicalJson, hashCanonicalJson, canonicalJsonStringify, canonicalJsonStringify,
      codeUnitOrder, text]

omit [Runtime] in
theorem sameDescriptors_map {describe : McpAdditionalTool → JsonObject}
    {left right : List McpAdditionalTool} :
    SameDescriptors (left.map describe) (right.map describe) ↔
      ∃ arranged, List.Forall₂ (fun first second =>
        Same (.obj (describe first)) (.obj (describe second))) left arranged ∧
          arranged.Perm right := by
  constructor
  · intro same
    obtain ⟨arranged, related, perm⟩ := same
    have described : List.Forall₂ (fun descriptor tool => descriptor = describe tool)
        (right.map describe) right := by
      rw [List.forall₂_map_left_iff]
      exact List.forall₂_same.mpr (fun _ _ => rfl)
    obtain ⟨tools, each, toolsPerm⟩ := List.perm_comp_forall₂ perm described
    rw [← List.forall₂_map_right_iff, List.forall₂_eq_eq_eq] at each
    rw [each, List.forall₂_map_left_iff, List.forall₂_map_right_iff] at related
    exact ⟨tools, related, toolsPerm⟩
  · intro same
    obtain ⟨tools, related, perm⟩ := same
    refine ⟨tools.map describe, ?_, perm.map describe⟩
    rw [List.forall₂_map_left_iff, List.forall₂_map_right_iff]
    exact related

/-- Catalogs have one revision when their descriptors are the same but for order and titles. -/
theorem McpCatalog.revision_eq_iff_untitled (injective : Function.Injective sha256Hex) :
    left.revision = right.revision ↔
      SameDescriptors (left.advertised.map withoutTitle) (right.advertised.map withoutTitle) := by
  rw [revision_eq_iff injective, agrees_sorted right.names_nodup, left.advertised_eq,
    right.advertised_eq, List.map_map, List.map_map, sameDescriptors_map]
  simp only [Function.comp_apply, untitled_same_iff]

omit [Runtime] in
theorem SameDescriptors.untitled
    (same : SameDescriptors left.advertised right.advertised) :
    SameDescriptors (left.advertised.map withoutTitle) (right.advertised.map withoutTitle) := by
  rw [left.advertised_eq, right.advertised_eq] at same ⊢
  obtain ⟨arranged, related, perm⟩ := sameDescriptors_map.mp same
  rw [List.map_map, List.map_map]
  exact sameDescriptors_map.mpr
    ⟨arranged, related.imp (fun _ _ together => untitled_same_iff.mpr (agrees_of_same together)),
      perm⟩

end

/-- The revision tells two catalogs apart as what they advertise does, unless they differ in
titles alone. -/
theorem catalog_revision_exact_iff [Runtime] (injective : Function.Injective sha256Hex)
    (left right : McpCatalog) :
    (left.revision = right.revision ↔ SameDescriptors left.advertised right.advertised) ↔
      ¬ DifferInTitles left right := by
  rw [McpCatalog.revision_eq_iff_untitled injective, DifferInTitles]
  constructor
  · intro exact differ
    exact differ.2 (exact.mp differ.1)
  · intro notTitles
    constructor
    · intro untitled
      by_contra differ
      exact notTitles ⟨untitled, differ⟩
    · exact SameDescriptors.untitled

/-- A tool of a deployment. -/
def ticketTool (title : String) : McpAdditionalTool :=
  { annotations := readOnlyAnnotations
    description := "Read a ticket."
    inputSchema := toolCallIdSchema
    name := "tickets.read"
    requiredScope := "tool_call:submit"
    title := title
    defined := toolCallIdSchema_defined
    distinct := toolCallIdSchema_distinct }

theorem ticketTool_named : isMcpToolName "tickets.read" = true := by decide +kernel

theorem ticketTool_accepted (title : String) :
    validateAdditionalTools [ticketTool title] false = .ok [ticketTool title] := by
  have named : isMcpToolName (ticketTool title).name = true := ticketTool_named
  rw [validateAdditionalTools, if_neg Bool.false_ne_true, registerTools, named]
  rfl

def ticketCatalog (title : String) : McpCatalog :=
  { includeBuiltinTools := false
    additionalTools := [ticketTool title]
    accepted := ticketTool_accepted title }

theorem ticketCatalog_differ {title other : String} (differ : title ≠ other) :
    ¬ SameDescriptors (ticketCatalog title).advertised (ticketCatalog other).advertised := by
  intro same
  obtain ⟨arranged, related, perm⟩ := same
  rw [List.perm_singleton.mp perm] at related
  cases related with
  | cons together _ =>
      have entries := same_obj_zip together (by simp [additionalToolDescriptor]) rfl
      simp only [additionalToolDescriptor, List.zip_cons_cons, List.zip_nil_right,
        List.forall_mem_cons] at entries
      obtain ⟨-, -, -, -, -, -, titles, -⟩ := entries
      exact differ (required_eq_of_rel titles)

theorem catalog_revision_exact_ticket :
    ¬ (@McpCatalog.revision (sampleRuntime []) (ticketCatalog "Read Ticket") =
        @McpCatalog.revision (sampleRuntime []) (ticketCatalog "Delete Ticket") ↔
      SameDescriptors (ticketCatalog "Read Ticket").advertised
        (ticketCatalog "Delete Ticket").advertised) := by
  have general := @catalog_revision_exact_iff (sampleRuntime [])
    (@knownDigest_injective [] (by decide) (by decide)) (ticketCatalog "Read Ticket")
    (ticketCatalog "Delete Ticket")
  have untitled : SameDescriptors ((ticketCatalog "Read Ticket").advertised.map withoutTitle)
      ((ticketCatalog "Delete Ticket").advertised.map withoutTitle) :=
    ⟨_, List.forall₂_same.mpr (fun _ _ => same_refl _), List.Perm.refl _⟩
  have differ : "Read Ticket" ≠ "Delete Ticket" := by decide
  intro exact
  exact general.mp exact ⟨untitled, ticketCatalog_differ differ⟩

/-- A new title leaves the revision as it is. -/
theorem title_leaves_revision : ¬ ∀ left right : McpCatalog,
    (@McpCatalog.revision (sampleRuntime []) left = @McpCatalog.revision (sampleRuntime []) right ↔
      SameDescriptors left.advertised right.advertised) := by
  intro exact
  have differ : "Read Ticket" ≠ "Delete Ticket" := by decide
  exact ticketCatalog_differ differ ((exact (ticketCatalog _) (ticketCatalog _)).mp rfl)

end ActionProxy
