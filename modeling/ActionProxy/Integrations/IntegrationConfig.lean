import ActionProxy.Foundation.TableMaps
import ActionProxy.Integrations.PublicBaseUrl
import ActionProxy.Services.PolicyDetector

/-!
The local integration configuration: one file that every update reads, normalises and writes as a
whole. A file that cannot be read, or whose sections are not all accepted, reads as an empty
configuration.
-/

namespace ActionProxy

open JsonText

/-! ### Sections -/

structure LocalSlackIntegrationConfig where
  approvalChannelId : Option String
  botToken : Option String
  enabled : Option Bool
  publicBaseUrl : Option String
  signingSecret : Option String
  deriving DecidableEq

structure LocalTelegramIntegrationConfig where
  approvalChatId : Option String
  botToken : Option String
  enabled : Option Bool
  publicBaseUrl : Option String
  webhookSecret : Option String
  deriving DecidableEq

structure LocalSmtpConfig where
  host : Option String
  password : Option String
  port : Option JsonNumber
  secure : Option Bool
  username : Option String

structure LocalEmailIntegrationConfig where
  approvalRecipient : Option String
  enabled : Option Bool
  «from» : Option String
  publicBaseUrl : Option String
  smtp : Option LocalSmtpConfig
  transport : Option String

structure LocalToolIntegrationConfig where
  displayName : Option String
  enabled : Option Bool
  values : Option (KeyedTable String String)

inductive ToolIntegrationId where
  | docs | gmail | jira | salesforce
  deriving DecidableEq

def toolIntegrationIds : List ToolIntegrationId := [.docs, .gmail, .jira, .salesforce]

/-- A profile: its id and its other members. -/
structure McpWrapperProfile where
  id : Option String
  members : KeyedTable String Json

structure McpPolicyCoverage where
  approval : Option ApprovalMode
  decision : PolicyDecision
  matchedRule : String
  reason : String
  risk : String

structure McpDiscoveredTool where
  description : Option String
  discoveredAt : String
  inputSchema : Option JsonObject
  name : String
  policyCoverage : Option McpPolicyCoverage
  profileId : String
  schemaHash : String
  serverName : String

structure McpWrapperConfig where
  discoveredTools : Option (KeyedTable String McpDiscoveredTool)
  profiles : Option (KeyedTable String McpWrapperProfile)

structure LocalIntegrationConfig where
  email : Option LocalEmailIntegrationConfig
  mcpWrapper : Option McpWrapperConfig
  slack : Option LocalSlackIntegrationConfig
  telegram : Option LocalTelegramIntegrationConfig
  tools : Option (ToolIntegrationId → Option LocalToolIntegrationConfig)

namespace LocalIntegrationConfig

def blankToUndefined (value : Option String) : Option String := value.bind TextScan.content

def empty : LocalIntegrationConfig :=
  { email := none, mcpWrapper := none, slack := none, telegram := none, tools := none }

def tool (config : LocalIntegrationConfig) (id : ToolIntegrationId) :
    Option LocalToolIntegrationConfig :=
  config.tools.bind (fun tools => tools id)

def profiles (config : LocalIntegrationConfig) : Option (KeyedTable String McpWrapperProfile) :=
  config.mcpWrapper.bind McpWrapperConfig.profiles

def profile (config : LocalIntegrationConfig) (id : String) : Option McpWrapperProfile :=
  config.profiles.bind (fun profiles => profiles.get? id)

def discoveredTools (config : LocalIntegrationConfig) :
    Option (KeyedTable String McpDiscoveredTool) :=
  config.mcpWrapper.bind McpWrapperConfig.discoveredTools

def discoveredTool (config : LocalIntegrationConfig) (key : String) : Option McpDiscoveredTool :=
  config.discoveredTools.bind (fun tools => tools.get? key)

end LocalIntegrationConfig

/-! ### Normalisation -/

def normalizeSlackIntegrationConfig (input : LocalSlackIntegrationConfig) :
    LocalSlackIntegrationConfig :=
  { approvalChannelId := LocalIntegrationConfig.blankToUndefined input.approvalChannelId
    botToken := LocalIntegrationConfig.blankToUndefined input.botToken
    enabled := input.enabled
    publicBaseUrl := LocalIntegrationConfig.blankToUndefined input.publicBaseUrl
    signingSecret := LocalIntegrationConfig.blankToUndefined input.signingSecret }

def normalizeTelegramIntegrationConfig (input : LocalTelegramIntegrationConfig) :
    LocalTelegramIntegrationConfig :=
  { approvalChatId := LocalIntegrationConfig.blankToUndefined input.approvalChatId
    botToken := LocalIntegrationConfig.blankToUndefined input.botToken
    enabled := input.enabled
    publicBaseUrl := LocalIntegrationConfig.blankToUndefined input.publicBaseUrl
    webhookSecret := LocalIntegrationConfig.blankToUndefined input.webhookSecret }

def normalizeSmtpConfig (input : LocalSmtpConfig) : LocalSmtpConfig :=
  { host := LocalIntegrationConfig.blankToUndefined input.host
    password := LocalIntegrationConfig.blankToUndefined input.password
    port := input.port
    secure := input.secure
    username := LocalIntegrationConfig.blankToUndefined input.username }

/-- The values that are not blank, trimmed. -/
def trimmedValues (values : KeyedTable String String) : KeyedTable String String :=
  values.filterMap (fun _ value => TextScan.content value)

def normalizeToolIntegrationConfig (input : LocalToolIntegrationConfig) :
    LocalToolIntegrationConfig :=
  let values := trimmedValues (input.values.getD .empty)
  { displayName := LocalIntegrationConfig.blankToUndefined input.displayName
    enabled := input.enabled
    values := if values.entries = [] then none else some values }

def normalizeMcpWrapperProfile (profileId : String) (profile : McpWrapperProfile) :
    McpWrapperProfile :=
  { profile with id := some (profile.id.getD profileId) }

def normalizedProfiles (profiles : KeyedTable String McpWrapperProfile) :
    KeyedTable String McpWrapperProfile :=
  profiles.filterMap (fun profileId profile => some (normalizeMcpWrapperProfile profileId profile))

def normalizeMcpWrapper (input : McpWrapperConfig) : McpWrapperConfig :=
  { discoveredTools := input.discoveredTools
    profiles := input.profiles.map normalizedProfiles }

/-- The tools that are configured, if any is. -/
def normalizeToolIntegrations (tools : ToolIntegrationId → Option LocalToolIntegrationConfig) :
    Option (ToolIntegrationId → Option LocalToolIntegrationConfig) :=
  if toolIntegrationIds.any (fun id => (tools id).isSome) then
    some (fun id => (tools id).map normalizeToolIntegrationConfig)
  else none

section

variable (parseUrl : String → Option UrlParts)

def normalizeEmailIntegrationConfig (input : LocalEmailIntegrationConfig) :
    Except String LocalEmailIntegrationConfig := do
  let publicBaseUrl ← normalizeEmailPublicBaseUrl parseUrl input.publicBaseUrl .default
  .ok {
    approvalRecipient := LocalIntegrationConfig.blankToUndefined input.approvalRecipient
    enabled := input.enabled
    «from» := LocalIntegrationConfig.blankToUndefined input.from
    publicBaseUrl := publicBaseUrl
    smtp := input.smtp.map normalizeSmtpConfig
    transport := some (if input.transport = some "smtp" then "smtp" else "outbox") }

/-- The email section, if there is one. -/
def normalizeEmailSection :
    Option LocalEmailIntegrationConfig → Except String (Option LocalEmailIntegrationConfig)
  | none => .ok none
  | some email => (normalizeEmailIntegrationConfig parseUrl email).map some

def normalizeLocalIntegrationConfig (input : LocalIntegrationConfig) :
    Except String LocalIntegrationConfig := do
  let email ← normalizeEmailSection parseUrl input.email
  .ok {
    email := email
    mcpWrapper := input.mcpWrapper.map normalizeMcpWrapper
    slack := input.slack.map normalizeSlackIntegrationConfig
    telegram := input.telegram.map normalizeTelegramIntegrationConfig
    tools := input.tools.bind normalizeToolIntegrations }

/-! ### The file -/

/-- What stands under the path of the configuration. -/
inductive ConfigFile where
  | missing
  /-- No JSON object. -/
  | broken
  | holds (config : LocalIntegrationConfig)

def readConfig (readable : Bool) : ConfigFile → LocalIntegrationConfig
  | .holds config =>
      if readable then
        match normalizeLocalIntegrationConfig parseUrl config with
        | .ok config => config
        | .error _ => .empty
      else .empty
  | _ => .empty

/-- How the file system answers a write. -/
inductive WriteAnswer where
  | done
  | refused
  /-- The file was emptied, and not all of the text was written. -/
  | brokenOff
  deriving DecidableEq

inductive ConfigError where
  | message (text : String)
  | fileSystem

def writeConfig (answer : WriteAnswer) (config : LocalIntegrationConfig) (file : ConfigFile) :
    ConfigFile × Except ConfigError Unit :=
  match normalizeLocalIntegrationConfig parseUrl config with
  | .error text => (file, .error (.message text))
  | .ok config =>
      match answer with
      | .done => (.holds config, .ok ())
      | .refused => (file, .error .fileSystem)
      | .brokenOff => (.broken, .error .fileSystem)

end

/-! ### Updates -/

/-- What the updates read of the application's configuration. -/
structure IntegrationSettings where
  authMode : Option String
  emailPublicBaseUrl : Option String

def IntegrationSettings.authenticated (settings : IntegrationSettings) : Bool :=
  match settings.authMode with
  | none => false
  | some mode => mode ≠ "" ∧ mode ≠ "none"

/-- A tool as its server describes it. -/
structure DiscoveredToolInput where
  description : Option String
  inputSchema : Option JsonObject
  name : String
  serverName : String

inductive IntegrationUpdate where
  | slack (input : LocalSlackIntegrationConfig)
  | telegram (input : LocalTelegramIntegrationConfig)
  | email (input : LocalEmailIntegrationConfig)
  | tool (id : ToolIntegrationId) (input : LocalToolIntegrationConfig)
  | mcpProfile (id : String) (members : KeyedTable String Json)
  | mcpDiscoveredTools (profileId : String) (tools : List DiscoveredToolInput)
      (policy : Option PolicyFile) (now : String)

def updateSlack (settings : IntegrationSettings) (input : LocalSlackIntegrationConfig)
    (config : LocalIntegrationConfig) : Except String LocalIntegrationConfig :=
  if settings.authenticated ∧ (input.botToken.isSome ∨ input.signingSecret.isSome) then
    .error ("Authenticated deployments do not allow saving Slack secrets to local " ++
      "integration config.")
  else
    let old (field : LocalSlackIntegrationConfig → Option String) := config.slack.bind field
    .ok { config with slack := some (normalizeSlackIntegrationConfig {
      approvalChannelId := input.approvalChannelId <|> old (·.approvalChannelId)
      botToken := input.botToken <|> old (·.botToken)
      enabled := input.enabled <|> config.slack.bind (·.enabled)
      publicBaseUrl := input.publicBaseUrl <|> old (·.publicBaseUrl)
      signingSecret := input.signingSecret <|> old (·.signingSecret) }) }

def updateTelegram (settings : IntegrationSettings) (input : LocalTelegramIntegrationConfig)
    (config : LocalIntegrationConfig) : Except String LocalIntegrationConfig :=
  if settings.authenticated ∧ (input.botToken.isSome ∨ input.webhookSecret.isSome) then
    .error ("Authenticated deployments do not allow saving Telegram secrets to local " ++
      "integration config.")
  else
    let old (field : LocalTelegramIntegrationConfig → Option String) := config.telegram.bind field
    .ok { config with telegram := some (normalizeTelegramIntegrationConfig {
      approvalChatId := input.approvalChatId <|> old (·.approvalChatId)
      botToken := input.botToken <|> old (·.botToken)
      enabled := input.enabled <|> config.telegram.bind (·.enabled)
      publicBaseUrl := input.publicBaseUrl <|> old (·.publicBaseUrl)
      webhookSecret := input.webhookSecret <|> old (·.webhookSecret) }) }

/-- The transport settings of an update over the stored ones. -/
def mergedSmtp (input stored : Option LocalSmtpConfig) : LocalSmtpConfig :=
  { host := input.bind (·.host) <|> stored.bind (·.host)
    password := input.bind (·.password) <|> stored.bind (·.password)
    port := input.bind (·.port) <|> stored.bind (·.port)
    secure := input.bind (·.secure) <|> stored.bind (·.secure)
    username := input.bind (·.username) <|> stored.bind (·.username) }

def updateEmail (parseUrl : String → Option UrlParts) (settings : IntegrationSettings)
    (input : LocalEmailIntegrationConfig) (config : LocalIntegrationConfig) :
    Except String LocalIntegrationConfig :=
  if settings.authenticated ∧ (input.smtp.bind (·.password)).isSome then
    .error ("Authenticated deployments do not allow saving SMTP secrets to local " ++
      "integration config.")
  else do
    let requested ← normalizeEmailPublicBaseUrl parseUrl input.publicBaseUrl .default
    let environment ← normalizeEmailPublicBaseUrl parseUrl settings.emailPublicBaseUrl .default
    if requested.isSome ∧ environment.isSome ∧ requested ≠ environment then
      .error ("Email approval review URL is controlled by deployment configuration and " ++
        "cannot be overridden.")
    else
      let old (field : LocalEmailIntegrationConfig → Option String) := config.email.bind field
      let email ← normalizeEmailIntegrationConfig parseUrl {
        approvalRecipient := input.approvalRecipient <|> old (·.approvalRecipient)
        enabled := input.enabled <|> config.email.bind (·.enabled)
        «from» := input.from <|> old (·.from)
        publicBaseUrl :=
          if environment.isSome then safeEmailPublicBaseUrl parseUrl (old (·.publicBaseUrl))
          else input.publicBaseUrl <|> old (·.publicBaseUrl)
        smtp := some (mergedSmtp input.smtp (config.email.bind (·.smtp)))
        transport := input.transport <|> old (·.transport) }
      .ok { config with email := some email }

def updateToolIntegration (id : ToolIntegrationId) (input : LocalToolIntegrationConfig)
    (config : LocalIntegrationConfig) : LocalIntegrationConfig :=
  let tools := config.tools.getD (fun _ => none)
  let values := ((input.values.map KeyedTable.entries).getD []).foldl
    (fun (values : KeyedTable String String) value => values.set value.1 value.2)
    (((tools id).bind (·.values)).getD .empty)
  let tool := normalizeToolIntegrationConfig {
    displayName := input.displayName <|> (tools id).bind (·.displayName)
    enabled := input.enabled <|> (tools id).bind (·.enabled)
    values := some values }
  { config with tools := some (fun other => if other = id then some tool else tools other) }

/-- `profiles[id] = profile`. The name of the prototype is no member unless it is one already. -/
def assignProfile (profiles : KeyedTable String McpWrapperProfile) (id : String)
    (profile : McpWrapperProfile) : KeyedTable String McpWrapperProfile :=
  if id = "__proto__" ∧ profiles.get? id = none then profiles else profiles.set id profile

def savedProfile (id : String) (members : KeyedTable String Json) : McpWrapperProfile :=
  { id := some id, members := members }

def saveMcpProfile (id : String) (members : KeyedTable String Json)
    (config : LocalIntegrationConfig) : LocalIntegrationConfig :=
  { config with mcpWrapper := some {
      discoveredTools := config.discoveredTools
      profiles := some (assignProfile (config.profiles.getD .empty) id
        (savedProfile id members)) } }

section

variable [Runtime]

def mcpPolicyCoverage (policy : PolicyFile) (toolName : String) : McpPolicyCoverage :=
  let evaluation := evaluatePolicy policy toolName .none
  { approval := evaluation.approval
    decision := evaluation.decision
    matchedRule := evaluation.matchedRule
    reason := evaluation.reason
    risk := evaluation.risk }

def discoveredToolKey (profileId toolName : String) : String := profileId ++ ":" ++ toolName

def discoveredToolRecord (profileId : String) (policy : Option PolicyFile) (now : String)
    (tool : DiscoveredToolInput) : McpDiscoveredTool :=
  { description := LocalIntegrationConfig.blankToUndefined tool.description
    discoveredAt := now
    inputSchema := tool.inputSchema
    name := tool.name
    policyCoverage := policy.map (fun policy => mcpPolicyCoverage policy tool.name)
    profileId := profileId
    schemaHash := String.ofList ((sha256Hex (String.ofList
      (textWith insertionOrder (.obj (tool.inputSchema.getD []))))).toList.take 16)
    serverName := tool.serverName }

/-- An id finds a profile, or what every object inherits under that name. -/
def profileKnown (profiles : KeyedTable String McpWrapperProfile) (profileId : String) : Bool :=
  (profiles.get? profileId).isSome || prototypeNames.contains profileId

def saveMcpDiscoveredTools (profileId : String) (tools : List DiscoveredToolInput)
    (policy : Option PolicyFile) (now : String) (config : LocalIntegrationConfig) :
    Except String LocalIntegrationConfig :=
  if config.profiles.any (fun profiles => profileKnown profiles profileId) then
    .ok { config with mcpWrapper := some {
      discoveredTools := some (tools.foldl
        (fun (known : KeyedTable String McpDiscoveredTool) tool =>
          known.set (discoveredToolKey profileId tool.name)
            (discoveredToolRecord profileId policy now tool))
        (config.discoveredTools.getD .empty))
      profiles := config.profiles } }
  else .error ("MCP wrapper profile not found: " ++ profileId)

/-! ### Calls -/

/-- The configuration an update hands on to be written. -/
def IntegrationUpdate.edit (parseUrl : String → Option UrlParts) (settings : IntegrationSettings)
    (config : LocalIntegrationConfig) : IntegrationUpdate → Except String LocalIntegrationConfig
  | .slack input => updateSlack settings input config
  | .telegram input => updateTelegram settings input config
  | .email input => updateEmail parseUrl settings input config
  | .tool id input => .ok (updateToolIntegration id input config)
  | .mcpProfile id members => .ok (saveMcpProfile id members config)
  | .mcpDiscoveredTools profileId tools policy now =>
      saveMcpDiscoveredTools profileId tools policy now config

/-- How the file system answers one call. -/
structure FileAnswers where
  readable : Bool
  configWrite : WriteAnswer
  /-- The profile's YAML file is written. -/
  yamlWritten : Bool

/-- The update also writes a YAML file. -/
def IntegrationUpdate.writesYaml : IntegrationUpdate → Bool
  | .mcpProfile _ _ => true
  | _ => false

def IntegrationUpdate.run (parseUrl : String → Option UrlParts) (settings : IntegrationSettings)
    (update : IntegrationUpdate) (answers : FileAnswers) (file : ConfigFile) :
    ConfigFile × Except ConfigError Unit :=
  match update.edit parseUrl settings (readConfig parseUrl answers.readable file) with
  | .error text => (file, .error (.message text))
  | .ok config =>
      match writeConfig parseUrl answers.configWrite config file with
      | (file, .error error) => (file, .error error)
      | (file, .ok ()) =>
          if update.writesYaml ∧ answers.yamlWritten = false then (file, .error .fileSystem)
          else (file, .ok ())

end

end ActionProxy
