import Mathlib.Data.Bool.AllAny
import ActionProxy.Integrations.IntegrationConfig

/-!
What an update of the integration configuration leaves alone. A configuration that is read whole
is kept outside what the update addresses; one that the email section keeps from being read is
replaced by the updated section.
-/

namespace ActionProxy

open JsonText

/-! ### Normal sections -/

namespace LocalIntegrationConfig

theorem blankToUndefined_again (value : Option String) :
    blankToUndefined (blankToUndefined value) = blankToUndefined value := by
  unfold blankToUndefined
  cases value with
  | none => rfl
  | some text =>
      rw [Option.bind_some]
      cases content : TextScan.content text with
      | none => rfl
      | some trimmed => exact (TextScan.content_eq_some content).1

end LocalIntegrationConfig

open LocalIntegrationConfig (blankToUndefined_again)

theorem normalizeSlack_again (input : LocalSlackIntegrationConfig) :
    normalizeSlackIntegrationConfig (normalizeSlackIntegrationConfig input) =
      normalizeSlackIntegrationConfig input := by
  simp only [normalizeSlackIntegrationConfig, blankToUndefined_again]

theorem normalizeTelegram_again (input : LocalTelegramIntegrationConfig) :
    normalizeTelegramIntegrationConfig (normalizeTelegramIntegrationConfig input) =
      normalizeTelegramIntegrationConfig input := by
  simp only [normalizeTelegramIntegrationConfig, blankToUndefined_again]

theorem normalizeSmtp_again (input : LocalSmtpConfig) :
    normalizeSmtpConfig (normalizeSmtpConfig input) = normalizeSmtpConfig input := by
  simp only [normalizeSmtpConfig, blankToUndefined_again]

theorem trimmedValues_again (values : KeyedTable String String) :
    trimmedValues (trimmedValues values) = trimmedValues values :=
  KeyedTable.filterMap_of_settled (KeyedTable.settled_filterMap
    (fun _ _ _ found => (TextScan.content_eq_some found).1) values)

theorem normalizeTool_again (input : LocalToolIntegrationConfig) :
    normalizeToolIntegrationConfig (normalizeToolIntegrationConfig input) =
      normalizeToolIntegrationConfig input := by
  unfold normalizeToolIntegrationConfig
  dsimp only
  rw [blankToUndefined_again]
  by_cases none : (trimmedValues (input.values.getD .empty)).entries = []
  · rw [if_pos none]
    rfl
  · rw [if_neg none, Option.getD_some, trimmedValues_again, if_neg none]

theorem normalizeProfile_again (profileId : String) (profile : McpWrapperProfile) :
    normalizeMcpWrapperProfile profileId (normalizeMcpWrapperProfile profileId profile) =
      normalizeMcpWrapperProfile profileId profile := rfl

theorem normalizedProfiles_again (profiles : KeyedTable String McpWrapperProfile) :
    normalizedProfiles (normalizedProfiles profiles) = normalizedProfiles profiles := by
  refine KeyedTable.filterMap_of_settled (KeyedTable.settled_filterMap ?_ profiles)
  intro profileId profile normal selected
  cases selected
  rw [normalizeProfile_again]

theorem get?_normalizedProfiles (profiles : KeyedTable String McpWrapperProfile) (id : String) :
    (normalizedProfiles profiles).get? id =
      (profiles.get? id).map (normalizeMcpWrapperProfile id) := by
  rw [normalizedProfiles, KeyedTable.get?_filterMap]
  cases profiles.get? id <;> rfl

theorem normalizeMcpWrapper_again (input : McpWrapperConfig) :
    normalizeMcpWrapper (normalizeMcpWrapper input) = normalizeMcpWrapper input := by
  simp only [normalizeMcpWrapper, Option.map_map, Function.comp_def, normalizedProfiles_again]

theorem normalizeToolIntegrations_again
    (tools : ToolIntegrationId → Option LocalToolIntegrationConfig) :
    (normalizeToolIntegrations tools).bind normalizeToolIntegrations =
      normalizeToolIntegrations tools := by
  unfold normalizeToolIntegrations
  split
  · rename_i some
    rw [Option.bind_some, if_pos (by simpa using some)]
    simp only [Option.map_map, Function.comp_def, normalizeTool_again]
  · rfl

section

variable {parseUrl : String → Option UrlParts}

theorem normalizeEmail_again (standard : StandardUrl parseUrl)
    {input normal : LocalEmailIntegrationConfig}
    (accepted : normalizeEmailIntegrationConfig parseUrl input = .ok normal) :
    normalizeEmailIntegrationConfig parseUrl normal = .ok normal := by
  unfold normalizeEmailIntegrationConfig at accepted
  cases url : normalizeEmailPublicBaseUrl parseUrl input.publicBaseUrl .default with
  | error error =>
      rw [url] at accepted
      cases accepted
  | ok url' =>
      rw [url] at accepted
      cases accepted
      simp only [normalizeEmailIntegrationConfig, normalizeEmailPublicBaseUrl_again standard url,
        blankToUndefined_again, Option.map_map, Function.comp_def, normalizeSmtp_again]
      split <;> simp_all [bind, Except.bind]

/-- The email section has a normal form. -/
def EmailAccepted (parseUrl : String → Option UrlParts) (stored : LocalIntegrationConfig) : Prop :=
  ∃ email, normalizeEmailSection parseUrl stored.email = .ok email

/-- Each section normalised by itself; an email section that is refused has no normal form. -/
def normalSections (parseUrl : String → Option UrlParts) (stored : LocalIntegrationConfig) :
    LocalIntegrationConfig :=
  { email :=
      match normalizeEmailSection parseUrl stored.email with
      | .ok email => email
      | .error _ => none
    mcpWrapper := stored.mcpWrapper.map normalizeMcpWrapper
    slack := stored.slack.map normalizeSlackIntegrationConfig
    telegram := stored.telegram.map normalizeTelegramIntegrationConfig
    tools := stored.tools.bind normalizeToolIntegrations }

theorem normalizeLocal_of_accepted {stored : LocalIntegrationConfig}
    (accepted : EmailAccepted parseUrl stored) :
    normalizeLocalIntegrationConfig parseUrl stored = .ok (normalSections parseUrl stored) := by
  obtain ⟨email, accepted⟩ := accepted
  simp only [normalizeLocalIntegrationConfig, normalSections, accepted, bind, Except.bind]

theorem normalizeLocal_refused {stored : LocalIntegrationConfig}
    (refused : ¬ EmailAccepted parseUrl stored) :
    ∃ error, normalizeLocalIntegrationConfig parseUrl stored = .error error := by
  cases section' : normalizeEmailSection parseUrl stored.email with
  | ok email => exact absurd ⟨email, section'⟩ refused
  | error error =>
      exact ⟨error, by simp only [normalizeLocalIntegrationConfig, section', bind, Except.bind]⟩

/-- Normalising leaves the configuration as it is. -/
def NormalConfig (parseUrl : String → Option UrlParts) (config : LocalIntegrationConfig) : Prop :=
  normalizeLocalIntegrationConfig parseUrl config = .ok config

theorem normalizeEmailSection_again (standard : StandardUrl parseUrl)
    {input normal : Option LocalEmailIntegrationConfig}
    (accepted : normalizeEmailSection parseUrl input = .ok normal) :
    normalizeEmailSection parseUrl normal = .ok normal := by
  cases input with
  | none =>
      cases accepted
      rfl
  | some email =>
      unfold normalizeEmailSection at accepted
      cases result : normalizeEmailIntegrationConfig parseUrl email with
      | error error =>
          simp only [result] at accepted
          cases accepted
      | ok normal' =>
          simp only [result] at accepted
          cases accepted
          show (normalizeEmailIntegrationConfig parseUrl normal').map some = _
          rw [normalizeEmail_again standard result]
          rfl

theorem normalSections_normal (standard : StandardUrl parseUrl) {stored : LocalIntegrationConfig}
    (accepted : EmailAccepted parseUrl stored) :
    NormalConfig parseUrl (normalSections parseUrl stored) := by
  obtain ⟨email, result⟩ := accepted
  have kept : (normalSections parseUrl stored).email = email := by
    simp only [normalSections, result]
  have again : normalizeEmailSection parseUrl (normalSections parseUrl stored).email = .ok email := by
    rw [kept]
    exact normalizeEmailSection_again standard result
  unfold NormalConfig normalizeLocalIntegrationConfig
  rw [again]
  simp only [bind, Except.bind, normalSections, result, Option.map_map, Function.comp_def,
    normalizeMcpWrapper_again, normalizeSlack_again, normalizeTelegram_again]
  cases stored.tools with
  | none => rfl
  | some tools => rw [Option.bind_some, normalizeToolIntegrations_again]

theorem empty_normal : NormalConfig parseUrl .empty := rfl

theorem readConfig_holds (standard : StandardUrl parseUrl) (readable : Bool)
    (stored : LocalIntegrationConfig) :
    NormalConfig parseUrl (readConfig parseUrl readable (.holds stored)) ∧
      (readable = true → EmailAccepted parseUrl stored →
        readConfig parseUrl readable (.holds stored) = normalSections parseUrl stored) ∧
      (¬ (readable = true ∧ EmailAccepted parseUrl stored) →
        readConfig parseUrl readable (.holds stored) = .empty) := by
  rw [readConfig]
  cases readable with
  | false => exact ⟨empty_normal, fun impossible => absurd impossible (by simp), fun _ => rfl⟩
  | true =>
      by_cases accepted : EmailAccepted parseUrl stored
      · rw [if_pos rfl, normalizeLocal_of_accepted accepted]
        exact ⟨normalSections_normal standard accepted, fun _ _ => rfl,
          fun impossible => absurd ⟨rfl, accepted⟩ impossible⟩
      · obtain ⟨error, refused⟩ := normalizeLocal_refused accepted
        rw [if_pos rfl, refused]
        exact ⟨empty_normal, fun _ accepted' => absurd accepted' accepted, fun _ => rfl⟩

end

/-! ### What an update addresses -/

inductive IntegrationSection where
  | email | mcpWrapper | slack | telegram | tools
  deriving DecidableEq

namespace IntegrationUpdate

def addressed : IntegrationUpdate → IntegrationSection
  | .slack _ => .slack
  | .telegram _ => .telegram
  | .email _ => .email
  | .tool _ _ => .tools
  | .mcpProfile _ _ => .mcpWrapper
  | .mcpDiscoveredTools _ _ _ _ => .mcpWrapper

def AddressesTool (other : ToolIntegrationId) : IntegrationUpdate → Prop
  | .tool id _ => other = id
  | _ => False

def AddressesProfile (other : String) : IntegrationUpdate → Prop
  | .mcpProfile id _ => other = id
  | _ => False

/-- The key is that of a tool the update brings, and no tool of another profile or name is under
it. -/
def AddressesDiscovered (before : LocalIntegrationConfig) (key : String) :
    IntegrationUpdate → Prop
  | .mcpDiscoveredTools profileId tools _ _ =>
      ∃ tool ∈ tools, key = discoveredToolKey profileId tool.name ∧
        ∀ record, before.discoveredTool key = some record →
          record.profileId = profileId ∧ record.name = tool.name
  | _ => False

/-- No tool of another profile or name is under the key of a tool the update brings. -/
def Apart (before : LocalIntegrationConfig) : IntegrationUpdate → Prop
  | .mcpDiscoveredTools profileId tools _ _ =>
      ∀ tool ∈ tools, ∀ record,
        before.discoveredTool (discoveredToolKey profileId tool.name) = some record →
          record.profileId = profileId ∧ record.name = tool.name
  | _ => True

/-- Two configurations agree in every section, profile and tool the update does not address. -/
structure Outside (update : IntegrationUpdate) (before after : LocalIntegrationConfig) : Prop where
  email : update.addressed ≠ .email → before.email = after.email
  mcpWrapper : update.addressed ≠ .mcpWrapper → before.mcpWrapper = after.mcpWrapper
  slack : update.addressed ≠ .slack → before.slack = after.slack
  telegram : update.addressed ≠ .telegram → before.telegram = after.telegram
  tools : update.addressed ≠ .tools → before.tools = after.tools
  tool : ∀ id, ¬ update.AddressesTool id → before.tool id = after.tool id
  profile : ∀ id, ¬ update.AddressesProfile id → before.profile id = after.profile id
  discoveredTool : ∀ key, ¬ update.AddressesDiscovered before key →
    before.discoveredTool key = after.discoveredTool key

theorem outside_of_sections {update : IntegrationUpdate} {before after : LocalIntegrationConfig}
    (email : update.addressed ≠ .email → before.email = after.email)
    (mcpWrapper : before.mcpWrapper = after.mcpWrapper)
    (slack : update.addressed ≠ .slack → before.slack = after.slack)
    (telegram : update.addressed ≠ .telegram → before.telegram = after.telegram)
    (tools : update.addressed ≠ .tools → before.tools = after.tools)
    (tool : ∀ id, ¬ update.AddressesTool id → before.tool id = after.tool id) :
    update.Outside before after :=
  { email := email
    mcpWrapper := fun _ => mcpWrapper
    slack := slack
    telegram := telegram
    tools := tools
    tool := tool
    profile := fun id _ => by
      simp only [LocalIntegrationConfig.profile, LocalIntegrationConfig.profiles, mcpWrapper]
    discoveredTool := fun key _ => by
      simp only [LocalIntegrationConfig.discoveredTool, LocalIntegrationConfig.discoveredTools,
        mcpWrapper] }

/-- What agrees outside an update's address with a third agrees with what it agrees with. -/
theorem outside_iff_outside {update : IntegrationUpdate}
    {before between after : LocalIntegrationConfig}
    (free : ∀ config key, ¬ update.AddressesDiscovered config key)
    (same : update.Outside between after) :
    update.Outside before after ↔ update.Outside before between := by
  constructor
  · intro outside
    exact {
      email := fun other => (outside.email other).trans (same.email other).symm
      mcpWrapper := fun other => (outside.mcpWrapper other).trans (same.mcpWrapper other).symm
      slack := fun other => (outside.slack other).trans (same.slack other).symm
      telegram := fun other => (outside.telegram other).trans (same.telegram other).symm
      tools := fun other => (outside.tools other).trans (same.tools other).symm
      tool := fun id other => (outside.tool id other).trans (same.tool id other).symm
      profile := fun id other => (outside.profile id other).trans (same.profile id other).symm
      discoveredTool := fun key other =>
        (outside.discoveredTool key other).trans (same.discoveredTool key (free _ key)).symm }
  · intro outside
    exact {
      email := fun other => (outside.email other).trans (same.email other)
      mcpWrapper := fun other => (outside.mcpWrapper other).trans (same.mcpWrapper other)
      slack := fun other => (outside.slack other).trans (same.slack other)
      telegram := fun other => (outside.telegram other).trans (same.telegram other)
      tools := fun other => (outside.tools other).trans (same.tools other)
      tool := fun id other => (outside.tool id other).trans (same.tool id other)
      profile := fun id other => (outside.profile id other).trans (same.profile id other)
      discoveredTool := fun key other =>
        (outside.discoveredTool key other).trans (same.discoveredTool key (free _ key)) }

end IntegrationUpdate

/-! ### Profiles and discovered tools -/

theorem get?_assignProfile_other (profiles : KeyedTable String McpWrapperProfile)
    {id other : String} (different : other ≠ id) (profile : McpWrapperProfile) :
    (assignProfile profiles id profile).get? other = profiles.get? other := by
  unfold assignProfile
  split
  · rfl
  · exact profiles.get?_set_other different profile

/-- The profile is assigned unless its id is the name of the prototype and no member yet. -/
theorem get?_assignProfile_self (profiles : KeyedTable String McpWrapperProfile) (id : String)
    (profile : McpWrapperProfile) :
    (assignProfile profiles id profile).get? id =
      if id = "__proto__" ∧ profiles.get? id = none then none else some profile := by
  unfold assignProfile
  split
  · rename_i proto
    exact proto.2
  · exact profiles.get?_set_self id profile

theorem assignProfile_eq_self_iff (profiles : KeyedTable String McpWrapperProfile) (id : String)
    (profile : McpWrapperProfile) :
    assignProfile profiles id profile = profiles ↔
      profiles.get? id = some profile ∨ (id = "__proto__" ∧ profiles.get? id = none) := by
  unfold assignProfile
  split
  · rename_i proto
    exact ⟨fun _ => .inr proto, fun _ => rfl⟩
  · rename_i plain
    rw [KeyedTable.set_eq_self_iff]
    exact ⟨.inl, fun either => either.resolve_right plain⟩

theorem normalizedProfiles_assign {profiles : KeyedTable String McpWrapperProfile}
    (normal : normalizedProfiles profiles = profiles) (id : String)
    (members : KeyedTable String Json) :
    normalizedProfiles (assignProfile profiles id (savedProfile id members)) =
      assignProfile profiles id (savedProfile id members) := by
  unfold assignProfile
  split
  · exact normal
  · refine KeyedTable.filterMap_of_settled (KeyedTable.settled_set ?_ rfl)
    intro other profile found
    have kept := get?_normalizedProfiles profiles other
    rw [normal, found] at kept
    exact kept.symm

theorem discoveredToolKey_injective {profileId : String} {left right : String}
    (same : discoveredToolKey profileId left = discoveredToolKey profileId right) :
    left = right := by
  unfold discoveredToolKey at same
  have lists := congrArg String.toList same
  simp only [String.toList_append] at lists
  exact String.toList_inj.mp (List.append_cancel_left lists)

/-! ### What an update writes -/

section

variable {parseUrl : String → Option UrlParts} {settings : IntegrationSettings}

theorem updateSlack_ok {input : LocalSlackIntegrationConfig} {config next : LocalIntegrationConfig}
    (edited : updateSlack settings input config = .ok next) :
    ∃ slack, normalizeSlackIntegrationConfig slack = slack ∧
      next = { config with slack := some slack } := by
  unfold updateSlack at edited
  split at edited
  · cases edited
  · cases edited
    exact ⟨_, normalizeSlack_again _, rfl⟩

theorem updateTelegram_ok {input : LocalTelegramIntegrationConfig}
    {config next : LocalIntegrationConfig}
    (edited : updateTelegram settings input config = .ok next) :
    ∃ telegram, normalizeTelegramIntegrationConfig telegram = telegram ∧
      next = { config with telegram := some telegram } := by
  unfold updateTelegram at edited
  split at edited
  · cases edited
  · cases edited
    exact ⟨_, normalizeTelegram_again _, rfl⟩

theorem updateEmail_ok (standard : StandardUrl parseUrl) {input : LocalEmailIntegrationConfig}
    {config next : LocalIntegrationConfig}
    (edited : updateEmail parseUrl settings input config = .ok next) :
    ∃ email, normalizeEmailIntegrationConfig parseUrl email = .ok email ∧
      next = { config with email := some email } := by
  unfold updateEmail at edited
  split at edited
  · cases edited
  · cases requested : normalizeEmailPublicBaseUrl parseUrl input.publicBaseUrl .default with
    | error error =>
        simp only [requested] at edited
        cases edited
    | ok requested' =>
        cases environment :
            normalizeEmailPublicBaseUrl parseUrl settings.emailPublicBaseUrl .default with
        | error error =>
            simp only [requested, environment] at edited
            cases edited
        | ok environment' =>
            simp only [requested, environment, bind, Except.bind] at edited
            split at edited
            · cases edited
            · split at edited
              · cases edited
              · rename_i normal accepted
                cases edited
                exact ⟨normal, normalizeEmail_again standard accepted, rfl⟩

theorem updateToolIntegration_eq (id : ToolIntegrationId) (input : LocalToolIntegrationConfig)
    (config : LocalIntegrationConfig) :
    ∃ tool, normalizeToolIntegrationConfig tool = tool ∧
      updateToolIntegration id input config =
        { config with tools := some (fun other =>
          if other = id then some tool else (config.tools.getD (fun _ => none)) other) } :=
  ⟨_, normalizeTool_again _, rfl⟩

theorem normalConfig_iff (config : LocalIntegrationConfig) :
    NormalConfig parseUrl config ↔
      normalizeEmailSection parseUrl config.email = .ok config.email ∧
        config.mcpWrapper.map normalizeMcpWrapper = config.mcpWrapper ∧
        config.slack.map normalizeSlackIntegrationConfig = config.slack ∧
        config.telegram.map normalizeTelegramIntegrationConfig = config.telegram ∧
        config.tools.bind normalizeToolIntegrations = config.tools := by
  obtain ⟨email, mcpWrapper, slack, telegram, tools⟩ := config
  unfold NormalConfig normalizeLocalIntegrationConfig
  cases normalizeEmailSection parseUrl email with
  | error error => simp [bind, Except.bind]
  | ok normal => simp [bind, Except.bind]

theorem profiles_normal {config : LocalIntegrationConfig} (normal : NormalConfig parseUrl config) :
    normalizedProfiles (config.profiles.getD .empty) = config.profiles.getD .empty := by
  have wrapper := ((normalConfig_iff config).mp normal).2.1
  unfold LocalIntegrationConfig.profiles
  cases held : config.mcpWrapper with
  | none => rfl
  | some mcpWrapper =>
      rw [held] at wrapper
      have same := congrArg McpWrapperConfig.profiles (Option.some.inj wrapper)
      rw [Option.bind_some]
      cases profiles : mcpWrapper.profiles with
      | none => rfl
      | some table =>
          simp only [normalizeMcpWrapper, profiles, Option.map_some, Option.some.injEq] at same
          exact same

end

section

variable [Runtime]

/-- The tools known once those that were brought are set under their keys. -/
def setDiscoveredTools (profileId : String) (policy : Option PolicyFile) (now : String)
    (tools : List DiscoveredToolInput) (known : KeyedTable String McpDiscoveredTool) :
    KeyedTable String McpDiscoveredTool :=
  tools.foldl (fun known tool => known.set (discoveredToolKey profileId tool.name)
    (discoveredToolRecord profileId policy now tool)) known

theorem get?_setDiscoveredTools_other {profileId : String} (policy : Option PolicyFile)
    (now : String) {tools : List DiscoveredToolInput}
    (known : KeyedTable String McpDiscoveredTool) {key : String}
    (other : ∀ tool ∈ tools, key ≠ discoveredToolKey profileId tool.name) :
    (setDiscoveredTools profileId policy now tools known).get? key = known.get? key := by
  induction tools generalizing known with
  | nil => rfl
  | cons tool rest ih =>
      rw [List.forall_mem_cons] at other
      exact (ih _ other.2).trans (known.get?_set_other other.1 _)

theorem get?_setDiscoveredTools_brought {profileId : String} (policy : Option PolicyFile)
    (now : String) {tools : List DiscoveredToolInput}
    (known : KeyedTable String McpDiscoveredTool) {name : String}
    (there : (∃ tool ∈ tools, tool.name = name) ∨
      ∃ record, known.get? (discoveredToolKey profileId name) = some record ∧
        record.profileId = profileId ∧ record.name = name) :
    ∃ record, (setDiscoveredTools profileId policy now tools known).get?
        (discoveredToolKey profileId name) = some record ∧
      record.profileId = profileId ∧ record.name = name := by
  induction tools generalizing known with
  | nil =>
      rcases there with ⟨tool, member, _⟩ | held
      · cases member
      · exact held
  | cons first rest ih =>
      refine ih _ ?_
      by_cases same : first.name = name
      · exact .inr ⟨discoveredToolRecord profileId policy now first,
          by subst same; exact known.get?_set_self _ _, rfl, same⟩
      · rcases there with ⟨tool, member, named⟩ | ⟨record, found, own⟩
        · rcases List.mem_cons.mp member with rfl | later
          · exact absurd named same
          · exact .inl ⟨tool, later, named⟩
        · have different : discoveredToolKey profileId name ≠
              discoveredToolKey profileId first.name :=
            fun keys => same (discoveredToolKey_injective keys).symm
          exact .inr ⟨record, (known.get?_set_other different _).trans found, own⟩

theorem saveMcpDiscoveredTools_ok {profileId : String} {tools : List DiscoveredToolInput}
    {policy : Option PolicyFile} {now : String} {config next : LocalIntegrationConfig}
    (edited : saveMcpDiscoveredTools profileId tools policy now config = .ok next) :
    next = { config with mcpWrapper := some {
      discoveredTools := some (setDiscoveredTools profileId policy now tools
        (config.discoveredTools.getD .empty))
      profiles := config.profiles } } := by
  unfold saveMcpDiscoveredTools at edited
  split at edited
  · cases edited
    rfl
  · cases edited

variable {parseUrl : String → Option UrlParts} {settings : IntegrationSettings}

theorem edit_normal (standard : StandardUrl parseUrl) {update : IntegrationUpdate}
    {config next : LocalIntegrationConfig} (normal : NormalConfig parseUrl config)
    (edited : update.edit parseUrl settings config = .ok next) : NormalConfig parseUrl next := by
  have profiles := profiles_normal normal
  obtain ⟨email, mcpWrapper, slack, telegram, tools⟩ := (normalConfig_iff config).mp normal
  rw [normalConfig_iff]
  cases update with
  | slack input =>
      obtain ⟨section', own, rfl⟩ := updateSlack_ok edited
      exact ⟨email, mcpWrapper, congrArg some own, telegram, tools⟩
  | telegram input =>
      obtain ⟨section', own, rfl⟩ := updateTelegram_ok edited
      exact ⟨email, mcpWrapper, slack, congrArg some own, tools⟩
  | email input =>
      obtain ⟨section', own, rfl⟩ := updateEmail_ok standard edited
      refine ⟨?_, mcpWrapper, slack, telegram, tools⟩
      show (normalizeEmailIntegrationConfig parseUrl section').map some = _
      rw [own]
      rfl
  | tool id input =>
      obtain ⟨tool, own, same⟩ := updateToolIntegration_eq id input config
      cases edited
      rw [same]
      refine ⟨email, mcpWrapper, slack, telegram, ?_⟩
      have others : ∀ other, ((config.tools.getD (fun _ => none)) other).map
          normalizeToolIntegrationConfig = (config.tools.getD (fun _ => none)) other := by
        intro other
        cases held : config.tools with
        | none => rfl
        | some before =>
            rw [held] at tools
            simp only [Option.bind_some, normalizeToolIntegrations] at tools
            split at tools
            · exact congrFun (Option.some.inj tools) other
            · cases tools
      show normalizeToolIntegrations _ = _
      unfold normalizeToolIntegrations
      rw [if_pos (by cases id <;> simp [toolIntegrationIds])]
      congr 1
      funext other
      dsimp only
      split
      · rw [Option.map_some, own]
      · exact others other
  | mcpProfile id members =>
      cases edited
      refine ⟨email, ?_, slack, telegram, tools⟩
      simp only [saveMcpProfile, Option.map_some, normalizeMcpWrapper,
        normalizedProfiles_assign profiles]
  | mcpDiscoveredTools profileId brought policy now =>
      rw [saveMcpDiscoveredTools_ok edited]
      refine ⟨email, ?_, slack, telegram, tools⟩
      simp only [Option.map_some, normalizeMcpWrapper]
      cases held : config.profiles with
      | none => rfl
      | some table =>
          rw [held] at profiles
          rw [Option.map_some]
          exact congrArg (fun table => some (McpWrapperConfig.mk _ (some table))) profiles

theorem saveMcpProfile_normal (standard : StandardUrl parseUrl) {config : LocalIntegrationConfig}
    (normal : NormalConfig parseUrl config) (id : String) (members : KeyedTable String Json) :
    NormalConfig parseUrl (saveMcpProfile id members config) := by
  have edited : (IntegrationUpdate.mcpProfile id members).edit parseUrl ⟨none, none⟩ config =
      .ok (saveMcpProfile id members config) := rfl
  exact edit_normal standard normal edited

/-- An update changes nothing outside what it addresses, unless a tool it brings has the key of
another's. -/
theorem edit_outside (standard : StandardUrl parseUrl) {update : IntegrationUpdate}
    {config next : LocalIntegrationConfig} (apart : update.Apart config)
    (edited : update.edit parseUrl settings config = .ok next) : update.Outside config next := by
  cases update with
  | slack input =>
      obtain ⟨section', _, rfl⟩ := updateSlack_ok edited
      exact IntegrationUpdate.outside_of_sections (fun _ => rfl) rfl (absurd rfl) (fun _ => rfl)
        (fun _ => rfl) (fun _ _ => rfl)
  | telegram input =>
      obtain ⟨section', _, rfl⟩ := updateTelegram_ok edited
      exact IntegrationUpdate.outside_of_sections (fun _ => rfl) rfl (fun _ => rfl) (absurd rfl)
        (fun _ => rfl) (fun _ _ => rfl)
  | email input =>
      obtain ⟨section', _, rfl⟩ := updateEmail_ok standard edited
      exact IntegrationUpdate.outside_of_sections (absurd rfl) rfl (fun _ => rfl) (fun _ => rfl)
        (fun _ => rfl) (fun _ _ => rfl)
  | tool id input =>
      obtain ⟨tool, _, written⟩ := updateToolIntegration_eq id input config
      cases edited
      rw [written]
      refine IntegrationUpdate.outside_of_sections (fun _ => rfl) rfl (fun _ => rfl) (fun _ => rfl)
        (absurd rfl) (fun other different => ?_)
      simp only [LocalIntegrationConfig.tool, Option.bind_some]
      rw [if_neg (show ¬ other = id by exact different)]
      cases config.tools <;> rfl
  | mcpProfile id members =>
      cases edited
      exact {
        email := fun _ => rfl
        mcpWrapper := absurd rfl
        slack := fun _ => rfl
        telegram := fun _ => rfl
        tools := fun _ => rfl
        tool := fun _ _ => rfl
        profile := fun other different => by
          show config.profile other = (assignProfile (config.profiles.getD .empty) id
            (savedProfile id members)).get? other
          rw [get?_assignProfile_other _ different, LocalIntegrationConfig.profile]
          cases config.profiles <;> rfl
        discoveredTool := fun _ _ => rfl }
  | mcpDiscoveredTools profileId brought policy now =>
      rw [saveMcpDiscoveredTools_ok edited]
      exact {
        email := fun _ => rfl
        mcpWrapper := absurd rfl
        slack := fun _ => rfl
        telegram := fun _ => rfl
        tools := fun _ => rfl
        tool := fun _ _ => rfl
        profile := fun _ _ => rfl
        discoveredTool := fun key unaddressed => by
          have other : ∀ tool ∈ brought, key ≠ discoveredToolKey profileId tool.name := by
            rintro tool member rfl
            exact unaddressed ⟨tool, member, rfl, apart tool member⟩
          show config.discoveredTool key = (setDiscoveredTools profileId policy now brought
            (config.discoveredTools.getD .empty)).get? key
          rw [get?_setDiscoveredTools_other policy now _ other,
            LocalIntegrationConfig.discoveredTool]
          cases config.discoveredTools <;> rfl }

/-- Tools that are brought agree with what was there before only if they are apart from it. -/
theorem apart_of_outside {profileId : String} {brought : List DiscoveredToolInput}
    {policy : Option PolicyFile} {now : String} {config next : LocalIntegrationConfig}
    (edited : saveMcpDiscoveredTools profileId brought policy now config = .ok next)
    (outside : (IntegrationUpdate.mcpDiscoveredTools profileId brought policy now).Outside
      config next) :
    (IntegrationUpdate.mcpDiscoveredTools profileId brought policy now).Apart config := by
  intro tool member record found
  by_contra foreign
  have unaddressed : ¬ (IntegrationUpdate.mcpDiscoveredTools profileId brought policy
      now).AddressesDiscovered config (discoveredToolKey profileId tool.name) := by
    rintro ⟨other, _, keys, own⟩
    rw [discoveredToolKey_injective keys] at foreign
    exact foreign (own record found)
  have kept := outside.discoveredTool _ unaddressed
  rw [saveMcpDiscoveredTools_ok edited, found] at kept
  obtain ⟨brought', found', own⟩ := get?_setDiscoveredTools_brought policy now
    (config.discoveredTools.getD .empty) (.inl ⟨tool, member, rfl⟩)
  have same : some record = some brought' := kept.trans found'
  rw [Option.some.inj same] at foreign
  exact foreign own

/-! ### When an update is refused -/

/-- A URL that the normaliser refuses. -/
def UrlRefused (parseUrl : String → Option UrlParts) (value : Option String) : Prop :=
  ∃ error, normalizeEmailPublicBaseUrl parseUrl value .default = .error error

/-- The update is refused before anything is written: it brings secrets to an authenticated
deployment, a review URL that is not accepted, or tools of a profile that is not known. -/
def IntegrationUpdate.Refuses (parseUrl : String → Option UrlParts)
    (settings : IntegrationSettings) (config : LocalIntegrationConfig) : IntegrationUpdate → Prop
  | .slack input =>
      settings.authenticated = true ∧ (input.botToken.isSome ∨ input.signingSecret.isSome)
  | .telegram input =>
      settings.authenticated = true ∧ (input.botToken.isSome ∨ input.webhookSecret.isSome)
  | .email input =>
      (settings.authenticated = true ∧ (input.smtp.bind (·.password)).isSome) ∨
        UrlRefused parseUrl input.publicBaseUrl ∨
        UrlRefused parseUrl settings.emailPublicBaseUrl ∨
        ∃ requested environment,
          normalizeEmailPublicBaseUrl parseUrl input.publicBaseUrl .default =
            .ok (some requested) ∧
          normalizeEmailPublicBaseUrl parseUrl settings.emailPublicBaseUrl .default =
            .ok (some environment) ∧
          requested ≠ environment
  | .tool _ _ => False
  | .mcpProfile _ _ => False
  | .mcpDiscoveredTools profileId _ _ _ =>
      ¬ ∃ profiles, config.profiles = some profiles ∧ profileKnown profiles profileId = true

omit [Runtime] in
theorem email_url_normal {config : LocalIntegrationConfig} (normal : NormalConfig parseUrl config) :
    normalizeEmailPublicBaseUrl parseUrl (config.email.bind (·.publicBaseUrl)) .default =
      .ok (config.email.bind (·.publicBaseUrl)) := by
  have email := ((normalConfig_iff config).mp normal).1
  cases held : config.email with
  | none => rfl
  | some stored =>
      rw [held] at email
      simp only [normalizeEmailSection] at email
      cases own : normalizeEmailIntegrationConfig parseUrl stored with
      | error error =>
          rw [own] at email
          cases email
      | ok kept =>
          rw [own] at email
          cases email
          unfold normalizeEmailIntegrationConfig at own
          cases url : normalizeEmailPublicBaseUrl parseUrl stored.publicBaseUrl .default with
          | error error =>
              rw [url] at own
              cases own
          | ok url' =>
              rw [url] at own
              have same := Except.ok.inj own
              rw [Option.bind_some, url]
              exact congrArg Except.ok (congrArg LocalEmailIntegrationConfig.publicBaseUrl same)

omit [Runtime] in
theorem merged_url_accepted {config : LocalIntegrationConfig}
    (normal : NormalConfig parseUrl config) {given requested : Option String}
    (environment : Option String)
    (accepted : normalizeEmailPublicBaseUrl parseUrl given .default = .ok requested) :
    ∃ url, normalizeEmailPublicBaseUrl parseUrl
      (if environment.isSome then
          safeEmailPublicBaseUrl parseUrl (config.email.bind (·.publicBaseUrl))
        else given <|> config.email.bind (·.publicBaseUrl)) .default = .ok url := by
  have stored := email_url_normal normal
  split
  · unfold safeEmailPublicBaseUrl
    rw [stored]
    exact ⟨_, stored⟩
  · cases given with
    | none => exact ⟨_, stored⟩
    | some url => exact ⟨_, accepted⟩

omit [Runtime] in
theorem updateEmail_refused_iff {input : LocalEmailIntegrationConfig}
    {config : LocalIntegrationConfig} (normal : NormalConfig parseUrl config) :
    (∃ error, updateEmail parseUrl settings input config = .error error) ↔
      (IntegrationUpdate.email input).Refuses parseUrl settings config := by
  unfold updateEmail
  by_cases secret : settings.authenticated = true ∧ (input.smtp.bind (·.password)).isSome
  · rw [if_pos secret]
    exact ⟨fun _ => .inl secret, fun _ => ⟨_, rfl⟩⟩
  rw [if_neg secret]
  cases requested : normalizeEmailPublicBaseUrl parseUrl input.publicBaseUrl .default with
  | error error => exact ⟨fun _ => .inr (.inl ⟨error, requested⟩), fun _ => ⟨error, rfl⟩⟩
  | ok requested' =>
      cases environment :
          normalizeEmailPublicBaseUrl parseUrl settings.emailPublicBaseUrl .default with
      | error error =>
          exact ⟨fun _ => .inr (.inr (.inl ⟨error, environment⟩)), fun _ => ⟨error, rfl⟩⟩
      | ok environment' =>
          by_cases conflict : requested'.isSome ∧ environment'.isSome ∧ requested' ≠ environment'
          · simp only [bind, Except.bind, if_pos conflict]
            obtain ⟨some, some', different⟩ := conflict
            obtain ⟨one, rfl⟩ := Option.isSome_iff_exists.mp some
            obtain ⟨other, rfl⟩ := Option.isSome_iff_exists.mp some'
            exact ⟨fun _ => .inr (.inr (.inr ⟨one, other, requested, environment, fun same =>
              different (congrArg Option.some same)⟩)), fun _ => ⟨_, rfl⟩⟩
          · simp only [bind, Except.bind, if_neg conflict]
            obtain ⟨url, accepted⟩ :=
              merged_url_accepted normal environment' requested
            simp only [normalizeEmailIntegrationConfig, accepted, bind, Except.bind]
            constructor
            · rintro ⟨error, impossible⟩
              cases impossible
            · rintro (impossible | ⟨_, refused⟩ | ⟨_, refused⟩ |
                ⟨one, other, same, same', different⟩)
              · exact absurd impossible secret
              · rw [requested] at refused
                cases refused
              · rw [environment] at refused
                cases refused
              · rw [requested] at same
                rw [environment] at same'
                cases same
                cases same'
                exact absurd ⟨rfl, rfl, fun same => different (Option.some.inj same)⟩ conflict

theorem edit_refused_iff {update : IntegrationUpdate} {config : LocalIntegrationConfig} (normal : NormalConfig parseUrl config) :
    (∃ error, update.edit parseUrl settings config = .error error) ↔
      update.Refuses parseUrl settings config := by
  cases update with
  | slack input =>
      simp only [IntegrationUpdate.edit, updateSlack, IntegrationUpdate.Refuses]
      split <;> simp_all
  | telegram input =>
      simp only [IntegrationUpdate.edit, updateTelegram, IntegrationUpdate.Refuses]
      split <;> simp_all
  | email input => exact updateEmail_refused_iff normal
  | tool id input => simp [IntegrationUpdate.edit, IntegrationUpdate.Refuses]
  | mcpProfile id members => simp [IntegrationUpdate.edit, IntegrationUpdate.Refuses]
  | mcpDiscoveredTools profileId brought policy now =>
      simp only [IntegrationUpdate.edit, saveMcpDiscoveredTools, IntegrationUpdate.Refuses]
      cases config.profiles with
      | none => simp
      | some profiles => by_cases known : profileKnown profiles profileId = true <;> simp [known]

/-! ### Whole calls -/

omit [Runtime] in
theorem readConfig_normal {config : LocalIntegrationConfig}
    (normal : NormalConfig parseUrl config) :
    readConfig parseUrl true (.holds config) = config := by
  rw [readConfig, if_pos rfl, normal]

/-- The stored configuration is read, with every section. -/
def ReadWhole (parseUrl : String → Option UrlParts) (answers : FileAnswers)
    (stored : LocalIntegrationConfig) : Prop :=
  answers.readable = true ∧ EmailAccepted parseUrl stored

namespace IntegrationUpdate

/-- The call is done and what is read afterwards agrees with the stored configuration, each section
normalised, outside what the call addresses; or it throws and the file is as it was. -/
def LeavesOthersAlone (parseUrl : String → Option UrlParts) (settings : IntegrationSettings)
    (update : IntegrationUpdate) (answers : FileAnswers) (stored : LocalIntegrationConfig) : Prop :=
  (∃ after, update.run parseUrl settings answers (.holds stored) = (after, .ok ()) ∧
    (update.addressed ≠ .email → EmailAccepted parseUrl stored) ∧
    update.Outside (normalSections parseUrl stored) (readConfig parseUrl true after)) ∨
  ∃ error, update.run parseUrl settings answers (.holds stored) = (.holds stored, .error error)

/-- Nothing is stored outside what the update addresses. -/
def StoresNothingElse (parseUrl : String → Option UrlParts) (update : IntegrationUpdate)
    (stored : LocalIntegrationConfig) : Prop :=
  (update.addressed ≠ .email → EmailAccepted parseUrl stored) ∧
    update.Outside (normalSections parseUrl stored) .empty

/-- The stored configuration is normal and has the profile; or it has nothing but the profile, if it
is not read. -/
def AlreadySaved (parseUrl : String → Option UrlParts) (answers : FileAnswers)
    (stored : LocalIntegrationConfig) : IntegrationUpdate → Prop
  | .mcpProfile id members =>
      (ReadWhole parseUrl answers stored ∧ NormalConfig parseUrl stored ∧
        ∃ profiles, stored.profiles = some profiles ∧
          (profiles.get? id = some (savedProfile id members) ∨
            (id = "__proto__" ∧ profiles.get? id = none))) ∨
      (¬ ReadWhole parseUrl answers stored ∧ stored = saveMcpProfile id members .empty)
  | _ => False

/-- Nothing gets in the way of what is stored beside the update. -/
def Undisturbing (parseUrl : String → Option UrlParts) (settings : IntegrationSettings)
    (update : IntegrationUpdate) (answers : FileAnswers) (stored : LocalIntegrationConfig) : Prop :=
  update.Refuses parseUrl settings (readConfig parseUrl answers.readable (.holds stored)) ∨
  answers.configWrite = .refused ∨
  (answers.configWrite = .done ∧
    if update.writesYaml = true ∧ answers.yamlWritten = false then
      update.AlreadySaved parseUrl answers stored
    else (ReadWhole parseUrl answers stored ∧ update.Apart stored) ∨
      update.StoresNothingElse parseUrl stored)

end IntegrationUpdate

omit [Runtime] in
theorem apart_normalSections_iff (update : IntegrationUpdate) (stored : LocalIntegrationConfig) :
    update.Apart (normalSections parseUrl stored) ↔ update.Apart stored := by
  have same : ∀ key, (normalSections parseUrl stored).discoveredTool key =
      stored.discoveredTool key := by
    intro key
    simp only [LocalIntegrationConfig.discoveredTool, LocalIntegrationConfig.discoveredTools,
      normalSections]
    cases stored.mcpWrapper <;> rfl
  cases update <;> simp only [IntegrationUpdate.Apart, same]

omit [Runtime] in
theorem apart_of_outside_empty {update : IntegrationUpdate} {config : LocalIntegrationConfig}
    (outside : update.Outside config .empty) : update.Apart config := by
  cases update with
  | mcpDiscoveredTools profileId brought policy now =>
      intro tool member record found
      by_contra foreign
      have kept := outside.discoveredTool (discoveredToolKey profileId tool.name) (by
        rintro ⟨other, _, keys, own⟩
        rw [discoveredToolKey_injective keys] at foreign
        exact foreign (own record found))
      rw [found] at kept
      cases kept
  | _ => trivial

theorem run_of_refused {update : IntegrationUpdate} {answers : FileAnswers} {file : ConfigFile}
    {error : String}
    (refused : update.edit parseUrl settings (readConfig parseUrl answers.readable file) =
      .error error) :
    update.run parseUrl settings answers file = (file, .error (.message error)) := by
  rw [IntegrationUpdate.run, refused]

theorem run_of_edited {update : IntegrationUpdate} {answers : FileAnswers} {file : ConfigFile}
    {next : LocalIntegrationConfig} (normal : NormalConfig parseUrl next)
    (edited : update.edit parseUrl settings (readConfig parseUrl answers.readable file) =
      .ok next) :
    update.run parseUrl settings answers file =
      match answers.configWrite with
      | .done =>
          if update.writesYaml = true ∧ answers.yamlWritten = false then
            (.holds next, .error .fileSystem)
          else (.holds next, .ok ())
      | .refused => (file, .error .fileSystem)
      | .brokenOff => (.broken, .error .fileSystem) := by
  rw [IntegrationUpdate.run, edited]
  dsimp only
  rw [writeConfig, normal]
  cases answers.configWrite <;> rfl

/-- What is written agrees with what was stored exactly if the configuration was read whole, or
there was nothing else. -/
theorem written_outside_iff (standard : StandardUrl parseUrl) {update : IntegrationUpdate}
    {answers : FileAnswers} {stored next : LocalIntegrationConfig}
    (edited : update.edit parseUrl settings
      (readConfig parseUrl answers.readable (.holds stored)) = .ok next) :
    ((update.addressed ≠ .email → EmailAccepted parseUrl stored) ∧
        update.Outside (normalSections parseUrl stored) next) ↔
      (ReadWhole parseUrl answers stored ∧ update.Apart stored) ∨
        update.StoresNothingElse parseUrl stored := by
  obtain ⟨_, whole, otherwise⟩ := readConfig_holds standard answers.readable stored
  by_cases read : ReadWhole parseUrl answers stored
  · rw [whole read.1 read.2] at edited
    constructor
    · rintro ⟨_, outside⟩
      refine .inl ⟨read, ?_⟩
      cases update with
      | mcpDiscoveredTools profileId brought policy now =>
          exact (apart_normalSections_iff _ stored).mp (apart_of_outside edited outside)
      | _ => trivial
    · intro either
      have apart : update.Apart (normalSections parseUrl stored) := by
        rcases either with ⟨_, apart⟩ | ⟨_, nothing⟩
        · exact (apart_normalSections_iff update stored).mpr apart
        · exact apart_of_outside_empty nothing
      exact ⟨fun _ => read.2, edit_outside standard apart edited⟩
  · rw [otherwise read] at edited
    have free : ∀ config key, ¬ update.AddressesDiscovered config key := by
      cases update with
      | mcpDiscoveredTools profileId brought policy now =>
          -- no profile is known in an empty configuration
          cases edited
      | _ => exact fun _ _ impossible => impossible
    have apart : update.Apart .empty := by
      cases update with
      | mcpDiscoveredTools profileId brought policy now => cases edited
      | _ => trivial
    have outside := edit_outside standard apart edited
    rw [IntegrationUpdate.outside_iff_outside free outside]
    constructor
    · exact fun nothing => .inr nothing
    · rintro (⟨impossible, _⟩ | nothing)
      · exact absurd impossible read
      · exact nothing

omit [Runtime] in
/-- Saving a profile in a normal configuration changes nothing exactly if it is there. -/
theorem saveMcpProfile_eq_self_iff {id : String} {members : KeyedTable String Json}
    {config : LocalIntegrationConfig} :
    saveMcpProfile id members config = config ↔
      ∃ profiles, config.profiles = some profiles ∧
        (profiles.get? id = some (savedProfile id members) ∨
          (id = "__proto__" ∧ profiles.get? id = none)) := by
  constructor
  · intro same
    have kept := congrArg LocalIntegrationConfig.profiles same
    cases held : config.profiles with
    | none =>
        rw [held] at kept
        cases kept
    | some profiles =>
        rw [held] at kept
        simp only [saveMcpProfile, LocalIntegrationConfig.profiles, Option.bind_some] at kept held
        rw [held, Option.getD_some, Option.some.injEq] at kept
        exact ⟨profiles, rfl, (assignProfile_eq_self_iff profiles id _).mp kept⟩
  · rintro ⟨profiles, held, there⟩
    obtain ⟨email, mcpWrapper, slack, telegram, tools⟩ := config
    cases mcpWrapper with
    | none => cases held
    | some mcpWrapper =>
        obtain ⟨discoveredTools, profiles'⟩ := mcpWrapper
        obtain rfl : profiles' = some profiles := held
        show LocalIntegrationConfig.mk email (some ⟨discoveredTools, some (assignProfile profiles id
          (savedProfile id members))⟩) slack telegram tools = _
        rw [(assignProfile_eq_self_iff profiles id _).mpr there]

theorem alreadySaved_iff (standard : StandardUrl parseUrl) {answers : FileAnswers}
    {stored : LocalIntegrationConfig} {id : String} {members : KeyedTable String Json} :
    saveMcpProfile id members (readConfig parseUrl answers.readable (.holds stored)) = stored ↔
      (IntegrationUpdate.mcpProfile id members).AlreadySaved parseUrl answers stored := by
  obtain ⟨_, whole, otherwise⟩ := readConfig_holds standard answers.readable stored
  by_cases read : ReadWhole parseUrl answers stored
  · rw [whole read.1 read.2]
    constructor
    · intro same
      have written : NormalConfig parseUrl
          (saveMcpProfile id members (normalSections parseUrl stored)) :=
        saveMcpProfile_normal standard (normalSections_normal standard read.2) id members
      rw [same] at written
      have kept : normalSections parseUrl stored = stored :=
        Except.ok.inj ((normalizeLocal_of_accepted read.2).symm.trans written)
      rw [kept] at same
      exact .inl ⟨read, written, saveMcpProfile_eq_self_iff.mp same⟩
    · rintro (⟨_, normal, there⟩ | ⟨impossible, _⟩)
      · have kept : normalSections parseUrl stored = stored :=
          Except.ok.inj ((normalizeLocal_of_accepted read.2).symm.trans normal)
        rw [kept]
        exact saveMcpProfile_eq_self_iff.mpr there
      · exact absurd read impossible
  · rw [otherwise read]
    constructor
    · exact fun same => .inr ⟨read, same.symm⟩
    · rintro (⟨impossible, _⟩ | ⟨_, same⟩)
      · exact absurd impossible read
      · exact same.symm

/-- An update leaves the other integrations alone exactly if it is refused, its write never starts,
or the write is done and the configuration was read whole or held nothing else; a profile whose
YAML file fails must have been saved before. -/
theorem update_leaves_others_alone_iff (standard : StandardUrl parseUrl)
    (settings : IntegrationSettings) (update : IntegrationUpdate) (answers : FileAnswers)
    (stored : LocalIntegrationConfig) :
    update.LeavesOthersAlone parseUrl settings answers stored ↔
      update.Undisturbing parseUrl settings answers stored := by
  have read := (readConfig_holds standard answers.readable stored).1
  unfold IntegrationUpdate.LeavesOthersAlone IntegrationUpdate.Undisturbing
  rw [← edit_refused_iff read]
  cases edited : update.edit parseUrl settings
      (readConfig parseUrl answers.readable (.holds stored)) with
  | error error =>
      rw [run_of_refused edited]
      exact ⟨fun _ => .inl ⟨error, rfl⟩, fun _ => .inr ⟨_, rfl⟩⟩
  | ok next =>
      have normal := edit_normal standard read edited
      have unrefused : ¬ ∃ error : String, Except.ok next = (Except.error error :
          Except String LocalIntegrationConfig) := by
        rintro ⟨error, impossible⟩
        cases impossible
      rw [run_of_edited normal edited]
      cases written : answers.configWrite with
      | refused => exact ⟨fun _ => .inr (.inl rfl), fun _ => .inr ⟨_, rfl⟩⟩
      | brokenOff =>
          constructor
          · rintro (⟨after, impossible, _⟩ | ⟨error, impossible⟩)
            · cases impossible
            · cases impossible
          · rintro (impossible | impossible | ⟨impossible, _⟩)
            · exact absurd impossible unrefused
            · cases impossible
            · cases impossible
      | done =>
          dsimp only
          by_cases failed : update.writesYaml = true ∧ answers.yamlWritten = false
          · rw [if_pos failed, if_pos failed]
            cases update with
            | mcpProfile id members =>
                cases edited
                rw [← alreadySaved_iff standard]
                constructor
                · rintro (⟨after, impossible, _⟩ | ⟨error, same⟩)
                  · cases impossible
                  · rw [Prod.mk.injEq, ConfigFile.holds.injEq] at same
                    exact .inr (.inr ⟨rfl, same.1⟩)
                · rintro (impossible | impossible | ⟨_, same⟩)
                  · exact absurd impossible unrefused
                  · cases impossible
                  · exact .inr ⟨_, by rw [same]⟩
            | _ => cases failed.1
          · rw [if_neg failed, if_neg failed, ← written_outside_iff standard edited]
            constructor
            · rintro (⟨after, same, kept⟩ | ⟨error, impossible⟩)
              · cases same
                rw [readConfig_normal normal] at kept
                exact .inr (.inr ⟨rfl, kept⟩)
              · cases impossible
            · rintro (impossible | impossible | ⟨_, kept⟩)
              · exact absurd impossible unrefused
              · cases impossible
              · refine .inl ⟨_, rfl, ?_⟩
                rw [readConfig_normal normal]
                exact kept

end

/-! ### A review URL without a scheme -/

/-- Knows one URL. -/
def oneUrl (text : String) : Option UrlParts :=
  if text = "https://mail.example.com" then
    some { protocol := "https:", username := "", password := "", host := "mail.example.com"
           pathname := "/" }
  else none

theorem oneUrl_standard : StandardUrl oneUrl := by
  have known : ∀ text parts, oneUrl text = some parts →
      parts = ⟨"https:", "", "", "mail.example.com", "/"⟩ := by
    intro text parts found
    unfold oneUrl at found
    split at found
    · exact (Option.some.inj found).symm
    · cases found
  have printed : UrlParts.baseText ⟨"https:", "", "", "mail.example.com", "/"⟩ =
      "https://mail.example.com" := by decide +kernel
  constructor
  · intro text parts found _ char member
    rw [known text parts found, printed] at member
    revert char
    exact List.all_iff_forall_prop.mp (by decide +kernel)
  · intro text parts found _
    rw [known text parts found, printed]
    have root : withoutTrailingSlashes "/" = "" := by decide +kernel
    rw [oneUrl, if_pos rfl]
    dsimp only
    rw [root, if_pos rfl]

def slackWithEmail (publicBaseUrl : String) : LocalIntegrationConfig :=
  { LocalIntegrationConfig.empty with
    email := some ⟨none, none, none, some publicBaseUrl, none, none⟩
    slack := some ⟨some "C1", none, none, none, none⟩ }

def telegramChat : IntegrationUpdate := .telegram ⟨some "42", none, none, none, none⟩

def answered : FileAnswers := { readable := true, configWrite := .done, yamlWritten := true }

theorem update_leaves_others_alone_iff_telegram :
    StandardUrl oneUrl ∧
      (@IntegrationUpdate.LeavesOthersAlone (sampleRuntime []) oneUrl ⟨none, none⟩ telegramChat
          answered (slackWithEmail "https://mail.example.com") ↔
        IntegrationUpdate.Undisturbing oneUrl ⟨none, none⟩ telegramChat
          answered (slackWithEmail "https://mail.example.com")) :=
  ⟨oneUrl_standard, @update_leaves_others_alone_iff (sampleRuntime []) oneUrl oneUrl_standard
    ⟨none, none⟩ telegramChat answered (slackWithEmail "https://mail.example.com")⟩

/-- The stored review URL lacks its scheme; an update of the Telegram section, which is done, loses
the Slack section. -/
theorem unread_email_loses_slack :
    StandardUrl oneUrl ∧
      (slackWithEmail "mail.example.com").slack.isSome = true ∧
      ¬ @IntegrationUpdate.LeavesOthersAlone (sampleRuntime []) oneUrl ⟨none, none⟩ telegramChat
        answered (slackWithEmail "mail.example.com") ∧
      ∃ after, @IntegrationUpdate.run (sampleRuntime []) oneUrl ⟨none, none⟩ telegramChat answered
          (.holds (slackWithEmail "mail.example.com")) = (after, .ok ()) ∧
        (readConfig oneUrl true after).slack = none := by
  have unread : readConfig oneUrl true (.holds (slackWithEmail "mail.example.com")) = .empty := by
    rfl
  have ran : @IntegrationUpdate.run (sampleRuntime []) oneUrl ⟨none, none⟩ telegramChat answered
      (.holds (slackWithEmail "mail.example.com")) =
        (.holds { LocalIntegrationConfig.empty with
          telegram := some ⟨some "42", none, none, none, none⟩ }, .ok ()) := by
    rfl
  refine ⟨oneUrl_standard, rfl, ?_, _, ran, rfl⟩
  rintro (⟨after, done, _, outside⟩ | ⟨error, impossible⟩)
  · rw [ran] at done
    cases done
    have lost := outside.slack (by decide)
    cases lost
  · rw [ran] at impossible
    cases impossible

end ActionProxy
