import Mathlib.Data.Bool.AllAny
import ActionProxy.Security.AuthService
import ActionProxy.Foundation.KeyedTable

/-!
API keys over their whole life: the accounts and keys that are stored, the key that a
request creates, and the scopes it is granted whenever it is presented again.
-/

namespace ActionProxy

/-! ### Scope lists -/

/-- A list that names `*` covers every scope. -/
def Covers (scopes : List String) (scope : String) : Prop := scope ∈ scopes ∨ "*" ∈ scopes

theorem mem_uniqueStrings {values : List String} {scope : String} :
    scope ∈ uniqueStrings values ↔ ∃ value ∈ values, TextScan.content value = some scope := by
  rw [uniqueStrings, List.mem_eraseDups, List.mem_filterMap]

theorem mem_restrictScopes {requested allowed : List String} {scope : String} :
    scope ∈ restrictScopes requested allowed ↔
      scope ∈ uniqueStrings requested ∧ Covers allowed scope := by
  rw [restrictScopes, Covers]
  by_cases wildcard : "*" ∈ allowed
  · simp [wildcard]
  · simp [wildcard, List.mem_filter]

theorem mem_uniqueStrings_restrict {requested allowed : List String} {scope : String} :
    scope ∈ uniqueStrings (restrictScopes requested allowed) ↔
      scope ∈ restrictScopes requested allowed := by
  have trimmed : ∀ value ∈ restrictScopes requested allowed,
      TextScan.content value = some value := by
    intro value listed
    obtain ⟨given, _, content⟩ := mem_uniqueStrings.mp (mem_restrictScopes.mp listed).1
    exact (TextScan.content_eq_some content).1
  rw [mem_uniqueStrings]
  constructor
  · rintro ⟨value, listed, content⟩
    rw [trimmed value listed] at content
    cases content
    exact listed
  · intro listed
    exact ⟨scope, listed, trimmed scope listed⟩

theorem mem_restrictScopes_twice {requested first second : List String} {scope : String} :
    scope ∈ restrictScopes (restrictScopes requested first) second ↔
      scope ∈ uniqueStrings requested ∧ Covers first scope ∧ Covers second scope := by
  rw [mem_restrictScopes, mem_uniqueStrings_restrict, mem_restrictScopes, and_assoc]

/-! ### Stored records -/

/-- The text of a UUID. -/
structure Uuid where
  text : String
  digits : (text.toList.filter (· != '-')).length = 32
  hexadecimal : ∀ char ∈ text.toList.filter (· != '-'),
    char.isDigit = true ∨ ('a' ≤ char ∧ char ≤ 'f')

structure ServiceAccountRow extends ServiceAccountRecord where
  createdAt : String
  description : Option String
  updatedAt : String
  workspaceId : String

structure ApiKeyRow extends ApiKeyRecord where
  createdAt : String
  id : String
  keyPrefix : String
  lastUsedAt : Option String

/-- The stored accounts by id and keys by prefix. -/
structure KeyStore where
  serviceAccounts : KeyedTable String ServiceAccountRow
  apiKeys : KeyedTable String ApiKeyRow
  filed : ∀ keyPrefix row, apiKeys.get? keyPrefix = some row → row.keyPrefix = keyPrefix

namespace KeyStore

theorem filed_empty (keyPrefix : String) (row : ApiKeyRow)
    (found : (KeyedTable.empty : KeyedTable String ApiKeyRow).get? keyPrefix = some row) :
    row.keyPrefix = keyPrefix := by
  cases found

def empty : KeyStore :=
  { serviceAccounts := KeyedTable.empty, apiKeys := KeyedTable.empty, filed := filed_empty }

variable (store : KeyStore)

/-- `createServiceAccount` of the store. -/
def putServiceAccount (row : ServiceAccountRow) : KeyStore :=
  { store with serviceAccounts := store.serviceAccounts.set row.id row }

theorem filed_set (row : ApiKeyRow) (keyPrefix : String) (other : ApiKeyRow)
    (found : (store.apiKeys.set row.keyPrefix row).get? keyPrefix = some other) :
    other.keyPrefix = keyPrefix := by
  rw [KeyedTable.get?_set] at found
  split at found
  · rename_i same
    cases found
    exact same.symm
  · exact store.filed keyPrefix other found

/-- `createApiKey` and `updateApiKey` of the store. -/
def writeApiKey (row : ApiKeyRow) : KeyStore :=
  { store with
    apiKeys := store.apiKeys.set row.keyPrefix row
    filed := store.filed_set row }

end KeyStore

/-! ### Requests -/

structure CreateServiceAccountInput where
  description : Option String
  groups : Option (List String)
  name : String
  scopes : Option (List String)

/-- What a key is made of by chance and at what time. -/
structure KeyDraws where
  uuid : Uuid
  secret : String
  id : Uuid
  now : String

def KeyDraws.keyPrefix (draws : KeyDraws) : String :=
  String.ofList ((draws.uuid.text.toList.filter (· != '-')).take 12)

def KeyDraws.token (draws : KeyDraws) : String :=
  "apx_" ++ draws.keyPrefix ++ "_" ++ draws.secret

namespace AuthService

variable (service : AuthService)

/-- The service over what is stored. -/
def reading (store : KeyStore) : AuthService :=
  { service with
    getApiKeyByPrefix := fun keyPrefix =>
      (store.apiKeys.get? keyPrefix).map ApiKeyRow.toApiKeyRecord
    getServiceAccount := fun id =>
      (store.serviceAccounts.get? id).map ServiceAccountRow.toServiceAccountRecord }

/-- The first scope that is not allowed is refused, unless it is the empty text. -/
def assertSupportedScopes (scopes : List String) : Except RequestError Unit :=
  match nonEmpty (scopes.find? (fun scope => !service.allowedScopes.contains scope)) with
  | none => .ok ()
  | some unsupported =>
      .error (.forbidden ("Unsupported scope for this edition: " ++ unsupported))

def createServiceAccount (store : KeyStore) (input : CreateServiceAccountInput)
    (actorWorkspaceId : String) (id : Uuid) (now : String) :
    Except RequestError (KeyStore × ServiceAccountRow) := do
  let scopes := uniqueStrings (input.scopes.getD ["tool_call:submit", "tool_call:read"])
  service.assertSupportedScopes scopes
  let row : ServiceAccountRow :=
    { createdAt := now
      description := input.description
      groups := uniqueStrings (input.groups.getD [])
      id := "svc_" ++ id.text
      name := input.name
      scopes := scopes
      revokedAt := none
      updatedAt := now
      workspaceId := actorWorkspaceId }
  return (store.putServiceAccount row, row)

/-- The key of an account, with the scopes that it may have of those requested. -/
def newApiKey [Runtime] (serviceAccount : ServiceAccountRow) (serviceAccountId : String)
    (inputScopes : Option (List String)) (actorWorkspaceId : String) (draws : KeyDraws) :
    ApiKeyRow :=
  let requestedScopes := inputScopes.getD serviceAccount.scopes
  { createdAt := draws.now
    id := "key_" ++ draws.id.text
    keyHash := hashApiKey draws.token
    keyPrefix := draws.keyPrefix
    revokedAt := none
    lastUsedAt := none
    scopes := restrictScopes (restrictScopes requestedScopes serviceAccount.scopes)
      service.allowedScopes
    serviceAccountId := serviceAccountId
    workspaceId := actorWorkspaceId }

def createApiKey [Runtime] (store : KeyStore) (serviceAccountId : String)
    (inputScopes : Option (List String)) (actorWorkspaceId : String) (draws : KeyDraws) :
    Except RequestError (KeyStore × ApiKeyRow × String) :=
  match store.serviceAccounts.get? serviceAccountId with
  | none => .error (.forbidden "Service account is not available in this workspace.")
  | some serviceAccount =>
      if serviceAccount.workspaceId ≠ actorWorkspaceId then
        .error (.forbidden "Service account is not available in this workspace.")
      else if (nonEmpty serviceAccount.revokedAt).isSome then
        .error (.forbidden "Service account is revoked.")
      else
        match inputScopes.elim (.ok ()) service.assertSupportedScopes with
        | .error refused => .error refused
        | .ok _ =>
            let row := service.newApiKey serviceAccount serviceAccountId inputScopes
              actorWorkspaceId draws
            .ok (store.writeApiKey row, row, draws.token)

/-- The key presented, when it is accepted, is marked as used. -/
def markUsed [Runtime] (store : KeyStore) (token now : String) : KeyStore :=
  match (service.reading store).authenticateApiKey token,
      (parseApiKeyPrefix token).bind store.apiKeys.get? with
  | .ok _, some row => store.writeApiKey { row with lastUsedAt := some now }
  | _, _ => store

end AuthService

/-! ### Runs -/

inductive KeyEvent where
  | createServiceAccount (input : CreateServiceAccountInput) (workspaceId : String) (id : Uuid)
      (now : String)
  | createApiKey (serviceAccountId : String) (scopes : Option (List String))
      (workspaceId : String) (draws : KeyDraws)
  | authenticate (token now : String)

namespace AuthService

variable [Runtime] (service : AuthService)

/-- A request that is refused leaves what is stored. -/
def keyStep (store : KeyStore) : KeyEvent → KeyStore
  | .createServiceAccount input workspaceId id now =>
      match service.createServiceAccount store input workspaceId id now with
      | .ok created => created.1
      | .error _ => store
  | .createApiKey serviceAccountId scopes workspaceId draws =>
      match service.createApiKey store serviceAccountId scopes workspaceId draws with
      | .ok created => created.1
      | .error _ => store
  | .authenticate token now => service.markUsed store token now

def keyRun (store : KeyStore) (events : List KeyEvent) : KeyStore :=
  events.foldl service.keyStep store

/-- The draws of an event repeat neither the token of a key nor the id of its account. -/
def Spares (accountId token : String) : KeyEvent → Prop
  | .createServiceAccount _ _ id _ => "svc_" ++ id.text ≠ accountId
  | .createApiKey _ _ _ draws => draws.token ≠ token
  | .authenticate _ _ => True

/-- The account has its scopes, and the key, as long as it is there, its own. -/
structure KeyKept (store : KeyStore) (accountId : String) (accountScopes : List String)
    (keyPrefix token : String) (keyScopes : List String) : Prop where
  account : ∃ row, store.serviceAccounts.get? accountId = some row ∧ row.scopes = accountScopes
  key : ∀ row, store.apiKeys.get? keyPrefix = some row → row.keyHash = hashApiKey token →
    row.scopes = keyScopes ∧ row.serviceAccountId = accountId

omit [Runtime] in
theorem createServiceAccount_stored {store after : KeyStore} {input : CreateServiceAccountInput}
    {workspaceId now : String} {id : Uuid} {row : ServiceAccountRow}
    (created : service.createServiceAccount store input workspaceId id now = .ok (after, row)) :
    row.id = "svc_" ++ id.text ∧ after = store.putServiceAccount row := by
  unfold createServiceAccount at created
  cases supported : service.assertSupportedScopes
      (uniqueStrings (input.scopes.getD ["tool_call:submit", "tool_call:read"])) with
  | error refused =>
      simp only [supported] at created
      cases created
  | ok _ =>
      simp only [supported] at created
      cases created
      exact ⟨rfl, rfl⟩

/-- What a request for a key found, and what it stores. -/
structure KeyCreated (store after : KeyStore) (accountId : String)
    (inputScopes : Option (List String)) (draws : KeyDraws) (account : ServiceAccountRow)
    (row : ApiKeyRow) (token : String) : Prop where
  found : store.serviceAccounts.get? accountId = some account
  unrevoked : nonEmpty account.revokedAt = none
  stored : after = store.writeApiKey row
  made : ∃ workspaceId, row = service.newApiKey account accountId inputScopes workspaceId draws
  token : token = draws.token

theorem keyCreated_of_ok {store after : KeyStore} {accountId workspaceId token : String}
    {inputScopes : Option (List String)} {draws : KeyDraws} {row : ApiKeyRow}
    (created : service.createApiKey store accountId inputScopes workspaceId draws =
      .ok (after, row, token)) :
    ∃ account, service.KeyCreated store after accountId inputScopes draws account row token := by
  unfold createApiKey at created
  split at created
  · cases created
  · rename_i account found
    split at created
    · cases created
    · split at created
      · cases created
      · rename_i unrevoked
        have live : nonEmpty account.revokedAt = none := by simpa using unrevoked
        split at created
        · cases created
        · cases created
          exact ⟨account,
            { found := found, unrevoked := live, stored := rfl, made := ⟨workspaceId, rfl⟩
              token := rfl }⟩

theorem createApiKey_ok {store : KeyStore} {accountId : String}
    {inputScopes : Option (List String)} {account : ServiceAccountRow}
    (found : store.serviceAccounts.get? accountId = some account)
    (live : nonEmpty account.revokedAt = none)
    (supported : inputScopes.elim (.ok ()) service.assertSupportedScopes = .ok ())
    (draws : KeyDraws) :
    service.createApiKey store accountId inputScopes account.workspaceId draws =
      .ok (store.writeApiKey (service.newApiKey account accountId inputScopes account.workspaceId
          draws),
        service.newApiKey account accountId inputScopes account.workspaceId draws, draws.token) := by
  simp only [createApiKey, found, live, supported, ne_eq, not_true_eq_false, if_false,
    Option.isSome_none, Bool.false_eq_true]

/-! ### What every request keeps -/

section

variable (injective : Function.Injective sha256Hex) {accountId keyPrefix token : String}
  {accountScopes keyScopes : List String}

omit [Runtime] in
theorem get?_putServiceAccount {store : KeyStore} {row : ServiceAccountRow}
    (other : row.id ≠ accountId) :
    (store.putServiceAccount row).serviceAccounts.get? accountId =
      store.serviceAccounts.get? accountId :=
  store.serviceAccounts.get?_set_other (Ne.symm other) row

/-- Another key, even under the same prefix, is not the key of the token. -/
theorem keyKept_write {store : KeyStore} {row : ApiKeyRow}
    (kept : KeyKept store accountId accountScopes keyPrefix token keyScopes)
    (spared : row.keyPrefix = keyPrefix → row.keyHash = hashApiKey token →
      row.scopes = keyScopes ∧ row.serviceAccountId = accountId) :
    KeyKept (store.writeApiKey row) accountId accountScopes keyPrefix token keyScopes where
  account := kept.account
  key := by
    intro other found hashed
    have looked : (store.apiKeys.set row.keyPrefix row).get? keyPrefix = some other := found
    rw [KeyedTable.get?_set] at looked
    split at looked
    · rename_i same
      cases looked
      exact spared same.symm hashed
    · exact kept.key other looked hashed

theorem keyKept_markUsed {store : KeyStore} (presented now : String)
    (kept : KeyKept store accountId accountScopes keyPrefix token keyScopes) :
    KeyKept (service.markUsed store presented now) accountId accountScopes keyPrefix token
      keyScopes := by
  unfold markUsed
  split
  · rename_i context row accepted found
    apply keyKept_write kept
    intro same hashed
    obtain ⟨read, _, looked⟩ := Option.bind_eq_some_iff.mp found
    have filed := store.filed read row looked
    apply kept.key row ?_ hashed
    rw [← same, filed]
    exact looked
  · exact kept

include injective in
theorem keyKept_step {store : KeyStore} {event : KeyEvent} (spares : Spares accountId token event)
    (kept : KeyKept store accountId accountScopes keyPrefix token keyScopes) :
    KeyKept (service.keyStep store event) accountId accountScopes keyPrefix token keyScopes := by
  cases event with
  | createServiceAccount input workspaceId id now =>
      unfold keyStep
      simp only
      split
      · rename_i created made
        obtain ⟨named, stored⟩ := service.createServiceAccount_stored made
        refine { account := ?_, key := ?_ }
        · obtain ⟨row, found, scopes⟩ := kept.account
          refine ⟨row, ?_, scopes⟩
          rw [stored, get?_putServiceAccount (named ▸ spares)]
          exact found
        · rw [stored]
          exact kept.key
      · exact kept
  | createApiKey serviceAccountId scopes workspaceId draws =>
      unfold keyStep
      simp only
      split
      · rename_i created made
        obtain ⟨account, key⟩ := service.keyCreated_of_ok made
        rw [key.stored]
        apply keyKept_write kept
        intro _ hashed
        obtain ⟨_, row⟩ := key.made
        rw [row] at hashed
        exact absurd (injective hashed) spares
      · exact kept
  | authenticate presented now => exact service.keyKept_markUsed presented now kept

include injective in
theorem keyKept_run {store : KeyStore} {events : List KeyEvent}
    (spares : ∀ event ∈ events, Spares accountId token event)
    (kept : KeyKept store accountId accountScopes keyPrefix token keyScopes) :
    KeyKept (service.keyRun store events) accountId accountScopes keyPrefix token keyScopes := by
  induction events generalizing store with
  | nil => exact kept
  | cons event rest ih =>
      have next := service.keyKept_step injective (spares event List.mem_cons_self) kept
      exact ih (fun later listed => spares later (List.mem_cons_of_mem _ listed)) next

end

/-! ### Presenting a key -/

omit [Runtime] in
theorem keyPrefix_chars (draws : KeyDraws) :
    draws.keyPrefix.toList ≠ [] ∧ '_' ∉ draws.keyPrefix.toList := by
  rw [KeyDraws.keyPrefix, String.toList_ofList]
  constructor
  · intro empty
    have long := draws.uuid.digits
    have short := congrArg List.length empty
    rw [List.length_take, long] at short
    cases short
  · intro listed
    have digit := draws.uuid.hexadecimal '_' (List.mem_of_mem_take listed)
    revert digit
    decide

omit [Runtime] in
theorem parseApiKeyPrefix_token (draws : KeyDraws) :
    parseApiKeyPrefix draws.token = some draws.keyPrefix := by
  obtain ⟨some, plain⟩ := keyPrefix_chars draws
  have text : draws.token.toList =
      "apx_".toList ++ (draws.keyPrefix.toList ++ '_' :: draws.secret.toList) := by
    simp [KeyDraws.token]
  have marked : TextScan.startsWith draws.token "apx_" = true := by
    rw [TextScan.startsWith, text, List.isPrefixOf_iff_prefix]
    exact List.prefix_append _ _
  have rest : draws.token.toList.drop 4 = draws.keyPrefix.toList ++ '_' :: draws.secret.toList := by
    rw [text]
    rfl
  have before : (draws.token.toList.drop 4).takeWhile (· != '_') = draws.keyPrefix.toList := by
    rw [rest, List.takeWhile_append_of_pos]
    · simp
    · intro char listed
      simp only [bne_iff_ne]
      intro same
      exact plain (same ▸ listed)
  have longer : draws.keyPrefix.toList.length < (draws.token.toList.drop 4).length := by
    rw [rest, List.length_append, List.length_cons]
    omega
  simp only [parseApiKeyPrefix, marked, before, longer, some, guard, if_true, ne_eq,
    not_false_eq_true, and_self, String.ofList_toList]
  rfl

/-- The scopes of a key when it is presented: those stored, or all of its account's. -/
def presentedScopes (stored accountScopes : List String) : List String :=
  restrictScopes (restrictScopes (if stored.isEmpty then accountScopes else stored) accountScopes)
    service.allowedScopes

theorem presented_of_ok {store : KeyStore} {token : String} {context : AuthContext}
    (accepted : (service.reading store).authenticateApiKey token = .ok context) :
    ∃ keyPrefix row account, parseApiKeyPrefix token = some keyPrefix ∧
      store.apiKeys.get? keyPrefix = some row ∧ row.keyHash = hashApiKey token ∧
      store.serviceAccounts.get? row.serviceAccountId = some account ∧
      context.scopes = service.presentedScopes row.scopes account.scopes := by
  unfold authenticateApiKey at accepted
  split at accepted
  · cases accepted
  rename_i keyPrefix parsed
  split at accepted
  · cases accepted
  rename_i apiKey looked
  obtain ⟨row, found, rfl⟩ := Option.map_eq_some_iff.mp looked
  split at accepted
  · cases accepted
  rename_i valid
  have hashed : row.keyHash = hashApiKey token := by
    simp only [Bool.or_eq_true, bne_iff_ne, not_or, ne_eq, Decidable.not_not] at valid
    exact valid.2
  split at accepted
  · cases accepted
  rename_i account named
  obtain ⟨stored, listed, rfl⟩ := Option.map_eq_some_iff.mp named
  split at accepted
  · cases accepted
  cases accepted
  exact ⟨keyPrefix, row, stored, parsed, found, hashed, listed, rfl⟩

theorem presented_at_once {store after : KeyStore} {accountId token : String}
    {inputScopes : Option (List String)} {draws : KeyDraws} {account : ServiceAccountRow}
    {row : ApiKeyRow}
    (created : service.KeyCreated store after accountId inputScopes draws account row token) :
    ∃ context, (service.reading after).authenticateApiKey token = .ok context ∧
      context.scopes = service.presentedScopes row.scopes account.scopes := by
  obtain ⟨workspaceId, made⟩ := created.made
  have found : after.apiKeys.get? draws.keyPrefix = some row := by
    rw [created.stored, made]
    exact KeyedTable.get?_set_self _ _ _
  have account' : after.serviceAccounts.get? row.serviceAccountId = some account := by
    rw [created.stored, made]
    exact created.found
  have usable : nonEmpty row.revokedAt = none := by
    rw [made]
    rfl
  have hashed : row.keyHash = hashApiKey token := by
    rw [made, created.token]
    rfl
  rw [created.token, authenticateApiKey, parseApiKeyPrefix_token]
  simp only [reading, found, Option.map_some, usable, Option.isSome_none, hashed, created.token,
    bne_self_eq_false, Bool.or_false, Bool.false_eq_true, if_false, account', created.unrevoked]
  exact ⟨_, rfl, rfl⟩

/-! ### Confinement -/

end AuthService

/-- Scopes that were requested, where any were, that the account has and that are allowed. -/
structure Confined (granted : List String) (requested : Option (List String))
    (accountScopes allowedScopes : List String) : Prop where
  requested : ∀ given ∈ requested, ∀ scope ∈ granted, scope ∈ uniqueStrings given
  account : ∀ scope ∈ granted, Covers accountScopes scope
  allowed : ∀ scope ∈ granted, Covers allowedScopes scope

/-- Of the scopes requested one is left, or the account has none to give. -/
def RequestLeavesScope (requested : Option (List String)) (accountScopes allowedScopes : List String) :
    Prop :=
  ∀ given ∈ requested,
    (∃ scope ∈ uniqueStrings given, Covers accountScopes scope ∧ Covers allowedScopes scope) ∨
      ∀ scope ∈ uniqueStrings accountScopes,
        Covers accountScopes scope → ¬Covers allowedScopes scope

namespace AuthService

variable [Runtime] (service : AuthService)

/-- Whatever happens after the key was stored, presenting it grants confined scopes. -/
def KeyConfined (stored : KeyStore) (accountId token : String) (requested : Option (List String))
    (accountScopes : List String) : Prop :=
  ∀ events, (∀ event ∈ events, Spares accountId token event) →
    ∀ context, (service.reading (service.keyRun stored events)).authenticateApiKey token =
        .ok context →
      Confined context.scopes requested accountScopes service.allowedScopes

omit [Runtime] in
theorem presentedScopes_within {stored accountScopes : List String} {scope : String}
    (granted : scope ∈ service.presentedScopes stored accountScopes) :
    Covers accountScopes scope ∧ Covers service.allowedScopes scope :=
  (mem_restrictScopes_twice.mp granted).2

omit [Runtime] in
theorem presentedScopes_confined {requested : Option (List String)} {accountScopes : List String}
    (leaves : RequestLeavesScope requested accountScopes service.allowedScopes) :
    Confined (service.presentedScopes (restrictScopes
      (restrictScopes (requested.getD accountScopes) accountScopes) service.allowedScopes)
      accountScopes) requested accountScopes service.allowedScopes where
  account := fun _ granted => (service.presentedScopes_within granted).1
  allowed := fun _ granted => (service.presentedScopes_within granted).2
  requested := by
    rintro given rfl scope granted
    rw [presentedScopes] at granted
    split at granted
    · rename_i nothing
      obtain ⟨listed, covered, allowed⟩ := mem_restrictScopes_twice.mp granted
      cases leaves given rfl with
      | inl kept =>
          obtain ⟨other, asked, both⟩ := kept
          have stored := mem_restrictScopes_twice.mpr ⟨asked, both⟩
          rw [List.isEmpty_iff] at nothing
          rw [Option.getD_some] at nothing
          rw [nothing] at stored
          cases stored
      | inr none => exact absurd allowed (none scope listed covered)
    · obtain ⟨listed, _⟩ := mem_restrictScopes_twice.mp granted
      have stored := mem_uniqueStrings_restrict.mp listed
      exact (mem_restrictScopes_twice.mp stored).1

/-- A key's scopes are confined whenever it is presented exactly when its request left it
one, or its account has none to give. -/
theorem api_key_confined_iff (injective : Function.Injective sha256Hex)
    {store after : KeyStore} {accountId workspaceId token : String}
    {requested : Option (List String)} {draws : KeyDraws} {row : ApiKeyRow}
    {account : ServiceAccountRow}
    (found : store.serviceAccounts.get? accountId = some account)
    (created : service.createApiKey store accountId requested workspaceId draws =
      .ok (after, row, token)) :
    service.KeyConfined after accountId token requested account.scopes ↔
      RequestLeavesScope requested account.scopes service.allowedScopes := by
  obtain ⟨owner, key⟩ := service.keyCreated_of_ok created
  have same : owner = account := Option.some_inj.mp (key.found.symm.trans found)
  subst same
  obtain ⟨_, made⟩ := key.made
  have scopes : row.scopes = restrictScopes
      (restrictScopes (requested.getD owner.scopes) owner.scopes) service.allowedScopes := by
    rw [made]
    rfl
  constructor
  · intro confined given asked
    by_cases kept : ∃ scope ∈ uniqueStrings given,
        Covers owner.scopes scope ∧ Covers service.allowedScopes scope
    · exact Or.inl kept
    · right
      intro scope listed covered allowed
      obtain ⟨context, accepted, granted⟩ := service.presented_at_once key
      have nothing : row.scopes = [] := by
        rw [scopes, List.eq_nil_iff_forall_not_mem]
        intro other stored
        rw [Option.mem_def.mp asked, Option.getD_some] at stored
        obtain ⟨requestedToo, both⟩ := mem_restrictScopes_twice.mp stored
        exact kept ⟨other, requestedToo, both⟩
      have presented : scope ∈ context.scopes := by
        rw [granted, nothing]
        exact mem_restrictScopes_twice.mpr ⟨listed, covered, allowed⟩
      have within := confined [] (fun _ none => absurd none List.not_mem_nil) context accepted
      exact kept ⟨scope, within.requested given asked scope presented, covered, allowed⟩
  · intro leaves events spares context accepted
    have start : KeyKept after accountId owner.scopes draws.keyPrefix token row.scopes := by
      rw [key.stored]
      refine { account := ⟨owner, key.found, rfl⟩, key := ?_ }
      intro other looked _
      have read : (store.apiKeys.set row.keyPrefix row).get? draws.keyPrefix = some other := looked
      rw [made] at read
      rw [show (service.newApiKey owner accountId requested _ draws).keyPrefix = draws.keyPrefix
        from rfl, KeyedTable.get?_set_self] at read
      cases read
      rw [made]
      exact ⟨rfl, rfl⟩
    have kept := service.keyKept_run injective spares start
    obtain ⟨keyPrefix, other, holder, parsed, looked, hashed, held, granted⟩ :=
      service.presented_of_ok accepted
    rw [key.token, parseApiKeyPrefix_token] at parsed
    cases parsed
    obtain ⟨sameScopes, sameAccount⟩ := kept.key other looked hashed
    obtain ⟨present, listed, unchanged⟩ := kept.account
    rw [sameAccount, listed] at held
    cases held
    rw [granted, sameScopes, unchanged, scopes]
    exact service.presentedScopes_confined leaves

end AuthService

def ALL_SCOPES : List String :=
  ["tool_call:submit", "tool_call:read", "approval:read", "approval:approve", "approval:reject",
    "audit:read", "policy:read", "policy:write", "admin:approvers", "admin:integrations",
    "admin:service_accounts", "execution_grant:consume"]

private def keyService : AuthService :=
  { config :=
      { mode := .apiKey
        workspaceId := "default"
        bootstrapAdminApiKey := none
        oidc :=
          { audience := none
            issuer := none
            emailClaim := "email"
            groupsClaim := "groups"
            nameClaim := "name"
            scopesClaim := "scope" } }
    allowedScopes := ALL_SCOPES
    getApiKeyByPrefix := fun _ => none
    getServiceAccount := fun _ => none
    verifiedClaims := fun _ => .error (.unauthorized "JWT key id is not trusted.")
    verifiedMcpClaims := fun _ => .error (.unauthorized "MCP access token key id is not trusted.") }

private def operatorAccount : ServiceAccountRow :=
  { id := "svc_operator"
    name := "operator"
    groups := []
    scopes := ["tool_call:read", "policy:write"]
    revokedAt := none
    createdAt := "2026-01-01T00:00:00.000Z"
    description := none
    updatedAt := "2026-01-01T00:00:00.000Z"
    workspaceId := "default" }

private def operatorStore : KeyStore := KeyStore.empty.putServiceAccount operatorAccount

private theorem operatorStore_found :
    operatorStore.serviceAccounts.get? "svc_operator" = some operatorAccount :=
  KeyedTable.get?_set_self (KeyedTable.empty : KeyedTable String ServiceAccountRow) _ _

private theorem sampleUuid_digits :
    ("0f8b6c1e-93d4-4b7e-8f00-a1b2c3d4e5f6".toList.filter (· != '-')).length = 32 := by decide

private theorem sampleUuid_hexadecimal :
    ∀ char ∈ "0f8b6c1e-93d4-4b7e-8f00-a1b2c3d4e5f6".toList.filter (· != '-'),
      char.isDigit = true ∨ ('a' ≤ char ∧ char ≤ 'f') :=
  List.all_iff_forall_prop.mp (by decide)

private def sampleUuid : Uuid :=
  { text := "0f8b6c1e-93d4-4b7e-8f00-a1b2c3d4e5f6"
    digits := sampleUuid_digits
    hexadecimal := sampleUuid_hexadecimal }

private def operatorDraws : KeyDraws :=
  { uuid := sampleUuid, secret := "secret", id := sampleUuid, now := "2026-01-02T00:00:00.000Z" }

/-- A key that is asked for no scopes grants every scope of its account. -/
theorem key_of_no_scopes_unconfined :
    let _ := sampleRuntime []
    ∃ after row token,
      keyService.createApiKey operatorStore "svc_operator" (some []) "default" operatorDraws =
        .ok (after, row, token) ∧
      ¬keyService.KeyConfined after "svc_operator" token (some []) operatorAccount.scopes := by
  let _ := sampleRuntime []
  have supported : (some []).elim (.ok ()) keyService.assertSupportedScopes = .ok () := by rfl
  have created := keyService.createApiKey_ok operatorStore_found rfl supported operatorDraws
  refine ⟨_, _, _, created, ?_⟩
  intro confined
  obtain ⟨account, key⟩ := keyService.keyCreated_of_ok created
  obtain rfl : account = operatorAccount := Option.some_inj.mp (key.found.symm.trans operatorStore_found)
  obtain ⟨context, accepted, granted⟩ := keyService.presented_at_once key
  have within := confined [] (fun _ none => absurd none List.not_mem_nil) context accepted
  have listed : "policy:write" ∈ context.scopes := by
    rw [granted]
    change "policy:write" ∈ keyService.presentedScopes [] operatorAccount.scopes
    exact mem_restrictScopes_twice.mpr ⟨by decide, Or.inl (by decide), Or.inl (by decide)⟩
  have asked := within.requested [] rfl "policy:write" listed
  cases asked

theorem key_of_one_scope_confined :
    let _ := sampleRuntime []
    ∃ after row token,
      keyService.createApiKey operatorStore "svc_operator" (some ["tool_call:read"]) "default"
        operatorDraws = .ok (after, row, token) ∧
      keyService.KeyConfined after "svc_operator" token (some ["tool_call:read"])
        operatorAccount.scopes := by
  let _ := sampleRuntime []
  have supported : (some ["tool_call:read"]).elim (.ok ()) keyService.assertSupportedScopes =
      .ok () := by rfl
  have created := keyService.createApiKey_ok operatorStore_found rfl supported operatorDraws
  refine ⟨_, _, _, created, ?_⟩
  apply (keyService.api_key_confined_iff (knownDigest_injective (by decide) (by decide))
    operatorStore_found created).mpr
  intro given asked
  obtain rfl := Option.some_inj.mp (Option.mem_def.mp asked)
  exact Or.inl ⟨"tool_call:read", by decide, Or.inl (by decide), Or.inl (by decide)⟩

end ActionProxy
