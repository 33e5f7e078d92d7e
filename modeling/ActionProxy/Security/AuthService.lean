import ActionProxy.Contracts.ApprovalAuthorization
import ActionProxy.Foundation.TextScan

/-!
Authentication of an `Authorization` header: API keys, OIDC tokens, and the
strict validation of access tokens at the MCP boundary. Decoding a token, its
key set and its signature are the verifier's; the checks of its claims and the
principals made of them are here.
-/

namespace ActionProxy

open JsonText

inductive AuthMode where
  | none | apiKey | oidcJwt
  deriving DecidableEq

inductive RequestError where
  | unauthorized (message : String)
  | forbidden (message : String)
  | rateLimited (message : String)
  | other (message : String)

structure OidcConfig where
  audience : Option String
  issuer : Option String
  emailClaim : String
  groupsClaim : String
  nameClaim : String
  scopesClaim : String

structure AuthConfig where
  mode : AuthMode
  workspaceId : String
  bootstrapAdminApiKey : Option String
  oidc : OidcConfig

structure ApiKeyRecord where
  keyHash : String
  revokedAt : Option String
  scopes : List String
  serviceAccountId : String
  workspaceId : String

structure ServiceAccountRecord where
  id : String
  name : String
  groups : List String
  scopes : List String
  revokedAt : Option String

/-- The service: its configuration, the records it looks up, and the verifier of
tokens. A verifier gives the claims of a token whose format, key and signature
are accepted, in the general and in the strict form. -/
structure AuthService where
  config : AuthConfig
  allowedScopes : List String
  getApiKeyByPrefix : String → Option ApiKeyRecord
  getServiceAccount : String → Option ServiceAccountRecord
  verifiedClaims : String → Except RequestError JsonObject
  verifiedMcpClaims : String → Except RequestError JsonObject

/-! ### Claims -/

def stringClaim (value : Option Json) : Option String := nonEmpty (value.bind asString?)

/-- Trimmed, not empty, and each once. -/
def uniqueStrings (values : List String) : List String :=
  (values.filterMap TextScan.content).eraseDups

/-- The pieces between separators. -/
def splitPieces (separator : Char → Bool) (text : String) : List String :=
  (text.toList.splitOnP separator).map String.ofList

def stringArrayClaim (value : Option Json) : List String :=
  match value with
  | some (.arr items) => uniqueStrings (items.filterMap asString?)
  | some (.str text) =>
      uniqueStrings (splitPieces (fun char => char == ',' || TextScan.isSpace char) text)
  | _ => []

def strictScopesClaim (value : Option Json) : Except RequestError (List String) :=
  match value with
  | none => .ok []
  | some (.str text) => .ok (uniqueStrings (splitPieces TextScan.isSpace text))
  | some (.arr items) =>
      if items.all (fun item => (asString? item).isSome) then
        .ok (uniqueStrings (items.filterMap asString?))
      else .error (.unauthorized "MCP access token scope claim is invalid.")
  | some _ => .error (.unauthorized "MCP access token scope claim is invalid.")

def restrictScopes (requested allowed : List String) : List String :=
  let requestedUnique := uniqueStrings requested
  if allowed.contains "*" then requestedUnique
  else requestedUnique.filter (fun scope => allowed.contains scope)

def audienceMatches (value : Option Json) (expected : String) : Bool :=
  match value with
  | some (.str text) => text == expected
  | some (.arr items) => items.any (fun item => asString? item == some expected)
  | _ => false

def strictAudienceMatches (value : Option Json) (expected : String) : Bool :=
  match value with
  | some (.str text) => text == expected
  | some (.arr items) =>
      !items.isEmpty && items.all (fun item => (asString? item).isSome) &&
        items.any (fun item => asString? item == some expected)
  | _ => false

/-- The expiry is a number and still to come. -/
def unexpired (claims : JsonObject) (nowSeconds : Int) : Bool :=
  match member? claims "exp" with
  | some (.num expiry) => (JsonNumber.ofInt nowSeconds).less expiry
  | _ => false

def active (claims : JsonObject) (nowSeconds : Int) : Bool :=
  match member? claims "nbf" with
  | none => true
  | some (.num start) => !(JsonNumber.ofInt nowSeconds).less start
  | some _ => false

/-- The client a token names, in one claim or consistently in two. -/
def mcpClientId (claims : JsonObject) : Except RequestError String :=
  let clientId := stringClaim (member? claims "client_id")
  let authorizedParty := stringClaim (member? claims "azp")
  if ((member? claims "client_id").isSome && clientId.isNone) ||
      ((member? claims "azp").isSome && authorizedParty.isNone) then
    .error (.unauthorized "MCP access token client identity is invalid.")
  else
    match clientId, authorizedParty with
    | some clientId, some authorizedParty =>
        if clientId ≠ authorizedParty then
          .error (.unauthorized "MCP access token client identity is inconsistent.")
        else .ok clientId
    | some clientId, none => .ok clientId
    | none, some authorizedParty => .ok authorizedParty
    | none, none => .error (.unauthorized "MCP access token client identity is missing.")

/-! ### Bearer tokens -/

section

variable [Runtime]

def bearerToken (value : Option String) : Option String := do
  let header ← nonEmpty value
  let scheme := header.toList.takeWhile (fun char => !TextScan.isSpace char)
  let rest := (header.toList.drop scheme.length).dropWhile TextScan.isSpace
  let token := String.ofList (rest.takeWhile (fun char => !TextScan.isSpace char))
  guard (Runtime.toLowerCase (String.ofList scheme) = "bearer")
  nonEmpty (some token)

/-- `/^apx_([^_]+)_/`. -/
def parseApiKeyPrefix (token : String) : Option String := do
  guard (TextScan.startsWith token "apx_")
  let rest := token.toList.drop 4
  let keyPrefix := rest.takeWhile (· != '_')
  guard (keyPrefix ≠ [] ∧ keyPrefix.length < rest.length)
  return String.ofList keyPrefix

def hashApiKey (token : String) : String := sha256Hex token

namespace AuthService

variable (service : AuthService)

def isBootstrapToken (token : String) : Bool :=
  (nonEmpty service.config.bootstrapAdminApiKey).any (· == token)

def localContext (actor : String) : AuthContext :=
  { principalId := actor
    principalType := .localUser
    displayName := actor
    email := if actor.toList.contains '@' then some actor else none
    groups := ["actionproxy-admins", "actionproxy-approvers"]
    scopes := ["*"]
    authProvider := .none
    clientId := none
    workspaceId := service.config.workspaceId }

def bootstrapContext : AuthContext :=
  { principalId := "bootstrap-admin"
    principalType := .serviceAccount
    displayName := "Bootstrap Admin"
    email := none
    groups := ["actionproxy-admins", "actionproxy-approvers"]
    scopes := ["*"]
    authProvider := .apiKey
    clientId := none
    workspaceId := service.config.workspaceId }

def authenticateApiKey (token : String) : Except RequestError AuthContext :=
  match parseApiKeyPrefix token with
  | none => .error (.unauthorized "Invalid API key format.")
  | some keyPrefix =>
      match service.getApiKeyByPrefix keyPrefix with
      | none => .error (.unauthorized "Invalid API key.")
      | some apiKey =>
          if (nonEmpty apiKey.revokedAt).isSome || apiKey.keyHash != hashApiKey token then
            .error (.unauthorized "Invalid API key.")
          else
            match service.getServiceAccount apiKey.serviceAccountId with
            | none => .error (.unauthorized "Service account is unavailable.")
            | some account =>
                if (nonEmpty account.revokedAt).isSome then
                  .error (.unauthorized "Service account is unavailable.")
                else
                  let granted := if apiKey.scopes.isEmpty then account.scopes else apiKey.scopes
                  .ok {
                    principalId := account.id
                    principalType := .serviceAccount
                    displayName := account.name
                    email := none
                    groups := account.groups
                    scopes := restrictScopes (restrictScopes granted account.scopes)
                      service.allowedScopes
                    authProvider := .apiKey
                    clientId := none
                    workspaceId := apiKey.workspaceId }

/-- The principal of a token's claims. -/
def oidcContext (claims : JsonObject) (principalId : String) (scopes : List String)
    (clientId : Option String) : AuthContext :=
  let email := stringClaim (member? claims service.config.oidc.emailClaim)
  { principalId := principalId
    principalType := .user
    displayName :=
      (stringClaim (member? claims service.config.oidc.nameClaim) <|> email).getD principalId
    email := email
    groups := stringArrayClaim (member? claims service.config.oidc.groupsClaim)
    scopes := restrictScopes scopes service.allowedScopes
    authProvider := .oidcJwt
    clientId := clientId
    workspaceId := service.config.workspaceId }

def oidcClaimsFailure (nowSeconds : Int) (claims : JsonObject) : Option String :=
  firstFailure [
    (!unexpired claims nowSeconds, "JWT expiry is missing or invalid."),
    (!active claims nowSeconds, "JWT is not active yet."),
    ((nonEmpty service.config.oidc.issuer).any
      (fun issuer => (member? claims "iss").bind asString? != some issuer),
      "JWT issuer is not trusted."),
    ((nonEmpty service.config.oidc.audience).any
      (fun audience => !audienceMatches (member? claims "aud") audience),
      "JWT audience is not trusted.")]

def authenticateOidcJwt (nowSeconds : Int) (token : String) : Except RequestError AuthContext :=
  match service.verifiedClaims token with
  | .error refused => .error refused
  | .ok claims =>
      match service.oidcClaimsFailure nowSeconds claims with
      | some message => .error (.unauthorized message)
      | none =>
          match stringClaim (member? claims "sub") <|> stringClaim (member? claims "email") with
          | none => .error (.unauthorized "JWT has no subject.")
          | some principalId =>
              .ok (service.oidcContext claims principalId
                (stringArrayClaim (member? claims service.config.oidc.scopesClaim)) none)

def authenticateAuthorizationHeader (nowSeconds : Int) (value : Option String) :
    Except RequestError AuthContext :=
  if service.config.mode = .none then .ok (service.localContext "local-admin")
  else
    match bearerToken value with
    | none => .error (.unauthorized "Bearer authentication is required.")
    | some token =>
        if service.isBootstrapToken token then .ok service.bootstrapContext
        else if TextScan.startsWith token "apx_" then service.authenticateApiKey token
        else if service.config.mode = .oidcJwt then service.authenticateOidcJwt nowSeconds token
        else .error (.unauthorized "API key authentication is required.")

def mcpClaimsFailure (nowSeconds : Int) (issuer expectedAudience : String)
    (claims : JsonObject) : Option String :=
  firstFailure [
    ((member? claims "iss").bind asString? != some issuer,
      "MCP access token issuer is not trusted."),
    (!strictAudienceMatches (member? claims "aud") expectedAudience,
      "MCP access token audience is not trusted."),
    (!unexpired claims nowSeconds, "MCP access token expiry is missing or invalid."),
    (!active claims nowSeconds, "MCP access token is not active.")]

/-- The principal of an accepted access token: it names a subject and a client
and asks for no wildcard scope. -/
def mcpContext (claims : JsonObject) : Except RequestError AuthContext :=
  match stringClaim (member? claims "sub") with
  | none => .error (.unauthorized "MCP access token subject is missing.")
  | some principalId => do
      let clientId ← mcpClientId claims
      let scopes ← strictScopesClaim (member? claims service.config.oidc.scopesClaim)
      if scopes.contains "*" then
        .error (.unauthorized "MCP access token wildcard scope is not allowed.")
      else .ok (service.oidcContext claims principalId scopes (some clientId))

/-- The strict validation of an access token: no API key and no bootstrap key. -/
def authenticateMcpAuthorizationHeader (nowSeconds : Int) (value : Option String)
    (expectedAudience : String) : Except RequestError AuthContext :=
  match bearerToken value with
  | none => .error (.unauthorized "MCP OAuth bearer authentication is required.")
  | some token =>
      if TextScan.startsWith token "apx_" || service.isBootstrapToken token then
        .error (.unauthorized "MCP OAuth bearer authentication is required.")
      else
        match nonEmpty service.config.oidc.issuer with
        | none => .error (.unauthorized "MCP OAuth issuer is not configured.")
        | some issuer =>
            if (TextScan.content expectedAudience).isNone then
              .error (.unauthorized "MCP OAuth audience is not configured.")
            else
              match service.verifiedMcpClaims token with
              | .error refused => .error refused
              | .ok claims =>
                  match mcpClaimsFailure nowSeconds issuer expectedAudience claims with
                  | some message => .error (.unauthorized message)
                  | none => service.mcpContext claims

/-! ### What the general authentication returns -/

end AuthService

end

end ActionProxy
