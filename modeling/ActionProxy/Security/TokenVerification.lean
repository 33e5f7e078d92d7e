import ActionProxy.Security.AuthService
import ActionProxy.Foundation.Base64Url
import ActionProxy.Foundation.LooseValue

/-!
The verifier of tokens: their segments, the key set they name a key of, and what is
thrown where a segment or a document is not what the code reads it as. JSON parsing, the
reading of bytes as text, URLs and signatures are the platform's.
-/

namespace ActionProxy

open JsonText

/-- A URL by the parts that are looked at, and its own text. -/
structure Url where
  protocol : String
  hostname : String
  username : String
  password : String
  hash : String
  href : String

structure TokenPlatform where
  utf8Text : List UInt8 → String
  parseJson : String → Option Json
  verifySignature : String → List UInt8 → JsonObject → Bool
  parseUrl : String → Option Url
  readFile : String → Option String

structure JwksConfig where
  jwksJson : Option String
  jwksPath : Option String
  jwksUri : Option String

/-- A body: the chunks that are read, and whether reading breaks off after them. -/
structure JwksBody where
  chunks : List (Option (List UInt8))
  broken : Bool
  cancelFails : Bool

structure JwksFetchResponse where
  ok : Bool
  contentLength : Option String
  body : Option JwksBody

abbrev Jwks := List JsonObject

structure LoadedMcpJwks where
  fromCache : Bool
  jwks : Jwks
  remote : Bool

structure JwksCache where
  fetchedAt : Int
  jwks : Jwks
  uri : String

/-- What the service remembers of remote key sets. -/
structure JwksState where
  cache : Option JwksCache
  unknownKidRefreshedAt : Int

/-- What a request meets: the readings of the clock and the outcomes of its fetches. -/
structure JwksEncounter where
  loadedAt : Int
  fetchedAt : Int
  refreshedAt : Int
  reloadedAt : Int
  refetchedAt : Int
  fetched : Option JwksFetchResponse
  refetched : Option JwksFetchResponse

def MCP_JWKS_CACHE_MS : Int := 300000

def MCP_JWKS_MAX_BYTES : Nat := 262144

def MCP_JWKS_UNKNOWN_KID_REFRESH_COOLDOWN_MS : Int := 30000

/-- An error that is thrown by the language itself. -/
def thrownError (thrown : Thrown) : RequestError := .other (errorMessage thrown)

structure ParsedJwt where
  header : Json
  payload : Json
  signature : List UInt8
  signedValue : String

/-! ### Tokens -/

/-- `token.split('.')`. -/
def tokenSegments (token : String) : List String :=
  (token.toList.splitOn '.').map String.ofList

namespace TokenPlatform

variable (platform : TokenPlatform)

/-- `JSON.parse(Buffer.from(value, 'base64url').toString('utf8'))`. -/
def segmentJson (value : String) : Option Json :=
  platform.parseJson (platform.utf8Text (Base64Url.decode value.toList))

def parseBase64Json (value : String) : Except RequestError Json :=
  match platform.segmentJson value with
  | some json => .ok json
  | none => .error (.unauthorized "JWT contains invalid JSON.")

def parseJwt (token : String) : Except RequestError ParsedJwt :=
  match tokenSegments token with
  | encodedHeader :: encodedPayload :: encodedSignature :: _ =>
      if encodedHeader = "" ∨ encodedPayload = "" ∨ encodedSignature = "" then
        .error (.unauthorized "Invalid JWT format.")
      else do
        let header ← platform.parseBase64Json encodedHeader
        let payload ← platform.parseBase64Json encodedPayload
        return {
          header := header
          payload := payload
          signature := Base64Url.decode encodedSignature.toList
          signedValue := encodedHeader ++ "." ++ encodedPayload }
  | _ => .error (.unauthorized "Invalid JWT format.")

def isUnpaddedBase64Url (value : String) : Bool :=
  value != "" && value.toList.all (fun char => char.isAlphanum || char == '_' || char == '-') &&
    Base64Url.encode (Base64Url.decode value.toList) == value.toList

def parseMcpJsonSegment (value : String) : Except RequestError Json :=
  match platform.segmentJson value with
  | some json => .ok json
  | none => .error (.unauthorized "MCP access token contains invalid JSON.")

/-- The claims and the header of a token whose segments are objects. -/
def parseMcpJwt (token : String) :
    Except RequestError (JsonObject × JsonObject × List UInt8 × String) :=
  match tokenSegments token with
  | [encodedHeader, encodedPayload, encodedSignature] =>
      if encodedHeader = "" ∨ encodedPayload = "" ∨ encodedSignature = "" then
        .error (.unauthorized "MCP access token format is invalid.")
      else if !([encodedHeader, encodedPayload, encodedSignature].all isUnpaddedBase64Url) then
        .error (.unauthorized "MCP access token encoding is invalid.")
      else do
        let header ← platform.parseMcpJsonSegment encodedHeader
        let payload ← platform.parseMcpJsonSegment encodedPayload
        match asRecord? (some header), asRecord? (some payload) with
        | some header, some payload =>
            let signature := Base64Url.decode encodedSignature.toList
            if signature.isEmpty then
              .error (.unauthorized "MCP access token signature is invalid.")
            else
              .ok (header, payload, signature, encodedHeader ++ "." ++ encodedPayload)
        | _, _ => .error (.unauthorized "MCP access token claims are invalid.")
  | _ => .error (.unauthorized "MCP access token format is invalid.")

/-! ### Key sets -/

def parseMcpJwks (raw : String) : Except RequestError Jwks :=
  match (platform.parseJson raw).bind (fun parsed => field? parsed "keys") with
  | some (.arr keys) =>
      if keys.isEmpty then .error (.unauthorized "MCP JWKS is invalid.")
      else
        match keys.mapM (fun key => asRecord? (some key)) with
        | some jwks => .ok jwks
        | none => .error (.unauthorized "MCP JWKS is invalid.")
  | _ => .error (.unauthorized "MCP JWKS is invalid.")

def isCompatibleRsaSigningJwk (jwk : JsonObject) : Bool :=
  equalsText (member? jwk "kty") "RSA" &&
  (member? jwk "alg").all (fun alg => equalsText (some alg) "RS256") &&
  (member? jwk "use").all (fun use => equalsText (some use) "sig") &&
  (member? jwk "key_ops").all (fun operations =>
    match operations with
    | .arr operations =>
        operations.all (fun operation => (asString? operation).isSome) &&
          operations.any (fun operation => equalsText (some operation) "verify")
    | _ => false) &&
  (stringClaim (member? jwk "n")).isSome && (stringClaim (member? jwk "e")).isSome

def resolveUniqueMcpSigningKey (jwks : Jwks) (kid : String) :
    Except RequestError (Option JsonObject) :=
  match jwks.filter (fun candidate => equalsText (member? candidate "kid") kid) with
  | [] => .ok none
  | [jwk] =>
      if isCompatibleRsaSigningJwk jwk then .ok (some jwk)
      else .error (.unauthorized "MCP JWKS signing key is not compatible.")
  | _ => .error (.unauthorized "MCP JWKS key id is ambiguous.")

def safeRemoteJwksUri (value : Option String) : Except RequestError String :=
  match nonEmpty value with
  | none => .error (.unauthorized "MCP JWKS URI is not configured.")
  | some value =>
      match platform.parseUrl value with
      | none => .error (.unauthorized "MCP JWKS URI is invalid.")
      | some uri =>
          let loopback := uri.hostname = "127.0.0.1" ∨ uri.hostname = "::1" ∨
            uri.hostname = "localhost"
          if uri.protocol ≠ "https:" ∧ ¬(uri.protocol = "http:" ∧ loopback) then
            .error (.unauthorized "MCP JWKS URI must use HTTPS.")
          else if uri.username ≠ "" ∨ uri.password ≠ "" ∨ uri.hash ≠ "" then
            .error (.unauthorized "MCP JWKS URI is invalid.")
          else .ok uri.href

/-- The bytes of the chunks, read after `total` bytes. -/
def readChunks (cancelFails : Bool) (total : Nat) :
    List (Option (List UInt8)) → Except RequestError (List UInt8)
  | [] => .ok []
  | none :: rest => readChunks cancelFails total rest
  | some chunk :: rest =>
      if MCP_JWKS_MAX_BYTES < total + chunk.length then
        .error (.unauthorized (if cancelFails then "MCP JWKS is unavailable."
          else "MCP JWKS response is too large."))
      else (readChunks cancelFails (total + chunk.length) rest).map (chunk ++ ·)

def readBoundedResponse (response : JwksFetchResponse) : Except RequestError String :=
  match response.body with
  | none => .error (.unauthorized "MCP JWKS response is empty.")
  | some body =>
      match readChunks body.cancelFails 0 body.chunks with
      | .error refused => .error refused
      | .ok bytes =>
          if body.broken then .error (.unauthorized "MCP JWKS is unavailable.")
          else .ok (platform.utf8Text bytes)

section

variable [Runtime]

/-- The declared length, where there is one, is a number within the bound. -/
def declaredLengthFits (declaredLength : Option String) : Bool :=
  declaredLength.all (fun declared =>
    (Runtime.parseNumber declared).any (fun bytes =>
      !bytes.less JsonNumber.zero && !(JsonNumber.ofInt MCP_JWKS_MAX_BYTES).less bytes))

def fetchRemoteMcpJwks (fetched : Option JwksFetchResponse) : Except RequestError Jwks :=
  match fetched with
  | none => .error (.unauthorized "MCP JWKS is unavailable.")
  | some response =>
      if !response.ok then .error (.unauthorized "MCP JWKS is unavailable.")
      else if !declaredLengthFits response.contentLength then
        .error (.unauthorized "MCP JWKS response is too large.")
      else
        match platform.readBoundedResponse response with
        | .error refused => .error refused
        | .ok raw => platform.parseMcpJwks raw

variable (config : JwksConfig)

def loadRemoteMcpJwks (state : JwksState) (forceRefresh : Bool) (now fetchedAt : Int)
    (fetched : Option JwksFetchResponse) : JwksState × Except RequestError LoadedMcpJwks :=
  match platform.safeRemoteJwksUri config.jwksUri with
  | .error refused => (state, .error refused)
  | .ok uri =>
      let held := state.cache.filter (fun cache =>
        !forceRefresh && cache.uri == uri && decide (now - cache.fetchedAt < MCP_JWKS_CACHE_MS))
      match held with
      | some cache => (state, .ok { fromCache := true, jwks := cache.jwks, remote := true })
      | none =>
          match platform.fetchRemoteMcpJwks fetched with
          | .error refused => (state, .error refused)
          | .ok jwks =>
              ({ state with cache := some { fetchedAt := fetchedAt, jwks := jwks, uri := uri } },
                .ok { fromCache := false, jwks := jwks, remote := true })

def loadMcpJwks (state : JwksState) (encounter : JwksEncounter) :
    JwksState × Except RequestError LoadedMcpJwks :=
  let given (raw : String) : Except RequestError LoadedMcpJwks :=
    (platform.parseMcpJwks raw).map fun jwks =>
      { fromCache := false, jwks := jwks, remote := false }
  match nonEmpty config.jwksJson, nonEmpty config.jwksPath, nonEmpty config.jwksUri with
  | some jwksJson, _, _ => (state, given jwksJson)
  | none, some jwksPath, _ =>
      match platform.readFile jwksPath with
      | none => (state, .error (.unauthorized "MCP JWKS is unavailable."))
      | some raw => (state, given raw)
  | none, none, some _ =>
      platform.loadRemoteMcpJwks config state false encounter.loadedAt encounter.fetchedAt
        encounter.fetched
  | none, none, none => (state, .error (.unauthorized "MCP JWKS is not configured."))

omit [Runtime] in
/-- `canRefreshUnknownKid`: whether it may, and the state after it was asked. -/
def canRefreshUnknownKid (state : JwksState) (now : Int) : Option JwksState :=
  if now - state.unknownKidRefreshedAt < MCP_JWKS_UNKNOWN_KID_REFRESH_COOLDOWN_MS then none
  else some { state with unknownKidRefreshedAt := now }

/-- The signing key of an id, looked for again in a fresh key set where the held one does
not have it. -/
def trustedKey (state : JwksState) (encounter : JwksEncounter) (kid untrusted : String) :
    JwksState × Except RequestError JsonObject :=
  let orRefuse (jwk : Option JsonObject) : Except RequestError JsonObject :=
    match jwk with
    | some jwk => .ok jwk
    | none => .error (.unauthorized untrusted)
  match platform.loadMcpJwks config state encounter with
  | (state, .error refused) => (state, .error refused)
  | (state, .ok loaded) =>
      match resolveUniqueMcpSigningKey loaded.jwks kid with
      | .error refused => (state, .error refused)
      | .ok (some jwk) => (state, .ok jwk)
      | .ok none =>
          if !(loaded.remote && loaded.fromCache) then (state, orRefuse none)
          else
            match canRefreshUnknownKid state encounter.refreshedAt with
            | none => (state, orRefuse none)
            | some state =>
                match platform.loadRemoteMcpJwks config state true encounter.reloadedAt
                    encounter.refetchedAt encounter.refetched with
                | (state, .error refused) => (state, .error refused)
                | (state, .ok loaded) =>
                    (state, (resolveUniqueMcpSigningKey loaded.jwks kid).bind orRefuse)

/-! ### Verification -/

omit [Runtime] in
/-- The claims of a verified token. The first that is read is the expiry; a value that is
no object has no claims. -/
def claimsOf (payload : Json) : Except RequestError JsonObject :=
  match property (some payload) "exp" with
  | .error thrown => .error (thrownError thrown)
  | .ok _ => .ok ((asRecord? (some payload)).getD [])

/-- `authenticateOidcJwt` up to its first claim. -/
def verifyJwt (state : JwksState) (encounter : JwksEncounter) (token : String) :
    JwksState × Except RequestError JsonObject :=
  match platform.parseJwt token with
  | .error refused => (state, .error refused)
  | .ok jwt =>
      match property (some jwt.header) "alg" with
      | .error thrown => (state, .error (thrownError thrown))
      | .ok alg =>
          if !equalsText alg "RS256" then
            (state, .error (.unauthorized "Only RS256 OIDC JWTs are supported."))
          else
            match stringClaim (field? jwt.header "kid") with
            | none => (state, .error (.unauthorized "JWT key id is required."))
            | some kid =>
                match platform.trustedKey config state encounter kid
                    "JWT key id is not trusted." with
                | (state, .error refused) => (state, .error refused)
                | (state, .ok jwk) =>
                    if !platform.verifySignature jwt.signedValue jwt.signature jwk then
                      (state, .error (.unauthorized "Invalid JWT signature."))
                    else (state, claimsOf jwt.payload)

/-- `authenticateMcpAuthorizationHeader` from the token to its first claim. -/
def verifyMcpJwt (state : JwksState) (encounter : JwksEncounter) (token : String) :
    JwksState × Except RequestError JsonObject :=
  match platform.parseMcpJwt token with
  | .error refused => (state, .error refused)
  | .ok (header, payload, signature, signedValue) =>
      if !equalsText (member? header "alg") "RS256" then
        (state, .error (.unauthorized "MCP access token algorithm is not trusted."))
      else
        match stringClaim (member? header "kid") with
        | none => (state, .error (.unauthorized "MCP access token key id is required."))
        | some kid =>
            match platform.trustedKey config state encounter kid
                "MCP access token key id is not trusted." with
            | (state, .error refused) => (state, .error refused)
            | (state, .ok jwk) =>
                if !platform.verifySignature signedValue signature jwk then
                  (state, .error (.unauthorized "MCP access token signature is invalid."))
                else (state, .ok payload)

end

end TokenPlatform

/-- The service over this verifier, as one request meets it. -/
def AuthService.verifying [Runtime] (service : AuthService) (platform : TokenPlatform)
    (config : JwksConfig) (state : JwksState) (encounter : JwksEncounter) : AuthService :=
  { service with
    verifiedClaims := fun token => (platform.verifyJwt config state encounter token).2
    verifiedMcpClaims := fun token => (platform.verifyMcpJwt config state encounter token).2 }

end ActionProxy
