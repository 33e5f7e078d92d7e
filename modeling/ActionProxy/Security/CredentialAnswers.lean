import ActionProxy.Security.TokenVerification
import ActionProxy.Foundation.JsonParse
import ActionProxy.Foundation.Utf8Stream

/-!
What is answered to a credential that is not what it should be: every way a header, a
token or a key set can be wrong, and the one where the language itself throws.
-/

namespace ActionProxy

open JsonText

/-- What is thrown, if anything is, is an `UnauthorizedError`. -/
def AnsweredAuth {α : Type} (result : Except RequestError α) : Prop :=
  ∀ refused, result = .error refused → ∃ message, refused = .unauthorized message

section

variable {α β : Type}

@[simp] theorem answeredAuth_ok (value : α) : AnsweredAuth (.ok value) := by
  intro refused thrown
  cases thrown

@[simp] theorem answeredAuth_unauthorized (message : String) :
    AnsweredAuth (.error (.unauthorized message) : Except RequestError α) := by
  intro refused thrown
  cases thrown
  exact ⟨message, rfl⟩

@[simp] theorem not_answeredAuth_other (message : String) :
    ¬AnsweredAuth (.error (.other message) : Except RequestError α) := by
  intro answered
  obtain ⟨_, same⟩ := answered _ rfl
  cases same

theorem AnsweredAuth.passed {refused : RequestError}
    (answered : AnsweredAuth (.error refused : Except RequestError α)) :
    AnsweredAuth (.error refused : Except RequestError β) := by
  intro thrown same
  cases same
  exact answered refused rfl

theorem AnsweredAuth.bind {first : Except RequestError α} {next : α → Except RequestError β}
    (answered : AnsweredAuth first) (after : ∀ value, first = .ok value → AnsweredAuth (next value)) :
    AnsweredAuth (first >>= next) := by
  cases first with
  | error refused => exact answered.passed
  | ok value => exact after value rfl

theorem AnsweredAuth.map {first : Except RequestError α} (render : α → β) (answered : AnsweredAuth first) :
    AnsweredAuth (first.map render) := by
  cases first with
  | error refused => exact answered.passed
  | ok value => exact answeredAuth_ok _

end

namespace TokenPlatform

variable (platform : TokenPlatform)

/-! ### Tokens -/

theorem parseBase64Json_answered (value : String) : AnsweredAuth (platform.parseBase64Json value) := by
  unfold parseBase64Json
  split
  · exact answeredAuth_ok _
  · exact answeredAuth_unauthorized _

theorem parseJwt_answered (token : String) : AnsweredAuth (platform.parseJwt token) := by
  unfold parseJwt
  split
  · split
    · exact answeredAuth_unauthorized _
    · apply (platform.parseBase64Json_answered _).bind
      intro header _
      apply (platform.parseBase64Json_answered _).bind
      intro payload _
      exact answeredAuth_ok _
  · exact answeredAuth_unauthorized _

theorem parseMcpJsonSegment_answered (value : String) :
    AnsweredAuth (platform.parseMcpJsonSegment value) := by
  unfold parseMcpJsonSegment
  split
  · exact answeredAuth_ok _
  · exact answeredAuth_unauthorized _

theorem parseMcpJwt_answered (token : String) : AnsweredAuth (platform.parseMcpJwt token) := by
  unfold parseMcpJwt
  split
  · split
    · exact answeredAuth_unauthorized _
    · split
      · exact answeredAuth_unauthorized _
      · apply (platform.parseMcpJsonSegment_answered _).bind
        intro header _
        apply (platform.parseMcpJsonSegment_answered _).bind
        intro payload _
        split
        · simp only
          split
          · exact answeredAuth_unauthorized _
          · exact answeredAuth_ok _
        · exact answeredAuth_unauthorized _
  · exact answeredAuth_unauthorized _

/-! ### Key sets -/

theorem parseMcpJwks_answered (raw : String) : AnsweredAuth (platform.parseMcpJwks raw) := by
  unfold parseMcpJwks
  split
  · split
    · exact answeredAuth_unauthorized _
    · split
      · exact answeredAuth_ok _
      · exact answeredAuth_unauthorized _
  · exact answeredAuth_unauthorized _

theorem resolveUniqueMcpSigningKey_answered (jwks : Jwks) (kid : String) :
    AnsweredAuth (resolveUniqueMcpSigningKey jwks kid) := by
  unfold resolveUniqueMcpSigningKey
  split
  · exact answeredAuth_ok _
  · split
    · exact answeredAuth_ok _
    · exact answeredAuth_unauthorized _
  · exact answeredAuth_unauthorized _

theorem safeRemoteJwksUri_answered (value : Option String) :
    AnsweredAuth (platform.safeRemoteJwksUri value) := by
  unfold safeRemoteJwksUri
  split
  · exact answeredAuth_unauthorized _
  · split
    · exact answeredAuth_unauthorized _
    · simp only
      split
      · exact answeredAuth_unauthorized _
      · split
        · exact answeredAuth_unauthorized _
        · exact answeredAuth_ok _

theorem readChunks_answered (cancelFails : Bool) (total : Nat)
    (chunks : List (Option (List UInt8))) : AnsweredAuth (readChunks cancelFails total chunks) := by
  induction chunks generalizing total with
  | nil => exact answeredAuth_ok _
  | cons chunk rest ih =>
      cases chunk with
      | none => exact ih total
      | some chunk =>
          rw [readChunks]
          split
          · exact answeredAuth_unauthorized _
          · exact (ih _).map _

theorem readBoundedResponse_answered (response : JwksFetchResponse) :
    AnsweredAuth (platform.readBoundedResponse response) := by
  unfold readBoundedResponse
  split
  · exact answeredAuth_unauthorized _
  · rename_i body _
    split
    · rename_i refused failed
      have answered := readChunks_answered body.cancelFails 0 body.chunks
      rw [failed] at answered
      exact answered.passed
    · split
      · exact answeredAuth_unauthorized _
      · exact answeredAuth_ok _

section

variable [Runtime]

theorem fetchRemoteMcpJwks_answered (fetched : Option JwksFetchResponse) :
    AnsweredAuth (platform.fetchRemoteMcpJwks fetched) := by
  unfold fetchRemoteMcpJwks
  split
  · exact answeredAuth_unauthorized _
  · rename_i response
    split
    · exact answeredAuth_unauthorized _
    · split
      · exact answeredAuth_unauthorized _
      · have answered := platform.readBoundedResponse_answered response
        split
        · rename_i refused failed
          rw [failed] at answered
          exact answered.passed
        · exact platform.parseMcpJwks_answered _

variable (config : JwksConfig)

theorem loadRemoteMcpJwks_answered (state : JwksState) (forceRefresh : Bool) (now fetchedAt : Int)
    (fetched : Option JwksFetchResponse) :
    AnsweredAuth (platform.loadRemoteMcpJwks config state forceRefresh now fetchedAt fetched).2 := by
  have safe := platform.safeRemoteJwksUri_answered config.jwksUri
  have fetching := platform.fetchRemoteMcpJwks_answered fetched
  unfold loadRemoteMcpJwks
  split
  · rename_i refused failed
    rw [failed] at safe
    exact safe.passed
  · simp only
    split
    · exact answeredAuth_ok _
    · split
      · rename_i refused failed
        rw [failed] at fetching
        exact fetching.passed
      · exact answeredAuth_ok _

theorem loadMcpJwks_answered (state : JwksState) (encounter : JwksEncounter) :
    AnsweredAuth (platform.loadMcpJwks config state encounter).2 := by
  unfold loadMcpJwks
  simp only
  split
  · exact (platform.parseMcpJwks_answered _).map _
  · split
    · exact answeredAuth_unauthorized _
    · exact (platform.parseMcpJwks_answered _).map _
  · exact platform.loadRemoteMcpJwks_answered config state false _ _ _
  · exact answeredAuth_unauthorized _

theorem trustedKey_answered (state : JwksState) (encounter : JwksEncounter)
    (kid untrusted : String) :
    AnsweredAuth (platform.trustedKey config state encounter kid untrusted).2 := by
  have loading := platform.loadMcpJwks_answered config state encounter
  unfold trustedKey
  simp only
  split
  · rename_i later refused failed
    rw [failed] at loading
    exact loading.passed
  · rename_i later loaded _
    have resolving := resolveUniqueMcpSigningKey_answered loaded.jwks kid
    split
    · rename_i refused failed
      rw [failed] at resolving
      exact resolving.passed
    · exact answeredAuth_ok _
    · split
      · exact answeredAuth_unauthorized _
      · split
        · exact answeredAuth_unauthorized _
        · rename_i refreshing _
          have reloading := platform.loadRemoteMcpJwks_answered config refreshing true
            encounter.reloadedAt encounter.refetchedAt encounter.refetched
          split
          · rename_i final refused failed
            rw [failed] at reloading
            exact reloading.passed
          · apply (resolveUniqueMcpSigningKey_answered _ _).bind
            intro jwk _
            cases jwk with
            | none => exact answeredAuth_unauthorized _
            | some jwk => exact answeredAuth_ok _

/-! ### Verification -/

theorem verifyMcpJwt_answered (state : JwksState) (encounter : JwksEncounter) (token : String) :
    AnsweredAuth (platform.verifyMcpJwt config state encounter token).2 := by
  have parsing := platform.parseMcpJwt_answered token
  unfold verifyMcpJwt
  split
  · rename_i refused failed
    rw [failed] at parsing
    exact parsing.passed
  · split
    · exact answeredAuth_unauthorized _
    · split
      · exact answeredAuth_unauthorized _
      · rename_i kid _
        have trusting := platform.trustedKey_answered config state encounter kid
          "MCP access token key id is not trusted."
        split
        · rename_i later refused failed
          rw [failed] at trusting
          exact trusting.passed
        · split
          · exact answeredAuth_unauthorized _
          · exact answeredAuth_ok _

/-- The header segment of the token is the JSON text `null`. -/
def NullHeader (token : String) : Prop :=
  ∃ jwt, platform.parseJwt token = .ok jwt ∧ jwt.header = .null

/-- The claims segment is, under a header that a trusted key has signed. -/
def NullClaims (state : JwksState) (encounter : JwksEncounter) (token : String) : Prop :=
  ∃ jwt kid jwk, platform.parseJwt token = .ok jwt ∧
    equalsText (field? jwt.header "alg") "RS256" = true ∧
    stringClaim (field? jwt.header "kid") = some kid ∧
    (platform.trustedKey config state encounter kid "JWT key id is not trusted.").2 = .ok jwk ∧
    platform.verifySignature jwt.signedValue jwt.signature jwk = true ∧ jwt.payload = .null

omit [Runtime] in
theorem property_null (key : String) :
    property (some .null) key =
      .error (.error "TypeError" ("Cannot read properties of null (reading '" ++ key ++ "')")) :=
  rfl

omit [Runtime] in
theorem property_of_ne_null {value : Json} (given : value ≠ .null) (key : String) :
    property (some value) key = .ok (field? value key) := by
  cases value with
  | null => exact absurd rfl given
  | _ => rfl

omit [Runtime] in
theorem claimsOf_answered_iff (payload : Json) : AnsweredAuth (claimsOf payload) ↔ payload ≠ .null := by
  unfold claimsOf
  constructor
  · intro answered isNull
    rw [isNull, property_null] at answered
    exact not_answeredAuth_other _ answered
  · intro given
    rw [property_of_ne_null given]
    exact answeredAuth_ok _

/-- The general verification reads whatever the segments are, and throws at `null`. -/
theorem verifyJwt_answered_iff (state : JwksState) (encounter : JwksEncounter) (token : String) :
    AnsweredAuth (platform.verifyJwt config state encounter token).2 ↔
      ¬platform.NullHeader token ∧ ¬platform.NullClaims config state encounter token := by
  have parsing := platform.parseJwt_answered token
  unfold verifyJwt NullHeader NullClaims
  cases parsed : platform.parseJwt token with
  | error refused =>
      rw [parsed] at parsing
      simp [parsing.passed]
  | ok jwt =>
      simp only [Except.ok.injEq, exists_eq_left', exists_and_left]
      by_cases headerNull : jwt.header = .null
      · rw [headerNull, property_null]
        simp [thrownError]
      · rw [property_of_ne_null headerNull]
        simp only [headerNull, not_false_eq_true, true_and]
        cases algorithm : equalsText (field? jwt.header "alg") "RS256" with
        | false => simp
        | true =>
            simp only [Bool.not_true, Bool.false_eq_true, if_false, true_and]
            cases keyed : stringClaim (field? jwt.header "kid") with
            | none => simp
            | some kid =>
                simp only [Option.some.injEq, exists_eq_left']
                have trusting := platform.trustedKey_answered config state encounter kid
                  "JWT key id is not trusted."
                cases trusted : platform.trustedKey config state encounter kid
                    "JWT key id is not trusted." with
                | mk later key =>
                    rw [trusted] at trusting
                    cases key with
                    | error refused => simp [AnsweredAuth.passed trusting]
                    | ok jwk =>
                        simp only [Except.ok.injEq, exists_eq_left']
                        cases verified :
                            platform.verifySignature jwt.signedValue jwt.signature jwk with
                        | false => simp
                        | true => simp [claimsOf_answered_iff]

end

end TokenPlatform

namespace AuthService

variable [Runtime] (service : AuthService)

/-! ### The two authentications -/

theorem authenticateApiKey_answered (token : String) :
    AnsweredAuth (service.authenticateApiKey token) := by
  unfold authenticateApiKey
  split
  · exact answeredAuth_unauthorized _
  · split
    · exact answeredAuth_unauthorized _
    · split
      · exact answeredAuth_unauthorized _
      · split
        · exact answeredAuth_unauthorized _
        · split
          · exact answeredAuth_unauthorized _
          · exact answeredAuth_ok _

omit [Runtime] in
theorem authenticateOidcJwt_answered_iff (nowSeconds : Int) (token : String) :
    AnsweredAuth (service.authenticateOidcJwt nowSeconds token) ↔
      AnsweredAuth (service.verifiedClaims token) := by
  unfold authenticateOidcJwt
  cases service.verifiedClaims token with
  | error refused => exact ⟨AnsweredAuth.passed, AnsweredAuth.passed⟩
  | ok claims =>
      simp only [answeredAuth_ok, iff_true]
      split
      · exact answeredAuth_unauthorized _
      · split
        · exact answeredAuth_unauthorized _
        · exact answeredAuth_ok _

omit [Runtime] in
theorem mcpClientId_answered (claims : JsonObject) : AnsweredAuth (mcpClientId claims) := by
  unfold mcpClientId
  simp only
  split
  · exact answeredAuth_unauthorized _
  · split
    · split
      · exact answeredAuth_unauthorized _
      · exact answeredAuth_ok _
    · exact answeredAuth_ok _
    · exact answeredAuth_ok _
    · exact answeredAuth_unauthorized _

omit [Runtime] in
theorem strictScopesClaim_answered (value : Option Json) : AnsweredAuth (strictScopesClaim value) := by
  unfold strictScopesClaim
  split
  · exact answeredAuth_ok _
  · exact answeredAuth_ok _
  · split
    · exact answeredAuth_ok _
    · exact answeredAuth_unauthorized _
  · exact answeredAuth_unauthorized _

omit [Runtime] in
theorem mcpContext_answered (claims : JsonObject) : AnsweredAuth (service.mcpContext claims) := by
  unfold mcpContext
  split
  · exact answeredAuth_unauthorized _
  · apply (mcpClientId_answered claims).bind
    intro clientId _
    apply (strictScopesClaim_answered _).bind
    intro scopes _
    split
    · exact answeredAuth_unauthorized _
    · exact answeredAuth_ok _

theorem authenticateMcp_answered (nowSeconds : Int) (value : Option String)
    (expectedAudience : String) (verified : ∀ token, AnsweredAuth (service.verifiedMcpClaims token)) :
    AnsweredAuth (service.authenticateMcpAuthorizationHeader nowSeconds value expectedAudience) := by
  unfold authenticateMcpAuthorizationHeader
  split
  · exact answeredAuth_unauthorized _
  · rename_i token _
    have verifying := verified token
    split
    · exact answeredAuth_unauthorized _
    · split
      · exact answeredAuth_unauthorized _
      · split
        · exact answeredAuth_unauthorized _
        · split
          · rename_i refused failed
            rw [failed] at verifying
            exact verifying.passed
          · split
            · exact answeredAuth_unauthorized _
            · exact service.mcpContext_answered _

/-- The token of the header, where it is one for the OIDC verifier. -/
structure OidcToken (value : Option String) (token : String) : Prop where
  mode : service.config.mode = .oidcJwt
  bearer : bearerToken value = some token
  noBootstrap : service.isBootstrapToken token = false
  noKey : TextScan.startsWith token "apx_" = false

theorem authenticateAuthorizationHeader_answered_iff (nowSeconds : Int) (value : Option String) :
    AnsweredAuth (service.authenticateAuthorizationHeader nowSeconds value) ↔
      ∀ token, service.OidcToken value token → AnsweredAuth (service.verifiedClaims token) := by
  unfold authenticateAuthorizationHeader
  by_cases disabled : service.config.mode = .none
  · rw [if_pos disabled]
    refine iff_of_true (answeredAuth_ok _) ?_
    intro token oidc
    have mode := oidc.mode
    rw [disabled] at mode
    cases mode
  · rw [if_neg disabled]
    cases bearer : bearerToken value with
    | none =>
        refine iff_of_true (answeredAuth_unauthorized _) ?_
        intro token oidc
        have given := oidc.bearer
        rw [bearer] at given
        cases given
    | some token =>
        have only : ∀ other, service.OidcToken value other → other = token := by
          intro other oidc
          exact Option.some_inj.mp (oidc.bearer.symm.trans bearer)
        simp only
        by_cases bootstrap : service.isBootstrapToken token = true
        · rw [if_pos bootstrap]
          refine iff_of_true (answeredAuth_ok _) ?_
          intro other oidc
          have none := oidc.noBootstrap
          rw [only other oidc, bootstrap] at none
          cases none
        · rw [if_neg bootstrap]
          by_cases key : TextScan.startsWith token "apx_" = true
          · rw [if_pos key]
            refine iff_of_true (service.authenticateApiKey_answered token) ?_
            intro other oidc
            have none := oidc.noKey
            rw [only other oidc, key] at none
            cases none
          · rw [if_neg key]
            by_cases mode : service.config.mode = .oidcJwt
            · rw [if_pos mode, service.authenticateOidcJwt_answered_iff nowSeconds token]
              constructor
              · intro answered other oidc
                rw [only other oidc]
                exact answered
              · intro all
                exact all token
                  { mode := mode
                    bearer := bearer
                    noBootstrap := by simpa using bootstrap
                    noKey := by simpa using key }
            · rw [if_neg mode]
              exact iff_of_true (answeredAuth_unauthorized _)
                (fun _ oidc => absurd oidc.mode mode)

/-- Over the verifier, the general form throws at `null` and nowhere else. -/
theorem verifying_answered_iff (platform : TokenPlatform) (config : JwksConfig)
    (state : JwksState) (encounter : JwksEncounter) (nowSeconds : Int) (value : Option String) :
    AnsweredAuth ((service.verifying platform config state encounter).authenticateAuthorizationHeader
        nowSeconds value) ↔
      ∀ token, service.OidcToken value token →
        ¬platform.NullHeader token ∧ ¬platform.NullClaims config state encounter token := by
  rw [authenticateAuthorizationHeader_answered_iff]
  have verified : ∀ token,
      AnsweredAuth ((service.verifying platform config state encounter).verifiedClaims token) ↔
        ¬platform.NullHeader token ∧ ¬platform.NullClaims config state encounter token :=
    platform.verifyJwt_answered_iff config state encounter
  constructor
  · intro answered token oidc
    exact (verified token).mp (answered token
      { mode := oidc.mode
        bearer := oidc.bearer
        noBootstrap := oidc.noBootstrap
        noKey := oidc.noKey })
  · intro free token oidc
    exact (verified token).mpr (free token
      { mode := oidc.mode
        bearer := oidc.bearer
        noBootstrap := oidc.noBootstrap
        noKey := oidc.noKey })

/-- Any header is answered with a context or an unauthorized error, in both forms, exactly
when no `null` is read as a header or as claims. -/
theorem credentials_answered_iff (platform : TokenPlatform) (config : JwksConfig)
    (state : JwksState) (encounter : JwksEncounter) (nowSeconds : Int) (value : Option String)
    (expectedAudience : String) :
    let verifying := service.verifying platform config state encounter
    (AnsweredAuth (verifying.authenticateAuthorizationHeader nowSeconds value) ∧
      AnsweredAuth (verifying.authenticateMcpAuthorizationHeader nowSeconds value expectedAudience)) ↔
    ∀ token, service.OidcToken value token →
      ¬platform.NullHeader token ∧ ¬platform.NullClaims config state encounter token := by
  intro verifying
  have strict := verifying.authenticateMcp_answered nowSeconds value expectedAudience
    (fun token => platform.verifyMcpJwt_answered config state encounter token)
  have general := service.verifying_answered_iff platform config state encounter nowSeconds value
  constructor
  · intro both
    exact general.mp both.1
  · intro free
    exact ⟨general.mpr free, strict⟩

end AuthService

private def readingPlatform : TokenPlatform :=
  { utf8Text := fun bytes => String.ofList (Utf8Stream.decode bytes)
    parseJson := jsonParse some
    verifySignature := fun _ _ _ => false
    parseUrl := fun _ => none
    readFile := fun _ => none }

private def oidcService : AuthService :=
  { config :=
      { mode := .oidcJwt
        workspaceId := "default"
        bootstrapAdminApiKey := none
        oidc :=
          { audience := none
            issuer := some "https://issuer.example"
            emailClaim := "email"
            groupsClaim := "groups"
            nameClaim := "name"
            scopesClaim := "scope" } }
    allowedScopes := []
    getApiKeyByPrefix := fun _ => none
    getServiceAccount := fun _ => none
    verifiedClaims := fun _ => .error (.unauthorized "JWT key id is not trusted.")
    verifiedMcpClaims := fun _ => .error (.unauthorized "MCP access token key id is not trusted.") }

private def noKeySet : JwksConfig := { jwksJson := none, jwksPath := none, jwksUri := none }

private def freshKeySets : JwksState := { cache := none, unknownKidRefreshedAt := 0 }

private def noFetch : JwksEncounter :=
  { loadedAt := 0
    fetchedAt := 0
    refreshedAt := 0
    reloadedAt := 0
    refetchedAt := 0
    fetched := none
    refetched := none }

/-- What is read of a bearer token with the segments `null` and `{}`. -/
private theorem null_reads :
    (readingPlatform.utf8Text (Base64Url.decode "bnVsbA".toList) = "null" ∧
      readingPlatform.utf8Text (Base64Url.decode "e30".toList) = "\x7b\x7d") ∧
      @bearerToken (sampleRuntime []) (some "Bearer bnVsbA.e30.c2ln") =
        some "bnVsbA.e30.c2ln" ∧
      tokenSegments "bnVsbA.e30.c2ln" = ["bnVsbA", "e30", "c2ln"] ∧
      TextScan.startsWith "bnVsbA.e30.c2ln" "apx_" = false := by
  decide +kernel

private theorem null_segment : readingPlatform.segmentJson "bnVsbA" = some .null := by
  unfold TokenPlatform.segmentJson
  rw [null_reads.1.1]
  rfl

private theorem empty_segment : readingPlatform.segmentJson "e30" = some (.obj []) := by
  unfold TokenPlatform.segmentJson
  rw [null_reads.1.2]
  rfl

private theorem null_bearer :
    @bearerToken (sampleRuntime []) (some "Bearer bnVsbA.e30.c2ln") = some "bnVsbA.e30.c2ln" :=
  null_reads.2.1

private theorem null_parsed : readingPlatform.NullHeader "bnVsbA.e30.c2ln" := by
  have segments : tokenSegments "bnVsbA.e30.c2ln" = ["bnVsbA", "e30", "c2ln"] :=
    null_reads.2.2.1
  have given : ¬("bnVsbA" = "" ∨ "e30" = "" ∨ "c2ln" = "") := by decide
  refine ⟨{ header := .null, payload := .obj [], signature := Base64Url.decode "c2ln".toList
            signedValue := "bnVsbA" ++ "." ++ "e30" }, ?_, rfl⟩
  rw [TokenPlatform.parseJwt, segments]
  simp only [if_neg given, TokenPlatform.parseBase64Json, null_segment, empty_segment]
  rfl

private theorem null_token :
    @AuthService.OidcToken (sampleRuntime []) oidcService (some "Bearer bnVsbA.e30.c2ln")
      "bnVsbA.e30.c2ln" := by
  exact @AuthService.OidcToken.mk (sampleRuntime []) oidcService _ _ rfl null_bearer rfl
    null_reads.2.2.2

/-- A bearer token whose header segment is the JSON text `null` makes the language throw. -/
theorem null_header_unanswered :
    ¬AnsweredAuth (@AuthService.authenticateAuthorizationHeader (sampleRuntime [])
      (@AuthService.verifying (sampleRuntime []) oidcService readingPlatform noKeySet freshKeySets
        noFetch) 0 (some "Bearer bnVsbA.e30.c2ln")) := by
  intro answered
  have free := (@AuthService.verifying_answered_iff (sampleRuntime []) oidcService readingPlatform
    noKeySet freshKeySets noFetch 0 (some "Bearer bnVsbA.e30.c2ln")).mp answered
  exact (free "bnVsbA.e30.c2ln" null_token).1 null_parsed

end ActionProxy
