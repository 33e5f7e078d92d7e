import Mathlib.Data.Bool.AllAny
import ActionProxy.Foundation.Base36
import ActionProxy.Foundation.Base64Url
import ActionProxy.Foundation.Utf8Stream
import ActionProxy.Security.Crypto

/-!
The tokens with which an approver connects a Telegram chat. A token that was created is read
back as its user until it expires; a token that is accepted carries the signature of its own
text, so that one with the signature of a created token is that token.
-/

namespace ActionProxy

def telegramConnectVersion : List Char := ['a', 'g', '1']

def telegramConnectSignatureLength : Nat := 20

def telegramStartParameterMaxLength : Nat := 64

structure TelegramConnectTokenPayload where
  expiresAt : String
  userId : String

section

variable [Runtime]

def connectSigningInput (expires user : List Char) : List Char :=
  telegramConnectVersion ++ '_' :: (expires ++ '_' :: user)

def connectSignature (secret : String) (signingInput : List Char) : List Char :=
  (Runtime.hmacSha256Hex secret (String.ofList signingInput)).toList.take
    telegramConnectSignatureLength

/-- The text of a user id in a token. -/
def connectUser (userId : String) : List Char := Base64Url.encode (Utf8Stream.utf8 userId.toList)

/-- The expiry is given in milliseconds; nothing is returned for a token that is too long. -/
def createTelegramConnectToken (expiresAt : Int) (secret userId : String) : Option String :=
  let expires := Base36.text (expiresAt / 1000)
  let signingInput := connectSigningInput expires (connectUser userId)
  let token := signingInput ++ '_' :: connectSignature secret signingInput
  if token.length > telegramStartParameterMaxLength then none else some (String.ofList token)

/-- Times are in milliseconds; one outside the range of dates has no text. -/
def parseTelegramConnectToken (token : Option String) (secret : String) (now : Int) :
    Option TelegramConnectTokenPayload :=
  let parts := (token.getD "").toList.splitOn '_'
  if parts.length < 4 ∨ parts.head? ≠ some telegramConnectVersion then none
  else
    let signature := parts.getLast?.getD []
    let expires := parts[1]?.getD []
    let user := ['_'].intercalate (parts.drop 2).dropLast
    if signature = [] ∨ expires = [] ∨ user = [] then none
    else if signature ≠ connectSignature secret (connectSigningInput expires user) then none
    else
      (Base36.parse expires).bind (fun seconds =>
        let expiresAtMs := seconds * 1000
        if expiresAtMs < now then none
        else (IsoTime.toISOString expiresAtMs).map (fun expiresAt =>
          { expiresAt := expiresAt
            userId := String.ofList (Utf8Stream.decode (Base64Url.decode user)) }))

end

/-! ### Start commands -/

def isBotNameChar (char : Char) : Bool := char.isAlphanum || char == '_'

def isStartParameterChar (char : Char) : Bool := char.isAlphanum || char == '_' || char == '-'

/-- The parameter after the command, behind white space and before nothing else. -/
def startParameter (rest : List Char) : Option String :=
  let trimmed := rest.dropWhile TextScan.isSpace
  let token := trimmed.takeWhile isStartParameterChar
  if trimmed.length = rest.length ∨ token = [] ∨ telegramStartParameterMaxLength < token.length ∨
      (trimmed.dropWhile isStartParameterChar).all TextScan.isSpace = false then none
  else some (String.ofList token)

def telegramStartTokenFromText (text : Option String) : Option String :=
  let source := (text.getD "").toList
  let command := "/start".toList
  if command.isPrefixOf source then
    match source.drop command.length with
    | '@' :: name =>
        if name.takeWhile isBotNameChar = [] then none
        else startParameter (name.dropWhile isBotNameChar)
    | rest => startParameter rest
  else none

/-! ### Tokens that were created -/

section

variable [Runtime]

/-- A digest is a text of at least twenty hex digits. -/
def HexDigests : Prop :=
  ∀ secret text, telegramConnectSignatureLength ≤ (Runtime.hmacSha256Hex secret text).toList.length ∧
    ∀ char ∈ (Runtime.hmacSha256Hex secret text).toList,
      ('0' ≤ char ∧ char ≤ '9') ∨ ('a' ≤ char ∧ char ≤ 'f')

/-- The characters of a token. -/
def createdToken (expiresAt : Int) (secret userId : String) : List Char :=
  let signingInput := connectSigningInput (Base36.text (expiresAt / 1000)) (connectUser userId)
  signingInput ++ '_' :: connectSignature secret signingInput

theorem created_eq {expiresAt : Int} {secret userId token : String}
    (created : createTelegramConnectToken expiresAt secret userId = some token) :
    token = String.ofList (createdToken expiresAt secret userId) ∧
      (createdToken expiresAt secret userId).length ≤ telegramStartParameterMaxLength := by
  unfold createTelegramConnectToken at created
  dsimp only at created
  split at created
  · cases created
  · rename_i fits
    exact ⟨(Option.some.inj created).symm, Nat.le_of_not_lt fits⟩

theorem connectSignature_chars (hex : HexDigests) (secret : String) (signingInput : List Char) :
    ∀ char ∈ connectSignature secret signingInput,
      ('0' ≤ char ∧ char ≤ '9') ∨ ('a' ≤ char ∧ char ≤ 'f') :=
  fun char listed => (hex secret _).2 char (List.mem_of_mem_take listed)

theorem connectSignature_ne_nil (hex : HexDigests) (secret : String) (signingInput : List Char) :
    connectSignature secret signingInput ≠ [] := by
  intro empty
  have lengths := congrArg List.length empty
  rw [connectSignature, List.length_take, Nat.min_eq_left (hex secret _).1] at lengths
  cases lengths

omit [Runtime] in
theorem isStartParameterChar_digit {char : Char} (digit : '0' ≤ char ∧ char ≤ '9') :
    isStartParameterChar char = true := by
  have isDigit : char.isDigit = true := by
    unfold Char.isDigit
    rw [Bool.and_eq_true]
    exact ⟨decide_eq_true digit.1, decide_eq_true digit.2⟩
  unfold isStartParameterChar Char.isAlphanum
  rw [isDigit, Bool.or_true, Bool.true_or, Bool.true_or]

omit [Runtime] in
theorem isStartParameterChar_lower {char : Char} (letter : 'a' ≤ char ∧ char ≤ 'z') :
    isStartParameterChar char = true := by
  have isLower : char.isLower = true := by
    unfold Char.isLower
    rw [Bool.and_eq_true]
    exact ⟨decide_eq_true letter.1, decide_eq_true letter.2⟩
  unfold isStartParameterChar Char.isAlphanum Char.isAlpha
  rw [isLower, Bool.or_true, Bool.true_or, Bool.true_or, Bool.true_or]

omit [Runtime] in
theorem isStartParameterChar_sextet :
    ∀ sextet < 64, isStartParameterChar (Base64Url.digit sextet) = true := by
  decide +kernel

omit [Runtime] in
theorem isStartParameterChar_version :
    ∀ char ∈ telegramConnectVersion, isStartParameterChar char = true :=
  List.all_iff_forall_prop.mp (by decide)

theorem createdToken_chars (hex : HexDigests) (expiresAt : Int) (secret userId : String) :
    ∀ char ∈ createdToken expiresAt secret userId, isStartParameterChar char = true := by
  intro char listed
  unfold createdToken connectSigningInput at listed
  simp only [List.mem_append, List.mem_cons] at listed
  rcases listed with (version | rfl | expires | rfl | user) | rfl | signature
  · exact isStartParameterChar_version char version
  · decide
  · rcases Base36.text_chars _ char expires with rfl | digit | letter
    · decide
    · exact isStartParameterChar_digit digit
    · exact isStartParameterChar_lower letter
  · decide
  · obtain ⟨sextet, small, rfl⟩ := Base64Url.exists_sextet user
    exact isStartParameterChar_sextet sextet small
  · decide
  · rcases connectSignature_chars hex secret _ char signature with digit | letter
    · exact isStartParameterChar_digit digit
    · exact isStartParameterChar_lower ⟨letter.1, Char.le_trans letter.2 (by decide)⟩

theorem createdToken_ne_nil (expiresAt : Int) (secret userId : String) :
    createdToken expiresAt secret userId ≠ [] := by
  unfold createdToken connectSigningInput
  exact List.append_ne_nil_of_left_ne_nil (List.append_ne_nil_of_left_ne_nil
    (List.cons_ne_nil _ _) _) _

omit [Runtime] in
theorem isStartParameterChar_not_space {char : Char} (plain : isStartParameterChar char = true) :
    TextScan.isSpace char = false := by
  rw [Bool.eq_false_iff]
  intro space
  unfold TextScan.isSpace at space
  unfold isStartParameterChar Char.isAlphanum Char.isAlpha Char.isUpper Char.isLower
    Char.isDigit at plain
  simp only [Bool.or_eq_true, Bool.and_eq_true, decide_eq_true_eq, beq_iff_eq,
    UInt32.le_iff_toNat_le] at plain space
  have code : char.toNat = char.val.toNat := rfl
  rcases plain with (((upper | lower) | digit) | rfl) | rfl
  · simp at upper
    omega
  · simp at lower
    omega
  · simp at digit
    omega
  · revert space
    decide
  · revert space
    decide

omit [Runtime] in
theorem start_parameter {token : List Char} (nonempty : token ≠ [])
    (fits : token.length ≤ telegramStartParameterMaxLength)
    (plain : ∀ char ∈ token, isStartParameterChar char = true) :
    telegramStartTokenFromText (some ("/start " ++ String.ofList token)) =
      some (String.ofList token) := by
  have source : ("/start " ++ String.ofList token).toList = "/start".toList ++ ' ' :: token := by
    have command : "/start ".toList = "/start".toList ++ [' '] := rfl
    have parameter : (String.ofList token).toList = token := String.toList_ofList
    rw [String.toList_append, parameter, command, List.append_assoc]
    rfl
  have trimmed : (' ' :: token).dropWhile TextScan.isSpace = token := by
    rw [List.dropWhile_cons_of_pos (by decide)]
    cases token with
    | nil => rfl
    | cons char rest =>
        rw [List.dropWhile_cons_of_neg]
        rw [isStartParameterChar_not_space (plain char List.mem_cons_self)]
        exact Bool.false_ne_true
  have taken : token.takeWhile isStartParameterChar = token :=
    List.takeWhile_eq_self_iff.mpr plain
  have dropped : token.dropWhile isStartParameterChar = [] :=
    List.dropWhile_eq_nil_iff.mpr plain
  have longer : token.length ≠ (' ' :: token).length := by
    rw [List.length_cons]
    omega
  have isCommand : "/start".toList.isPrefixOf ("/start".toList ++ ' ' :: token) = true := by
    rw [List.isPrefixOf_iff_prefix]
    exact List.prefix_append _ _
  have parameter : startParameter (' ' :: token) = some (String.ofList token) := by
    unfold startParameter
    simp only [trimmed, taken, dropped]
    rw [if_neg]
    rintro (same | empty | long | other)
    · exact longer same
    · exact nonempty empty
    · omega
    · cases other
  unfold telegramStartTokenFromText
  simp only [Option.getD_some, source, isCommand, if_true, List.drop_left]
  exact parameter

/-! ### Reading a token -/

omit [Runtime] in
theorem underscore_not_mem_text (value : Int) : '_' ∉ Base36.text value := by
  intro listed
  rcases Base36.text_chars value '_' listed with same | digit | letter
  · exact absurd same (by decide)
  · exact absurd digit (by decide)
  · exact absurd letter (by decide)

theorem underscore_not_mem_signature (hex : HexDigests) (secret : String)
    (signingInput : List Char) : '_' ∉ connectSignature secret signingInput := by
  intro listed
  rcases connectSignature_chars hex secret signingInput '_' listed with digit | letter
  · exact absurd digit (by decide)
  · exact absurd letter (by decide)

/-- How a token of these parts is judged, once its signature is right. -/
def judgedConnectToken (expires user : List Char) (now : Int) :
    Option TelegramConnectTokenPayload :=
  (Base36.parse expires).bind (fun seconds =>
    if seconds * 1000 < now then none
    else (IsoTime.toISOString (seconds * 1000)).map (fun expiresAt =>
      { expiresAt := expiresAt
        userId := String.ofList (Utf8Stream.decode (Base64Url.decode user)) }))

theorem parse_parts {expires user : List Char} {secret : String}
    (inExpires : '_' ∉ expires) (someExpires : expires ≠ []) (someUser : user ≠ [])
    (inSignature : '_' ∉ connectSignature secret (connectSigningInput expires user))
    (someSignature : connectSignature secret (connectSigningInput expires user) ≠ [])
    (now : Int) :
    parseTelegramConnectToken (some (String.ofList (connectSigningInput expires user ++
        '_' :: connectSignature secret (connectSigningInput expires user)))) secret now =
      judgedConnectToken expires user now := by
  have inVersion : '_' ∉ telegramConnectVersion := by decide
  have parts : (connectSigningInput expires user ++
      '_' :: connectSignature secret (connectSigningInput expires user)).splitOn '_' =
      telegramConnectVersion :: expires :: (user.splitOn '_' ++
        [connectSignature secret (connectSigningInput expires user)]) := by
    have whole : connectSigningInput expires user ++
        '_' :: connectSignature secret (connectSigningInput expires user) =
        telegramConnectVersion ++ '_' :: (expires ++ '_' :: (user ++
          '_' :: connectSignature secret (connectSigningInput expires user))) := by
      simp [connectSigningInput]
    rw [whole, List.splitOn_append_cons_self_of_not_mem inVersion,
      List.splitOn_append_cons_self_of_not_mem inExpires, List.splitOn_append_cons_self,
      List.splitOn_eq_singleton inSignature]
  have pieces : user.splitOn '_' ≠ [] := List.splitOn_ne_nil '_' user
  have enough : ¬ (telegramConnectVersion :: expires :: (user.splitOn '_' ++
      [connectSignature secret (connectSigningInput expires user)])).length < 4 := by
    have some := List.length_pos_iff.mpr pieces
    simp only [List.length_cons, List.length_append, List.length_nil]
    omega
  unfold parseTelegramConnectToken
  simp only [Option.getD_some, String.toList_ofList, parts]
  rw [if_neg (not_or.mpr ⟨enough, fun differs => differs rfl⟩)]
  have last : (telegramConnectVersion :: expires :: (user.splitOn '_' ++
      [connectSignature secret (connectSigningInput expires user)])).getLast? =
      some (connectSignature secret (connectSigningInput expires user)) := by
    rw [← List.cons_append, ← List.cons_append, List.getLast?_concat]
  have middle : ['_'].intercalate ((telegramConnectVersion :: expires :: (user.splitOn '_' ++
      [connectSignature secret (connectSigningInput expires user)])).drop 2).dropLast = user := by
    rw [List.drop_succ_cons, List.drop_succ_cons, List.drop_zero, List.dropLast_concat,
      List.intercalate_splitOn]
  have second : (telegramConnectVersion :: expires :: (user.splitOn '_' ++
      [connectSignature secret (connectSigningInput expires user)]))[1]? = some expires := rfl
  simp only [last, middle, second, Option.getD_some]
  rw [if_neg (not_or.mpr ⟨someSignature, not_or.mpr ⟨someExpires, someUser⟩⟩),
    if_neg (fun differs => differs rfl)]
  rfl

omit [Runtime] in
theorem intercalate_concat {front : List (List Char)} (some : front ≠ []) (last : List Char) :
    ['_'].intercalate (front ++ [last]) = ['_'].intercalate front ++ '_' :: last := by
  induction front with
  | nil => exact absurd rfl some
  | cons first rest inductionHypothesis =>
      cases rest with
      | nil => simp
      | cons next rest =>
          have later := inductionHypothesis (List.cons_ne_nil next rest)
          rw [List.cons_append, List.intercalate_cons_of_ne_nil (by simp), later,
            List.intercalate_cons_of_ne_nil (List.cons_ne_nil next rest)]
          simp

/-- A token that is accepted is its own signing input with the signature of it. -/
theorem parse_accepts {token : List Char} {secret : String} {now : Int}
    {payload : TelegramConnectTokenPayload}
    (accepts : parseTelegramConnectToken (some (String.ofList token)) secret now = some payload) :
    ∃ expires user, '_' ∉ expires ∧ token = connectSigningInput expires user ++
        '_' :: connectSignature secret (connectSigningInput expires user) ∧
      judgedConnectToken expires user now = some payload := by
  unfold parseTelegramConnectToken at accepts
  simp only [Option.getD_some, String.toList_ofList] at accepts
  split at accepts
  · cases accepts
  · rename_i shaped
    rw [not_or, not_not] at shaped
    obtain ⟨enough, version⟩ := shaped
    split at accepts
    · cases accepts
    · split at accepts
      · cases accepts
      · rename_i signed
        rw [not_not] at signed
        refine ⟨_, _, ?_, ?_, accepts⟩
        · cases found : (token.splitOn '_')[1]? with
          | none => exact List.not_mem_nil
          | some expires => exact TextScan.not_mem_piece (List.mem_of_getElem? found)
        rw [← signed]
        have whole : ['_'].intercalate (token.splitOn '_') = token := List.intercalate_splitOn '_'
        generalize token.splitOn '_' = parts at whole enough version
        cases parts with
        | nil => simp at enough
        | cons first rest =>
            cases Option.some.inj version
            cases rest with
            | nil => simp at enough
            | cons second rest =>
                have some : rest ≠ [] := by
                  intro empty
                  rw [empty] at enough
                  simp at enough
                obtain ⟨front, last, rfl⟩ := (List.eq_nil_or_concat' rest).resolve_left some
                have middle : front ≠ [] := by
                  intro empty
                  rw [empty] at enough
                  simp at enough
                have lastPart : (telegramConnectVersion :: second ::
                    (front ++ [last])).getLast? = Option.some last := by
                  rw [← List.cons_append, ← List.cons_append, List.getLast?_concat]
                rw [lastPart, ← whole, List.drop_succ_cons, List.drop_succ_cons, List.drop_zero,
                  List.dropLast_concat, List.intercalate_cons_of_ne_nil (List.cons_ne_nil _ _),
                  List.intercalate_cons_of_ne_nil some,
                  intercalate_concat middle]
                simp [connectSigningInput]

/-! ### What tokens stand for -/

/-- What is signed for a user and an expiry. -/
def createdInput (expiresAt : Int) (userId : String) : List Char :=
  connectSigningInput (Base36.text (expiresAt / 1000)) (connectUser userId)

omit [Runtime] in
theorem judged_created {expiresAt : Int} (low : -IsoTime.maxTime ≤ expiresAt)
    (high : expiresAt ≤ IsoTime.maxTime) (userId : String) :
    ∃ shown, IsoTime.toISOString (expiresAt / 1000 * 1000) = some shown ∧
      ∀ now, judgedConnectToken (Base36.text (expiresAt / 1000)) (connectUser userId) now =
        if now ≤ expiresAt / 1000 * 1000 then some { expiresAt := shown, userId := userId }
        else none := by
  have inRange : -IsoTime.maxTime ≤ expiresAt / 1000 * 1000 ∧
      expiresAt / 1000 * 1000 ≤ IsoTime.maxTime := by
    unfold IsoTime.maxTime at low high ⊢
    omega
  obtain ⟨shown, printed⟩ := Option.isSome_iff_exists.mp (IsoTime.toISOString_isSome.mpr inRange)
  refine ⟨shown, printed, ?_⟩
  intro now
  rw [judgedConnectToken, Base36.parse_text, Option.bind_some, printed, connectUser,
    Base64Url.decode_encode, Utf8Stream.decode_utf8, String.ofList_toList]
  by_cases live : now ≤ expiresAt / 1000 * 1000
  · rw [if_neg (Int.not_lt.mpr live), if_pos live]
    rfl
  · rw [if_pos (Int.not_le.mp live), if_neg live]

omit [Runtime] in
theorem connectUser_ne_nil {userId : String} (named : userId ≠ "") : connectUser userId ≠ [] := by
  apply Base64Url.encode_ne_nil
  intro empty
  have back := Utf8Stream.decode_utf8 userId.toList
  rw [empty] at back
  apply named
  rw [← String.toList_inj, ← back]
  rfl

omit [Runtime] in
theorem connectSigningInput_injective {expires user otherExpires otherUser : List Char}
    (plain : '_' ∉ expires) (otherPlain : '_' ∉ otherExpires)
    (same : connectSigningInput expires user = connectSigningInput otherExpires otherUser) :
    expires = otherExpires ∧ user = otherUser := by
  have rests : expires ++ '_' :: user = otherExpires ++ '_' :: otherUser :=
    (List.cons.inj (List.append_cancel_left same)).2
  have pieces := congrArg (List.splitOn '_') rests
  rw [List.splitOn_append_cons_self_of_not_mem plain,
    List.splitOn_append_cons_self_of_not_mem otherPlain] at pieces
  obtain ⟨rfl, -⟩ := List.cons.inj pieces
  exact ⟨rfl, (List.cons.inj (List.append_cancel_left rests)).2⟩

/-- A token for a user with an id is recognized in a start command and read back as that user
while the expiry, truncated to the second, has not passed. A token that is accepted carries the
signature of its own text; where it is the signature of a created token, and the two signed
texts do not collide, the token is that one, for the user and expiry that are returned. -/
theorem connect_tokens_exact (hex : HexDigests) (secret : String) :
    (∀ expiresAt userId token, -IsoTime.maxTime ≤ expiresAt → expiresAt ≤ IsoTime.maxTime →
      userId ≠ "" → createTelegramConnectToken expiresAt secret userId = some token →
      telegramStartTokenFromText (some ("/start " ++ token)) = some token ∧
        ∃ shown, IsoTime.toISOString (expiresAt / 1000 * 1000) = some shown ∧
          ∀ now, parseTelegramConnectToken (some token) secret now =
            if now ≤ expiresAt / 1000 * 1000 then
              some { expiresAt := shown, userId := userId }
            else none) ∧
    ∀ token now payload, parseTelegramConnectToken (some token) secret now = some payload →
      ∃ signingInput, token = String.ofList (signingInput ++
          '_' :: connectSignature secret signingInput) ∧
        ∀ expiresAt userId, -IsoTime.maxTime ≤ expiresAt → expiresAt ≤ IsoTime.maxTime →
          (createTelegramConnectToken expiresAt secret userId).isSome →
          connectSignature secret signingInput =
            connectSignature secret (createdInput expiresAt userId) →
          (connectSignature secret signingInput =
            connectSignature secret (createdInput expiresAt userId) →
              signingInput = createdInput expiresAt userId) →
          createTelegramConnectToken expiresAt secret userId = some token ∧
            payload.userId = userId ∧
            IsoTime.toISOString (expiresAt / 1000 * 1000) = some payload.expiresAt := by
  constructor
  · intro expiresAt userId token low high named created
    obtain ⟨rfl, fits⟩ := created_eq created
    refine ⟨start_parameter (createdToken_ne_nil expiresAt secret userId) fits
      (createdToken_chars hex expiresAt secret userId), ?_⟩
    obtain ⟨shown, printed, judged⟩ := judged_created low high userId
    refine ⟨shown, printed, ?_⟩
    intro now
    rw [← judged now]
    exact parse_parts (underscore_not_mem_text _) (Base36.text_ne_nil _)
      (connectUser_ne_nil named) (underscore_not_mem_signature hex secret _)
      (connectSignature_ne_nil hex secret _) now
  · intro token now payload accepts
    rw [← String.ofList_toList (s := token)] at accepts
    obtain ⟨expires, user, plain, whole, judged⟩ := parse_accepts accepts
    refine ⟨connectSigningInput expires user, ?_, ?_⟩
    · rw [← whole, String.ofList_toList]
    · intro expiresAt userId low high created sameSignature apart
      have sameInput := apart sameSignature
      obtain ⟨other, given⟩ := Option.isSome_iff_exists.mp created
      obtain ⟨text, -⟩ := created_eq given
      obtain ⟨rfl, rfl⟩ := connectSigningInput_injective plain
        (underscore_not_mem_text (expiresAt / 1000)) sameInput
      have sameToken : other = token := by
        rw [text, ← String.ofList_toList (s := token), whole]
        rfl
      obtain ⟨shown, printed, judges⟩ := judged_created low high userId
      rw [judges now] at judged
      split at judged
      · cases judged
        exact ⟨by rw [given, sameToken], rfl, printed⟩
      · cases judged

end

/-- The digests of three signed texts. -/
private def connectDigest (secret text : String) : String :=
  if secret = "webhook-secret" ∧ text = "ag1_0_" then
    "55a7bfd77b799a09f05c289470be3238abbeef8a37d15b4b8312787335e348fb"
  else if secret = "webhook-secret" ∧ text = "ag1_0_dV9hbGljZQ" then
    "ebdb3fe34a19664d66056ac65771858b70f6aea554cb9fb2ac1a3b6fbea9d577"
  else if secret = "webhook-secret" ∧ text = "ag1_00_dV9hbGljZQ" then
    "45497ce3554c6bca75272a6c6feca90693cdd52b7e5a78fdb38e1437175cfb2a"
  else "0000000000000000000000000000000000000000000000000000000000000000"

private abbrev connectRuntime : Runtime :=
  { sampleRuntime [] with hmacSha256Hex := connectDigest }

private theorem connectRuntime_hex : @HexDigests connectRuntime := by
  intro secret text
  change telegramConnectSignatureLength ≤ (connectDigest secret text).toList.length ∧
    ∀ char ∈ (connectDigest secret text).toList,
      ('0' ≤ char ∧ char ≤ '9') ∨ ('a' ≤ char ∧ char ≤ 'f')
  unfold connectDigest
  split
  · exact ⟨by decide, List.all_iff_forall_prop.mp (by decide +kernel)⟩
  · split
    · exact ⟨by decide, List.all_iff_forall_prop.mp (by decide +kernel)⟩
    · split
      · exact ⟨by decide, List.all_iff_forall_prop.mp (by decide +kernel)⟩
      · exact ⟨by decide, List.all_iff_forall_prop.mp (by decide +kernel)⟩

/-- A token for one user, recognized, read back and accepted for that user only. -/
theorem connect_tokens_exact_alice :
    let _ := connectRuntime
    telegramStartTokenFromText (some "/start ag1_0_dV9hbGljZQ_ebdb3fe34a19664d6605") =
        some "ag1_0_dV9hbGljZQ_ebdb3fe34a19664d6605" ∧
      (∃ shown, IsoTime.toISOString 0 = some shown ∧
        ∀ now, parseTelegramConnectToken (some "ag1_0_dV9hbGljZQ_ebdb3fe34a19664d6605")
            "webhook-secret" now =
          if now ≤ 0 then some { expiresAt := shown, userId := "u_alice" } else none) ∧
      ∀ now payload, parseTelegramConnectToken
          (some "ag1_0_dV9hbGljZQ_ebdb3fe34a19664d6605") "webhook-secret" now = some payload →
        payload.userId = "u_alice" ∧ IsoTime.toISOString 0 = some payload.expiresAt := by
  intro _
  have created : createTelegramConnectToken 0 "webhook-secret" "u_alice" =
      some "ag1_0_dV9hbGljZQ_ebdb3fe34a19664d6605" := by
    decide +kernel
  obtain ⟨reads, accepted⟩ := @connect_tokens_exact connectRuntime connectRuntime_hex
    "webhook-secret"
  obtain ⟨starts, shown, printed, parses⟩ := reads 0 "u_alice"
    "ag1_0_dV9hbGljZQ_ebdb3fe34a19664d6605" (by decide) (by decide) (by decide) created
  refine ⟨starts, ⟨shown, printed, parses⟩, ?_⟩
  intro now payload accepts
  obtain ⟨signingInput, whole, own⟩ := accepted _ now payload accepts
  have sameInput : signingInput = createdInput 0 "u_alice" := by
    have literal : "ag1_0_dV9hbGljZQ_ebdb3fe34a19664d6605".toList =
        createdInput 0 "u_alice" ++ '_' :: "ebdb3fe34a19664d6605".toList := by
      decide +kernel
    have written : (String.ofList (signingInput ++
        '_' :: connectSignature "webhook-secret" signingInput)).toList =
        signingInput ++ '_' :: connectSignature "webhook-secret" signingInput :=
      String.toList_ofList
    have chars := congrArg String.toList whole
    rw [literal, written] at chars
    refine (List.append_inj_left' chars ?_).symm
    rw [List.length_cons, List.length_cons, connectSignature, List.length_take,
      Nat.min_eq_left (connectRuntime_hex "webhook-secret" _).1]
    rfl
  have owned := own 0 "u_alice" (by decide) (by decide) (by rw [created]; rfl)
    (by rw [sameInput]) (fun _ => sameInput)
  exact owned.2

/-- A token for an empty user id is created and never read back; and a token that is not
created for any user and expiry is accepted with the signature of its text. -/
theorem empty_user_unread :
    let _ := connectRuntime
    createTelegramConnectToken 0 "webhook-secret" "" = some "ag1_0__55a7bfd77b799a09f05c" ∧
      (parseTelegramConnectToken (some "ag1_0__55a7bfd77b799a09f05c") "webhook-secret" 0).isNone ∧
      (parseTelegramConnectToken (some "ag1_00_dV9hbGljZQ_45497ce3554c6bca7527")
        "webhook-secret" 0).map (fun payload => payload.userId) = some "u_alice" ∧
      ∀ expiresAt userId, createTelegramConnectToken expiresAt "webhook-secret" userId ≠
        some "ag1_00_dV9hbGljZQ_45497ce3554c6bca7527" := by
  intro _
  refine ⟨by decide +kernel, by decide +kernel, by decide +kernel, ?_⟩
  intro expiresAt userId created
  obtain ⟨text, -⟩ := created_eq created
  have chars : "ag1_00_dV9hbGljZQ_45497ce3554c6bca7527".toList =
      telegramConnectVersion ++ '_' :: (Base36.text (expiresAt / 1000) ++ '_' ::
        (connectUser userId ++ '_' :: connectSignature "webhook-secret"
          (createdInput expiresAt userId))) := by
    rw [text, String.toList_ofList, createdToken, createdInput, connectSigningInput]
    simp only [List.append_assoc, List.cons_append]
  have second : (List.splitOn '_' "ag1_00_dV9hbGljZQ_45497ce3554c6bca7527".toList)[1]? =
      some (Base36.text (expiresAt / 1000)) := by
    rw [chars, List.splitOn_append_cons_self_of_not_mem (by decide),
      List.splitOn_append_cons_self_of_not_mem (underscore_not_mem_text (expiresAt / 1000))]
    rfl
  have literal : (List.splitOn '_' "ag1_00_dV9hbGljZQ_45497ce3554c6bca7527".toList)[1]? =
      some ['0', '0'] := by
    decide +kernel
  rw [literal] at second
  have zeros : ['0', '0'] = Base36.text (expiresAt / 1000) := Option.some.inj second
  have value := Base36.parse_text (expiresAt / 1000)
  rw [← zeros] at value
  have isZero : Base36.parse ['0', '0'] = some 0 := by decide +kernel
  rw [isZero] at value
  rw [← Option.some.inj value] at zeros
  exact absurd zeros (by decide +kernel)

end ActionProxy
