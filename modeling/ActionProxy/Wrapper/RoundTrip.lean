import ActionProxy.Wrapper.FramingLaws

/-!
What the encoders write the framers read back, in whatever pieces it arrives: streams
of encoded messages are regular, and draining one gives its messages.
-/

namespace ActionProxy.Wrapper

open Framing Utf8Stream TextScan JsonText

section

variable {nearest : JsonNumber → Option JsonNumber}

/-- The value that a message's text spells. -/
def JsonRpcMessage.received (message : JsonRpcMessage nearest) : Json :=
  printed insertionOrder message.value

theorem JsonRpcMessage.same_received (message : JsonRpcMessage nearest) :
    Same message.value message.received :=
  same_printed insertionOrder message.value

theorem JsonRpcMessage.parse_body (message : JsonRpcMessage nearest) :
    jsonParse nearest (String.ofList message.body) = some message.received :=
  jsonParse_printed insertionOrder message.distinct message.exact

theorem JsonRpcMessage.body_braces (message : JsonRpcMessage nearest) :
    ∃ inner, message.body = '{' :: (inner ++ ['}']) :=
  ⟨_, textWith_obj insertionOrder message.members⟩

theorem JsonRpcMessage.trim_body (message : JsonRpcMessage nearest) :
    trimChars message.body = message.body := by
  obtain ⟨inner, braces⟩ := message.body_braces
  have opening : message.body.dropWhile isSpace = message.body := by
    rw [braces]
    rfl
  have closing : message.body = ('{' :: inner) ++ ['}'] := braces
  rw [trimChars, opening, closing, List.rdropWhile_concat_neg]
  decide

theorem JsonRpcMessage.body_one_line (message : JsonRpcMessage nearest) :
    '\n' ∉ message.body := by
  intro listed
  have visible := visible_textWith insertionOrder message.value '\n' listed
  revert visible
  decide

/-! ### Lines -/

theorem utf8_line (message : JsonRpcMessage nearest) (rest : List UInt8) :
    utf8 (encodeLineDelimitedJsonRpcMessage message) ++ rest = utf8 message.body ++ 10 :: rest := by
  rw [encodeLineDelimitedJsonRpcMessage, utf8_append, List.append_assoc]
  rfl

theorem newline_not_encoded (message : JsonRpcMessage nearest) : 10 ∉ utf8 message.body := by
  intro listed
  exact message.body_one_line (ascii_mem (by decide) listed)

theorem readLine_body {maxFrameBytes : Nat} {message : JsonRpcMessage nearest}
    (fits : byteLength message.body ≤ maxFrameBytes) :
    readLine maxFrameBytes (jsonParse nearest) (decode (utf8 message.body)) =
      .ok [message.received] := by
  have visible : message.body ≠ [] := by
    obtain ⟨inner, braces⟩ := message.body_braces
    rw [braces]
    exact List.cons_ne_nil _ _
  unfold readLine
  simp only [decode_utf8, message.trim_body, if_neg visible, if_neg (Nat.not_lt.mpr fits),
    message.parse_body]

/-- The bytes of the messages, each on a line. -/
def lineStream (messages : List (JsonRpcMessage nearest)) : List UInt8 :=
  utf8 (messages.flatMap encodeLineDelimitedJsonRpcMessage)

theorem lineStream_cons (message : JsonRpcMessage nearest)
    (messages : List (JsonRpcMessage nearest)) :
    lineStream (message :: messages) = utf8 message.body ++ 10 :: lineStream messages := by
  rw [lineStream, List.flatMap_cons, utf8_append, utf8_line]
  rfl

theorem lineStream_regular {maxFrameBytes : Nat} {messages : List (JsonRpcMessage nearest)}
    (fits : ∀ message ∈ messages, byteLength message.body ≤ maxFrameBytes) :
    RegularLines maxFrameBytes (jsonParse nearest) (lineStream messages) := by
  induction messages with
  | nil => exact .unfinished List.not_mem_nil (Nat.zero_le _)
  | cons message messages ih =>
      have fit := fits message List.mem_cons_self
      have within : Within maxFrameBytes (utf8 message.body) := by
        rw [Within, written_utf8]
        exact fit
      rw [lineStream_cons]
      exact .line (newline_not_encoded message) within
        (validLine_iff.mpr ⟨_, readLine_body fit⟩)
        (ih (fun other listed => fits other (List.mem_cons_of_mem message listed)))

theorem lineStream_drained {maxFrameBytes : Nat} {messages : List (JsonRpcMessage nearest)}
    (fits : ∀ message ∈ messages, byteLength message.body ≤ maxFrameBytes) :
    (lineDecoder maxFrameBytes (jsonParse nearest)).drain (lineStream messages) =
      some (messages.map JsonRpcMessage.received, []) := by
  induction messages with
  | nil => exact Decoder.drain_nil _
  | cons message messages ih =>
      have fit := fits message List.mem_cons_self
      have rest := ih (fun other listed => fits other (List.mem_cons_of_mem message listed))
      rw [lineStream_cons, Decoder.drain_emit
        (lineStep_valid (newline_not_encoded message) (readLine_body fit) _), rest]
      rfl

/-! ### Frames -/

/-- The header of a body of so many bytes. -/
def headerText (length : Nat) : List Char := "Content-Length: ".toList ++ Nat.toDigits 10 length

theorem digit_plain {char : Char} (digit : JsonNumber.isDigit char = true) :
    isSpace char = false ∧ isLineTerminator char = false ∧ char ≠ '\r' ∧ char.utf8Size = 1 := by
  have bounds : 48 ≤ char.toNat ∧ char.toNat ≤ 57 := by
    simp only [JsonNumber.isDigit, Char.isDigit, Bool.and_eq_true, decide_eq_true_eq,
      UInt32.le_iff_toNat_le] at digit
    exact digit
  have other {mark : Char} (outside : mark.toNat < 48 ∨ 57 < mark.toNat) : char ≠ mark := by
    rintro rfl
    omega
  refine ⟨?_, ?_, other (by decide), ?_⟩
  · unfold isSpace
    simp only [Bool.or_eq_false_iff, Bool.and_eq_false_iff, decide_eq_false_iff_not,
      beq_eq_false_iff_ne]
    omega
  · simp only [isLineTerminator, Bool.or_eq_false_iff, beq_eq_false_iff_ne]
    exact ⟨⟨⟨other (by decide), other (by decide)⟩, other (by decide)⟩, other (by decide)⟩
  · rw [Char.utf8Size_eq_one_iff, UInt32.le_iff_toNat_le]
    exact le_trans bounds.2 (by decide)

theorem headerText_plain (length : Nat) :
    ∀ char ∈ headerText length,
      isLineTerminator char = false ∧ char ≠ '\r' ∧ char.utf8Size = 1 := by
  have name : "Content-Length: ".toList.all (fun char =>
      decide (isLineTerminator char = false ∧ char ≠ '\r' ∧ char.utf8Size = 1)) = true := by
    decide
  intro char listed
  rcases List.mem_append.mp listed with inName | inDigits
  · exact of_decide_eq_true (List.all_eq_true.mp name char inName)
  · exact (digit_plain (JsonNumber.isDigit_toDigits inDigits)).2

theorem afterIgnoringCase_spelled {name spelled : List Char}
    (same : spelled.map Char.toLower = name) (rest : List Char) :
    afterIgnoringCase name (spelled ++ rest) = some rest := by
  subst same
  induction spelled with
  | nil => rfl
  | cons char spelled ih =>
      rw [List.map_cons, List.cons_append, afterIgnoringCase, if_pos rfl]
      exact ih

theorem afterIgnoringCase_header (digits : List Char) :
    afterIgnoringCase "content-length:".toList ("Content-Length: ".toList ++ digits) =
      some (' ' :: digits) := by
  have spelled : "Content-Length: ".toList = "Content-Length:".toList ++ [' '] := by decide
  rw [spelled, List.append_assoc, List.singleton_append]
  exact afterIgnoringCase_spelled (by decide) _

theorem contentLengthHere_header (length : Nat) :
    contentLengthHere (headerText length) = some (Nat.toDigits 10 length) := by
  have all : ∀ char ∈ Nat.toDigits 10 length, JsonNumber.isDigit char = true :=
    fun _ listed => JsonNumber.isDigit_toDigits listed
  have nonempty : Nat.toDigits 10 length ≠ [] := List.length_pos_iff.mp Nat.length_toDigits_pos
  unfold contentLengthHere headerText
  simp only [afterIgnoringCase_header]
  generalize Nat.toDigits 10 length = digits at all nonempty
  have start : (' ' :: digits).dropWhile isSpace = digits := by
    cases digits with
    | nil => exact absurd rfl nonempty
    | cons first rest =>
        have visible := (digit_plain (all first List.mem_cons_self)).1
        rw [List.dropWhile_cons_of_pos (by decide), List.dropWhile_cons_of_neg (by simp [visible])]
  have tail : digits.dropWhile JsonNumber.isDigit = [] := List.dropWhile_eq_nil_iff.mpr all
  simp only [start, List.takeWhile_eq_self_iff.mpr all, tail, if_neg nonempty]
  rfl

theorem contentLengths_inside {chars : List Char}
    (plain : ∀ char ∈ chars, isLineTerminator char = false) :
    contentLengths false chars = [] := by
  induction chars with
  | nil => rfl
  | cons char chars ih =>
      rw [contentLengths, plain char List.mem_cons_self,
        ih (fun other listed => plain other (List.mem_cons_of_mem char listed))]
      rfl

theorem declares_header (length : Nat) : Declares (utf8 (headerText length)) length := by
  refine ⟨Nat.toDigits 10 length, ?_, Nat.ofDigitChars_toDigits (by decide) (by decide)⟩
  rw [decode_utf8]
  have here := contentLengthHere_header length
  have plain := headerText_plain length
  cases spelled : headerText length with
  | nil => cases spelled
  | cons char chars =>
      rw [spelled] at here plain
      rw [contentLengths, if_pos rfl, here, (plain char List.mem_cons_self).1,
        contentLengths_inside (fun other listed =>
          (plain other (List.mem_cons_of_mem char listed)).1)]
      rfl

theorem header_first (length : Nat) : First headerEnding (utf8 (headerText length)) := by
  apply first_of_not_mem
  intro listed
  exact (headerText_plain length _ (ascii_mem (by decide) listed)).2.1 rfl

theorem header_short {length : Nat} (exact : length ≤ MAX_SAFE_INTEGER) :
    (utf8 (headerText length)).length + 3 ≤ DEFAULT_MAX_FRAME_HEADER_BYTES := by
  have bound : length < 10 ^ 16 := lt_of_le_of_lt exact (by norm_num [MAX_SAFE_INTEGER])
  have digits := Nat.toDigits_length 10 length 16 (by decide) bound
  have size := byteLength_ascii (fun char listed => (headerText_plain length char listed).2.2)
  have name : "Content-Length: ".toList.length = 16 := by decide
  have parts : (headerText length).length = 16 + (Nat.toDigits 10 length).length := by
    rw [← name]
    exact List.length_append
  have room : 16 + 16 + 3 ≤ DEFAULT_MAX_FRAME_HEADER_BYTES := by decide
  have total : (utf8 (headerText length)).length ≤ 16 + 16 := by
    change byteLength (headerText length) ≤ 16 + 16
    omega
  exact le_trans (Nat.add_le_add_right total 3) room

/-- The bytes of the messages, each behind its header. -/
def frameStream (messages : List (JsonRpcMessage nearest)) : List UInt8 :=
  utf8 (messages.flatMap encodeJsonRpcMessage)

theorem utf8_frame (message : JsonRpcMessage nearest) :
    utf8 (encodeJsonRpcMessage message) = utf8 (headerText (byteLength message.body)) ++
      (headerEnding ++ utf8 message.body) := by
  have ending : utf8 "\r\n\r\n".toList = headerEnding := rfl
  rw [← ending, ← utf8_append, ← utf8_append]
  rfl

theorem frameStream_cons (message : JsonRpcMessage nearest)
    (messages : List (JsonRpcMessage nearest)) :
    frameStream (message :: messages) = utf8 (headerText (byteLength message.body)) ++
      (headerEnding ++ (utf8 message.body ++ frameStream messages)) := by
  rw [frameStream, List.flatMap_cons, utf8_append, utf8_frame, List.append_assoc,
    List.append_assoc]
  rfl

/-- The limits of `new JsonRpcFramer(maxFrameBytes)`. -/
def framerLimits (maxFrameBytes : Nat) (exact : maxFrameBytes ≤ MAX_SAFE_INTEGER) : FrameLimits :=
  { maxFrameBytes := maxFrameBytes, exact := exact }

theorem reads_body (message : JsonRpcMessage nearest) :
    jsonParse nearest (String.ofList (decode (utf8 message.body))) = some message.received := by
  rw [decode_utf8, message.parse_body]

section

variable {maxFrameBytes : Nat} (exact : maxFrameBytes ≤ MAX_SAFE_INTEGER)
  {messages : List (JsonRpcMessage nearest)}

theorem frameStream_regular
    (fits : ∀ message ∈ messages, byteLength message.body ≤ maxFrameBytes) :
    Regular (framerLimits maxFrameBytes exact) (jsonParse nearest) (frameStream messages) := by
  induction messages with
  | nil => exact .unterminated (fun occurs => headerEnding_nonempty (List.infix_nil.mp occurs)) (Nat.zero_le _)
  | cons message messages ih =>
      have fit := fits message List.mem_cons_self
      rw [frameStream_cons]
      exact .frame (header_first _) (header_short (fit.trans exact)) (declares_header _) fit
        ⟨_, reads_body message⟩
        (ih (fun other listed => fits other (List.mem_cons_of_mem message listed)))

theorem frameStream_drained
    (fits : ∀ message ∈ messages, byteLength message.body ≤ maxFrameBytes) :
    (frameDecoder (framerLimits maxFrameBytes exact) (jsonParse nearest)).drain
        (frameStream messages) = some (messages.map JsonRpcMessage.received, []) := by
  induction messages with
  | nil => exact Decoder.drain_nil _
  | cons message messages ih =>
      have fit := fits message List.mem_cons_self
      have rest := ih (fun other listed => fits other (List.mem_cons_of_mem message listed))
      have short := header_short (fit.trans exact)
      have read : frameLength (framerLimits maxFrameBytes exact)
          (utf8 (headerText (byteLength message.body))) = .ok (utf8 message.body).length :=
        frameLength_eq_ok_iff.mpr ⟨le_trans (Nat.le_add_right _ 3) short, declares_header _, fit⟩
      have taken := step_of_next
        (next_frame _ _ (header_first _) read (reads_body message) (frameStream messages))
      rw [frameStream_cons, Decoder.drain_emit taken, rest]
      rfl

end

/-- Encoded messages within the frame limit come out of either framer as they were,
in order and however their bytes are cut, and nothing stays behind. -/
theorem framing_round_trip (messages : List (JsonRpcMessage nearest)) (maxFrameBytes : Nat)
    (fits : ∀ message ∈ messages, byteLength message.body ≤ maxFrameBytes) :
    (∀ (exact : maxFrameBytes ≤ MAX_SAFE_INTEGER) (chunks : List (List UInt8)),
      chunks.flatten = utf8 (messages.flatMap encodeJsonRpcMessage) →
      pushAll (JsonRpcFramer.push (framerLimits maxFrameBytes exact) (jsonParse nearest)) ⟨[]⟩
          chunks =
        (messages.map JsonRpcMessage.received, .ok ⟨[]⟩)) ∧
    (∀ chunks : List (List UInt8),
      chunks.flatten = utf8 (messages.flatMap encodeLineDelimitedJsonRpcMessage) →
      pushAll (NewlineJsonRpcFramer.push maxFrameBytes (jsonParse nearest)) ⟨[], []⟩ chunks =
        (messages.map JsonRpcMessage.received, .ok ⟨[], []⟩)) ∧
    List.Forall₂ Same (messages.map JsonRpcMessage.value)
      (messages.map JsonRpcMessage.received) := by
  refine ⟨?_, ?_, ?_⟩
  · intro exact chunks pieces
    have steady := (frameStream_regular exact fits).steady
    have drained := frameStream_drained exact fits
    rw [frameStream, ← pieces] at steady drained
    exact (jsonRpcFramer_implements _ _).pushAll_whole steady drained
  · intro chunks pieces
    have steady := (lineStream_regular fits).steady
    have drained := lineStream_drained fits
    rw [lineStream, ← pieces] at steady drained
    exact (newlineFramer_implements _ _).pushAll_whole steady drained
  · rw [List.forall₂_map_left_iff, List.forall₂_map_right_iff]
    exact List.forall₂_same.mpr (fun message _ => message.same_received)

end

private def pingMessage : JsonRpcMessage some :=
  { members := [("id", some (.num (JsonNumber.ofInt 1))), ("jsonrpc", some (.str "2.0")),
      ("method", some (.str "é\n"))]
    distinct := by decide +kernel
    exact := by decide +kernel }

/-- A message with a character of two bytes, in pieces of one byte. -/
theorem ping_round_trip :
    pushAll (JsonRpcFramer.push (framerLimits DEFAULT_MAX_FRAME_BYTES (by decide)) (jsonParse some))
        ⟨[]⟩ ((utf8 ([pingMessage].flatMap encodeJsonRpcMessage)).map fun byte => [byte]) =
      ([pingMessage.received], .ok ⟨[]⟩) :=
  (framing_round_trip [pingMessage] DEFAULT_MAX_FRAME_BYTES (by decide +kernel)).1 (by decide) _
    (by rw [← List.flatMap_def, List.flatMap_singleton'])

end ActionProxy.Wrapper
