import ActionProxy.Foundation.Framing
import ActionProxy.Foundation.Utf8Stream
import ActionProxy.Foundation.TextScan
import ActionProxy.Foundation.JsonParse

/-!
The framer of the wrapper for messages behind a `Content-Length` header. What
`JSON.parse` makes of a body is a parameter.
-/

namespace ActionProxy.Wrapper

open Framing Utf8Stream TextScan JsonText

def DEFAULT_MAX_FRAME_BYTES : Nat := 1024 * 1024

def DEFAULT_MAX_FRAME_HEADER_BYTES : Nat := 8 * 1024

/-- `Number.MAX_SAFE_INTEGER`. -/
def MAX_SAFE_INTEGER : Nat := 2 ^ 53 - 1

/-- A message as the language holds it: no key twice, and every number one of its own. -/
structure JsonRpcMessage (nearest : JsonNumber → Option JsonNumber) where
  members : List (String × Option Json)
  distinct : distinctKeys (.obj members) = true
  exact : exactNumbers nearest (.obj members) = true

def JsonRpcMessage.value {nearest : JsonNumber → Option JsonNumber}
    (message : JsonRpcMessage nearest) : Json := .obj message.members

/-- `JSON.stringify(message)`. -/
def JsonRpcMessage.body {nearest : JsonNumber → Option JsonNumber}
    (message : JsonRpcMessage nearest) : List Char := textWith insertionOrder message.value

/-- The errors a push throws, each under its class. -/
inductive FramingError where
  | limit (message : String)
  | invalid (message : String)
  | syntaxError
deriving DecidableEq, Repr

/-- The limits of a framer; a limit is an exact number of the language. -/
structure FrameLimits where
  maxFrameBytes : Nat := DEFAULT_MAX_FRAME_BYTES
  maxHeaderBytes : Nat := DEFAULT_MAX_FRAME_HEADER_BYTES
  exact : maxFrameBytes ≤ MAX_SAFE_INTEGER := by decide

/-! ### The header -/

def isLineTerminator (char : Char) : Bool :=
  char == '\n' || char == '\r' || char == '\u2028' || char == '\u2029'

/-- The characters after the given ones, in any case of their letters. -/
def afterIgnoringCase : List Char → List Char → Option (List Char)
  | [], chars => some chars
  | _ :: _, [] => none
  | expected :: name, char :: chars =>
      if expected = char.toLower then afterIgnoringCase name chars else none

/-- `content-length:\s*(\d+)\s*$` at the start of these characters. -/
def contentLengthHere (chars : List Char) : Option (List Char) :=
  match afterIgnoringCase "content-length:".toList chars with
  | none => none
  | some rest =>
      let value := rest.dropWhile isSpace
      let digits := value.takeWhile JsonNumber.isDigit
      let tail := value.dropWhile JsonNumber.isDigit
      if digits = [] then none
      else if tail.dropWhile isSpace = [] || (tail.takeWhile isSpace).any isLineTerminator then
        some digits
      else none

/-- `matchAll(/^content-length:\s*(\d+)\s*$/gimu)`: the digits of every match. A match
ends before the next line with anything in it, so each line start is tried. -/
def contentLengths : Bool → List Char → List (List Char)
  | _, [] => []
  | lineStart, char :: chars =>
      (if lineStart then contentLengthHere (char :: chars) else none).toList ++
        contentLengths (isLineTerminator char) chars

def lengthValue (digits : List Char) : Nat := Nat.ofDigitChars 10 digits 0

def headerLimit (limits : FrameLimits) : FramingError :=
  .limit ("MCP frame header exceeds " ++ toString limits.maxHeaderBytes ++ " bytes.")

/-- The length of the body that a complete header announces. -/
def frameLength (limits : FrameLimits) (header : List UInt8) : Except FramingError Nat :=
  if limits.maxHeaderBytes < header.length then .error (headerLimit limits)
  else
    match contentLengths true (decode header) with
    | [digits] =>
        let length := lengthValue digits
        if MAX_SAFE_INTEGER < length then
          .error (.invalid "Invalid JSON-RPC frame: invalid Content-Length.")
        else if limits.maxFrameBytes < length then
          .error (.limit ("MCP frame exceeds " ++ toString limits.maxFrameBytes ++ " bytes."))
        else .ok length
    | _ => .error (.invalid "Invalid JSON-RPC frame: exactly one Content-Length is required.")

/-! ### The framer -/

/-- `'\r\n\r\n'`. -/
def headerEnding : List UInt8 := [13, 10, 13, 10]

structure JsonRpcFramer where
  buffer : List UInt8
deriving DecidableEq, Repr

section

variable {M : Type} (limits : FrameLimits) (parse : String → Option M)

/-- One turn of the loop of `push`: return, throw, or the next message and what
is after it. -/
def JsonRpcFramer.next (buffer : List UInt8) :
    Except FramingError (Option (List M × List UInt8)) :=
  match indexOf? headerEnding buffer with
  | none =>
      if limits.maxHeaderBytes < buffer.length then .error (headerLimit limits) else .ok none
  | some headerEnd =>
      match frameLength limits (buffer.take headerEnd) with
      | .error failure => .error failure
      | .ok length =>
          let bodyStart := headerEnd + 4
          let bodyEnd := bodyStart + length
          if buffer.length < bodyEnd then .ok none
          else
            match parse (String.ofList (decode ((buffer.take bodyEnd).drop bodyStart))) with
            | none => .error .syntaxError
            | some message => .ok (some ([message], buffer.drop bodyEnd))

def JsonRpcFramer.push (framer : JsonRpcFramer) (chunk : List UInt8) :
    Except FramingError (List M × JsonRpcFramer) :=
  let buffer := framer.buffer ++ chunk
  (loop (JsonRpcFramer.next limits parse) (buffer.length + 1) buffer []).map
    (Prod.map id JsonRpcFramer.mk)

end

/-- `encodeJsonRpcMessage`. -/
def encodeJsonRpcMessage {nearest : JsonNumber → Option JsonNumber}
    (message : JsonRpcMessage nearest) : List Char :=
  "Content-Length: ".toList ++ Nat.toDigits 10 (byteLength message.body) ++
    ("\r\n\r\n".toList ++ message.body)

/-! ### What a header says -/

/-- The header has one content length, of this value. -/
def Declares (header : List UInt8) (length : Nat) : Prop :=
  ∃ digits, contentLengths true (decode header) = [digits] ∧ lengthValue digits = length

theorem frameLength_eq_ok_iff {limits : FrameLimits} {header : List UInt8} {length : Nat} :
    frameLength limits header = .ok length ↔
      header.length ≤ limits.maxHeaderBytes ∧ Declares header length ∧
        length ≤ limits.maxFrameBytes := by
  have exact := limits.exact
  unfold frameLength Declares
  constructor
  · intro read
    split at read
    · cases read
    · rename_i short
      split at read
      · rename_i digits listed
        dsimp only at read
        split at read
        · cases read
        · split at read
          · cases read
          · rename_i fits
            cases read
            exact ⟨by omega, ⟨digits, listed, rfl⟩, by omega⟩
      · cases read
  · rintro ⟨short, ⟨digits, listed, rfl⟩, fits⟩
    rw [if_neg (by omega), listed]
    dsimp only
    rw [if_neg (by omega), if_neg (by omega)]

/-! ### One turn -/

theorem headerEnding_nonempty : headerEnding ≠ [] := by decide

section

variable {M : Type} (limits : FrameLimits) (parse : String → Option M)

theorem next_unterminated {buffer : List UInt8} (absent : ¬ headerEnding <:+: buffer) :
    JsonRpcFramer.next limits parse buffer =
      if limits.maxHeaderBytes < buffer.length then .error (headerLimit limits) else .ok none := by
  rw [JsonRpcFramer.next, indexOf?_eq_none_iff.mpr absent]

theorem next_terminated {header : List UInt8} (first : First headerEnding header)
    (rest : List UInt8) :
    JsonRpcFramer.next limits parse (header ++ (headerEnding ++ rest)) =
      match frameLength limits header with
      | .error failure => .error failure
      | .ok length =>
          if rest.length < length then .ok none
          else
            match parse (String.ofList (decode (rest.take length))) with
            | none => .error .syntaxError
            | some message => .ok (some ([message], rest.drop length)) := by
  have ending : headerEnding.length = 4 := rfl
  rw [JsonRpcFramer.next, indexOf?_first headerEnding_nonempty first]
  simp only [List.take_left]
  cases frameLength limits header with
  | error failure => rfl
  | ok length =>
      have size : (header ++ (headerEnding ++ rest)).length < header.length + 4 + length ↔
          rest.length < length := by
        simp only [List.length_append, ending]
        omega
      have opened : (header ++ (headerEnding ++ rest)).drop (header.length + 4) = rest := by
        rw [← ending, ← List.length_append, ← List.append_assoc, List.drop_left]
      have body : ((header ++ (headerEnding ++ rest)).take (header.length + 4 + length)).drop
          (header.length + 4) = rest.take length := by
        rw [List.drop_take, opened, Nat.add_sub_cancel_left]
      have after : (header ++ (headerEnding ++ rest)).drop (header.length + 4 + length) =
          rest.drop length := by
        rw [← List.drop_drop, opened]
      simp only [size, body, after]

theorem frame_of_next {buffer rest : List UInt8} {messages : List M}
    (taken : JsonRpcFramer.next limits parse buffer = .ok (some (messages, rest))) :
    ∃ header body message, buffer = header ++ (headerEnding ++ (body ++ rest)) ∧
      First headerEnding header ∧ frameLength limits header = .ok body.length ∧
      parse (String.ofList (decode body)) = some message ∧ messages = [message] := by
  cases found : indexOf? headerEnding buffer with
  | none =>
      rw [next_unterminated limits parse (indexOf?_eq_none_iff.mp found)] at taken
      split at taken <;> cases taken
  | some headerEnd =>
      obtain ⟨header, after, rfl, _, first⟩ := eq_of_indexOf? headerEnding_nonempty found
      rw [next_terminated limits parse first] at taken
      split at taken
      · cases taken
      · rename_i length read
        split at taken
        · cases taken
        · rename_i complete
          split at taken
          · cases taken
          · rename_i message parsed
            cases taken
            have size : (after.take length).length = length := by
              rw [List.length_take]
              omega
            exact ⟨header, after.take length, message, by rw [List.take_append_drop], first,
              by rw [size]; exact read, parsed, rfl⟩

theorem next_frame {header body : List UInt8} {message : M} (first : First headerEnding header)
    (read : frameLength limits header = .ok body.length)
    (parsed : parse (String.ofList (decode body)) = some message) (rest : List UInt8) :
    JsonRpcFramer.next limits parse (header ++ (headerEnding ++ (body ++ rest))) =
      .ok (some ([message], rest)) := by
  rw [next_terminated limits parse first, read]
  have complete : ¬ (body ++ rest).length < body.length := by
    rw [List.length_append]
    omega
  simp only [if_neg complete, List.take_left, parsed, List.drop_left]

/-! ### The framer as a decoder -/

def frameDecoder : Decoder UInt8 M where
  step buffer := stepOf (JsonRpcFramer.next limits parse buffer)
  start := rfl
  whole := by
    intro buffer messages rest taken
    obtain ⟨header, body, message, rfl, first, read, parsed, rfl⟩ :=
      frame_of_next limits parse (next_of_emit taken)
    refine ⟨header ++ (headerEnding ++ body), by simp [headerEnding], by simp, ?_⟩
    intro more
    rw [List.append_assoc, List.append_assoc, next_frame limits parse first read parsed more]
    rfl

theorem jsonRpcFramer_implements :
    Implements (JsonRpcFramer.push limits parse) (frameDecoder limits parse) JsonRpcFramer.mk := by
  intro buffer chunk
  have same (buffer : List UInt8) :
      Turns (JsonRpcFramer.next limits parse) (frameDecoder limits parse) id buffer :=
    turns_of_stepOf rfl
  have looped := loop_toOption List.length same (frameDecoder limits parse).shorter
    (Nat.lt_succ_self (id (buffer ++ chunk)).length) []
  rw [Decoder.after_nothing] at looped
  rw [JsonRpcFramer.push, toOption_map]
  simp only [id_eq] at looped
  rw [looped, Option.map_map]
  rfl

end

end ActionProxy.Wrapper
