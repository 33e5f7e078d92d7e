import ActionProxy.Wrapper.JsonRpcFramer

/-!
The framer of the wrapper for messages on lines of their own. It buffers text, not
bytes: a decoder before it holds back the bytes of a character that is not complete.
-/

namespace ActionProxy.Wrapper

open Framing Utf8Stream TextScan JsonText

structure NewlineJsonRpcFramer where
  buffer : List Char
  /-- The bytes its `StringDecoder` holds back. -/
  held : List UInt8
deriving DecidableEq, Repr

def newlineLimit (maxFrameBytes : Nat) : FramingError :=
  .limit ("MCP newline frame exceeds " ++ toString maxFrameBytes ++ " bytes.")

section

variable {M : Type} (maxFrameBytes : Nat) (parse : String → Option M)

/-- The message of a line; a blank line has none. -/
def readLine (text : List Char) : Except FramingError (List M) :=
  let line := trimChars text
  if line = [] then .ok []
  else if maxFrameBytes < byteLength line then .error (newlineLimit maxFrameBytes)
  else
    match parse (String.ofList line) with
    | none => .error .syntaxError
    | some message => .ok [message]

/-- One turn of the loop of `push`. -/
def NewlineJsonRpcFramer.next (buffer : List Char) :
    Except FramingError (Option (List M × List Char)) :=
  match indexOf? ['\n'] buffer with
  | none =>
      if maxFrameBytes < byteLength buffer then .error (newlineLimit maxFrameBytes) else .ok none
  | some lineEnd =>
      match readLine maxFrameBytes parse (buffer.take lineEnd) with
      | .error failure => .error failure
      | .ok messages => .ok (some (messages, buffer.drop (lineEnd + 1)))

def NewlineJsonRpcFramer.push (framer : NewlineJsonRpcFramer) (chunk : List UInt8) :
    Except FramingError (List M × NewlineJsonRpcFramer) :=
  let text := feedAll framer.held chunk
  let buffer := framer.buffer ++ text.1
  (loop (NewlineJsonRpcFramer.next maxFrameBytes parse) (buffer.length + 1) buffer []).map
    (Prod.map id (fun buffer => { buffer := buffer, held := text.2 }))

end

/-- `encodeLineDelimitedJsonRpcMessage`. -/
def encodeLineDelimitedJsonRpcMessage {nearest : JsonNumber → Option JsonNumber}
    (message : JsonRpcMessage nearest) : List Char := message.body ++ ['\n']

/-! ### Lines of bytes -/

theorem first_iff_not_mem {α : Type} {ending : α} {front : List α} :
    First [ending] front ↔ ending ∉ front := by
  rw [First, List.dropLast_concat, List.singleton_infix_iff]

section

variable {M : Type} (maxFrameBytes : Nat) (parse : String → Option M)

theorem nextLine_unfinished {buffer : List Char} (absent : '\n' ∉ buffer) :
    NewlineJsonRpcFramer.next maxFrameBytes parse buffer =
      if maxFrameBytes < byteLength buffer then .error (newlineLimit maxFrameBytes)
      else .ok none := by
  rw [NewlineJsonRpcFramer.next, indexOf?_eq_none_iff.mpr (by rwa [List.singleton_infix_iff])]

theorem nextLine_finished {line : List Char} (absent : '\n' ∉ line) (rest : List Char) :
    NewlineJsonRpcFramer.next maxFrameBytes parse (line ++ '\n' :: rest) =
      (readLine maxFrameBytes parse line).map (fun messages => some (messages, rest)) := by
  have found := indexOf?_first (List.cons_ne_nil '\n' []) (first_iff_not_mem.mpr absent) rest
  rw [List.singleton_append] at found
  rw [NewlineJsonRpcFramer.next, found]
  have after : (line ++ '\n' :: rest).drop (line.length + 1) = rest := by
    rw [← List.drop_drop, List.drop_left]
    rfl
  simp only [List.take_left, after]
  cases readLine maxFrameBytes parse line <;> rfl

/-- A turn over bytes: up to the first newline, or to the end of what is there. -/
def lineStep (buffer : List UInt8) : Except FramingError (Option (List M × List UInt8)) :=
  match indexOf? [10] buffer with
  | none =>
      if maxFrameBytes < byteLength (written buffer) then .error (newlineLimit maxFrameBytes)
      else .ok none
  | some lineEnd =>
      (readLine maxFrameBytes parse (decode (buffer.take lineEnd))).map
        (fun messages => some (messages, buffer.drop (lineEnd + 1)))

theorem lineStep_unfinished {buffer : List UInt8} (absent : 10 ∉ buffer) :
    lineStep maxFrameBytes parse buffer =
      if maxFrameBytes < byteLength (written buffer) then .error (newlineLimit maxFrameBytes)
      else .ok none := by
  rw [lineStep, indexOf?_eq_none_iff.mpr (by rwa [List.singleton_infix_iff])]

theorem lineStep_finished {line : List UInt8} (absent : 10 ∉ line) (rest : List UInt8) :
    lineStep maxFrameBytes parse (line ++ 10 :: rest) =
      (readLine maxFrameBytes parse (decode line)).map
        (fun messages => some (messages, rest)) := by
  have found := indexOf?_first (List.cons_ne_nil 10 []) (first_iff_not_mem.mpr absent) rest
  rw [List.singleton_append] at found
  have after : (line ++ 10 :: rest).drop (line.length + 1) = rest := by
    rw [← List.drop_drop, List.drop_left]
    rfl
  simp only [lineStep, found, List.take_left, after]

theorem line_cases (buffer : List UInt8) :
    10 ∉ buffer ∨ ∃ line rest, buffer = line ++ 10 :: rest ∧ 10 ∉ line := by
  by_cases absent : 10 ∈ buffer
  · obtain ⟨line, rest, rfl, none⟩ := List.eq_append_cons_of_mem absent
    exact Or.inr ⟨line, rest, rfl, none⟩
  · exact Or.inl absent

theorem line_of_lineStep {buffer rest : List UInt8} {messages : List M}
    (taken : lineStep maxFrameBytes parse buffer = .ok (some (messages, rest))) :
    ∃ line, buffer = line ++ 10 :: rest ∧ 10 ∉ line ∧
      readLine maxFrameBytes parse (decode line) = .ok messages := by
  rcases line_cases buffer with absent | ⟨line, after, rfl, absent⟩
  · rw [lineStep_unfinished maxFrameBytes parse absent] at taken
    split at taken <;> cases taken
  · rw [lineStep_finished maxFrameBytes parse absent] at taken
    cases read : readLine maxFrameBytes parse (decode line) with
    | error failure =>
        rw [read] at taken
        cases taken
    | ok found =>
        rw [read] at taken
        cases taken
        exact ⟨line, rfl, absent, read⟩

def lineDecoder : Decoder UInt8 M where
  step buffer := stepOf (lineStep maxFrameBytes parse buffer)
  start := rfl
  whole := by
    intro buffer messages rest taken
    obtain ⟨line, rfl, absent, read⟩ := line_of_lineStep maxFrameBytes parse (next_of_emit taken)
    refine ⟨line ++ [10], by simp, by simp, ?_⟩
    intro more
    rw [List.append_assoc, List.singleton_append,
      lineStep_finished maxFrameBytes parse absent more, read]
    rfl

/-- A turn of the framer over what was read of the bytes is a turn over the bytes. -/
theorem turns_lines (buffer : List UInt8) :
    Turns (NewlineJsonRpcFramer.next maxFrameBytes parse) (lineDecoder maxFrameBytes parse) written
      buffer := by
  unfold Turns lineDecoder
  dsimp only
  rcases line_cases buffer with absent | ⟨line, rest, rfl, absent⟩
  · rw [lineStep_unfinished maxFrameBytes parse absent,
      nextLine_unfinished maxFrameBytes parse (newline_not_written absent)]
    by_cases long : maxFrameBytes < byteLength (written buffer)
    · simp only [if_pos long]
      exact ⟨_, rfl⟩
    · simp only [if_neg long]
      exact True.intro
  · rw [lineStep_finished maxFrameBytes parse absent, written_line,
      nextLine_finished maxFrameBytes parse (newline_not_in_decode absent)]
    cases readLine maxFrameBytes parse (decode line) with
    | error failure => exact ⟨failure, rfl⟩
    | ok messages => rfl

theorem written_shorter {buffer rest : List UInt8} {messages : List M}
    (taken : (lineDecoder maxFrameBytes parse).step buffer = .emit messages rest) :
    (written rest).length < (written buffer).length := by
  obtain ⟨line, rfl, _, _⟩ := line_of_lineStep maxFrameBytes parse (next_of_emit taken)
  rw [written_line, List.length_append, List.length_cons]
  omega

theorem held_of_drain {buffer rest : List UInt8} {messages : List M}
    (drained : (lineDecoder maxFrameBytes parse).drain buffer = some (messages, rest)) :
    held rest = held buffer := by
  induction buffer using (lineDecoder maxFrameBytes parse).takingInduction generalizing messages with
  | more buffer waits =>
      rw [Decoder.drain_more waits] at drained
      cases drained
      rfl
  | fail buffer fails =>
      rw [Decoder.drain_fail fails] at drained
      cases drained
  | emit buffer first left taken ih =>
      obtain ⟨line, rfl, _, _⟩ := line_of_lineStep maxFrameBytes parse (next_of_emit taken)
      rw [Decoder.drain_emit taken] at drained
      obtain ⟨⟨later, rest'⟩, inner, same⟩ := Option.map_eq_some_iff.mp drained
      cases same
      rw [ih inner, held_line]

/-- The framer after some bytes that no newline was taken from. -/
def holdingLine (bytes : List UInt8) : NewlineJsonRpcFramer :=
  { buffer := written bytes, held := held bytes }

theorem newlineFramer_implements :
    Implements (NewlineJsonRpcFramer.push maxFrameBytes parse) (lineDecoder maxFrameBytes parse)
      holdingLine := by
  intro buffer chunk
  have looped := loop_toOption List.length (turns_lines maxFrameBytes parse)
    (written_shorter maxFrameBytes parse)
    (Nat.lt_succ_self (written (buffer ++ chunk)).length) []
  rw [Decoder.after_nothing] at looped
  have text : (holdingLine buffer).buffer ++ (feedAll (holdingLine buffer).held chunk).1 =
      written (buffer ++ chunk) := (written_append buffer chunk).symm
  rw [NewlineJsonRpcFramer.push, toOption_map]
  simp only [text, looped]
  cases drained : (lineDecoder maxFrameBytes parse).drain (buffer ++ chunk) with
  | none => rfl
  | some result =>
      have kept := held_of_drain maxFrameBytes parse drained
      simp only [Option.map_some, Prod.map, holdingLine, kept, id_eq, held_append]

end

end ActionProxy.Wrapper
