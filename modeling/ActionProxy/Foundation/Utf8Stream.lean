import Mathlib.Data.List.Basic
import Mathlib.Data.List.Infix

/-!
UTF-8 read one byte at a time. A decoder holds back the bytes of a character
that is not complete yet; bytes that are no character become replacement
characters, one for each longest start of a character. What was read before a
cut never changes with what comes after it.
-/

namespace Utf8Stream

/-- The bytes of a text. -/
def utf8 (text : List Char) : List UInt8 := text.flatMap String.utf8EncodeChar

/-- `Buffer.byteLength`. -/
def byteLength (text : List Char) : Nat := (utf8 text).length

@[simp] theorem utf8_nil : utf8 [] = [] := rfl

@[simp] theorem utf8_cons (char : Char) (text : List Char) :
    utf8 (char :: text) = String.utf8EncodeChar char ++ utf8 text := rfl

@[simp] theorem utf8_append (first second : List Char) :
    utf8 (first ++ second) = utf8 first ++ utf8 second :=
  List.flatMap_append

theorem byteLength_append (first second : List Char) :
    byteLength (first ++ second) = byteLength first + byteLength second := by
  simp only [byteLength, utf8_append, List.length_append]

theorem byteLength_ascii {text : List Char} (ascii : ∀ char ∈ text, char.utf8Size = 1) :
    byteLength text = text.length := by
  induction text with
  | nil => rfl
  | cons char text ih =>
      have rest := ih (fun other listed => ascii other (List.mem_cons_of_mem char listed))
      have size : byteLength [char] = 1 := by
        rw [byteLength, utf8_cons, utf8_nil, List.append_nil, String.length_utf8EncodeChar]
        exact ascii char List.mem_cons_self
      rw [← List.singleton_append, byteLength_append, size, rest, List.length_append]
      rfl

/-! ### One byte -/

/-- The byte can only stand inside a character. -/
def continues (byte : UInt8) : Bool := byte &&& 0xC0 == 0x80

/-- The number of bytes of the character that starts with this byte. -/
def needed (lead : UInt8) : Nat :=
  if lead &&& 0xE0 == 0xC0 then 2
  else if lead &&& 0xF0 == 0xE0 then 3
  else if lead &&& 0xF8 == 0xF0 then 4
  else 1

def replacement : Char := '\uFFFD'

/-- A character may start with these two bytes; the second one continues. -/
def startsCharacter (lead second : UInt8) : Bool :=
  if lead == 0xE0 then 0xA0 ≤ second
  else if lead == 0xED then second ≤ 0x9F
  else if lead == 0xF0 then 0x90 ≤ second
  else if lead == 0xF4 then second ≤ 0x8F
  else 0xC2 ≤ lead && lead ≤ 0xF4

/-- What stands for bytes that are no character: one replacement when they start
one, else one for each of them. -/
def replaced : List UInt8 → List Char
  | [] => []
  | [_] => [replacement]
  | lead :: second :: rest =>
      if startsCharacter lead second then [replacement]
      else replacement :: replacement :: rest.map (fun _ => replacement)

/-- As many bytes as their first one asks for. -/
def decodeSequence (bytes : List UInt8) : List Char :=
  match bytes.toByteArray.utf8DecodeChar? 0 with
  | some char => if char.utf8Size = bytes.length then [char] else replaced bytes
  | none => replaced bytes

/-- One byte after the bytes held back: what is read, and what is held back now. -/
def feed (pending : List UInt8) (byte : UInt8) : List Char × List UInt8 :=
  match pending with
  | lead :: rest =>
      if continues byte then
        if rest.length + 2 < needed lead then ([], lead :: rest ++ [byte])
        else (decodeSequence (lead :: rest ++ [byte]), [])
      else if byte < 0x80 then (replaced (lead :: rest) ++ [Char.ofNat byte.toNat], [])
      else if needed byte = 1 then (replaced (lead :: rest) ++ [replacement], [])
      else (replaced (lead :: rest), [byte])
  | [] =>
      if byte < 0x80 then ([Char.ofNat byte.toNat], [])
      else if needed byte = 1 then ([replacement], [])
      else ([], [byte])

/-- `StringDecoder.write`, from the bytes held back on. -/
def feedAll : List UInt8 → List UInt8 → List Char × List UInt8
  | pending, [] => ([], pending)
  | pending, byte :: bytes =>
      let first := feed pending byte
      let rest := feedAll first.2 bytes
      (first.1 ++ rest.1, rest.2)

/-- What has been read of some bytes. -/
def written (bytes : List UInt8) : List Char := (feedAll [] bytes).1

/-- The bytes held back after some bytes. -/
def held (bytes : List UInt8) : List UInt8 := (feedAll [] bytes).2

/-- `toString('utf8')`: there is nothing after these bytes. -/
def decode (bytes : List UInt8) : List Char := written bytes ++ replaced (held bytes)

theorem feedAll_append (pending first second : List UInt8) :
    feedAll pending (first ++ second) =
      ((feedAll pending first).1 ++ (feedAll (feedAll pending first).2 second).1,
        (feedAll (feedAll pending first).2 second).2) := by
  induction first generalizing pending with
  | nil => rfl
  | cons byte first ih =>
      rw [List.cons_append, feedAll, ih]
      simp only [feedAll, List.append_assoc]

@[simp] theorem written_nil : written [] = [] := rfl

@[simp] theorem held_nil : held [] = [] := rfl

theorem written_append (first second : List UInt8) :
    written (first ++ second) = written first ++ (feedAll (held first) second).1 := by
  simp only [written, held, feedAll_append]

theorem held_append (first second : List UInt8) :
    held (first ++ second) = (feedAll (held first) second).2 := by
  simp only [held, feedAll_append]

theorem written_prefix {first bytes : List UInt8} (start : first <+: bytes) :
    written first <+: written bytes := by
  obtain ⟨rest, rfl⟩ := start
  rw [written_append]
  exact List.prefix_append _ _

/-! ### Reading a text back -/

private theorem all_bytes {holds : UInt8 → Prop} (each : ∀ value : Fin 256, holds (UInt8.ofFin value))
    (byte : UInt8) : holds byte := by
  have shown := each byte.toFin
  rwa [UInt8.ofFin_toFin] at shown

private theorem patterns (byte : UInt8) :
    (continues (byte &&& 0x3F ||| 0x80) = true ∧ ¬ (byte &&& 0x3F ||| 0x80) < 0x80) ∧
      (¬ (byte &&& 0x1F ||| 0xC0) < 0x80 ∧ needed (byte &&& 0x1F ||| 0xC0) = 2) ∧
      (¬ (byte &&& 0x0F ||| 0xE0) < 0x80 ∧ needed (byte &&& 0x0F ||| 0xE0) = 3) ∧
      (¬ (byte &&& 0x07 ||| 0xF0) < 0x80 ∧ needed (byte &&& 0x07 ||| 0xF0) = 4) ∧
      (byte ≠ 10 → byte < 0x80 → '\n' ∉ [Char.ofNat byte.toNat]) := by
  revert byte
  exact all_bytes (by decide +kernel)

theorem continues_trail (byte : UInt8) : continues (byte &&& 0x3F ||| 0x80) = true :=
  (patterns byte).1.1

theorem lead_two (byte : UInt8) :
    ¬ (byte &&& 0x1F ||| 0xC0) < 0x80 ∧ needed (byte &&& 0x1F ||| 0xC0) = 2 :=
  (patterns byte).2.1

theorem lead_three (byte : UInt8) :
    ¬ (byte &&& 0x0F ||| 0xE0) < 0x80 ∧ needed (byte &&& 0x0F ||| 0xE0) = 3 :=
  (patterns byte).2.2.1

theorem lead_four (byte : UInt8) :
    ¬ (byte &&& 0x07 ||| 0xF0) < 0x80 ∧ needed (byte &&& 0x07 ||| 0xF0) = 4 :=
  (patterns byte).2.2.2.1

theorem decodeSequence_utf8 (char : Char) :
    decodeSequence (String.utf8EncodeChar char) = [char] := by
  have read : (String.utf8EncodeChar char).toByteArray.utf8DecodeChar? 0 = some char := by
    have whole := @ByteArray.utf8DecodeChar?_utf8EncodeChar_append ByteArray.empty char
    rwa [ByteArray.append_empty] at whole
  rw [decodeSequence, read]
  exact if_pos (String.length_utf8EncodeChar char).symm

/-- The bytes after the first one of a sequence, up to the last one it asks for. -/
theorem feedAll_trail {lead : UInt8} (front : List UInt8) {rest : List UInt8}
    (nonempty : rest ≠ []) (trail : ∀ byte ∈ rest, continues byte = true)
    (whole : front.length + rest.length + 1 = needed lead) :
    feedAll (lead :: front) rest = (decodeSequence (lead :: front ++ rest), []) := by
  induction rest generalizing front with
  | nil => exact absurd rfl nonempty
  | cons byte rest ih =>
      have continued : continues byte = true := trail byte List.mem_cons_self
      rw [List.length_cons] at whole
      by_cases last : rest = []
      · subst rest
        have complete : ¬ front.length + 2 < needed lead := by
          rw [List.length_nil] at whole
          omega
        simp only [feedAll, feed, if_pos continued, if_neg complete, List.append_nil]
      · have short : front.length + 2 < needed lead := by
          have positive := List.length_pos_iff.mpr last
          omega
        have next := ih (front ++ [byte]) last
          (fun byte listed => trail byte (List.mem_cons_of_mem _ listed))
          (by rw [List.length_append, List.length_singleton]; omega)
        simp only [feedAll, feed, if_pos continued, if_pos short, List.nil_append]
        rw [List.cons_append, next, List.cons_append, List.append_assoc, List.singleton_append]
        rfl

theorem feedAll_sequence {lead : UInt8} {rest : List UInt8} (high : ¬ lead < 0x80)
    (nonempty : rest ≠ []) (trail : ∀ byte ∈ rest, continues byte = true)
    (whole : rest.length + 1 = needed lead) :
    feedAll [] (lead :: rest) = (decodeSequence (lead :: rest), []) := by
  have several : needed lead ≠ 1 := by
    have positive := List.length_pos_iff.mpr nonempty
    omega
  rw [feedAll, feed, if_neg high, if_neg several]
  have read : feedAll [lead] rest = (decodeSequence (lead :: rest), []) :=
    feedAll_trail [] nonempty trail (by rw [List.length_nil]; omega)
  simp only [read, List.nil_append]

theorem one_byte {char : Char} (one : char.utf8Size = 1) :
    char.val.toUInt8 < 0x80 ∧ Char.ofNat char.val.toUInt8.toNat = char := by
  have low : char.val.toNat ≤ 0x7F := by
    have small := Char.utf8Size_eq_one_iff.mp one
    rwa [UInt32.le_iff_toNat_le] at small
  have same : char.val.toUInt8.toNat = char.toNat := by
    rw [UInt32.toNat_toUInt8, Nat.mod_eq_of_lt (by omega)]
    rfl
  constructor
  · rw [UInt8.lt_iff_toNat_lt, same]
    change char.val.toNat < 128
    omega
  · rw [same, Char.ofNat_toNat]

theorem feedAll_char (char : Char) : feedAll [] (String.utf8EncodeChar char) = ([char], []) := by
  have whole := decodeSequence_utf8 char
  rcases Char.utf8Size_eq char with one | two | three | four
  · rw [String.utf8EncodeChar_eq_singleton one]
    have low := one_byte one
    simp only [feedAll, feed, if_pos low.1, low.2, List.append_nil]
  · rw [String.utf8EncodeChar_eq_cons_cons two] at whole ⊢
    have lead := lead_two (char.val >>> 6).toUInt8
    rw [feedAll_sequence lead.1 (List.cons_ne_nil _ _) (by simp [continues_trail])
      (by rw [lead.2]; rfl), whole]
  · rw [String.utf8EncodeChar_eq_cons_cons_cons three] at whole ⊢
    have lead := lead_three (char.val >>> 12).toUInt8
    rw [feedAll_sequence lead.1 (List.cons_ne_nil _ _) (by simp [continues_trail])
      (by rw [lead.2]; rfl), whole]
  · rw [String.utf8EncodeChar_eq_cons_cons_cons_cons four] at whole ⊢
    have lead := lead_four (char.val >>> 18).toUInt8
    rw [feedAll_sequence lead.1 (List.cons_ne_nil _ _) (by simp [continues_trail])
      (by rw [lead.2]; rfl), whole]

private theorem trail_high (byte : UInt8) : ¬ (byte &&& 0x3F ||| 0x80) < 0x80 :=
  (patterns byte).1.2

theorem ascii_of_byte {char : Char} {byte : UInt8} (low : byte < 0x80)
    (listed : byte ∈ String.utf8EncodeChar char) : char = Char.ofNat byte.toNat := by
  rcases Char.utf8Size_eq char with one | two | three | four
  · rw [String.utf8EncodeChar_eq_singleton one, List.mem_singleton] at listed
    rw [listed, (one_byte one).2]
  · rw [String.utf8EncodeChar_eq_cons_cons two] at listed
    simp only [List.mem_cons, List.not_mem_nil, or_false] at listed
    rcases listed with rfl | rfl
    · exact absurd low (lead_two _).1
    · exact absurd low (trail_high _)
  · rw [String.utf8EncodeChar_eq_cons_cons_cons three] at listed
    simp only [List.mem_cons, List.not_mem_nil, or_false] at listed
    rcases listed with rfl | rfl | rfl
    · exact absurd low (lead_three _).1
    · exact absurd low (trail_high _)
    · exact absurd low (trail_high _)
  · rw [String.utf8EncodeChar_eq_cons_cons_cons_cons four] at listed
    simp only [List.mem_cons, List.not_mem_nil, or_false] at listed
    rcases listed with rfl | rfl | rfl | rfl
    · exact absurd low (lead_four _).1
    · exact absurd low (trail_high _)
    · exact absurd low (trail_high _)
    · exact absurd low (trail_high _)

theorem ascii_mem {text : List Char} {byte : UInt8} (low : byte < 0x80)
    (listed : byte ∈ utf8 text) : Char.ofNat byte.toNat ∈ text := by
  obtain ⟨char, member, inside⟩ := List.mem_flatMap.mp listed
  rwa [← ascii_of_byte low inside]

theorem feedAll_utf8 (text : List Char) (rest : List UInt8) :
    feedAll [] (utf8 text ++ rest) = (text ++ (feedAll [] rest).1, (feedAll [] rest).2) := by
  induction text with
  | nil => rfl
  | cons char text ih =>
      rw [utf8_cons, List.append_assoc, feedAll_append, feedAll_char, ih]
      rfl

theorem written_utf8 (text : List Char) : written (utf8 text) = text := by
  have read := feedAll_utf8 text []
  rw [List.append_nil] at read
  simp only [written, read, feedAll, List.append_nil]

theorem held_utf8 (text : List Char) : held (utf8 text) = [] := by
  have read := feedAll_utf8 text []
  rw [List.append_nil] at read
  simp only [held, read, feedAll]

theorem decode_utf8 (text : List Char) : decode (utf8 text) = text := by
  rw [decode, written_utf8, held_utf8]
  exact List.append_nil text

theorem decode_utf8_append (text : List Char) (rest : List UInt8) :
    decode (utf8 text ++ rest) = text ++ decode rest := by
  simp only [decode, written, held, feedAll_utf8, List.append_assoc]

/-! ### Bytes that are cut off -/

theorem mem_replaced {bytes : List UInt8} {char : Char} (listed : char ∈ replaced bytes) :
    char = replacement := by
  unfold replaced at listed
  split at listed
  · cases listed
  · exact List.mem_singleton.mp listed
  · split at listed
    · exact List.mem_singleton.mp listed
    · simp only [List.mem_cons, List.mem_map] at listed
      rcases listed with same | same | ⟨_, _, same⟩
      · exact same
      · exact same
      · exact same.symm

theorem replaced_eq_nil {bytes : List UInt8} (nothing : replaced bytes = []) : bytes = [] := by
  unfold replaced at nothing
  split at nothing
  · rfl
  · cases nothing
  · split at nothing
    · cases nothing
    · cases nothing

theorem decode_append_of_held {first : List UInt8} (nothing : held first = [])
    (second : List UInt8) : decode (first ++ second) = written first ++ decode second := by
  rw [decode, written_append, held_append, nothing, List.append_assoc]
  rfl

theorem written_of_prefix {bytes : List UInt8} {text : List Char} (cut : bytes <+: utf8 text) :
    written bytes <+: text := by
  have start := written_prefix cut
  rwa [written_utf8] at start

theorem written_opens {first : Char} {byte : UInt8} (one : String.utf8EncodeChar first = [byte])
    {text : List Char} {torn : List UInt8} (cut : torn <+: utf8 (first :: text))
    (nonempty : torn ≠ []) : ∃ start, written torn = first :: start := by
  obtain ⟨head, rest, rfl⟩ := List.exists_cons_of_ne_nil nonempty
  rw [utf8_cons, one, List.singleton_append, List.cons_prefix_cons] at cut
  obtain ⟨rfl, -⟩ := cut
  have alone : utf8 [first] = [head] := by
    rw [utf8_cons, one]
    rfl
  rw [← List.singleton_append, ← alone, written_append, written_utf8]
  exact ⟨_, rfl⟩

theorem decodeSequence_ne_nil {bytes : List UInt8} (nonempty : bytes ≠ []) :
    decodeSequence bytes ≠ [] := by
  unfold decodeSequence
  split
  · split
    · exact List.cons_ne_nil _ _
    · exact fun nothing => nonempty (replaced_eq_nil nothing)
  · exact fun nothing => nonempty (replaced_eq_nil nothing)

theorem feed_ne_nil (pending : List UInt8) (byte : UInt8) : feed pending byte ≠ ([], []) := by
  unfold feed
  split
  · split
    · split
      · simp
      · simp [decodeSequence_ne_nil]
    · split
      · simp
      · split <;> simp
  · split
    · simp
    · split <;> simp

theorem feedAll_eq_nil {bytes : List UInt8} (nothing : feedAll [] bytes = ([], [])) :
    bytes = [] := by
  rcases List.eq_nil_or_concat' bytes with rfl | ⟨front, last, rfl⟩
  · rfl
  · rw [feedAll_append] at nothing
    obtain ⟨noOutput, noneHeld⟩ := Prod.mk.inj nothing
    obtain ⟨-, lastOutput⟩ := List.append_eq_nil_iff.mp noOutput
    simp only [feedAll, List.append_nil] at lastOutput noneHeld
    exact absurd (Prod.ext lastOutput noneHeld) (feed_ne_nil _ _)

/-- A start of a text that reads as the whole of it is the whole of it. -/
theorem eq_utf8_of_written {bytes : List UInt8} {text : List Char} (cut : bytes <+: utf8 text)
    (whole : written bytes = text) (nothing : held bytes = []) : bytes = utf8 text := by
  obtain ⟨more, split⟩ := cut
  have output := written_append bytes more
  have left := held_append bytes more
  rw [split, written_utf8, whole, nothing] at output
  rw [split, held_utf8, nothing] at left
  have noOutput := List.self_eq_append_right.mp output
  have empty := feedAll_eq_nil (Prod.ext noOutput left.symm)
  rw [← split, empty, List.append_nil]

/-! ### Ends of lines -/

theorem feed_newline (pending : List UInt8) :
    feed pending 10 = (replaced pending ++ ['\n'], []) := by
  cases pending with
  | nil => rfl
  | cons lead rest => rfl

private theorem replacement_ne : '\n' ≠ replacement := by decide

theorem newline_not_replaced (bytes : List UInt8) : '\n' ∉ replaced bytes := by
  unfold replaced
  split
  · simp
  · simp [replacement_ne]
  · split <;> simp [replacement_ne]

theorem newline_not_decoded (lead : UInt8) (rest : List UInt8) (byte : UInt8) :
    '\n' ∉ decodeSequence (lead :: rest ++ [byte]) := by
  unfold decodeSequence
  split
  · rename_i char _read
    split
    · rename_i size
      intro listed
      -- a character of two bytes or more is no newline
      rw [← List.mem_singleton.mp listed] at size
      have short : '\n'.utf8Size = 1 := rfl
      rw [short, List.length_append] at size
      simp at size
    · exact newline_not_replaced _
  · exact newline_not_replaced _

private theorem newline_not_ascii (byte : UInt8) :
    byte ≠ 10 → byte < 0x80 → '\n' ∉ [Char.ofNat byte.toNat] :=
  (patterns byte).2.2.2.2

theorem newline_not_fed (pending : List UInt8) {byte : UInt8} (other : byte ≠ 10) :
    '\n' ∉ (feed pending byte).1 := by
  have plain := newline_not_ascii byte other
  unfold feed
  split
  · split
    · split
      · exact List.not_mem_nil
      · exact newline_not_decoded _ _ _
    · split
      · rename_i low
        simp only [List.mem_append, not_or]
        exact ⟨newline_not_replaced _, plain low⟩
      · split
        · simp [newline_not_replaced, replacement_ne]
        · exact newline_not_replaced _
  · split
    · rename_i low
      exact plain low
    · split
      · simp [replacement_ne]
      · exact List.not_mem_nil

theorem newline_not_read (pending : List UInt8) {bytes : List UInt8} (none : 10 ∉ bytes) :
    '\n' ∉ (feedAll pending bytes).1 := by
  induction bytes generalizing pending with
  | nil => exact List.not_mem_nil
  | cons byte bytes ih =>
      rw [List.mem_cons, not_or] at none
      simp only [feedAll, List.mem_append, not_or]
      exact ⟨newline_not_fed pending (Ne.symm none.1), ih _ none.2⟩

theorem newline_not_written {bytes : List UInt8} (none : 10 ∉ bytes) : '\n' ∉ written bytes :=
  newline_not_read [] none

theorem newline_not_in_decode {bytes : List UInt8} (none : 10 ∉ bytes) : '\n' ∉ decode bytes := by
  rw [decode, List.mem_append, not_or]
  exact ⟨newline_not_written none, newline_not_replaced _⟩

theorem feedAll_line (line rest : List UInt8) :
    feedAll [] (line ++ 10 :: rest) =
      (decode line ++ '\n' :: (feedAll [] rest).1, (feedAll [] rest).2) := by
  rw [feedAll_append, feedAll, feed_newline]
  simp only [decode, written, held, List.append_assoc, List.cons_append, List.nil_append]

theorem written_line (line rest : List UInt8) :
    written (line ++ 10 :: rest) = decode line ++ '\n' :: written rest := by
  simp only [written, feedAll_line]

theorem held_line (line rest : List UInt8) : held (line ++ 10 :: rest) = held rest := by
  simp only [held, feedAll_line]

end Utf8Stream
