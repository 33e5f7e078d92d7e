import ActionProxy.Wrapper.NewlineFramer

/-!
What the framers make of a stream. Which streams mean the same however they are cut
is said of the bytes alone; streams of encoded messages are among them.
-/

namespace ActionProxy.Wrapper

open Framing Utf8Stream TextScan JsonText

/-! ### Frames behind headers -/

section

variable {M : Type} (limits : FrameLimits) (parse : String → Option M)

/-- The body is one that can be read. -/
def Reads (body : List UInt8) : Prop := ∃ message, parse (String.ofList (decode body)) = some message

/-- Every frame of the stream is valid, the one that is not complete too, and every
header is three bytes shorter than the limit, so that no cut of its end meets it. -/
inductive Regular : List UInt8 → Prop where
  | unterminated {rest : List UInt8} (absent : ¬ headerEnding <:+: rest)
      (short : rest.length ≤ limits.maxHeaderBytes) : Regular rest
  | incomplete {header rest : List UInt8} {length : Nat} (first : First headerEnding header)
      (short : header.length + 3 ≤ limits.maxHeaderBytes) (declared : Declares header length)
      (fits : length ≤ limits.maxFrameBytes) (part : rest.length < length) :
      Regular (header ++ (headerEnding ++ rest))
  | frame {header body rest : List UInt8} (first : First headerEnding header)
      (short : header.length + 3 ≤ limits.maxHeaderBytes) (declared : Declares header body.length)
      (fits : body.length ≤ limits.maxFrameBytes) (reads : Reads parse body)
      (later : Regular rest) : Regular (header ++ (headerEnding ++ (body ++ rest)))

/-- The first frame of the stream is invalid as soon as the stream is there. -/
def Refused (stream : List UInt8) : Prop :=
  (¬ headerEnding <:+: stream ∧ limits.maxHeaderBytes < stream.length) ∨
    ∃ header rest, stream = header ++ (headerEnding ++ rest) ∧ First headerEnding header ∧
      ¬ (header.length ≤ limits.maxHeaderBytes ∧ ∃ length, Declares header length ∧
        length ≤ limits.maxFrameBytes ∧ (length ≤ rest.length → Reads parse (rest.take length)))

variable {limits parse}

theorem next_declared {header rest : List UInt8} {length : Nat} (first : First headerEnding header)
    (short : header.length ≤ limits.maxHeaderBytes) (declared : Declares header length)
    (fits : length ≤ limits.maxFrameBytes) :
    JsonRpcFramer.next limits parse (header ++ (headerEnding ++ rest)) =
      if rest.length < length then .ok none
      else
        match parse (String.ofList (decode (rest.take length))) with
        | none => .error .syntaxError
        | some message => .ok (some ([message], rest.drop length)) := by
  have turn := next_terminated limits parse first rest
  simp only [frameLength_eq_ok_iff.mpr ⟨short, declared, fits⟩] at turn
  exact turn

/-- A beginning of a stream with a header: part of the header and its end, or all
of them and part of what is after. -/
theorem prefix_cases {header rest front : List UInt8} (first : First headerEnding header)
    (start : front <+: header ++ (headerEnding ++ rest)) :
    (¬ headerEnding <:+: front ∧ front.length ≤ header.length + 3) ∨
      ∃ more, front = header ++ (headerEnding ++ more) ∧ more <+: rest := by
  have ending : headerEnding.length = 4 := rfl
  by_cases short : front.length < header.length + headerEnding.length
  · exact Or.inl ⟨first.absent start short, by omega⟩
  · right
    rw [← List.append_assoc] at start
    have long : (header ++ headerEnding).length ≤ front.length := by
      rw [List.length_append]
      omega
    obtain ⟨more, rfl⟩ := List.prefix_of_prefix_length_le (List.prefix_append _ rest) start long
    refine ⟨more, List.append_assoc _ _ _, ?_⟩
    exact (List.prefix_append_right_inj _).mp start

theorem next_short {buffer : List UInt8} (absent : ¬ headerEnding <:+: buffer)
    (short : buffer.length ≤ limits.maxHeaderBytes) :
    JsonRpcFramer.next limits parse buffer = .ok none := by
  rw [next_unterminated limits parse absent, if_neg (by omega)]

theorem step_of_next {buffer : List UInt8} {outcome : Except FramingError (Option (List M × List UInt8))}
    (turn : JsonRpcFramer.next limits parse buffer = outcome) :
    (frameDecoder limits parse).step buffer = stepOf outcome := by
  rw [← turn]
  rfl

theorem not_fail {buffer : List UInt8} {result : Option (List M × List UInt8)}
    (turn : JsonRpcFramer.next limits parse buffer = .ok result) :
    (frameDecoder limits parse).step buffer ≠ .fail := by
  rw [step_of_next turn]
  intro failed
  cases result <;> cases failed

theorem Regular.steady {stream : List UInt8} (regular : Regular limits parse stream) :
    (frameDecoder limits parse).Steady stream := by
  induction regular with
  | unterminated absent short =>
      rename_i rest
      rw [Decoder.steady_iff]
      constructor
      · intro front start
        exact not_fail (next_short (fun occurs => absent (occurs.trans start.isInfix))
          (start.length_le.trans short))
      · intro messages left taken
        rw [step_of_next (next_short absent short)] at taken
        cases taken
  | incomplete first short declared fits part =>
      rename_i header rest length
      have turns (more : List UInt8) (start : more <+: rest) :
          JsonRpcFramer.next limits parse (header ++ (headerEnding ++ more)) = .ok none := by
        have size := start.length_le
        rw [next_declared first (by omega) declared fits, if_pos (by omega)]
      rw [Decoder.steady_iff]
      constructor
      · intro front start
        rcases prefix_cases first start with ⟨absent, size⟩ | ⟨more, rfl, within⟩
        · exact not_fail (next_short absent (size.trans short))
        · exact not_fail (turns more within)
      · intro messages left taken
        rw [step_of_next (turns rest (List.prefix_refl rest))] at taken
        cases taken
  | frame first short declared fits reads later ih =>
      rename_i header body rest
      obtain ⟨message, parsed⟩ := reads
      have read : frameLength limits header = .ok body.length :=
        frameLength_eq_ok_iff.mpr ⟨by omega, declared, fits⟩
      rw [Decoder.steady_iff]
      constructor
      · intro front start
        rcases prefix_cases first start with ⟨absent, size⟩ | ⟨more, rfl, within⟩
        · exact not_fail (next_short absent (size.trans short))
        · by_cases part : more.length < body.length
          · have turn : JsonRpcFramer.next limits parse (header ++ (headerEnding ++ more)) =
                .ok none := by
              rw [next_declared first (by omega) declared fits, if_pos part]
            exact not_fail turn
          · obtain ⟨after, rfl⟩ := List.prefix_of_prefix_length_le (List.prefix_append body rest)
              within (by omega)
            exact not_fail (next_frame limits parse first read parsed after)
      · intro messages left taken
        rw [step_of_next (next_frame limits parse first read parsed rest)] at taken
        cases taken
        exact ih

/-- A cut just before the last byte of the header's end waits only below the limit. -/
theorem short_of_steady {header rest : List UInt8} (first : First headerEnding header)
    (steady : (frameDecoder limits parse).Steady (header ++ (headerEnding ++ rest))) :
    header.length + 3 ≤ limits.maxHeaderBytes := by
  have cut : header ++ [13, 10, 13] <+: header ++ (headerEnding ++ rest) :=
    ⟨10 :: rest, by simp [headerEnding]⟩
  have size : (header ++ [13, 10, 13]).length = header.length + 3 := by simp
  have absent : ¬ headerEnding <:+: header ++ [13, 10, 13] :=
    first.absent cut (by rw [size]; exact Nat.lt_succ_self _)
  by_contra long
  have turn : JsonRpcFramer.next limits parse (header ++ [13, 10, 13]) =
      .error (headerLimit limits) := by
    rw [next_unterminated limits parse absent, if_pos (by rw [size]; omega)]
  exact (Decoder.steady_iff.mp steady).1 _ cut (step_of_next turn)

theorem regular_of_steady {stream : List UInt8}
    (steady : (frameDecoder limits parse).Steady stream) : Regular limits parse stream := by
  induction stream using (frameDecoder limits parse).takingInduction with
  | more stream waits =>
      cases found : indexOf? headerEnding stream with
      | none =>
          have absent := indexOf?_eq_none_iff.mp found
          refine .unterminated absent ?_
          by_contra long
          rw [step_of_next (next_unterminated limits parse absent), if_pos (by omega)] at waits
          cases waits
      | some headerEnd =>
          obtain ⟨header, rest, rfl, _, first⟩ := eq_of_indexOf? headerEnding_nonempty found
          have short := short_of_steady first steady
          rw [step_of_next (next_terminated limits parse first rest)] at waits
          cases read : frameLength limits header with
          | error failure =>
              rw [read] at waits
              cases waits
          | ok length =>
              obtain ⟨_, declared, fits⟩ := frameLength_eq_ok_iff.mp read
              refine .incomplete first short declared fits ?_
              by_contra complete
              rw [read] at waits
              simp only [if_neg complete] at waits
              split at waits <;> cases waits
  | fail stream fails =>
      exact absurd fails ((Decoder.steady_iff.mp steady).1 stream (List.prefix_refl stream))
  | emit stream messages rest taken ih =>
      have later := (Decoder.steady_iff.mp steady).2 messages rest taken
      obtain ⟨header, body, message, rfl, first, read, parsed, rfl⟩ :=
        frame_of_next limits parse (next_of_emit taken)
      obtain ⟨_, declared, fits⟩ := frameLength_eq_ok_iff.mp read
      exact .frame first (short_of_steady first steady) declared fits ⟨message, parsed⟩ (ih later)

/-- What a complete header has to say, and the body after it if that is complete. -/
theorem fails_iff {header rest : List UInt8} (first : First headerEnding header) :
    (∃ failure, JsonRpcFramer.next limits parse (header ++ (headerEnding ++ rest)) =
        .error failure) ↔
      ¬ (header.length ≤ limits.maxHeaderBytes ∧ ∃ length, Declares header length ∧
        length ≤ limits.maxFrameBytes ∧ (length ≤ rest.length → Reads parse (rest.take length))) := by
  constructor
  · rintro ⟨failure, turn⟩ ⟨short, length, declared, fits, reads⟩
    rw [next_declared first short declared fits] at turn
    split at turn
    · cases turn
    · obtain ⟨message, parsed⟩ := reads (by omega)
      rw [parsed] at turn
      cases turn
  · intro invalid
    rw [next_terminated limits parse first]
    cases read : frameLength limits header with
    | error failure => exact ⟨failure, rfl⟩
    | ok length =>
        obtain ⟨short, declared, fits⟩ := frameLength_eq_ok_iff.mp read
        have broken : ¬ (length ≤ rest.length → Reads parse (rest.take length)) :=
          fun reads => invalid ⟨short, length, declared, fits, reads⟩
        push Not at broken
        obtain ⟨complete, unread⟩ := broken
        have none : parse (String.ofList (decode (rest.take length))) = none := by
          cases parsed : parse (String.ofList (decode (rest.take length))) with
          | none => rfl
          | some message => exact absurd ⟨message, parsed⟩ unread
        simp only [if_neg (Nat.not_lt.mpr complete), none]
        exact ⟨_, rfl⟩

/-- A stream of frames is blocked exactly when its first frame is invalid: every
valid one hands over a message. -/
theorem blocked_iff_refused {stream : List UInt8} :
    (frameDecoder limits parse).Blocked stream ↔ Refused limits parse stream := by
  have failing : (frameDecoder limits parse).Blocked stream ↔
      ∃ failure, JsonRpcFramer.next limits parse stream = .error failure := by
    rw [Decoder.blocked_iff]
    constructor
    · rintro (fails | ⟨rest, taken, _⟩)
      · cases turn : JsonRpcFramer.next limits parse stream with
        | error failure => exact ⟨failure, rfl⟩
        | ok result => exact absurd fails (not_fail turn)
      · obtain ⟨_, _, _, _, _, _, _, none⟩ := frame_of_next limits parse (next_of_emit taken)
        cases none
    · rintro ⟨failure, turn⟩
      exact Or.inl (step_of_next turn)
  rw [failing]
  cases found : indexOf? headerEnding stream with
  | none =>
      have absent := indexOf?_eq_none_iff.mp found
      rw [next_unterminated limits parse absent]
      constructor
      · rintro ⟨failure, turn⟩
        split at turn
        · exact Or.inl ⟨absent, by assumption⟩
        · cases turn
      · rintro (⟨_, long⟩ | ⟨header, rest, rfl, _, _⟩)
        · exact ⟨_, if_pos long⟩
        · exact absurd ⟨header, rest, by rw [List.append_assoc]⟩ absent
  | some headerEnd =>
      obtain ⟨header, rest, rfl, _, first⟩ := eq_of_indexOf? headerEnding_nonempty found
      rw [fails_iff first]
      constructor
      · intro invalid
        exact Or.inr ⟨header, rest, rfl, first, invalid⟩
      · rintro (⟨absent, _⟩ | ⟨header', rest', same, first', invalid⟩)
        · exact absurd ⟨header, rest, List.append_assoc _ _ _⟩ absent
        · obtain ⟨rfl, rfl⟩ := first.unique headerEnding_nonempty first' same
          exact invalid

theorem framesIndependent_iff (stream : List UInt8) :
    (∀ one other, Splits one stream → Splits other stream →
      Alike (pushAll (JsonRpcFramer.push limits parse) ⟨[]⟩ one)
        (pushAll (JsonRpcFramer.push limits parse) ⟨[]⟩ other)) ↔
      Regular limits parse stream ∨ Refused limits parse stream := by
  rw [(jsonRpcFramer_implements limits parse).independent_iff stream, blocked_iff_refused]
  exact or_congr_left ⟨regular_of_steady, Regular.steady⟩

end

/-! ### Lines -/

section

variable {M : Type} (maxFrameBytes : Nat) (parse : String → Option M)

def Blank (line : List UInt8) : Prop := trimChars (decode line) = []

/-- A finished line is blank or holds a message within the limit. -/
def ValidLine (line : List UInt8) : Prop :=
  Blank line ∨ (byteLength (trimChars (decode line)) ≤ maxFrameBytes ∧
    ∃ message, parse (String.ofList (trimChars (decode line))) = some message)

/-- What is read of a line before it ends stays within the limit, white space too. -/
def Within (line : List UInt8) : Prop := byteLength (written line) ≤ maxFrameBytes

/-- Every finished line of the stream is valid, and no line is over the limit while
it is unfinished. -/
inductive RegularLines : List UInt8 → Prop where
  | unfinished {line : List UInt8} (absent : 10 ∉ line) (within : Within maxFrameBytes line) :
      RegularLines line
  | line {line rest : List UInt8} (absent : 10 ∉ line) (within : Within maxFrameBytes line)
      (valid : ValidLine maxFrameBytes parse line) (later : RegularLines rest) :
      RegularLines (line ++ 10 :: rest)

/-- Only blank lines stand before the first line that is invalid. -/
inductive RefusedLines : List UInt8 → Prop where
  | unfinished {line : List UInt8} (absent : 10 ∉ line) (long : ¬ Within maxFrameBytes line) :
      RefusedLines line
  | line {line rest : List UInt8} (absent : 10 ∉ line)
      (invalid : ¬ ValidLine maxFrameBytes parse line) : RefusedLines (line ++ 10 :: rest)
  | blank {line rest : List UInt8} (absent : 10 ∉ line) (blank : Blank line)
      (later : RefusedLines rest) : RefusedLines (line ++ 10 :: rest)

variable {maxFrameBytes parse}

theorem readLine_blank {line : List UInt8} (blank : Blank line) :
    readLine maxFrameBytes parse (decode line) = .ok [] := by
  unfold readLine
  rw [blank]
  rfl

theorem validLine_iff {line : List UInt8} :
    ValidLine maxFrameBytes parse line ↔
      ∃ messages, readLine maxFrameBytes parse (decode line) = .ok messages := by
  unfold ValidLine
  by_cases blank : Blank line
  · exact ⟨fun _ => ⟨[], readLine_blank blank⟩, fun _ => Or.inl blank⟩
  · unfold readLine
    simp only [if_neg (show ¬ trimChars (decode line) = [] from blank), blank, false_or]
    by_cases long : maxFrameBytes < byteLength (trimChars (decode line))
    · simp only [if_pos long, reduceCtorEq, exists_false, iff_false, not_and]
      intro short
      omega
    · simp only [if_neg long]
      cases parsed : parse (String.ofList (trimChars (decode line))) with
      | none => simp
      | some message => simp [Nat.le_of_not_lt long]

theorem readLine_empty_iff {line : List UInt8} :
    readLine maxFrameBytes parse (decode line) = .ok [] ↔ Blank line := by
  refine ⟨fun read => ?_, readLine_blank⟩
  by_contra visible
  unfold readLine at read
  simp only [if_neg (show ¬ trimChars (decode line) = [] from visible)] at read
  split at read
  · cases read
  · split at read <;> cases read

theorem step_of_lineStep {buffer : List UInt8}
    {outcome : Except FramingError (Option (List M × List UInt8))}
    (turn : lineStep maxFrameBytes parse buffer = outcome) :
    (lineDecoder maxFrameBytes parse).step buffer = stepOf outcome := by
  rw [← turn]
  rfl

theorem lineStep_within {line : List UInt8} (absent : 10 ∉ line)
    (within : Within maxFrameBytes line) :
    (lineDecoder maxFrameBytes parse).step line = .more := by
  rw [step_of_lineStep (lineStep_unfinished maxFrameBytes parse absent),
    if_neg (Nat.not_lt.mpr within)]
  rfl

theorem lineStep_over {line : List UInt8} (absent : 10 ∉ line)
    (long : ¬ Within maxFrameBytes line) :
    (lineDecoder maxFrameBytes parse).step line = .fail := by
  rw [step_of_lineStep (lineStep_unfinished maxFrameBytes parse absent),
    if_pos (Nat.lt_of_not_le long)]
  rfl

theorem lineStep_valid {line : List UInt8} {messages : List M} (absent : 10 ∉ line)
    (read : readLine maxFrameBytes parse (decode line) = .ok messages) (rest : List UInt8) :
    (lineDecoder maxFrameBytes parse).step (line ++ 10 :: rest) = .emit messages rest := by
  rw [step_of_lineStep (lineStep_finished maxFrameBytes parse absent rest), read]
  rfl

theorem lineStep_invalid {line : List UInt8} (absent : 10 ∉ line)
    (invalid : ¬ ValidLine maxFrameBytes parse line) (rest : List UInt8) :
    (lineDecoder maxFrameBytes parse).step (line ++ 10 :: rest) = .fail := by
  rw [step_of_lineStep (lineStep_finished maxFrameBytes parse absent rest)]
  cases read : readLine maxFrameBytes parse (decode line) with
  | error failure => rfl
  | ok messages => exact absurd (validLine_iff.mpr ⟨messages, read⟩) invalid

theorem Within.front {line front : List UInt8} (within : Within maxFrameBytes line)
    (start : front <+: line) : Within maxFrameBytes front := by
  obtain ⟨rest, same⟩ := written_prefix start
  unfold Within at within
  rw [← same, byteLength_append] at within
  exact le_trans (Nat.le_add_right _ _) within

theorem front_cases {line rest front : List UInt8} (start : front <+: line ++ 10 :: rest) :
    front <+: line ∨ ∃ more, front = line ++ 10 :: more ∧ more <+: rest := by
  by_cases short : front.length ≤ line.length
  · exact Or.inl (List.prefix_of_prefix_length_le start (List.prefix_append _ _) short)
  · right
    have whole : line ++ 10 :: rest = (line ++ [10]) ++ rest := by simp
    rw [whole] at start
    obtain ⟨more, rfl⟩ := List.prefix_of_prefix_length_le (List.prefix_append (line ++ [10]) rest)
      start (by rw [List.length_append, List.length_singleton]; omega)
    exact ⟨more, by simp, (List.prefix_append_right_inj _).mp start⟩

theorem RegularLines.steady {stream : List UInt8}
    (regular : RegularLines maxFrameBytes parse stream) :
    (lineDecoder maxFrameBytes parse).Steady stream := by
  induction regular with
  | unfinished absent within =>
      rw [Decoder.steady_iff]
      constructor
      · intro front start failed
        rw [lineStep_within (fun listed => absent (start.subset listed)) (within.front start)]
          at failed
        cases failed
      · intro messages left taken
        rw [lineStep_within absent within] at taken
        cases taken
  | line absent within valid later ih =>
      rename_i line rest
      obtain ⟨messages, read⟩ := validLine_iff.mp valid
      rw [Decoder.steady_iff]
      constructor
      · intro front start failed
        rcases front_cases start with inside | ⟨more, rfl, _⟩
        · rw [lineStep_within (fun listed => absent (inside.subset listed)) (within.front inside)]
            at failed
          cases failed
        · rw [lineStep_valid absent read more] at failed
          cases failed
      · intro found left taken
        rw [lineStep_valid absent read rest] at taken
        cases taken
        exact ih

/-- An unfinished line that is over the limit fails, also when its end would follow. -/
theorem within_of_steady {line rest : List UInt8} (absent : 10 ∉ line)
    (steady : (lineDecoder maxFrameBytes parse).Steady (line ++ rest)) :
    Within maxFrameBytes line := by
  by_contra long
  exact (Decoder.steady_iff.mp steady).1 line (List.prefix_append line rest)
    (lineStep_over absent long)

theorem regularLines_of_steady {stream : List UInt8}
    (steady : (lineDecoder maxFrameBytes parse).Steady stream) :
    RegularLines maxFrameBytes parse stream := by
  induction bound : stream.length using Nat.strongRecOn generalizing stream with
  | ind length ih =>
      rcases line_cases stream with absent | ⟨line, rest, rfl, absent⟩
      · have within := within_of_steady absent
          (show (lineDecoder maxFrameBytes parse).Steady (stream ++ []) by rwa [List.append_nil])
        exact .unfinished absent within
      · have first := (Decoder.steady_iff.mp steady).1 _ (List.prefix_refl _)
        have valid : ValidLine maxFrameBytes parse line := by
          by_contra invalid
          exact first (lineStep_invalid absent invalid rest)
        obtain ⟨messages, read⟩ := validLine_iff.mp valid
        have later := (Decoder.steady_iff.mp steady).2 messages rest
          (lineStep_valid absent read rest)
        have less : rest.length < length := by
          rw [← bound, List.length_append, List.length_cons]
          omega
        exact .line absent (within_of_steady absent steady) valid (ih rest.length less later rfl)

theorem RefusedLines.blocked {stream : List UInt8}
    (refused : RefusedLines maxFrameBytes parse stream) :
    (lineDecoder maxFrameBytes parse).Blocked stream := by
  induction refused with
  | unfinished absent long => exact Decoder.blocked_iff.mpr (Or.inl (lineStep_over absent long))
  | line absent invalid =>
      exact Decoder.blocked_iff.mpr (Or.inl (lineStep_invalid absent invalid _))
  | blank absent blank later ih =>
      exact Decoder.blocked_iff.mpr
        (Or.inr ⟨_, lineStep_valid absent (readLine_blank blank) _, ih⟩)

theorem refusedLines_of_blocked {stream : List UInt8}
    (blocked : (lineDecoder maxFrameBytes parse).Blocked stream) :
    RefusedLines maxFrameBytes parse stream := by
  induction bound : stream.length using Nat.strongRecOn generalizing stream with
  | ind length ih =>
      rcases line_cases stream with absent | ⟨line, rest, rfl, absent⟩
      · refine .unfinished absent ?_
        intro within
        rcases Decoder.blocked_iff.mp blocked with fails | ⟨rest, taken, _⟩
        · rw [lineStep_within absent within] at fails
          cases fails
        · rw [lineStep_within absent within] at taken
          cases taken
      · by_cases valid : ValidLine maxFrameBytes parse line
        · obtain ⟨messages, read⟩ := validLine_iff.mp valid
          rcases Decoder.blocked_iff.mp blocked with fails | ⟨left, taken, later⟩
          · rw [lineStep_valid absent read rest] at fails
            cases fails
          · rw [lineStep_valid absent read rest] at taken
            cases taken
            have less : rest.length < length := by
              rw [← bound, List.length_append, List.length_cons]
              omega
            exact .blank absent (readLine_empty_iff.mp read) (ih rest.length less later rfl)
        · exact .line absent valid

theorem linesIndependent_iff (stream : List UInt8) :
    (∀ one other, Splits one stream → Splits other stream →
      Alike (pushAll (NewlineJsonRpcFramer.push maxFrameBytes parse) ⟨[], []⟩ one)
        (pushAll (NewlineJsonRpcFramer.push maxFrameBytes parse) ⟨[], []⟩ other)) ↔
      RegularLines maxFrameBytes parse stream ∨ RefusedLines maxFrameBytes parse stream := by
  have decided := (newlineFramer_implements maxFrameBytes parse).independent_iff stream
  exact decided.trans (or_congr ⟨regularLines_of_steady, RegularLines.steady⟩
    ⟨refusedLines_of_blocked, RefusedLines.blocked⟩)

end

/-! ### Every way of cutting a stream -/

/-- A stream means the same however it is cut exactly when every frame or line of it
is valid and no cut of one meets a limit, or when nothing but blank lines stands
before one that is invalid. -/
theorem framing_independent_iff {M : Type} (parse : String → Option M) (stream : List UInt8) :
    (∀ limits : FrameLimits,
      (∀ one other, Splits one stream → Splits other stream →
        Alike (pushAll (JsonRpcFramer.push limits parse) ⟨[]⟩ one)
          (pushAll (JsonRpcFramer.push limits parse) ⟨[]⟩ other)) ↔
        Regular limits parse stream ∨ Refused limits parse stream) ∧
    ∀ maxFrameBytes : Nat,
      (∀ one other, Splits one stream → Splits other stream →
        Alike (pushAll (NewlineJsonRpcFramer.push maxFrameBytes parse) ⟨[], []⟩ one)
          (pushAll (NewlineJsonRpcFramer.push maxFrameBytes parse) ⟨[], []⟩ other)) ↔
        RegularLines maxFrameBytes parse stream ∨ RefusedLines maxFrameBytes parse stream :=
  ⟨fun _ => framesIndependent_iff stream, fun _ => linesIndependent_iff stream⟩

private def goodFrame : List UInt8 := utf8 "Content-Length: 2\r\n\r\n{}".toList

private def badFrame : List UInt8 := utf8 "\r\n\r\n".toList

/-- A message before an invalid frame is handed over in a piece of its own and lost
in one piece with that frame; so is one before an invalid line. -/
theorem message_lost_with_bad_frame :
    ¬ ((∀ one other, Splits one (goodFrame ++ badFrame) → Splits other (goodFrame ++ badFrame) →
        Alike (pushAll (JsonRpcFramer.push {} (jsonParse some)) ⟨[]⟩ one)
          (pushAll (JsonRpcFramer.push {} (jsonParse some)) ⟨[]⟩ other)) ∨
      (∀ one other, Splits one (utf8 "{}\n?\n".toList) → Splits other (utf8 "{}\n?\n".toList) →
        Alike (pushAll (NewlineJsonRpcFramer.push DEFAULT_MAX_FRAME_BYTES (jsonParse some))
            ⟨[], []⟩ one)
          (pushAll (NewlineJsonRpcFramer.push DEFAULT_MAX_FRAME_BYTES (jsonParse some))
            ⟨[], []⟩ other))) := by
  rintro (frames | lines)
  · have alike := (frames [goodFrame, badFrame] [goodFrame ++ badFrame] (by decide) (by decide)).1
    have counts := congrArg List.length alike
    revert counts
    decide +kernel
  · have alike := (lines [utf8 "{}\n".toList, utf8 "?\n".toList] [utf8 "{}\n?\n".toList]
      (by decide) (by decide)).1
    have counts := congrArg List.length alike
    revert counts
    decide +kernel

end ActionProxy.Wrapper
