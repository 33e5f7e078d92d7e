import Mathlib.Data.List.Infix
import Mathlib.Data.List.TakeDrop

/-!
Mail over a line protocol. The data of a message are lines ended by carriage return and line
feed, up to a line with a single dot; a line that starts with a dot is sent with another dot in
front of it. The header is what comes before the first empty line, a line that starts with a
space continues a field.
-/

namespace MailText

/-! ### Lines -/

/-- The text has no carriage return right before a line feed. -/
def CrLfFree (text : List Char) : Prop := ∀ front back, text ≠ front ++ '\r' :: '\n' :: back

def consFirst (char : Char) : List (List Char) → List (List Char)
  | [] => [[char]]
  | line :: rest => (char :: line) :: rest

/-- The lines of a stream, and what comes after the last of them. -/
def crLfLines : List Char → List (List Char)
  | '\r' :: '\n' :: rest => [] :: crLfLines rest
  | char :: rest => consFirst char (crLfLines rest)
  | [] => [[]]

/-- The lines with line ends between them. -/
def joinCrLf : List (List Char) → List Char
  | [] => []
  | [line] => line
  | line :: next :: rest => line ++ '\r' :: '\n' :: joinCrLf (next :: rest)

/-! ### What is received -/

/-- A dot in front of a line is dropped. -/
def unstuffed : List Char → List Char
  | '.' :: rest => rest
  | line => line

/-- The lines before the line with a single dot, and what comes after it. -/
def readData : List (List Char) → Option (List (List Char) × List (List Char))
  | [] => none
  | [_] => none
  | line :: next :: rest =>
      if line = ['.'] then some ([], next :: rest)
      else (readData (next :: rest)).map (fun read => (unstuffed line :: read.1, read.2))

def isContinuation : List Char → Bool
  | ' ' :: _ => true
  | '\t' :: _ => true
  | _ => false

/-- The fields, each with the lines that continue it. -/
def unfoldInto (current : List Char) : List (List Char) → List (List Char)
  | [] => [current]
  | line :: rest =>
      if isContinuation line then unfoldInto (current ++ line) rest
      else current :: unfoldInto line rest

def unfolded : List (List Char) → List (List Char)
  | [] => []
  | line :: rest => unfoldInto line rest

/-- The name of a field, and what comes after the colon. -/
def readField (field : List Char) : Option (List Char × List Char) :=
  match field.dropWhile (· ≠ ':') with
  | _ :: body => some (field.takeWhile (· ≠ ':'), body)
  | [] => none

structure Mail where
  fields : List (List Char × List Char)
  body : List Char

/-- The message in its lines. -/
def readMail (lines : List (List Char)) : Option Mail :=
  ((unfolded (lines.takeWhile (· ≠ []))).mapM readField).map (fun fields =>
    { fields := fields
      body := joinCrLf (lines.dropWhile (· ≠ [])).tail })

/-- The one message of a stream that ends with its final line. -/
def receive (stream : List Char) : Option Mail :=
  match readData (crLfLines stream) with
  | some (lines, [[]]) => readMail lines
  | _ => none

/-! ### What is sent -/

/-- `text.replaceAll('\n.', '\n..')`. -/
def stuffed : List Char → List Char
  | '\n' :: '.' :: rest => '\n' :: '.' :: '.' :: stuffed rest
  | char :: rest => char :: stuffed rest
  | [] => []

/-- A dot comes right after a line feed that has no carriage return before it. -/
def bareDot : List Char → Bool
  | '\r' :: '\n' :: rest => bareDot rest
  | '\n' :: '.' :: _ => true
  | _ :: rest => bareDot rest
  | [] => false

/-- The text as it is received when it is stuffed: dots after bare line feeds are doubled. -/
def received : List Char → List Char
  | '\r' :: '\n' :: rest => '\r' :: '\n' :: received rest
  | '\n' :: '.' :: rest => '\n' :: '.' :: '.' :: received rest
  | char :: rest => char :: received rest
  | [] => []

/-- Every line end becomes a line feed. -/
def lineEnds : List Char → List Char
  | '\r' :: '\n' :: rest => '\n' :: lineEnds rest
  | '\r' :: rest => '\n' :: lineEnds rest
  | char :: rest => char :: lineEnds rest
  | [] => []

/-! ### One step of each reading -/

theorem crLfLines_feed (rest : List Char) :
    crLfLines ('\r' :: '\n' :: rest) = [] :: crLfLines rest := rfl

theorem crLfLines_other {char : Char} {rest : List Char}
    (apart : ∀ tail, char = '\r' → rest = '\n' :: tail → False) :
    crLfLines (char :: rest) = consFirst char (crLfLines rest) := crLfLines.eq_2 _ _ apart

theorem lineEndInduction {motive : List Char → Prop}
    (feed : ∀ rest, motive rest → motive ('\r' :: '\n' :: rest))
    (other : ∀ char rest, (∀ tail, char = '\r' → rest = '\n' :: tail → False) → motive rest →
      motive (char :: rest))
    (ended : motive []) (text : List Char) : motive text :=
  crLfLines.induct motive feed other ended text

theorem stuffed_dotted (rest : List Char) :
    stuffed ('\n' :: '.' :: rest) = '\n' :: '.' :: '.' :: stuffed rest := rfl

theorem stuffed_other {char : Char} {rest : List Char}
    (apart : ∀ tail, char = '\n' → rest = '.' :: tail → False) :
    stuffed (char :: rest) = char :: stuffed rest := stuffed.eq_2 _ _ apart

theorem received_feed (rest : List Char) :
    received ('\r' :: '\n' :: rest) = '\r' :: '\n' :: received rest := rfl

theorem received_dotted (rest : List Char) :
    received ('\n' :: '.' :: rest) = '\n' :: '.' :: '.' :: received rest := rfl

theorem received_other {char : Char} {rest : List Char}
    (unended : ∀ tail, char = '\r' → rest = '\n' :: tail → False)
    (undoubled : ∀ tail, char = '\n' → rest = '.' :: tail → False) :
    received (char :: rest) = char :: received rest := received.eq_3 _ _ unended undoubled

/-- A text is read a line end, a dotted line feed or a character at a time. -/
theorem receivedInduction {motive : List Char → Prop}
    (feed : ∀ rest, motive rest → motive ('\r' :: '\n' :: rest))
    (dotted : ∀ rest, motive rest → motive ('\n' :: '.' :: rest))
    (other : ∀ char rest, (∀ tail, char = '\r' → rest = '\n' :: tail → False) →
      (∀ tail, char = '\n' → rest = '.' :: tail → False) → motive rest → motive (char :: rest))
    (ended : motive []) (text : List Char) : motive text :=
  received.induct motive feed dotted other ended text

theorem bareDot_feed (rest : List Char) : bareDot ('\r' :: '\n' :: rest) = bareDot rest := rfl

theorem bareDot_other {char : Char} {rest : List Char}
    (unended : ∀ tail, char = '\r' → rest = '\n' :: tail → False)
    (undoubled : ∀ tail, char = '\n' → rest = '.' :: tail → False) :
    bareDot (char :: rest) = bareDot rest := bareDot.eq_3 _ _ unended undoubled

/-! ### Texts without a line end -/

theorem crLfFree_nil : CrLfFree [] := by
  intro front back same
  have lengths := congrArg List.length same
  simp at lengths

theorem CrLfFree.tail {char : Char} {text : List Char} (free : CrLfFree (char :: text)) :
    CrLfFree text := by
  intro front back same
  exact free (char :: front) back (by rw [same, List.cons_append])

theorem CrLfFree.of_append_right {front back : List Char} (free : CrLfFree (front ++ back)) :
    CrLfFree back := by
  intro before after same
  exact free (front ++ before) after (by rw [same, List.append_assoc])

theorem CrLfFree.cons {char : Char} {text : List Char} (free : CrLfFree text)
    (apart : char = '\r' → text.head? ≠ some '\n') : CrLfFree (char :: text) := by
  intro front back same
  cases front with
  | nil =>
      obtain ⟨isReturn, rest⟩ := List.cons.inj same
      apply apart isReturn
      rw [rest]
      rfl
  | cons first front => exact free front back (List.cons.inj same).2

/-- No line end comes about between two texts, when the second starts with no line feed. -/
theorem CrLfFree.append {front back : List Char} (left : CrLfFree front) (right : CrLfFree back)
    (apart : back.head? ≠ some '\n') : CrLfFree (front ++ back) := by
  induction front with
  | nil => exact right
  | cons char front inductionHypothesis =>
      rw [List.cons_append]
      refine (inductionHypothesis left.tail).cons ?_
      intro isReturn
      cases front with
      | nil => exact apart
      | cons next front =>
          intro isFeed
          cases isReturn
          cases isFeed
          exact left [] front rfl

theorem crLfFree_of_not_mem {text : List Char} (plain : '\n' ∉ text) : CrLfFree text := by
  intro front back same
  apply plain
  rw [same]
  simp

/-! ### Reading lines -/

theorem crLfLines_cons {char : Char} {rest : List Char}
    (apart : char = '\r' → rest.head? ≠ some '\n') :
    crLfLines (char :: rest) = consFirst char (crLfLines rest) := by
  apply crLfLines_other
  intro tail isReturn isFeed
  apply apart isReturn
  rw [isFeed]
  rfl

theorem exists_consFirst (char : Char) (lines : List (List Char)) :
    ∃ line rest, consFirst char lines = (char :: line) :: rest := by
  cases lines with
  | nil => exact ⟨[], [], rfl⟩
  | cons line rest => exact ⟨line, rest, rfl⟩

theorem exists_crLfLines (text : List Char) : ∃ line rest, crLfLines text = line :: rest := by
  induction text using lineEndInduction with
  | feed rest inductionHypothesis => exact ⟨[], crLfLines rest, rfl⟩
  | other char rest apart inductionHypothesis =>
      rw [crLfLines_other apart]
      obtain ⟨line, lines, same⟩ := exists_consFirst char (crLfLines rest)
      exact ⟨char :: line, lines, same⟩
  | ended => exact ⟨[], [], rfl⟩

theorem head_firstLine {text line : List Char} {rest : List (List Char)} {char : Char}
    (lines : crLfLines text = line :: rest) (first : line.head? = some char) :
    text.head? = some char := by
  induction text using lineEndInduction with
  | feed tail inductionHypothesis =>
      rw [crLfLines_feed] at lines
      rw [← (List.cons.inj lines).1] at first
      cases first
  | other head tail apart inductionHypothesis =>
      obtain ⟨others, more, same⟩ := exists_consFirst head (crLfLines tail)
      rw [crLfLines_other apart, same] at lines
      rw [← (List.cons.inj lines).1] at first
      exact first
  | ended =>
      cases lines
      cases first

theorem crLfFree_of_mem {text line : List Char} (listed : line ∈ crLfLines text) :
    CrLfFree line := by
  induction text using lineEndInduction generalizing line with
  | feed rest inductionHypothesis =>
      rw [crLfLines_feed] at listed
      rcases List.mem_cons.mp listed with rfl | later
      · exact crLfFree_nil
      · exact inductionHypothesis later
  | other char rest apart inductionHypothesis =>
      obtain ⟨first, lines, same⟩ := exists_crLfLines rest
      rw [crLfLines_other apart, same, consFirst] at listed
      rw [same] at inductionHypothesis
      rcases List.mem_cons.mp listed with rfl | later
      · refine (inductionHypothesis List.mem_cons_self).cons ?_
        intro isReturn isFeed
        have starts := head_firstLine same isFeed
        cases rest with
        | nil => cases starts
        | cons next rest =>
            cases starts
            exact apart rest isReturn rfl
      · exact inductionHypothesis (List.mem_cons_of_mem _ later)
  | ended =>
      cases List.mem_singleton.mp listed
      exact crLfFree_nil

theorem crLfLines_append (text rest : List Char) :
    crLfLines (text ++ '\r' :: '\n' :: rest) = crLfLines text ++ crLfLines rest := by
  induction text using lineEndInduction with
  | feed text inductionHypothesis =>
      rw [List.cons_append, List.cons_append, crLfLines_feed, crLfLines_feed, inductionHypothesis]
      rfl
  | other char text apart inductionHypothesis =>
      obtain ⟨line, lines, same⟩ := exists_crLfLines text
      have still : char = '\r' → (text ++ '\r' :: '\n' :: rest).head? ≠ some '\n' := by
        intro isReturn isFeed
        cases text with
        | nil => cases isFeed
        | cons next text =>
            cases isFeed
            exact apart text isReturn rfl
      rw [List.cons_append, crLfLines_cons still, inductionHypothesis, crLfLines_other apart,
        same]
      rfl
  | ended => rfl

theorem crLfLines_free {line : List Char} (free : CrLfFree line) : crLfLines line = [line] := by
  induction line with
  | nil => rfl
  | cons char line inductionHypothesis =>
      rw [crLfLines_cons, inductionHypothesis free.tail]
      · rfl
      · intro isReturn isFeed
        cases line with
        | nil => cases isFeed
        | cons next line =>
            cases isReturn
            cases isFeed
            exact free [] line rfl

theorem joinCrLf_cons (char : Char) (line : List Char) (rest : List (List Char)) :
    joinCrLf ((char :: line) :: rest) = char :: joinCrLf (line :: rest) := by
  cases rest <;> rfl

/-! ### Stuffed texts -/

theorem stuffed_lf (rest : List Char) :
    stuffed ('\n' :: rest) =
      '\n' :: (if rest.head? = some '.' then '.' :: stuffed rest else stuffed rest) := by
  cases rest with
  | nil => rfl
  | cons next rest =>
      by_cases dotted : next = '.'
      · subst dotted
        have plain : stuffed ('.' :: rest) = '.' :: stuffed rest := by
          apply stuffed_other
          intro tail isFeed
          cases isFeed
        rw [stuffed_dotted, plain]
        rfl
      · have different : (next :: rest).head? ≠ some '.' :=
          fun same => dotted (Option.some.inj same)
        rw [if_neg different]
        apply stuffed_other
        intro tail _ same
        exact dotted (List.cons.inj same).1

theorem stuffed_cons {char : Char} (plain : char ≠ '\n') (rest : List Char) :
    stuffed (char :: rest) = char :: stuffed rest := by
  apply stuffed_other
  intro tail isFeed
  exact absurd isFeed plain

theorem head_stuffed (text : List Char) : (stuffed text).head? = text.head? := by
  cases text with
  | nil => rfl
  | cons char rest =>
      by_cases feed : char = '\n'
      · rw [feed, stuffed_lf]
        rfl
      · rw [stuffed_cons feed]
        rfl

/-- The stuffed lines are read up to their end, and give the received text. -/
theorem exists_stuffedLines (text : List Char) :
    ∃ first rest, crLfLines (stuffed text) = first :: rest ∧
      (∀ line ∈ rest, line ≠ ['.']) ∧
      joinCrLf (first :: rest.map unstuffed) = received text := by
  induction text using receivedInduction with
  | feed rest inductionHypothesis =>
      obtain ⟨first, lines, read, undotted, text⟩ := inductionHypothesis
      have sent : stuffed ('\r' :: '\n' :: rest) =
          '\r' :: '\n' :: (if rest.head? = some '.' then '.' :: stuffed rest
            else stuffed rest) := by
        rw [stuffed_cons (by decide), stuffed_lf]
      rw [sent, crLfLines_feed, received_feed, ← text]
      by_cases dotted : rest.head? = some '.'
      · have dots : crLfLines ('.' :: stuffed rest) = ('.' :: first) :: lines := by
          rw [crLfLines_cons (fun isReturn => absurd isReturn (by decide)), read]
          rfl
        have nonempty : first ≠ [] := by
          intro empty
          cases rest with
          | nil => cases dotted
          | cons next rest =>
              cases dotted
              rw [stuffed_cons (by decide),
                crLfLines_cons (fun isReturn => absurd isReturn (by decide))] at read
              obtain ⟨line, more, same⟩ := exists_consFirst '.' (crLfLines (stuffed rest))
              rw [same, empty] at read
              cases read
        rw [if_pos dotted, dots]
        refine ⟨[], ('.' :: first) :: lines, rfl, ?_, rfl⟩
        rw [List.forall_mem_cons]
        exact ⟨fun same => nonempty (List.cons.inj same).2, undotted⟩
      · have undottedFirst : first.head? ≠ some '.' := by
          intro starts
          have head := head_firstLine read starts
          rw [head_stuffed] at head
          exact dotted head
        have kept : unstuffed first = first := by
          cases first with
          | nil => rfl
          | cons char line =>
              rw [unstuffed]
              intro rest same
              exact undottedFirst (by rw [same]; rfl)
        rw [if_neg dotted, read]
        refine ⟨[], first :: lines, rfl, ?_, ?_⟩
        · rw [List.forall_mem_cons]
          exact ⟨fun same => undottedFirst (by rw [same]; rfl), undotted⟩
        · rw [List.map_cons, kept]
          rfl
  | dotted rest inductionHypothesis =>
      obtain ⟨first, lines, read, undotted, text⟩ := inductionHypothesis
      rw [stuffed_dotted, crLfLines_cons (fun isReturn => absurd isReturn (by decide)),
        crLfLines_cons (fun isReturn => absurd isReturn (by decide)),
        crLfLines_cons (fun isReturn => absurd isReturn (by decide)), read]
      refine ⟨'\n' :: '.' :: '.' :: first, lines, rfl, undotted, ?_⟩
      rw [joinCrLf_cons, joinCrLf_cons, joinCrLf_cons, text, received_dotted]
  | other char rest unended undoubled inductionHypothesis =>
      obtain ⟨first, lines, read, undotted, text⟩ := inductionHypothesis
      have sent : stuffed (char :: rest) = char :: stuffed rest := by
        apply stuffed_other
        intro tail isFeed dotted
        exact undoubled tail isFeed dotted
      have apart : char = '\r' → (stuffed rest).head? ≠ some '\n' := by
        intro isReturn isFeed
        rw [head_stuffed] at isFeed
        cases rest with
        | nil => cases isFeed
        | cons next rest =>
            cases isFeed
            exact unended rest isReturn rfl
      rw [sent, crLfLines_cons apart, read]
      refine ⟨char :: first, lines, rfl, undotted, ?_⟩
      rw [joinCrLf_cons, text, received_other unended undoubled]
  | ended => exact ⟨[], [], rfl, fun line listed => absurd listed List.not_mem_nil, rfl⟩

/-! ### Reading a message -/

theorem readData_lines {lines : List (List Char)} (undotted : ∀ line ∈ lines, line ≠ ['.']) :
    readData (lines ++ [['.'], []]) = some (lines.map unstuffed, [[]]) := by
  induction lines with
  | nil => rfl
  | cons line rest inductionHypothesis =>
      have later := inductionHypothesis (fun one listed => undotted one (List.mem_cons_of_mem _ listed))
      obtain ⟨next, more, same⟩ : ∃ next more, rest ++ [['.'], []] = next :: more := by
        cases rest with
        | nil => exact ⟨['.'], [[]], rfl⟩
        | cons next rest => exact ⟨next, rest ++ [['.'], []], rfl⟩
      rw [List.cons_append, same, readData, if_neg (undotted line List.mem_cons_self), ← same,
        later]
      rfl

theorem unstuffed_of_undotted {line : List Char} (undotted : line.head? ≠ some '.') :
    unstuffed line = line := by
  cases line with
  | nil => rfl
  | cons char line =>
      rw [unstuffed]
      intro rest same
      exact undotted (by rw [same]; rfl)

theorem readField_named {name : List Char} (plain : ':' ∉ name) (body : List Char) :
    readField (name ++ ':' :: body) = some (name, body) := by
  have letters : ∀ char ∈ name, decide (char ≠ ':') = true := by
    intro char listed
    rw [decide_eq_true_iff]
    intro same
    exact plain (same ▸ listed)
  have dropped : (':' :: body).dropWhile (fun char => decide (char ≠ ':')) = ':' :: body := rfl
  have taken : (':' :: body).takeWhile (fun char => decide (char ≠ ':')) = [] := rfl
  rw [readField, List.dropWhile_append_of_pos letters, List.takeWhile_append_of_pos letters,
    dropped, taken, List.append_nil]

theorem unfoldInto_plain {current : List Char} {lines : List (List Char)}
    (plain : ∀ line ∈ lines, isContinuation line = false) :
    unfoldInto current lines = current :: lines := by
  induction lines generalizing current with
  | nil => rfl
  | cons line rest inductionHypothesis =>
      rw [List.forall_mem_cons] at plain
      rw [unfoldInto, plain.1, if_neg Bool.false_ne_true, inductionHypothesis plain.2]

theorem unfolded_plain {lines : List (List Char)}
    (plain : ∀ line ∈ lines, isContinuation line = false) : unfolded lines = lines := by
  cases lines with
  | nil => rfl
  | cons line rest => exact unfoldInto_plain (List.forall_mem_cons.mp plain).2

/-- A field as it is sent. -/
def fieldLine (field : List Char × List Char) : List Char := field.1 ++ ':' :: field.2

theorem mapM_readField {fields : List (List Char × List Char)}
    (plain : ∀ field ∈ fields, ':' ∉ field.1) :
    (fields.map fieldLine).mapM readField = some fields := by
  induction fields with
  | nil => rfl
  | cons field rest inductionHypothesis =>
      rw [List.forall_mem_cons] at plain
      rw [List.map_cons, List.mapM_cons, fieldLine, readField_named plain.1,
        inductionHypothesis plain.2]
      rfl

/-- A name as fields have it: it starts a line, and is no dot or continuation. -/
structure FieldName (name : List Char) : Prop where
  plain : ':' ∉ name
  starts : ∃ first rest, name = first :: rest ∧ first ≠ '.' ∧ first ≠ ' ' ∧ first ≠ '\t'

theorem FieldName.undotted {field : List Char × List Char} (named : FieldName field.1) :
    (fieldLine field).head? ≠ some '.' := by
  obtain ⟨first, rest, same, dot, -, -⟩ := named.starts
  rw [fieldLine, same]
  exact fun starts => dot (Option.some.inj starts)

theorem FieldName.notContinuation {field : List Char × List Char} (named : FieldName field.1) :
    isContinuation (fieldLine field) = false := by
  obtain ⟨first, rest, same, -, space, tab⟩ := named.starts
  rw [fieldLine, same, List.cons_append]
  unfold isContinuation
  split
  · rename_i starts
    exact absurd (List.cons.inj starts).1 space
  · rename_i starts
    exact absurd (List.cons.inj starts).1 tab
  · rfl

theorem FieldName.nonempty {field : List Char × List Char} (named : FieldName field.1) :
    fieldLine field ≠ [] := by
  obtain ⟨first, rest, same, -⟩ := named.starts
  rw [fieldLine, same]
  exact List.cons_ne_nil _ _

theorem readMail_lines {fields : List (List Char × List Char)}
    (named : ∀ field ∈ fields, FieldName field.1) (body : List (List Char)) :
    readMail (fields.map fieldLine ++ [] :: body) =
      some { fields := fields, body := joinCrLf body } := by
  have nonempty : ∀ line ∈ fields.map fieldLine, decide (line ≠ []) = true := by
    intro line listed
    obtain ⟨field, given, rfl⟩ := List.mem_map.mp listed
    rw [decide_eq_true_iff]
    exact (named field given).nonempty
  have dropped : ([] :: body).dropWhile (fun line => decide (line ≠ [])) = [] :: body := rfl
  have taken : ([] :: body).takeWhile (fun line => decide (line ≠ [])) = [] := rfl
  have plain : ∀ line ∈ fields.map fieldLine, isContinuation line = false := by
    intro line listed
    obtain ⟨field, given, rfl⟩ := List.mem_map.mp listed
    exact (named field given).notContinuation
  rw [readMail, List.takeWhile_append_of_pos nonempty, List.dropWhile_append_of_pos nonempty,
    dropped, taken, List.append_nil, unfolded_plain plain, mapM_readField (fun field given => (named field given).plain)]
  rfl

/-- The message of these fields and this text, as it is sent. -/
def sentMail (fields : List (List Char × List Char)) (text : List Char) : List Char :=
  joinCrLf (fields.map fieldLine ++ [[], stuffed text, ['.'], []])

theorem crLfLines_joinCrLf {lines : List (List Char)} (free : ∀ line ∈ lines, CrLfFree line)
    (rest : List Char) (others : List (List Char)) :
    crLfLines (joinCrLf (lines ++ rest :: others)) =
      lines ++ crLfLines (joinCrLf (rest :: others)) := by
  induction lines with
  | nil => rfl
  | cons line lines inductionHypothesis =>
      rw [List.forall_mem_cons] at free
      obtain ⟨next, more, same⟩ : ∃ next more, lines ++ rest :: others = next :: more := by
        cases lines with
        | nil => exact ⟨rest, others, rfl⟩
        | cons next lines => exact ⟨next, lines ++ rest :: others, rfl⟩
      rw [List.cons_append, same, joinCrLf, crLfLines_append, crLfLines_free free.1, ← same,
        inductionHypothesis free.2]
      rfl

/-- A message whose fields hold no line end is received with its fields; of its text the dots
after bare line feeds are doubled. -/
theorem receive_sentMail {fields : List (List Char × List Char)}
    (named : ∀ field ∈ fields, FieldName field.1)
    (free : ∀ field ∈ fields, CrLfFree (fieldLine field)) {text : List Char}
    (undotted : text.head? ≠ some '.') :
    receive (sentMail fields text) = some { fields := fields, body := received text } := by
  have fieldsFree : ∀ line ∈ fields.map fieldLine, CrLfFree line := by
    intro line listed
    obtain ⟨field, given, rfl⟩ := List.mem_map.mp listed
    exact free field given
  obtain ⟨first, rest, read, undottedRest, body⟩ := exists_stuffedLines text
  have undottedFirst : first.head? ≠ some '.' := by
    intro starts
    have head := head_firstLine read starts
    rw [head_stuffed] at head
    exact undotted head
  have ending : crLfLines (joinCrLf [[], stuffed text, ['.'], []]) =
      [] :: first :: rest ++ [['.'], []] := by
    have last : crLfLines (stuffed text ++ '\r' :: '\n' :: ['.', '\r', '\n']) =
        first :: rest ++ [['.'], []] := by
      rw [crLfLines_append, read]
      rfl
    rw [joinCrLf, List.nil_append, crLfLines_feed, joinCrLf, joinCrLf]
    exact congrArg ([] :: ·) last
  have undottedAll : ∀ line ∈ fields.map fieldLine ++ [] :: first :: rest, line ≠ ['.'] := by
    intro line listed same
    rcases List.mem_append.mp listed with inFields | inBody
    · obtain ⟨field, given, rfl⟩ := List.mem_map.mp inFields
      exact (named field given).undotted (by rw [same]; rfl)
    · rcases List.mem_cons.mp inBody with rfl | inText
      · cases same
      · rcases List.mem_cons.mp inText with rfl | later
        · exact undottedFirst (by rw [same]; rfl)
        · exact undottedRest line later same
  have unstuffedFields : (fields.map fieldLine).map unstuffed = fields.map fieldLine := by
    rw [List.map_map]
    apply List.map_congr_left
    intro field given
    exact unstuffed_of_undotted (named field given).undotted
  rw [receive, sentMail, crLfLines_joinCrLf fieldsFree, ending, List.cons_append, List.cons_append,
    ← List.cons_append, ← List.cons_append, ← List.append_assoc, readData_lines undottedAll]
  rw [List.map_append, unstuffedFields, List.map_cons, List.map_cons,
    unstuffed_of_undotted undottedFirst]
  simp only
  rw [show unstuffed [] = [] from rfl, readMail_lines named, body]

/-! ### What no receiver reads -/

theorem unstuffed_free {line : List Char} (free : CrLfFree line) : CrLfFree (unstuffed line) := by
  unfold unstuffed
  split
  · exact free.tail
  · exact free

theorem readData_free {lines read after : List (List Char)}
    (free : ∀ line ∈ lines, CrLfFree line) (data : readData lines = some (read, after)) :
    ∀ line ∈ read, CrLfFree line := by
  induction lines generalizing read with
  | nil => cases data
  | cons line rest inductionHypothesis =>
      cases rest with
      | nil => cases data
      | cons next rest =>
          rw [List.forall_mem_cons] at free
          rw [readData] at data
          split at data
          · cases data
            exact fun line listed => absurd listed List.not_mem_nil
          · obtain ⟨⟨later, others⟩, readLater, same⟩ := Option.map_eq_some_iff.mp data
            cases same
            rw [List.forall_mem_cons]
            exact ⟨unstuffed_free free.1, inductionHypothesis free.2 readLater⟩

theorem unfoldInto_free {current : List Char} {lines : List (List Char)}
    (freeCurrent : CrLfFree current) (free : ∀ line ∈ lines, CrLfFree line) :
    ∀ field ∈ unfoldInto current lines, CrLfFree field := by
  induction lines generalizing current with
  | nil =>
      rw [unfoldInto, List.forall_mem_singleton]
      exact freeCurrent
  | cons line rest inductionHypothesis =>
      rw [List.forall_mem_cons] at free
      rw [unfoldInto]
      split
      · rename_i continues
        refine inductionHypothesis (freeCurrent.append free.1 ?_) free.2
        intro isFeed
        cases line with
        | nil => cases isFeed
        | cons char line =>
            cases isFeed
            cases continues
      · rw [List.forall_mem_cons]
        exact ⟨freeCurrent, inductionHypothesis free.1 free.2⟩

theorem readField_free {field : List Char} {read : List Char × List Char}
    (free : CrLfFree field) (reads : readField field = some read) : CrLfFree read.2 := by
  unfold readField at reads
  split at reads
  · rename_i char body split
    cases reads
    have suffix : char :: body <:+ field := by
      rw [← split]
      exact List.dropWhile_suffix _
    obtain ⟨front, whole⟩ := suffix
    rw [← whole] at free
    exact free.of_append_right.tail
  · cases reads

theorem mapM_readField_free {lines : List (List Char)} {fields : List (List Char × List Char)}
    (free : ∀ line ∈ lines, CrLfFree line) (reads : lines.mapM readField = some fields) :
    ∀ field ∈ fields, CrLfFree field.2 := by
  induction lines generalizing fields with
  | nil =>
      cases reads
      exact fun field listed => absurd listed List.not_mem_nil
  | cons line rest inductionHypothesis =>
      rw [List.forall_mem_cons] at free
      rw [List.mapM_cons] at reads
      obtain ⟨field, readFirst, reads⟩ := Option.bind_eq_some_iff.mp reads
      obtain ⟨later, readLater, reads⟩ := Option.bind_eq_some_iff.mp reads
      cases reads
      rw [List.forall_mem_cons]
      exact ⟨readField_free free.1 readFirst, inductionHypothesis free.2 readLater⟩

theorem receive_free {stream : List Char} {mail : Mail} (received : receive stream = some mail) :
    ∀ field ∈ mail.fields, CrLfFree field.2 := by
  unfold receive at received
  split at received
  · rename_i lines data
    have free : ∀ line ∈ lines, CrLfFree line :=
      readData_free (fun line listed => crLfFree_of_mem listed) data
    obtain ⟨fields, reads, same⟩ := Option.map_eq_some_iff.mp received
    cases same
    refine mapM_readField_free ?_ reads
    have header : ∀ line ∈ lines.takeWhile (· ≠ []), CrLfFree line :=
      fun line listed => free line ((List.takeWhile_prefix _).subset listed)
    cases first : lines.takeWhile (· ≠ []) with
    | nil => exact fun line listed => absurd listed List.not_mem_nil
    | cons line rest =>
        rw [first, List.forall_mem_cons] at header
        exact unfoldInto_free header.1 header.2
  · cases received

/-! ### Bare dots -/

theorem received_of_bareDot {text : List Char} (none : bareDot text = false) :
    received text = text := by
  induction text using receivedInduction with
  | feed rest inductionHypothesis => rw [received_feed, inductionHypothesis none]
  | dotted rest inductionHypothesis => cases none
  | other char rest unended undoubled inductionHypothesis =>
      rw [bareDot_other unended undoubled] at none
      rw [received_other unended undoubled, inductionHypothesis none]
  | ended => rfl

theorem count_received (text : List Char) :
    (text.count '.' ≤ (received text).count '.') ∧
      (bareDot text = true → text.count '.' < (received text).count '.') := by
  induction text using receivedInduction with
  | feed rest inductionHypothesis =>
      rw [received_feed, bareDot_feed]
      simpa using inductionHypothesis
  | dotted rest inductionHypothesis =>
      rw [received_dotted]
      simp only [List.count_cons]
      constructor
      · have atLeast := inductionHypothesis.1
        simp
        omega
      · have atLeast := inductionHypothesis.1
        intro _
        simp
        omega
  | other char rest unended undoubled inductionHypothesis =>
      rw [received_other unended undoubled,
        bareDot_other unended undoubled]
      simp only [List.count_cons]
      constructor
      · have atLeast := inductionHypothesis.1
        omega
      · intro bare
        have more := inductionHypothesis.2 bare
        omega
  | ended => exact ⟨Nat.le_refl _, fun bare => absurd bare Bool.false_ne_true⟩

theorem count_lineEnds (text : List Char) : (lineEnds text).count '.' = text.count '.' := by
  induction text using lineEnds.induct with
  | case1 rest inductionHypothesis =>
      rw [lineEnds]
      simpa using inductionHypothesis
  | case2 rest alone inductionHypothesis =>
      rw [lineEnds.eq_2 _ alone]
      simpa using inductionHypothesis
  | case3 char rest unended inner inductionHypothesis =>
      rw [lineEnds.eq_3 _ _ unended inner, List.count_cons, List.count_cons, inductionHypothesis]
  | case4 => rfl

/-- The text comes through, up to line ends, exactly when it has no bare dot. -/
theorem lineEnds_received_iff (text : List Char) :
    lineEnds (received text) = lineEnds text ↔ bareDot text = false := by
  constructor
  · intro same
    rw [Bool.eq_false_iff]
    intro bare
    have counts := congrArg (List.count '.') same
    rw [count_lineEnds, count_lineEnds] at counts
    have more := (count_received text).2 bare
    omega
  · intro none
    rw [received_of_bareDot none]

theorem bareDot_cons {char : Char} (plain : char ≠ '\r' ∧ char ≠ '\n') (rest : List Char) :
    bareDot (char :: rest) = bareDot rest := by
  apply bareDot_other
  · intro tail isReturn
    exact absurd isReturn plain.1
  · intro tail isFeed
    exact absurd isFeed plain.2

theorem bareDot_plain_append {front : List Char}
    (plain : ∀ char ∈ front, char ≠ '\r' ∧ char ≠ '\n') (back : List Char) :
    bareDot (front ++ back) = bareDot back := by
  induction front with
  | nil => rfl
  | cons char front inductionHypothesis =>
      rw [List.forall_mem_cons] at plain
      rw [List.cons_append, bareDot_cons plain.1, inductionHypothesis plain.2]

theorem bareDot_append_lf (front : List Char) {back : List Char}
    (undotted : back.head? ≠ some '.') :
    bareDot (front ++ '\n' :: back) = (bareDot front || bareDot back) := by
  have fed : bareDot ('\n' :: back) = bareDot back := by
    apply bareDot_other
    · intro rest isReturn
      exact absurd isReturn (by decide)
    · intro rest _ dotted
      exact undotted (by rw [dotted]; rfl)
  induction front using bareDot.induct with
  | case1 rest inductionHypothesis =>
      rw [List.cons_append, List.cons_append, bareDot, bareDot, inductionHypothesis]
  | case2 rest =>
      rw [List.cons_append, List.cons_append, bareDot, bareDot, Bool.true_or]
  | case3 char rest unended undoubled inductionHypothesis =>
      rw [bareDot_other unended undoubled, List.cons_append, ← inductionHypothesis]
      by_cases last : rest = []
      · subst last
        rw [List.nil_append, fed]
        by_cases isReturn : char = '\r'
        · rw [isReturn, bareDot]
        · rw [bareDot_other]
          · exact fed
          · intro tail same
            exact absurd same isReturn
          · intro tail _ dotted
            exact absurd (List.cons.inj dotted).1 (by decide)
      · rw [bareDot_other]
        · intro tail isReturn same
          cases rest with
          | nil => exact last rfl
          | cons next rest =>
              cases same
              exact unended rest isReturn rfl
        · intro tail isFeed same
          cases rest with
          | nil => exact last rfl
          | cons next rest =>
              cases same
              exact undoubled rest isFeed rfl
  | case4 => rw [List.nil_append, fed, bareDot, Bool.false_or]

end MailText
