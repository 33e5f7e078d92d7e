import ActionProxy.Foundation.Utf16
import ActionProxy.Foundation.Utf8Stream
import ActionProxy.Foundation.JsonText

/-!
The string literals of the scripts that `runSqlite` hands to the `sqlite3` shell: how a
script is written and encoded, how the shell takes its lines and reads its literals, and
which strings a literal carries unchanged.
-/

namespace ActionProxy

open JsonText

/-! ### Scripts -/

/-- The unit of `'`. -/
def quoteUnit : UInt16 := 39

/-- `value.replaceAll("'", "''")`. -/
def doubledUnits (value : List UInt16) : List UInt16 :=
  value.flatMap (fun unit => if unit = quoteUnit then [quoteUnit, quoteUnit] else [unit])

def sqlLiteral : Option (List UInt16) → List UInt16
  | none => Utf16.encode ['N', 'U', 'L', 'L']
  | some value => quoteUnit :: (doubledUnits value ++ [quoteUnit])

/-- The text of a JSON value; an undefined value has none. -/
def sqlJsonLiteral (value : Option Json) : List UInt16 :=
  sqlLiteral (value.map (fun value => Utf16.encode (textWith insertionOrder value)))

/-! ### Lines -/

/-- What the shell's reading of a line leaves open: whether a carriage return goes with the
newline after it, and whether a line that a NUL ends is joined with the next. -/
structure LineReading where
  dropsReturn : Bool
  joinsCut : Bool

namespace LineReading

/-- What is received of an input, line by line; a line ends at its first NUL, and the rest
of it is lost. -/
def receivedFrom (lines : LineReading) : Bool → List Char → List Char
  | _, [] => []
  | true, char :: rest =>
      if char = '\n' then
        if lines.joinsCut then receivedFrom lines false rest
        else '\n' :: receivedFrom lines false rest
      else receivedFrom lines true rest
  | false, char :: rest =>
      if char = Char.ofNat 0 then receivedFrom lines true rest
      else if lines.dropsReturn ∧ char = '\r' ∧ rest.head? = some '\n' then
        receivedFrom lines false rest
      else char :: receivedFrom lines false rest

def received (lines : LineReading) (input : List Char) : List Char := lines.receivedFrom false input

/-- Whether the last line of an input is cut. -/
def cutAfter (input : List Char) : Bool :=
  input.foldl (fun cut char => if char = '\n' then false else cut || char == Char.ofNat 0) false

end LineReading

/-! ### Literals -/

/-- What the shell and SQL make of a text outside of its string literals: comments, quoted
names and dot commands are told apart by the state. -/
structure SqlScanner (State : Type) where
  start : State
  char : State → Char → State
  /-- A quote that is read here opens a string literal. -/
  opens : State → Bool
  literal : State → List Char → State

inductive SqlToken where
  | char (char : Char)
  | literal (value : List Char)
  | unterminated (value : List Char)
  deriving DecidableEq

inductive LiteralMode where
  | outside
  | inside (value : List Char)
  /-- After a quote inside of a literal, which another may double. -/
  | closing (value : List Char)
  deriving DecidableEq

structure SqlReading (State : Type) where
  state : State
  mode : LiteralMode
  tokens : List SqlToken

namespace SqlReading

variable {State : Type} (scanner : SqlScanner State)

def start : SqlReading State := { state := scanner.start, mode := .outside, tokens := [] }

def withMode (reading : SqlReading State) (mode : LiteralMode) : SqlReading State :=
  { reading with mode := mode }

/-- A literal was read. -/
def withLiteral (reading : SqlReading State) (value : List Char) : SqlReading State :=
  { state := scanner.literal reading.state value
    mode := .outside
    tokens := reading.tokens ++ [.literal value] }

def outsideStep (reading : SqlReading State) (char : Char) : SqlReading State :=
  if char = '\'' ∧ scanner.opens reading.state then reading.withMode (.inside [])
  else
    { state := scanner.char reading.state char
      mode := .outside
      tokens := reading.tokens ++ [.char char] }

def step (reading : SqlReading State) (char : Char) : SqlReading State :=
  match reading.mode with
  | .outside => reading.outsideStep scanner char
  | .inside value =>
      if char = '\'' then reading.withMode (.closing value)
      else reading.withMode (.inside (value ++ [char]))
  | .closing value =>
      if char = '\'' then reading.withMode (.inside (value ++ ['\'']))
      else (reading.withLiteral scanner value).outsideStep scanner char

def run (reading : SqlReading State) (text : List Char) : SqlReading State :=
  text.foldl (step scanner) reading

/-- The tokens at the end of the text. -/
def finished (reading : SqlReading State) : List SqlToken :=
  match reading.mode with
  | .outside => reading.tokens
  | .inside value => reading.tokens ++ [.unterminated value]
  | .closing value => reading.tokens ++ [.literal value]

end SqlReading

/-- What is received of a script: `execFileSync` writes it as UTF-8. -/
def receivedScript (lines : LineReading) (script : List UInt16) : List Char :=
  lines.received (Utf8Stream.decode (Utf8Stream.utf8 (Utf16.decode script)))

/-- What the shell reads of the script that `runSqlite` gives to it. -/
def shellTokens {State : Type} (lines : LineReading) (scanner : SqlScanner State)
    (script : List UInt16) : List SqlToken :=
  ((SqlReading.start scanner).run scanner (receivedScript lines script)).finished

/-! ### What is received of a literal -/

/-- Quotes doubled. -/
def doubled (text : List Char) : List Char :=
  text.flatMap (fun char => if char = '\'' then ['\'', '\''] else [char])

theorem doubled_quote (text : List Char) : doubled ('\'' :: text) = '\'' :: '\'' :: doubled text :=
  rfl

theorem doubled_cons {char : Char} (other : char ≠ '\'') (text : List Char) :
    doubled (char :: text) = char :: doubled text := by
  rw [doubled, List.flatMap_cons, if_neg other]
  rfl

theorem doubled_head (text rest : List Char) :
    (doubled text ++ '\'' :: rest).head? = some '\n' ↔ text.head? = some '\n' := by
  cases text with
  | nil => simp [doubled]
  | cons char text =>
      by_cases quote : char = '\''
      · subst quote
        simp [doubled_quote]
      · simp [doubled_cons quote]

theorem plain_quoteUnit : (Utf16.isHigh quoteUnit || Utf16.isLow quoteUnit) = false := by decide

theorem single_quoteUnit : Utf16.single quoteUnit = '\'' := by decide

theorem ne_quoteUnit {unit : UInt16}
    (surrogate : Utf16.isHigh unit = true ∨ Utf16.isLow unit = true) : unit ≠ quoteUnit := by
  rintro rfl
  exact absurd surrogate (by decide)

theorem single_ne_quote {unit : UInt16} (other : unit ≠ quoteUnit) : Utf16.single unit ≠ '\'' := by
  intro same
  cases plain : Utf16.isHigh unit || Utf16.isLow unit with
  | true =>
      rw [Utf16.single, plain, if_pos rfl] at same
      exact absurd same (by decide)
  | false =>
      have units := Utf16.charUnits_single plain
      rw [same] at units
      exact other (List.cons.inj units).1.symm

theorem paired_ne_quote {high low : UInt16}
    (isPair : (Utf16.isHigh high && Utf16.isLow low) = true) :
    Utf16.paired high low ≠ '\'' := by
  intro same
  have units := Utf16.charUnits_paired isPair
  rw [same] at units
  have lengths := congrArg List.length units
  rw [show (Utf16.charUnits '\'').length = 1 by decide] at lengths
  exact absurd lengths (by simp)

theorem doubledUnits_quote (units : List UInt16) :
    doubledUnits (quoteUnit :: units) = quoteUnit :: quoteUnit :: doubledUnits units :=
  rfl

theorem doubledUnits_cons {unit : UInt16} (other : unit ≠ quoteUnit) (units : List UInt16) :
    doubledUnits (unit :: units) = unit :: doubledUnits units := by
  rw [doubledUnits, List.flatMap_cons, if_neg other]
  rfl

theorem doubledUnits_head (units : List UInt16) : (doubledUnits units).head? = units.head? := by
  cases units with
  | nil => rfl
  | cons unit rest =>
      by_cases quote : unit = quoteUnit
      · subst quote
        rfl
      · rw [doubledUnits_cons quote]
        rfl

theorem decode_doubledUnits (units : List UInt16) :
    Utf16.decode (doubledUnits units) = doubled (Utf16.decode units) := by
  induction units using Utf16.decode.induct with
  | case1 high low rest isPair inductionHypothesis =>
      have parts := isPair
      rw [Bool.and_eq_true] at parts
      have highOther : high ≠ quoteUnit := ne_quoteUnit (Or.inl parts.1)
      have lowOther : low ≠ quoteUnit := ne_quoteUnit (Or.inr parts.2)
      rw [doubledUnits_cons highOther, doubledUnits_cons lowOther, Utf16.decode_pair isPair,
        Utf16.decode_pair isPair, doubled_cons (paired_ne_quote isPair), inductionHypothesis]
  | case2 high low rest notPair inductionHypothesis =>
      rw [Utf16.decode, if_neg notPair]
      by_cases quote : high = quoteUnit
      · subst quote
        rw [doubledUnits_quote, Utf16.decode_cons plain_quoteUnit,
          Utf16.decode_cons plain_quoteUnit, inductionHypothesis, single_quoteUnit, doubled_quote]
      · have apart : ∀ next ∈ (doubledUnits (low :: rest)).head?,
            ¬(Utf16.isHigh high && Utf16.isLow next) = true := by
          rw [doubledUnits_head]
          intro next isNext
          obtain rfl := Option.some.inj isNext
          exact notPair
        rw [doubledUnits_cons quote, Utf16.decode_apart apart, inductionHypothesis,
          doubled_cons (single_ne_quote quote)]
  | case3 unit =>
      by_cases quote : unit = quoteUnit
      · subst quote
        decide
      · rw [doubledUnits_cons quote, doubledUnits, List.flatMap_nil, Utf16.decode,
          doubled_cons (single_ne_quote quote)]
        rfl
  | case4 => rfl

theorem decode_script (before value after : List UInt16) :
    Utf16.decode (before ++ (sqlLiteral (some value) ++ after)) =
      Utf16.decode before ++
        '\'' :: (doubled (Utf16.decode value) ++ '\'' :: Utf16.decode after) := by
  rw [sqlLiteral, List.cons_append, Utf16.decode_append_cons plain_quoteUnit, List.append_assoc,
    List.cons_append, List.nil_append, Utf16.decode_append_cons plain_quoteUnit,
    decode_doubledUnits, single_quoteUnit]

namespace LineReading

variable (lines : LineReading)

/-- Whether a line is cut after a text that begins in the middle of one. -/
def cutFrom (cut : Bool) (input : List Char) : Bool :=
  input.foldl (fun cut char => if char = '\n' then false else cut || char == Char.ofNat 0) cut

theorem cutFrom_cons (cut : Bool) (char : Char) (rest : List Char) :
    cutFrom cut (char :: rest) =
      cutFrom (if char = '\n' then false else cut || char == Char.ofNat 0) rest :=
  rfl

theorem receivedFrom_nil (cut : Bool) : lines.receivedFrom cut [] = [] := by
  cases cut <;> rfl

theorem head?_append_of {rest after : List Char} (joined : after.head? ≠ some '\n') :
    (rest ++ after).head? = some '\n' ↔ rest.head? = some '\n' := by
  cases rest with
  | nil => simpa using joined
  | cons char rest => rfl

/-- Two texts are received one after the other, unless the second begins with the newline
of a carriage return. -/
theorem receivedFrom_append (cut : Bool) (before : List Char) {after : List Char}
    (joined : after.head? ≠ some '\n') :
    lines.receivedFrom cut (before ++ after) =
      lines.receivedFrom cut before ++ lines.receivedFrom (cutFrom cut before) after := by
  induction before generalizing cut with
  | nil => rw [List.nil_append, receivedFrom_nil, List.nil_append, cutFrom, List.foldl_nil]
  | cons char rest inductionHypothesis =>
      rw [List.cons_append, cutFrom_cons]
      cases cut with
      | true =>
          simp only [receivedFrom, Bool.true_or, inductionHypothesis]
          by_cases newline : char = '\n'
          · simp only [newline, if_true]
            split_ifs
            · rfl
            · rfl
          · simp only [newline, if_false]
      | false =>
          simp only [receivedFrom, Bool.false_or, inductionHypothesis, head?_append_of joined]
          by_cases newline : char = '\n'
          · subst newline
            simp
          · simp only [newline, if_false]
            by_cases zero : char = Char.ofNat 0
            · simp [zero]
            · simp only [zero, if_false, beq_false_of_ne zero]
              split_ifs
              · rfl
              · rfl

theorem received_literal {text : List Char} (uncut : Char.ofNat 0 ∉ text) (rest : List Char) :
    lines.receivedFrom false (doubled text ++ '\'' :: rest) =
      doubled (lines.receivedFrom false text) ++ '\'' :: lines.receivedFrom false rest := by
  induction text with
  | nil =>
      simp only [doubled, List.flatMap_nil, List.nil_append, receivedFrom]
      simp
  | cons char text inductionHypothesis =>
      have tailUncut : Char.ofNat 0 ∉ text := fun mem => uncut (List.mem_cons_of_mem _ mem)
      have notZero : char ≠ Char.ofNat 0 := fun same => uncut (same ▸ List.mem_cons_self)
      have received := inductionHypothesis tailUncut
      by_cases quote : char = '\''
      · subst quote
        rw [doubled_quote, List.cons_append, List.cons_append]
        simp only [receivedFrom, received]
        simp [doubled_quote]
      · rw [doubled_cons quote, List.cons_append]
        simp only [receivedFrom, received, doubled_head, if_neg notZero]
        split_ifs
        · rfl
        · rw [doubled_cons quote, List.cons_append]

/-- A text whose lines are received as they are. -/
structure Keeps (text : List Char) : Prop where
  uncut : Char.ofNat 0 ∉ text
  returns : lines.dropsReturn = true → ¬['\r', '\n'] <:+: text

theorem keeps_of_visible {text : List Char} (visible : Visible text) : lines.Keeps text := by
  refine { uncut := ?_, returns := ?_ }
  · intro nul
    exact absurd (visible _ nul) (by decide)
  · intro _ pair
    have mem : '\r' ∈ text := pair.subset List.mem_cons_self
    exact absurd (visible _ mem) (by decide)

theorem not_mem_receivedFrom (cut : Bool) (input : List Char) :
    Char.ofNat 0 ∉ lines.receivedFrom cut input := by
  induction input generalizing cut with
  | nil => rw [receivedFrom_nil]; exact List.not_mem_nil
  | cons char rest inductionHypothesis =>
      cases cut with
      | true =>
          rw [receivedFrom]
          split_ifs
          · exact inductionHypothesis false
          · simpa using inductionHypothesis false
          · exact inductionHypothesis true
      | false =>
          rw [receivedFrom]
          split_ifs with zero
          · exact inductionHypothesis true
          · exact inductionHypothesis false
          · simpa [eq_comm, zero] using inductionHypothesis false

theorem receivedFrom_length_le (cut : Bool) (input : List Char) :
    (lines.receivedFrom cut input).length ≤ input.length := by
  induction input generalizing cut with
  | nil => rw [receivedFrom_nil]
  | cons char rest inductionHypothesis =>
      have cutRest := inductionHypothesis true
      have rest' := inductionHypothesis false
      cases cut with
      | true =>
          rw [receivedFrom]
          split_ifs <;> simp only [List.length_cons] <;> omega
      | false =>
          rw [receivedFrom]
          split_ifs <;> simp only [List.length_cons] <;> omega

theorem infix_cons_iff {char : Char} {text : List Char} :
    ['\r', '\n'] <:+: char :: text ↔
      (char = '\r' ∧ text.head? = some '\n') ∨ ['\r', '\n'] <:+: text := by
  rw [List.infix_cons_iff, List.cons_prefix_cons]
  constructor
  · rintro (⟨same, start⟩ | inside)
    · obtain ⟨tail, rfl⟩ := start
      exact Or.inl ⟨same.symm, rfl⟩
    · exact Or.inr inside
  · rintro (⟨same, head⟩ | inside)
    · obtain ⟨tail, rfl⟩ := List.head?_eq_some_iff.mp head
      exact Or.inl ⟨same.symm, tail, rfl⟩
    · exact Or.inr inside

theorem received_eq_iff (text : List Char) :
    lines.receivedFrom false text = text ↔ lines.Keeps text := by
  constructor
  · intro same
    have uncut : Char.ofNat 0 ∉ text := by
      rw [← same]
      exact not_mem_receivedFrom lines false text
    refine { uncut := uncut, returns := ?_ }
    intro drops
    induction text with
    | nil => simp
    | cons char text inductionHypothesis =>
        have notZero : char ≠ Char.ofNat 0 := fun same => uncut (same ▸ List.mem_cons_self)
        have tailUncut : Char.ofNat 0 ∉ text := fun mem => uncut (List.mem_cons_of_mem _ mem)
        rw [receivedFrom, if_neg notZero] at same
        split_ifs at same with dropped
        · have bound := receivedFrom_length_le lines false text
          rw [same, List.length_cons] at bound
          omega
        · have tailSame := (List.cons.inj same).2
          rw [infix_cons_iff]
          rintro (pair | inside)
          · exact dropped ⟨drops, pair⟩
          · exact inductionHypothesis tailSame tailUncut inside
  · intro keeps
    obtain ⟨uncut, returns⟩ := keeps
    induction text with
    | nil => rfl
    | cons char text inductionHypothesis =>
        have notZero : char ≠ Char.ofNat 0 := fun same => uncut (same ▸ List.mem_cons_self)
        have tailUncut : Char.ofNat 0 ∉ text := fun mem => uncut (List.mem_cons_of_mem _ mem)
        have tailReturns : lines.dropsReturn = true → ¬['\r', '\n'] <:+: text :=
          fun drops inside => returns drops (infix_cons_iff.mpr (Or.inr inside))
        have undropped : ¬(lines.dropsReturn = true ∧ char = '\r' ∧ text.head? = some '\n') :=
          fun dropped => returns dropped.1 (infix_cons_iff.mpr (Or.inl dropped.2))
        rw [receivedFrom, if_neg notZero, if_neg undropped,
          inductionHypothesis tailUncut tailReturns]

end LineReading

/-! ### What is read of a literal -/

namespace SqlReading

variable {State : Type} (scanner : SqlScanner State)

theorem run_append (reading : SqlReading State) (first second : List Char) :
    reading.run scanner (first ++ second) = (reading.run scanner first).run scanner second :=
  List.foldl_append

theorem run_cons (reading : SqlReading State) (char : Char) (rest : List Char) :
    reading.run scanner (char :: rest) = (reading.step scanner char).run scanner rest :=
  rfl

theorem run_nil (reading : SqlReading State) : reading.run scanner [] = reading := rfl

theorem step_inside (reading : SqlReading State) (value : List Char) {char : Char}
    (other : char ≠ '\'') :
    (reading.withMode (.inside value)).step scanner char =
      reading.withMode (.inside (value ++ [char])) := by
  simp only [step, withMode, if_neg other]

theorem step_inside_quote (reading : SqlReading State) (value : List Char) :
    (reading.withMode (.inside value)).step scanner '\'' = reading.withMode (.closing value) :=
  rfl

theorem step_closing_quote (reading : SqlReading State) (value : List Char) :
    (reading.withMode (.closing value)).step scanner '\'' =
      reading.withMode (.inside (value ++ ['\''])) :=
  rfl

theorem step_closing (reading : SqlReading State) (value : List Char) {char : Char}
    (other : char ≠ '\'') :
    (reading.withMode (.closing value)).step scanner char =
      (reading.withLiteral scanner value).step scanner char := by
  simp only [step, withMode, withLiteral, if_neg other]

theorem run_doubled (reading : SqlReading State) (value text : List Char) :
    (reading.withMode (.inside value)).run scanner (doubled text) =
      reading.withMode (.inside (value ++ text)) := by
  induction text generalizing value with
  | nil => rw [List.append_nil]; rfl
  | cons char text inductionHypothesis =>
      by_cases quote : char = '\''
      · subst quote
        rw [doubled_quote, run_cons, run_cons, step_inside_quote, step_closing_quote,
          inductionHypothesis, List.append_assoc, List.singleton_append]
      · rw [doubled_cons quote, run_cons, step_inside scanner reading value quote,
          inductionHypothesis, List.append_assoc, List.singleton_append]

theorem finished_closing (reading : SqlReading State) (value : List Char) {rest : List Char}
    (apart : rest.head? ≠ some '\'') :
    ((reading.withMode (.closing value)).run scanner rest).finished =
      ((reading.withLiteral scanner value).run scanner rest).finished := by
  cases rest with
  | nil => rfl
  | cons char rest =>
      have other : char ≠ '\'' := fun same => apart (congrArg some same)
      rw [run_cons, run_cons, step_closing scanner reading value other]

theorem run_literal {reading : SqlReading State} (outside : reading.mode = .outside)
    (opens : scanner.opens reading.state = true) (text : List Char) {rest : List Char}
    (apart : rest.head? ≠ some '\'') :
    (reading.run scanner ('\'' :: (doubled text ++ '\'' :: rest))).finished =
      ((reading.withLiteral scanner text).run scanner rest).finished := by
  have opened : reading.step scanner '\'' = reading.withMode (.inside []) := by
    simp only [step, outside, outsideStep]
    rw [if_pos (And.intro trivial opens)]
  rw [run_cons, opened, run_append, run_doubled, List.nil_append, run_cons, step_inside_quote,
    finished_closing scanner reading text apart]

theorem step_tokens (reading : SqlReading State) (char : Char) :
    ∃ tail, (reading.step scanner char).tokens = reading.tokens ++ tail := by
  have outside : ∀ reading : SqlReading State,
      ∃ tail, (reading.outsideStep scanner char).tokens = reading.tokens ++ tail := by
    intro reading
    unfold outsideStep
    split_ifs
    · exact ⟨[], (List.append_nil _).symm⟩
    · exact ⟨[.char char], rfl⟩
  unfold step
  cases reading.mode with
  | outside => exact outside reading
  | inside value =>
      simp only
      split_ifs
      · exact ⟨[], (List.append_nil _).symm⟩
      · exact ⟨[], (List.append_nil _).symm⟩
  | closing value =>
      simp only
      split_ifs
      · exact ⟨[], (List.append_nil _).symm⟩
      · obtain ⟨tail, tokens⟩ := outside (reading.withLiteral scanner value)
        exact ⟨.literal value :: tail, by rw [tokens, withLiteral, List.append_assoc]; rfl⟩

theorem finished_tokens (reading : SqlReading State) (text : List Char) :
    ∃ tail, (reading.run scanner text).finished = reading.tokens ++ tail := by
  induction text generalizing reading with
  | nil =>
      rw [run_nil, finished]
      cases reading.mode with
      | outside => exact ⟨[], (List.append_nil _).symm⟩
      | inside value => exact ⟨[.unterminated value], rfl⟩
      | closing value => exact ⟨[.literal value], rfl⟩
  | cons char rest inductionHypothesis =>
      obtain ⟨first, stepped⟩ := step_tokens scanner reading char
      obtain ⟨tail, finished⟩ := inductionHypothesis (reading.step scanner char)
      exact ⟨first ++ tail, by rw [run_cons, finished, stepped, List.append_assoc]⟩

/-- The tokens begin with a literal, whole or not, all of whose characters were in the
text. -/
def ReadsFrom (tokens : List SqlToken) (chars : List Char) (finished : List SqlToken) : Prop :=
  ∃ value tail, (finished = tokens ++ .literal value :: tail ∨
    finished = tokens ++ .unterminated value :: tail) ∧ value ⊆ chars

theorem readsFrom_inside (reading : SqlReading State) (value rest : List Char) :
    ReadsFrom reading.tokens (value ++ rest)
        ((reading.withMode (.inside value)).run scanner rest).finished ∧
      ReadsFrom reading.tokens (value ++ rest)
        ((reading.withMode (.closing value)).run scanner rest).finished := by
  induction rest generalizing value with
  | nil =>
      rw [List.append_nil]
      exact
        ⟨⟨value, [], Or.inr rfl, List.Subset.refl value⟩,
          ⟨value, [], Or.inl rfl, List.Subset.refl value⟩⟩
  | cons char rest inductionHypothesis =>
      have further := inductionHypothesis (value ++ [char])
      have here := inductionHypothesis value
      rw [List.append_assoc, List.singleton_append] at further
      constructor
      · by_cases quote : char = '\''
        · subst quote
          rw [run_cons, step_inside_quote]
          obtain ⟨read, tail, tokens, within⟩ := here.2
          refine ⟨read, tail, tokens, List.Subset.trans within ?_⟩
          exact List.append_subset.mpr ⟨List.subset_append_left _ _,
            List.Subset.trans (List.subset_cons_self _ _) (List.subset_append_right _ _)⟩
        · rw [run_cons, step_inside scanner reading value quote]
          exact further.1
      · by_cases quote : char = '\''
        · subst quote
          rw [run_cons, step_closing_quote]
          exact further.1
        · have apart : (char :: rest).head? ≠ some '\'' := fun same => quote (Option.some.inj same)
          rw [finished_closing scanner reading value apart]
          obtain ⟨tail, finished⟩ :=
            finished_tokens scanner (reading.withLiteral scanner value) (char :: rest)
          rw [withLiteral, List.append_assoc] at finished
          exact ⟨value, tail, Or.inl finished, List.subset_append_left _ _⟩

end SqlReading

/-! ### Round trips -/

section

variable {State : Type} (lines : LineReading) (scanner : SqlScanner State)

theorem receivedScript_eq (script : List UInt16) :
    receivedScript lines script = lines.received (Utf16.decode script) := by
  rw [receivedScript, Utf8Stream.decode_utf8]

/-- What is read of the script before a literal. -/
def readBefore (before : List UInt16) : SqlReading State :=
  (SqlReading.start scanner).run scanner (receivedScript lines before)

/-- A place of a script where a literal can stand: its line is not cut, a quote opens a
literal there, and what follows does not begin with a quote. -/
structure LiteralPlace (before after : List UInt16) : Prop where
  uncut : LineReading.cutAfter (Utf16.decode before) = false
  outside : (readBefore lines scanner before).mode = .outside
  opens : scanner.opens (readBefore lines scanner before).state = true
  apart : (receivedScript lines after).head? ≠ some '\''

/-- The tokens of what is before, of a literal, and of what is after. -/
def tokensAround (before : List UInt16) (text : List Char) (after : List UInt16) : List SqlToken :=
  (((readBefore lines scanner before).withLiteral scanner text).run scanner
    (receivedScript lines after)).finished

/-- A literal is read as its value, and the rest as if it stood around any literal. -/
def RoundTrips (before value after : List UInt16) : Prop :=
  ∃ text, Utf16.encode text = value ∧
    shellTokens lines scanner (before ++ (sqlLiteral (some value) ++ after)) =
      tokensAround lines scanner before text after

/-- A string without a lone surrogate, whose lines are received as they are. -/
structure Carried (value : List UInt16) : Prop where
  wellFormed : Utf16.wellFormed value = true
  kept : lines.Keeps (Utf16.decode value)

/-- What is received of the literal of a text and the script after it. -/
def receivedLiteral (text : List Char) (after : List UInt16) : List Char :=
  lines.receivedFrom false (doubled text ++ '\'' :: Utf16.decode after)

theorem received_script {before : List UInt16}
    (uncut : LineReading.cutAfter (Utf16.decode before) = false) (value after : List UInt16) :
    receivedScript lines (before ++ (sqlLiteral (some value) ++ after)) =
      receivedScript lines before ++
        '\'' :: receivedLiteral lines (Utf16.decode value) after := by
  have quote : ('\'' :: (doubled (Utf16.decode value) ++ '\'' :: Utf16.decode after)).head? ≠
      some '\n' := by
    simp
  have opening : lines.receivedFrom false
      ('\'' :: (doubled (Utf16.decode value) ++ '\'' :: Utf16.decode after)) =
        '\'' :: receivedLiteral lines (Utf16.decode value) after := by
    rw [LineReading.receivedFrom, if_neg (by decide), if_neg (by simp)]
    rfl
  rw [receivedScript_eq, receivedScript_eq, decode_script, LineReading.received,
    LineReading.receivedFrom_append lines false _ quote]
  rw [LineReading.cutAfter] at uncut
  rw [LineReading.cutFrom, uncut, opening]
  rfl

/-- The literal of a text without NULs is read as what is received of the text. -/
theorem shellTokens_literal {before after : List UInt16}
    (place : LiteralPlace lines scanner before after) {value : List UInt16}
    (uncut : Char.ofNat 0 ∉ Utf16.decode value) :
    shellTokens lines scanner (before ++ (sqlLiteral (some value) ++ after)) =
      tokensAround lines scanner before (lines.received (Utf16.decode value)) after := by
  have apart := place.apart
  rw [receivedScript_eq] at apart
  rw [shellTokens, received_script lines place.uncut, receivedLiteral,
    LineReading.received_literal lines uncut, SqlReading.run_append, tokensAround,
    receivedScript_eq lines after]
  exact SqlReading.run_literal scanner place.outside place.opens _ apart

theorem literal_of_tokensAround {before after : List UInt16} {text : List Char}
    {value : List Char} {tail : List SqlToken}
    (tokens : tokensAround lines scanner before text after =
        (readBefore lines scanner before).tokens ++ .literal value :: tail ∨
      tokensAround lines scanner before text after =
        (readBefore lines scanner before).tokens ++ .unterminated value :: tail) :
    text = value := by
  obtain ⟨rest, around⟩ := SqlReading.finished_tokens scanner
    ((readBefore lines scanner before).withLiteral scanner text) (receivedScript lines after)
  rw [SqlReading.withLiteral, List.append_assoc] at around
  rcases tokens with tokens | tokens
  · have same := List.append_cancel_left (around.symm.trans tokens)
    exact SqlToken.literal.inj (List.cons.inj same).1
  · have same := List.append_cancel_left (around.symm.trans tokens)
    cases (List.cons.inj same).1

theorem nul_not_read {before after : List UInt16}
    (place : LiteralPlace lines scanner before after) {value : List UInt16} {text : List Char}
    (read : shellTokens lines scanner (before ++ (sqlLiteral (some value) ++ after)) =
      tokensAround lines scanner before text after) :
    Char.ofNat 0 ∉ text := by
  have opened : (readBefore lines scanner before).step scanner '\'' =
      (readBefore lines scanner before).withMode (.inside []) := by
    simp only [SqlReading.step, place.outside, SqlReading.outsideStep]
    rw [if_pos (And.intro trivial place.opens)]
  rw [shellTokens, received_script lines place.uncut, SqlReading.run_append,
    SqlReading.run_cons] at read
  change ((((readBefore lines scanner before).step scanner '\'').run scanner _).finished = _) at read
  rw [opened] at read
  obtain ⟨first, tail, tokens, within⟩ := (SqlReading.readsFrom_inside scanner
    (readBefore lines scanner before) [] (receivedLiteral lines (Utf16.decode value) after)).1
  rw [read] at tokens
  rw [literal_of_tokensAround lines scanner tokens]
  intro nul
  exact LineReading.not_mem_receivedFrom lines false _ (within nul)

theorem carried_of_roundTrips {before after : List UInt16}
    (place : LiteralPlace lines scanner before after) {value : List UInt16}
    (roundTrips : RoundTrips lines scanner before value after) : Carried lines value := by
  obtain ⟨text, encoded, read⟩ := roundTrips
  have decoded : Utf16.decode value = text := by
    rw [← encoded, Utf16.decode_encode]
  have uncut : Char.ofNat 0 ∉ Utf16.decode value := by
    rw [decoded]
    exact nul_not_read lines scanner place read
  have again := shellTokens_literal lines scanner place uncut
  obtain ⟨tail, around⟩ := SqlReading.finished_tokens scanner
    ((readBefore lines scanner before).withLiteral scanner (lines.received (Utf16.decode value)))
    (receivedScript lines after)
  rw [SqlReading.withLiteral, List.append_assoc] at around
  have same := literal_of_tokensAround lines scanner
    (Or.inl ((read.symm.trans again).trans around))
  refine { wellFormed := ?_, kept := ?_ }
  · rw [← encoded]
    exact Utf16.wellFormed_encode text
  · rw [← LineReading.received_eq_iff]
    exact same.symm.trans decoded.symm

theorem roundTrips_of_carried {before after : List UInt16}
    (place : LiteralPlace lines scanner before after) {value : List UInt16}
    (carried : Carried lines value) : RoundTrips lines scanner before value after := by
  have same := (LineReading.received_eq_iff lines (Utf16.decode value)).mpr carried.kept
  have read := shellTokens_literal lines scanner place carried.kept.uncut
  rw [LineReading.received, same] at read
  exact ⟨Utf16.decode value, (Utf16.encode_decode_iff value).mpr carried.wellFormed, read⟩

/-- The text of a JSON value has no control characters: its literal always round trips. -/
theorem sqlJsonLiteral_round_trips {before after : List UInt16}
    (place : LiteralPlace lines scanner before after) (value : Json) :
    RoundTrips lines scanner before (Utf16.encode (textWith insertionOrder value)) after := by
  apply roundTrips_of_carried lines scanner place
  refine { wellFormed := Utf16.wellFormed_encode _, kept := ?_ }
  rw [Utf16.decode_encode]
  exact LineReading.keeps_of_visible lines (visible_textWith insertionOrder value)

/-- A literal round trips exactly when its string has no NUL and no lone surrogate, and,
where a carriage return goes with the newline after it, has no such pair. -/
theorem sqlLiteral_round_trips_iff {before after : List UInt16}
    (place : LiteralPlace lines scanner before after) (value : List UInt16) :
    RoundTrips lines scanner before value after ↔ Carried lines value := by
  constructor
  · intro roundTrips
    exact carried_of_roundTrips lines scanner place roundTrips
  · intro carried
    exact roundTrips_of_carried lines scanner place carried

end

/-! ### The scanner of the shell -/

inductive SqlRegion where
  | plain
  /-- A quoted name, up to its closing character. -/
  | name (close : Char)
  | lineComment
  | blockComment
  | command
  deriving DecidableEq

structure SqlState where
  region : SqlRegion
  previous : Char
  /-- A statement has begun, and the last of it is no semicolon. -/
  pending : Bool
  deriving DecidableEq

namespace SqlState

def isSpace (char : Char) : Bool := char = ' ' || char = '\t' || char = '\r' || char = '\n'

def plainRegion (state : SqlState) (char : Char) : SqlRegion :=
  if char = '"' then .name '"'
  else if char = Char.ofNat 96 then .name (Char.ofNat 96)
  else if char = '[' then .name ']'
  else if state.previous = '-' ∧ char = '-' then .lineComment
  else if state.previous = '/' ∧ char = '*' then .blockComment
  else if state.previous = '\n' ∧ state.pending = false ∧ (char = '.' ∨ char = '#') then .command
  else .plain

def afterChar (state : SqlState) (char : Char) : SqlState :=
  match state.region with
  | .plain =>
      { region := state.plainRegion char
        previous := if state.plainRegion char = .blockComment then ' ' else char
        pending := if char = ';' then false else state.pending || !isSpace char }
  | .name close =>
      { state with
        region := if char = close then .plain else .name close
        previous := char }
  | .lineComment =>
      { state with
        region := if char = '\n' then .plain else .lineComment
        previous := char }
  | .blockComment =>
      { state with
        region := if state.previous = '*' ∧ char = '/' then .plain else .blockComment
        previous := if state.previous = '*' ∧ char = '/' then ' ' else char }
  | .command =>
      { region := if char = '\n' then .plain else .command
        previous := char
        pending := if char = '\n' then false else state.pending }

end SqlState

/-- The `sqlite3` shell, that takes `X'..'` for a blob. -/
def sqliteScanner : SqlScanner SqlState :=
  { start := { region := .plain, previous := '\n', pending := false }
    char := SqlState.afterChar
    opens := fun state =>
      decide (state.region = .plain) && state.previous != 'x' && state.previous != 'X'
    literal := fun state _ => { state with previous := '\'', pending := true } }

def plainLines : LineReading := { dropsReturn := false, joinsCut := false }

def insertStart : List UInt16 := Utf16.encode "INSERT INTO t VALUES (\n".toList

def insertEnd : List UInt16 := Utf16.encode ",\n'; DROP TABLE t; --'\n);\n".toList

theorem insertPlace : LiteralPlace plainLines sqliteScanner insertStart insertEnd :=
  { uncut := by decide +kernel
    outside := by decide +kernel
    opens := by decide +kernel
    apart := by decide +kernel }

/-- A value with quotes, a line that begins with a dot, and a character of two units. -/
def awkwardValue : List UInt16 := Utf16.encode "it's\n.shell '😀'".toList

/-- It is read back from an insert. -/
theorem awkwardValue_round_trips :
    RoundTrips plainLines sqliteScanner insertStart awkwardValue insertEnd ∧
      Carried plainLines awkwardValue := by
  have carried : Carried plainLines awkwardValue :=
    { wellFormed := Utf16.wellFormed_encode _
      kept := (LineReading.received_eq_iff plainLines _).mp (by decide +kernel) }
  exact ⟨(sqlLiteral_round_trips_iff plainLines sqliteScanner insertPlace awkwardValue).mpr carried,
    carried⟩

theorem sqlJsonLiteral_round_trips_quoted :
    RoundTrips plainLines sqliteScanner insertStart
      (Utf16.encode (textWith insertionOrder (.str "it's"))) insertEnd :=
  sqlJsonLiteral_round_trips plainLines sqliteScanner insertPlace (.str "it's")

/-- After a string that ends in a NUL, the literal on the next line is read as SQL. -/
theorem nul_value_altered :
    ¬RoundTrips plainLines sqliteScanner insertStart [97, 0] insertEnd ∧
      shellTokens plainLines sqliteScanner
          (insertStart ++ (sqlLiteral (some [97, 0]) ++ insertEnd)) =
        (readBefore plainLines sqliteScanner insertStart).tokens ++
          .literal ['a', '\n'] :: "; DROP TABLE t; --'\n);\n".toList.map .char := by
  constructor
  · intro roundTrips
    have carried := carried_of_roundTrips plainLines sqliteScanner insertPlace roundTrips
    exact carried.kept.uncut (by decide)
  · decide +kernel

/-- A lone surrogate is replaced. -/
theorem lone_surrogate_altered :
    ¬RoundTrips plainLines sqliteScanner insertStart [0xD800] insertEnd := by
  intro roundTrips
  have carried := carried_of_roundTrips plainLines sqliteScanner insertPlace roundTrips
  exact absurd carried.wellFormed (by decide)

end ActionProxy
