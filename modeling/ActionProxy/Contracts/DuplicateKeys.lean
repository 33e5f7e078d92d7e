import ActionProxy.Foundation.JsonGrammar
import Mathlib.Data.Option.Basic

/-!
The scan for duplicate keys that a raw body goes through before it is parsed, and that on
every text that is a JSON document it finds the first repeated key, or none.
-/

namespace ActionProxy

open JsonGrammar

/-! ### Errors -/

/-- What the scan throws; `exhausted` stands for none of it and is never reached on a
document. -/
inductive ScanError where
  | duplicateKey (key path : List CodeUnit)
  | invalidToken (index : Nat)
  | expectedKey (index : Nat)
  | expectedColon (index : Nat)
  | expectedComma (index : Nat)
  | unterminatedObject (path : List CodeUnit)
  | unterminatedArray (path : List CodeUnit)
  | invalidString (index : Nat)
  | unterminatedString (start : Nat)
  | unexpectedContent (index : Nat)
  | syntaxError
  | exhausted

def decimalText (value : Nat) : List CodeUnit := (Nat.toDigits 10 value).map unit

/-- Four hexadecimal digits. -/
def hexText (code : CodeUnit) : List CodeUnit :=
  let digits := (Nat.toDigits 16 code).map unit
  List.replicate (4 - digits.length) (unit '0') ++ digits

def isHighSurrogate (code : CodeUnit) : Bool := decide (0xD800 ≤ code) && decide (code < 0xDC00)

def isLowSurrogate (code : CodeUnit) : Bool := decide (0xDC00 ≤ code) && decide (code < 0xE000)

/-- A code unit that no surrogate pair goes with, as `JSON.stringify` prints it. -/
def escapeUnit (code : CodeUnit) : List CodeUnit :=
  if code = unit '"' ∨ code = unit '\\' then [unit '\\', code]
  else if code = 8 then units "\\b"
  else if code = 9 then units "\\t"
  else if code = 10 then units "\\n"
  else if code = 12 then units "\\f"
  else if code = 13 then units "\\r"
  else if code < 0x20 || isHighSurrogate code || isLowSurrogate code then
    units "\\u" ++ hexText code
  else [code]

def escapeUnits : List CodeUnit → List CodeUnit
  | high :: low :: rest =>
      if isHighSurrogate high && isLowSurrogate low then high :: low :: escapeUnits rest
      else escapeUnit high ++ escapeUnits (low :: rest)
  | [code] => escapeUnit code
  | [] => []

def ScanError.message : ScanError → List CodeUnit
  | .duplicateKey key path =>
      units "Duplicate JSON key " ++ quoted (escapeUnits key) ++ units " at " ++ path ++ units "."
  | .invalidToken index => units "Invalid JSON token at byte " ++ decimalText index ++ units "."
  | .expectedKey index => units "Expected object key at byte " ++ decimalText index ++ units "."
  | .expectedColon index => units "Expected colon at byte " ++ decimalText index ++ units "."
  | .expectedComma index => units "Expected comma at byte " ++ decimalText index ++ units "."
  | .unterminatedObject path => units "Unterminated object at " ++ path ++ units "."
  | .unterminatedArray path => units "Unterminated array at " ++ path ++ units "."
  | .invalidString index => units "Invalid JSON string at byte " ++ decimalText index ++ units "."
  | .unterminatedString start =>
      units "Unterminated JSON string at byte " ++ decimalText start ++ units "."
  | .unexpectedContent index =>
      units "Unexpected JSON content at byte " ++ decimalText index ++ units "."
  | .syntaxError | .exhausted => []

/-! ### Tokens -/

/-- A position and the text from it on. -/
structure Cursor where
  index : Nat
  rest : List CodeUnit

namespace Cursor

def token (cursor : Cursor) : Option CodeUnit := cursor.rest.head?

theorem token_cons (index : Nat) (code : CodeUnit) (rest : List CodeUnit) :
    token { index := index, rest := code :: rest } = some code :=
  rfl

def advance (cursor : Cursor) (count : Nat) : Cursor :=
  { index := cursor.index + count, rest := cursor.rest.drop count }

def startsWith (cursor : Cursor) (word : String) : Bool := (units word).isPrefixOf cursor.rest

end Cursor

/-- `/\s/u`. -/
def isRegExpSpace (code : CodeUnit) : Bool :=
  (decide (9 ≤ code) && decide (code ≤ 13)) || code == 0x20 || code == 0xA0 || code == 0x1680 ||
    (decide (0x2000 ≤ code) && decide (code ≤ 0x200A)) || code == 0x2028 || code == 0x2029 ||
    code == 0x202F || code == 0x205F || code == 0x3000 || code == 0xFEFF

def whitespace (cursor : Cursor) : Cursor :=
  cursor.advance (cursor.rest.takeWhile isRegExpSpace).length

def digitCount (source : List CodeUnit) : Nat := (source.takeWhile isDigit).length

/-- `(?:0|[1-9]\d*)`. -/
def wholeLength? : List CodeUnit → Option Nat
  | [] => none
  | code :: rest =>
      if code = unit '0' then some 1
      else if isDigit code then some (1 + digitCount rest)
      else none

/-- `(?:\.\d+)?`. -/
def fractionLength : List CodeUnit → Nat
  | [] => 0
  | code :: rest => if code = unit '.' ∧ digitCount rest ≠ 0 then 1 + digitCount rest else 0

/-- `[+-]?`. -/
def signLength : List CodeUnit → Nat
  | [] => 0
  | code :: _ => if code = unit '+' ∨ code = unit '-' then 1 else 0

/-- `(?:[eE][+-]?\d+)?`. -/
def exponentLength : List CodeUnit → Nat
  | [] => 0
  | code :: rest =>
      let count := digitCount (rest.drop (signLength rest))
      if (code = unit 'e' ∨ code = unit 'E') ∧ count ≠ 0 then 1 + signLength rest + count else 0

def magnitudeLength? (source : List CodeUnit) : Option Nat := do
  let whole ← wholeLength? source
  let fraction := fractionLength (source.drop whole)
  let exponent := exponentLength (source.drop (whole + fraction))
  return whole + fraction + exponent

/-- The length of `/^-?(?:0|[1-9]\d*)(?:\.\d+)?(?:[eE][+-]?\d+)?/u` where it matches. -/
def numberLength? : List CodeUnit → Option Nat
  | [] => none
  | code :: rest =>
      if code = unit '-' then (magnitudeLength? rest).map (1 + ·)
      else magnitudeLength? (code :: rest)

/-! ### Strings -/

/-- What the text after an opening quote spells, when the closing one ends it. -/
def unquote : List CodeUnit → Option (List CodeUnit)
  | [] => none
  | [code] => if code = unit '"' then some [] else none
  | code :: next :: rest =>
      if code = unit '"' then none
      else if code = unit '\\' then
        if next = unit 'u' then
          match rest with
          | first :: second :: third :: fourth :: rest => do
              let value ← hexCode? first second third fourth
              (unquote rest).map (value :: ·)
          | _ => none
        else do
          let value ← escape? next
          (unquote rest).map (value :: ·)
      else if code < 0x20 then none
      else (unquote (next :: rest)).map (code :: ·)

/-- `JSON.parse` of a text that starts with a quote. -/
def parseQuoted (source : List CodeUnit) : Option (List CodeUnit) := unquote (source.drop 1)

/-- The loop of `string`, from the index on: the position after the closing quote. -/
def stringEnd (start : Nat) : Nat → List CodeUnit → Except ScanError Nat
  | _, [] => .error (.unterminatedString start)
  | index, token :: rest =>
      if token = unit '"' then .ok (index + 1)
      else if token = unit '\\' then
        match rest with
        | [] => .error (.unterminatedString start)
        | _ :: rest => stringEnd start (index + 2) rest
      else if token < 0x20 then .error (.invalidString index)
      else stringEnd start (index + 1) rest

def string (cursor : Cursor) : Except ScanError (List CodeUnit × Cursor) := do
  let start := cursor.index
  let index ← stringEnd start (start + 1) (cursor.rest.drop 1)
  match parseQuoted (cursor.rest.take (index - start)) with
  | none => .error .syntaxError
  | some key => .ok (key, cursor.advance (index - start))

/-! ### Values -/

def itemPath (path : List CodeUnit) (item : Nat) : List CodeUnit :=
  path ++ unit '[' :: (decimalText item ++ [unit ']'])

def memberPath (path key : List CodeUnit) : List CodeUnit := path ++ unit '.' :: key

mutual

/-- `value`. -/
def scanValue : Nat → List CodeUnit → Cursor → Except ScanError Cursor
  | 0, _, _ => .error .exhausted
  | fuel + 1, path, cursor =>
      let cursor := whitespace cursor
      if cursor.token = some (unit '{') then scanObject fuel path cursor
      else if cursor.token = some (unit '[') then scanArray fuel path cursor
      else if cursor.token = some (unit '"') then (string cursor).map Prod.snd
      else if cursor.startsWith "true" then .ok (cursor.advance 4)
      else if cursor.startsWith "false" then .ok (cursor.advance 5)
      else if cursor.startsWith "null" then .ok (cursor.advance 4)
      else
        match numberLength? cursor.rest with
        | some length => .ok (cursor.advance length)
        | none => .error (.invalidToken cursor.index)

/-- `object`. -/
def scanObject : Nat → List CodeUnit → Cursor → Except ScanError Cursor
  | 0, _, _ => .error .exhausted
  | fuel + 1, path, cursor =>
      let cursor := whitespace (cursor.advance 1)
      if cursor.token = some (unit '}') then .ok (cursor.advance 1)
      else scanMembers fuel path [] cursor

/-- The loop of `object`, with the keys seen. -/
def scanMembers : Nat → List CodeUnit → List (List CodeUnit) → Cursor → Except ScanError Cursor
  | 0, _, _, _ => .error .exhausted
  | fuel + 1, path, keys, cursor =>
      if cursor.rest.isEmpty then .error (.unterminatedObject path)
      else
        let cursor := whitespace cursor
        if cursor.token ≠ some (unit '"') then .error (.expectedKey cursor.index)
        else do
          let (key, cursor) ← string cursor
          if key ∈ keys then .error (.duplicateKey key path)
          else
            let cursor := whitespace cursor
            if cursor.token ≠ some (unit ':') then .error (.expectedColon cursor.index)
            else do
              let cursor ← scanValue fuel (memberPath path key) (cursor.advance 1)
              let cursor := whitespace cursor
              if cursor.token = some (unit '}') then .ok (cursor.advance 1)
              else if cursor.token ≠ some (unit ',') then .error (.expectedComma cursor.index)
              else scanMembers fuel path (key :: keys) (cursor.advance 1)

/-- `array`. -/
def scanArray : Nat → List CodeUnit → Cursor → Except ScanError Cursor
  | 0, _, _ => .error .exhausted
  | fuel + 1, path, cursor =>
      let cursor := whitespace (cursor.advance 1)
      if cursor.token = some (unit ']') then .ok (cursor.advance 1)
      else scanItems fuel path 0 cursor

/-- The loop of `array`, from an item on. -/
def scanItems : Nat → List CodeUnit → Nat → Cursor → Except ScanError Cursor
  | 0, _, _, _ => .error .exhausted
  | fuel + 1, path, item, cursor =>
      if cursor.rest.isEmpty then .error (.unterminatedArray path)
      else do
        let cursor ← scanValue fuel (itemPath path item) cursor
        let cursor := whitespace cursor
        if cursor.token = some (unit ']') then .ok (cursor.advance 1)
        else if cursor.token ≠ some (unit ',') then .error (.expectedComma cursor.index)
        else scanItems fuel path (item + 1) (cursor.advance 1)

end

/-- A text that does not continue with such a character. -/
def Stops (continues : CodeUnit → Bool) (rest : List CodeUnit) : Prop :=
  ∀ code ∈ rest.head?, continues code = false

theorem stops_cons {continues : CodeUnit → Bool} {code : CodeUnit} (rest : List CodeUnit)
    (stop : continues code = false) : Stops continues (code :: rest) := by
  intro other member
  cases member
  exact stop

theorem isRegExpSpace_of_blank {code : CodeUnit} (blank : isBlank code = true) :
    isRegExpSpace code = true := by
  simp only [isBlank, Bool.or_eq_true, beq_iff_eq] at blank
  rcases blank with ((rfl | rfl) | rfl) | rfl <;> rfl

theorem isRegExpSpace_start {code : Nat} (starts : startsValue code = true) :
    isRegExpSpace code = false := by
  simp only [startsValue, Bool.or_eq_true, beq_iff_eq, isDigit, Bool.and_eq_true,
    decide_eq_true_eq] at starts
  rcases starts with ((((((rfl | rfl) | rfl) | rfl) | rfl) | rfl) | rfl) | ⟨low, high⟩
  any_goals rfl
  have low : 48 ≤ code := low
  have high : code ≤ 57 := high
  have neither (other : Nat) (outside : other < 48 ∨ 57 < other) : (code == other) = false := by
    rw [beq_eq_false_iff_ne]
    omega
  have notControl : decide (code ≤ 13) = false := decide_eq_false (by omega)
  have notWide : decide (0x2000 ≤ code) = false := decide_eq_false (by omega)
  simp [isRegExpSpace, notControl, notWide, neither]

theorem endsValue_cases {code : CodeUnit} (ends : endsValue code = true) :
    isDigit code = false ∧ code ≠ unit '.' ∧ code ≠ unit 'e' ∧ code ≠ unit 'E' := by
  simp only [endsValue, isBlank, Bool.or_eq_true, beq_iff_eq] at ends
  rcases ends with (((((rfl | rfl) | rfl) | rfl) | rfl) | rfl) | rfl <;> decide

theorem takeWhile_blanks {space rest : List CodeUnit} (blanks : Blanks space)
    (stops : Stops isRegExpSpace rest) : (space ++ rest).takeWhile isRegExpSpace = space := by
  induction space with
  | nil =>
      cases rest with
      | nil => rfl
      | cons code rest => exact List.takeWhile_cons_of_neg (by simp [stops code rfl])
  | cons code space ih =>
      have blank := isRegExpSpace_of_blank (blanks code List.mem_cons_self)
      rw [List.cons_append, List.takeWhile_cons_of_pos blank,
        ih fun other member => blanks other (List.mem_cons_of_mem _ member)]

theorem whitespace_blanks {space rest : List CodeUnit} (index : Nat) (blanks : Blanks space)
    (stops : Stops isRegExpSpace rest) :
    whitespace { index := index, rest := space ++ rest } =
      { index := index + space.length, rest := rest } := by
  unfold whitespace Cursor.advance
  rw [takeWhile_blanks blanks stops, List.drop_left]

theorem whitespace_none {rest : List CodeUnit} (index : Nat) (stops : Stops isRegExpSpace rest) :
    whitespace { index := index, rest := rest } = { index := index, rest := rest } :=
  whitespace_blanks index blanks_nil stops

theorem digitCount_append {text rest : List CodeUnit} (digits : Digits text)
    (stops : Stops isDigit rest) : digitCount (text ++ rest) = text.length := by
  unfold digitCount
  induction text with
  | nil =>
      cases rest with
      | nil => rfl
      | cons code rest =>
          rw [List.nil_append, List.takeWhile_cons_of_neg (by simp [stops code rfl])]
  | cons code text ih =>
      rw [List.cons_append, List.takeWhile_cons_of_pos (digits code List.mem_cons_self),
        List.length_cons, ih fun other member => digits other (List.mem_cons_of_mem _ member),
        List.length_cons]

theorem wholeLength_append {whole rest : List CodeUnit} (number : Whole whole)
    (stops : Stops isDigit rest) : wholeLength? (whole ++ rest) = some whole.length := by
  cases number with
  | zero => rfl
  | digits digit nonzero digits =>
      rw [List.cons_append, wholeLength?, if_neg nonzero, if_pos digit,
        digitCount_append digits stops, List.length_cons, Nat.add_comm]

theorem fractionLength_append {fraction rest : List CodeUnit} (number : Fraction fraction)
    (stops : Stops isDigit rest) (noPoint : ∀ code ∈ rest.head?, code ≠ unit '.') :
    fractionLength (fraction ++ rest) = fraction.length := by
  cases number with
  | absent =>
      cases rest with
      | nil => rfl
      | cons code rest =>
          rw [List.nil_append, fractionLength, if_neg fun point => noPoint code rfl point.1]
          rfl
  | digits nonempty digits =>
      have counted := digitCount_append digits stops
      have positive := List.length_pos_iff.mpr nonempty
      rw [List.cons_append, fractionLength, counted, if_pos ⟨rfl, by omega⟩, List.length_cons,
        Nat.add_comm]

theorem signLength_append {sign text : List CodeUnit} (signed : Sign sign)
    (stops : ∀ code ∈ text.head?, isDigit code = true) :
    signLength (sign ++ text) = sign.length := by
  cases signed with
  | absent =>
      cases text with
      | nil => rfl
      | cons code text =>
          have digit := stops code rfl
          have unsigned : ¬ (code = unit '+' ∨ code = unit '-') := by
            rintro (rfl | rfl)
            · exact absurd digit (by decide)
            · exact absurd digit (by decide)
          rw [List.nil_append, signLength, if_neg unsigned]
          rfl
  | plus => rfl
  | minus => rfl

theorem exponentLength_append {exponent rest : List CodeUnit} (number : Exponent exponent)
    (ends : Ends rest) : exponentLength (exponent ++ rest) = exponent.length := by
  cases number with
  | absent =>
      cases rest with
      | nil => rfl
      | cons code rest =>
          obtain ⟨_, _, lower, upper⟩ := endsValue_cases (ends code rfl)
          have unmarked : ¬ ((code = unit 'e' ∨ code = unit 'E') ∧
              digitCount (rest.drop (signLength rest)) ≠ 0) := by
            rintro ⟨rfl | rfl, _⟩
            · exact lower rfl
            · exact upper rfl
          rw [List.nil_append, exponentLength, if_neg unmarked]
          rfl
  | @digits mark sign text marked signed nonempty digits =>
      have stops : Stops isDigit rest := fun code member => (endsValue_cases (ends code member)).1
      have length : signLength (sign ++ (text ++ rest)) = sign.length := by
        refine signLength_append signed ?_
        cases text with
        | nil => exact absurd rfl nonempty
        | cons code text =>
            intro other member
            cases member
            exact digits code List.mem_cons_self
      have counted := digitCount_append digits stops
      have positive := List.length_pos_iff.mpr nonempty
      rw [List.cons_append, List.append_assoc, exponentLength, length, List.drop_left, counted,
        if_pos ⟨marked, by omega⟩, List.length_cons, List.length_append]
      omega

theorem stops_fraction {fraction rest : List CodeUnit} (number : Fraction fraction)
    (stops : Stops isDigit rest) : Stops isDigit (fraction ++ rest) := by
  cases number with
  | absent => exact stops
  | digits => exact stops_cons _ rfl

theorem stops_exponent {exponent rest : List CodeUnit} (number : Exponent exponent)
    (ends : Ends rest) : ∀ code ∈ (exponent ++ rest).head?,
      isDigit code = false ∧ code ≠ unit '.' := by
  cases number with
  | absent =>
      intro code member
      obtain ⟨noDigit, noPoint, _⟩ := endsValue_cases (ends code member)
      exact ⟨noDigit, noPoint⟩
  | digits marked =>
      intro code member
      cases member
      rcases marked with rfl | rfl
      · decide
      · decide

theorem magnitudeLength_append {whole fraction exponent rest : List CodeUnit}
    (isWhole : Whole whole) (isFraction : Fraction fraction) (isExponent : Exponent exponent)
    (ends : Ends rest) :
    magnitudeLength? (whole ++ (fraction ++ (exponent ++ rest))) =
      some (whole.length + fraction.length + exponent.length) := by
  have starts := stops_exponent isExponent ends
  have digits : Stops isDigit (exponent ++ rest) := fun code member => (starts code member).1
  have dropped : (whole ++ (fraction ++ (exponent ++ rest))).drop
      (whole.length + fraction.length) = exponent ++ rest := by
    rw [← List.append_assoc, ← List.length_append, List.drop_left]
  unfold magnitudeLength?
  rw [wholeLength_append isWhole (stops_fraction isFraction digits)]
  change some (whole.length + fractionLength _ + exponentLength _) = _
  rw [List.drop_left, fractionLength_append isFraction digits fun code member =>
    (starts code member).2, dropped, exponentLength_append isExponent ends]

theorem numberLength_append {text rest : List CodeUnit} (number : Number text) (ends : Ends rest) :
    numberLength? (text ++ rest) = some text.length := by
  cases number with
  | @positive whole fraction exponent isWhole isFraction isExponent =>
      have matched := magnitudeLength_append isWhole isFraction isExponent ends
      obtain ⟨head, tail, rfl, unsigned⟩ : ∃ head tail, whole = head :: tail ∧ head ≠ unit '-' := by
        cases isWhole with
        | zero => exact ⟨_, _, rfl, by decide⟩
        | digits digit =>
            refine ⟨_, _, rfl, ?_⟩
            rintro rfl
            exact absurd digit (by decide)
      rw [List.append_assoc, List.append_assoc, List.cons_append, numberLength?, if_neg unsigned,
        ← List.cons_append, matched]
      simp only [List.length_append, Nat.add_assoc]
  | @negative whole fraction exponent isWhole isFraction isExponent =>
      have matched := magnitudeLength_append isWhole isFraction isExponent ends
      rw [List.cons_append, List.append_assoc, List.append_assoc, numberLength?, if_pos rfl,
        matched]
      simp only [Option.map_some, List.length_cons, List.length_append]
      congr 1
      omega

/-! ### Reading strings -/

theorem stringEnd_quote (start index : Nat) (rest : List CodeUnit) :
    stringEnd start index (unit '"' :: rest) = .ok (index + 1) := by
  rw [stringEnd.eq_def]
  exact if_pos rfl

theorem stringEnd_escape (start index : Nat) (code : CodeUnit) (rest : List CodeUnit) :
    stringEnd start index (unit '\\' :: code :: rest) = stringEnd start (index + 2) rest := by
  rw [stringEnd.eq_def]
  exact (if_neg (by decide)).trans (if_pos rfl)

/-- A character that stands for itself in a string. -/
structure Printable (code : Nat) : Prop where
  printable : 0x20 ≤ code
  noQuote : code ≠ unit '"'
  noEscape : code ≠ unit '\\'

theorem stringEnd_plain {code : CodeUnit} (plain : Printable code) (start index : Nat)
    (rest : List CodeUnit) :
    stringEnd start index (code :: rest) = stringEnd start (index + 1) rest := by
  rw [stringEnd.eq_def]
  dsimp only
  rw [if_neg plain.noQuote, if_neg plain.noEscape, if_neg (Nat.not_lt.mpr plain.printable)]

theorem printable_hexDigit {code value : Nat} (known : hexDigit? code = some value) :
    Printable code := by
  have low : unit '0' ≤ code ∧ code ≠ unit '\\' := by
    unfold hexDigit? at known
    split at known
    · rename_i digit
      rw [isDigit, Bool.and_eq_true, decide_eq_true_eq, decide_eq_true_eq] at digit
      have high : code ≤ 57 := digit.2
      refine ⟨digit.1, ?_⟩
      change code ≠ 92
      omega
    · split at known
      · rename_i letter
        have low : 97 ≤ code := letter.1
        refine ⟨Nat.le_trans (by decide) low, ?_⟩
        change code ≠ 92
        omega
      · split at known
        · rename_i letter
          have low : 65 ≤ code := letter.1
          have high : code ≤ 70 := letter.2
          refine ⟨Nat.le_trans (by decide) low, ?_⟩
          change code ≠ 92
          omega
        · cases known
  have bound : 48 ≤ code := low.1
  refine { printable := by omega, noQuote := ?_, noEscape := low.2 }
  change code ≠ 34
  omega

theorem printable_hexCode {first second third fourth value : CodeUnit}
    (known : hexCode? first second third fourth = some value) :
    Printable first ∧ Printable second ∧ Printable third ∧ Printable fourth := by
  simp only [hexCode?, Option.bind_eq_bind, Option.bind_eq_some_iff] at known
  obtain ⟨_, first, _, second, _, third, _, fourth, _⟩ := known
  exact ⟨printable_hexDigit first, printable_hexDigit second, printable_hexDigit third,
    printable_hexDigit fourth⟩

theorem stringEnd_spelled {text name : List CodeUnit} (spells : Spells text name)
    (start index : Nat) (rest : List CodeUnit) :
    stringEnd start index (text ++ unit '"' :: rest) = .ok (index + text.length + 1) := by
  induction spells generalizing index with
  | nil => exact stringEnd_quote start index rest
  | plain printable noQuote noEscape spells ih =>
      rw [List.cons_append, stringEnd_plain ⟨printable, noQuote, noEscape⟩, ih, List.length_cons]
      congr 1
      omega
  | escape known spells ih =>
      rw [List.cons_append, List.cons_append, stringEnd_escape, ih, List.length_cons,
        List.length_cons]
      congr 1
      omega
  | hex known spells ih =>
      obtain ⟨first, second, third, fourth⟩ := printable_hexCode known
      simp only [List.cons_append]
      rw [stringEnd_escape, stringEnd_plain first, stringEnd_plain second, stringEnd_plain third,
        stringEnd_plain fourth, ih]
      simp only [List.length_cons]
      congr 1
      omega

theorem unquote_plain {code : CodeUnit} (plain : Printable code) (next : CodeUnit)
    (rest : List CodeUnit) :
    unquote (code :: next :: rest) = (unquote (next :: rest)).map (code :: ·) := by
  rw [unquote.eq_def]
  dsimp only
  rw [if_neg plain.noQuote, if_neg plain.noEscape, if_neg (Nat.not_lt.mpr plain.printable)]

theorem unquote_escape {code value : CodeUnit} (known : escape? code = some value)
    (rest : List CodeUnit) :
    unquote (unit '\\' :: code :: rest) = (unquote rest).map (value :: ·) := by
  have simple : code ≠ unit 'u' := by
    rintro rfl
    cases known
  rw [unquote.eq_def]
  dsimp only
  rw [if_neg (by decide), if_pos rfl, if_neg simple, known]
  rfl

theorem unquote_hex {first second third fourth value : CodeUnit}
    (known : hexCode? first second third fourth = some value) (rest : List CodeUnit) :
    unquote (unit '\\' :: unit 'u' :: first :: second :: third :: fourth :: rest) =
      (unquote rest).map (value :: ·) := by
  rw [unquote.eq_def]
  dsimp only
  rw [if_neg (by decide), if_pos rfl, if_pos rfl, known]
  rfl

theorem unquote_spelled {text name : List CodeUnit} (spells : Spells text name) :
    unquote (text ++ [unit '"']) = some name := by
  induction spells with
  | nil => rfl
  | @plain code text name printable noQuote noEscape spells ih =>
      obtain ⟨next, rest, follows⟩ : ∃ next rest, text ++ [unit '"'] = next :: rest :=
        List.exists_cons_of_ne_nil (List.append_ne_nil_of_right_ne_nil text (List.cons_ne_nil _ _))
      rw [List.cons_append, follows, unquote_plain ⟨printable, noQuote, noEscape⟩, ← follows, ih]
      rfl
  | escape known spells ih =>
      rw [List.cons_append, List.cons_append, unquote_escape known, ih]
      rfl
  | hex known spells ih =>
      simp only [List.cons_append]
      rw [unquote_hex known, ih]
      rfl

theorem string_quoted {text name : List CodeUnit} (spells : Spells text name) (index : Nat)
    (rest : List CodeUnit) :
    string { index := index, rest := quoted text ++ rest } =
      .ok (name, { index := index + (quoted text).length, rest := rest }) := by
  have length : (quoted text).length = text.length + 2 := by
    simp [quoted]
  have source : quoted text ++ rest = unit '"' :: (text ++ unit '"' :: rest) := by
    simp [quoted]
  have ended : stringEnd index (index + 1) ((quoted text ++ rest).drop 1) =
      .ok (index + (quoted text).length) := by
    rw [source, List.drop_one, List.tail_cons, stringEnd_spelled spells, length]
    congr 1
    omega
  have slice : index + (quoted text).length - index = (quoted text).length := by
    omega
  have parsed : parseQuoted (quoted text) = some name := by
    rw [parseQuoted, quoted, List.drop_one, List.tail_cons, unquote_spelled spells]
  unfold string
  dsimp only
  rw [ended]
  simp only [bind, Except.bind]
  rw [slice, List.take_left, parsed]
  simp only [Cursor.advance, List.drop_left]

/-! ### Repeated keys -/

/-- A key that its object has before, and the path of the object. -/
structure RepeatedKey where
  key : List CodeUnit
  path : List CodeUnit

mutual

/-- The first repeated key of a value at a path, in the order of the text. -/
def repeatedKey : List CodeUnit → Tree → Option RepeatedKey
  | _, .scalar _ => none
  | path, .array items => repeatedInItems path 0 items
  | path, .object members => repeatedInMembers path [] members

def repeatedInItems : List CodeUnit → Nat → List Tree → Option RepeatedKey
  | _, _, [] => none
  | path, item, value :: rest =>
      repeatedKey (itemPath path item) value <|> repeatedInItems path (item + 1) rest

def repeatedInMembers : List CodeUnit → List (List CodeUnit) → List (List CodeUnit × Tree) →
    Option RepeatedKey
  | _, _, [] => none
  | path, keys, (key, value) :: rest =>
      if key ∈ keys then some { key := key, path := path }
      else repeatedKey (memberPath path key) value <|> repeatedInMembers path (key :: keys) rest

end

/-- How a scan of what spells a value ends: after it, or at its first repeated key. -/
def scanned (found : Option RepeatedKey) (after : Cursor) : Except ScanError Cursor :=
  match found with
  | none => .ok after
  | some repeated => .error (.duplicateKey repeated.key repeated.path)

theorem scanned_bind {found later : Option RepeatedKey} {after last : Cursor}
    {next : Cursor → Except ScanError Cursor} (goesOn : next after = scanned later last) :
    (scanned found after >>= next) = scanned (found <|> later) last := by
  cases found with
  | none => exact goesOn
  | some repeated => rfl

def ScansValue (text : List CodeUnit) (value : Tree) : Prop :=
  ∀ (fuel : Nat) (path : List CodeUnit) (index : Nat) (space rest : List CodeUnit),
    2 * text.length ≤ fuel → Blanks space → Ends rest →
    scanValue fuel path { index := index, rest := space ++ (text ++ rest) } =
      scanned (repeatedKey path value)
        { index := index + space.length + text.length, rest := rest }

def ScansItems (text : List CodeUnit) (items : List Tree) : Prop :=
  ∀ (fuel : Nat) (path : List CodeUnit) (item index : Nat) (space rest : List CodeUnit),
    2 * text.length + 1 ≤ fuel → Blanks space →
    scanItems fuel path item { index := index, rest := space ++ (text ++ unit ']' :: rest) } =
      scanned (repeatedInItems path item items)
        { index := index + space.length + text.length + 1, rest := rest }

def ScansMembers (text : List CodeUnit) (members : List (List CodeUnit × Tree)) : Prop :=
  ∀ (fuel : Nat) (path : List CodeUnit) (keys : List (List CodeUnit)) (index : Nat)
    (space rest : List CodeUnit),
    2 * text.length + 1 ≤ fuel → Blanks space →
    scanMembers fuel path keys { index := index, rest := space ++ (text ++ unit '}' :: rest) } =
      scanned (repeatedInMembers path keys members)
        { index := index + space.length + text.length + 1, rest := rest }

/-- One member in front of what ends its value. -/
def ScansMember (text : List CodeUnit) (member : List CodeUnit × Tree) : Prop :=
  ∀ (fuel : Nat) (path : List CodeUnit) (keys : List (List CodeUnit)) (index : Nat)
    (space rest : List CodeUnit),
    2 * text.length ≤ fuel → Blanks space → Ends rest →
    scanMembers (fuel + 1) path keys { index := index, rest := space ++ (text ++ rest) } =
      if member.1 ∈ keys then .error (.duplicateKey member.1 path)
      else
        scanned (repeatedKey (memberPath path member.1) member.2)
          { index := index + space.length + text.length, rest := rest } >>= fun cursor =>
        let cursor := whitespace cursor
        if cursor.token = some (unit '}') then .ok (cursor.advance 1)
        else if cursor.token ≠ some (unit ',') then .error (.expectedComma cursor.index)
        else scanMembers fuel path (member.1 :: keys) (cursor.advance 1)

theorem whitespace_token {code : CodeUnit} (token : isRegExpSpace code = false) (index : Nat)
    {space : List CodeUnit} (blanks : Blanks space) (rest : List CodeUnit) :
    whitespace { index := index, rest := space ++ code :: rest } =
      { index := index + space.length, rest := code :: rest } :=
  whitespace_blanks index blanks (stops_cons _ token)

theorem scanValue_whitespace (fuel : Nat) (path : List CodeUnit) {before after : Cursor}
    (same : whitespace before = whitespace after) :
    scanValue fuel path before = scanValue fuel path after := by
  cases fuel with
  | zero => rw [scanValue, scanValue]
  | succ fuel => rw [scanValue, scanValue, same]

theorem scansValue_of_start {text : List CodeUnit} {value : Tree} (spelled : Value text value)
    (scans : ∀ (fuel : Nat) (path : List CodeUnit) (index : Nat) (rest : List CodeUnit),
      2 * text.length ≤ fuel + 1 → Ends rest →
      whitespace { index := index, rest := text ++ rest } =
        { index := index, rest := text ++ rest } →
      scanValue (fuel + 1) path { index := index, rest := text ++ rest } =
        scanned (repeatedKey path value) { index := index + text.length, rest := rest }) :
    ScansValue text value := by
  intro fuel path index space rest enough blanks ends
  obtain ⟨head, tail, rfl, starts⟩ := spelled.head
  have stops : Stops isRegExpSpace ((head :: tail) ++ rest) :=
    stops_cons _ (isRegExpSpace_start starts)
  have skipped := whitespace_blanks index blanks stops
  have still := whitespace_none (index + space.length) stops
  rw [scanValue_whitespace fuel path (skipped.trans still.symm)]
  obtain ⟨fuel, rfl⟩ : ∃ less, fuel = less + 1 :=
    ⟨fuel - 1, by simp only [List.length_cons] at enough; omega⟩
  exact scans fuel path _ rest enough ends still

theorem scansValue_number {text : List CodeUnit} (number : Number text) :
    ScansValue text (.scalar text) := by
  refine scansValue_of_start (.number number) ?_
  intro fuel path index rest enough ends still
  have matched := numberLength_append number ends
  obtain ⟨head, tail, rfl, first⟩ := number.head
  have other : head ≠ unit '{' ∧ head ≠ unit '[' ∧ head ≠ unit '"' ∧ head ≠ unit 't' ∧
      head ≠ unit 'f' ∧ head ≠ unit 'n' := by
    rcases first with rfl | digit
    · decide
    · refine ⟨?_, ?_, ?_, ?_, ?_, ?_⟩
      all_goals
        rintro rfl
        exact absurd digit (by decide)
  obtain ⟨noBrace, noBracket, noQuote, noTrue, noFalse, noNull⟩ := other
  have noWord (word : String) (start : CodeUnit) (letters : List CodeUnit)
      (spelled : units word = start :: letters) (differs : head ≠ start) :
      Cursor.startsWith { index := index, rest := (head :: tail) ++ rest } word = false := by
    rw [Cursor.startsWith, spelled, List.cons_append, List.isPrefixOf]
    simp [Ne.symm differs]
  rw [scanValue, still, if_neg, if_neg, if_neg, noWord "true" _ _ rfl noTrue,
    noWord "false" _ _ rfl noFalse, noWord "null" _ _ rfl noNull]
  · dsimp only
    rw [matched]
    simp [Cursor.advance, repeatedKey, scanned]
  all_goals simpa [Cursor.token]

theorem scansValue_string {text name : List CodeUnit} (spells : Spells text name) :
    ScansValue (quoted text) (.scalar (quoted text)) := by
  refine scansValue_of_start (.string spells) ?_
  intro fuel path index rest enough ends still
  rw [scanValue, still, string_quoted spells]
  rfl

theorem scansValue_true : ScansValue (units "true") (.scalar (units "true")) := by
  refine scansValue_of_start .trueWord ?_
  intro fuel path index rest enough ends still
  rw [scanValue, still]
  rfl

theorem scansValue_false : ScansValue (units "false") (.scalar (units "false")) := by
  refine scansValue_of_start .falseWord ?_
  intro fuel path index rest enough ends still
  rw [scanValue, still]
  rfl

theorem scansValue_null : ScansValue (units "null") (.scalar (units "null")) := by
  refine scansValue_of_start .nullWord ?_
  intro fuel path index rest enough ends still
  rw [scanValue, still]
  rfl

theorem cursor_eq {left right : Nat} (rest : List CodeUnit) (same : left = right) :
    Cursor.mk left rest = Cursor.mk right rest := by
  rw [same]

/-! ### Arrays -/

theorem scanValue_array {fuel : Nat} (path : List CodeUnit) (index : Nat)
    {space rest : List CodeUnit} (blanks : Blanks space) (stops : Stops isRegExpSpace rest)
    (still : whitespace { index := index, rest := unit '[' :: (space ++ rest) } =
      { index := index, rest := unit '[' :: (space ++ rest) }) :
    scanValue (fuel + 2) path { index := index, rest := unit '[' :: (space ++ rest) } =
      if rest.head? = some (unit ']') then
        .ok { index := index + 1 + space.length + 1, rest := rest.drop 1 }
      else scanItems fuel path 0 { index := index + 1 + space.length, rest := rest } := by
  have skipped := whitespace_blanks (index + 1) blanks stops
  rw [scanValue, still, Cursor.token_cons, if_neg (by decide), if_pos rfl, scanArray]
  simp only [Cursor.advance, List.drop_one, List.tail_cons]
  rw [skipped]
  rfl

theorem scansValue_emptyArray {space : List CodeUnit} (blanks : Blanks space) :
    ScansValue (unit '[' :: (space ++ [unit ']'])) (.array []) := by
  refine scansValue_of_start (.emptyArray blanks) ?_
  intro fuel path index rest enough ends still
  simp only [List.length_cons, List.length_append, List.length_nil] at enough
  obtain ⟨fuel, rfl⟩ : ∃ less, fuel = less + 1 := ⟨fuel - 1, by omega⟩
  simp only [List.cons_append, List.append_assoc, List.nil_append] at still ⊢
  rw [scanValue_array path index blanks (stops_cons _ (by decide)) still, List.head?_cons,
    if_pos rfl]
  simp only [repeatedKey, repeatedInItems, scanned, List.drop_one, List.tail_cons]
  congr 1
  refine cursor_eq rest ?_
  simp only [List.length_cons, List.length_append, List.length_nil]
  omega

theorem scansValue_array {space text : List CodeUnit} {items : List Tree} (blanks : Blanks space)
    (spelled : Items text items) (scans : ScansItems text items) :
    ScansValue (unit '[' :: (space ++ (text ++ [unit ']']))) (.array items) := by
  refine scansValue_of_start (.array blanks spelled) ?_
  intro fuel path index rest enough ends still
  simp only [List.length_cons, List.length_append, List.length_nil] at enough
  obtain ⟨fuel, rfl⟩ : ∃ less, fuel = less + 1 := ⟨fuel - 1, by omega⟩
  obtain ⟨head, tail, rfl, starts⟩ := spelled.head
  simp only [List.cons_append, List.append_assoc, List.nil_append] at still ⊢
  have scanned := scans fuel path 0 (index + 1 + space.length) [] rest
    (by simp only [List.length_cons] at enough ⊢; omega) blanks_nil
  simp only [List.nil_append, List.cons_append] at scanned
  have noBracket : head ≠ unit ']' := by
    rintro rfl
    exact absurd starts (by decide)
  rw [scanValue_array path index blanks (stops_cons _ (isRegExpSpace_start starts)) still,
    if_neg (by simpa using noBracket), scanned, repeatedKey]
  congr 1
  refine cursor_eq rest ?_
  simp only [List.length_cons, List.length_append, List.length_nil]
  omega

theorem scanItems_item {text : List CodeUnit} {value : Tree} (spelled : Value text value)
    (scans : ScansValue text value) {fuel : Nat} (path : List CodeUnit) (item index : Nat)
    {space rest : List CodeUnit} (enough : 2 * text.length ≤ fuel) (blanks : Blanks space)
    (ends : Ends rest) :
    scanItems (fuel + 1) path item { index := index, rest := space ++ (text ++ rest) } =
      scanned (repeatedKey (itemPath path item) value)
          { index := index + space.length + text.length, rest := rest } >>= fun cursor =>
        let cursor := whitespace cursor
        if cursor.token = some (unit ']') then .ok (cursor.advance 1)
        else if cursor.token ≠ some (unit ',') then .error (.expectedComma cursor.index)
        else scanItems fuel path (item + 1) (cursor.advance 1) := by
  obtain ⟨head, tail, rfl, _⟩ := spelled.head
  have nonempty : (space ++ (head :: tail ++ rest)).isEmpty = false := by
    simp
  rw [scanItems, nonempty, ← scans fuel (itemPath path item) index space rest enough blanks ends]
  rfl

theorem scansItems_last {text after : List CodeUnit} {item : Tree} (spelled : Value text item)
    (scans : ScansValue text item) (trailing : Blanks after) :
    ScansItems (text ++ after) [item] := by
  intro fuel path count index space rest enough blanks
  rw [List.length_append] at enough
  obtain ⟨fuel, rfl⟩ : ∃ less, fuel = less + 1 := ⟨fuel - 1, by omega⟩
  rw [List.append_assoc, scanItems_item spelled scans path count index (by omega) blanks
    (trailing.ends (ends_cons rest (by decide))), repeatedInItems, repeatedInItems]
  refine scanned_bind ?_
  dsimp only
  rw [whitespace_token (by decide) _ trailing, Cursor.token_cons, if_pos rfl]
  congr 1
  refine cursor_eq rest ?_
  rw [List.length_append]
  dsimp only
  omega

theorem scansItems_next {text after before rest : List CodeUnit} {item : Tree}
    {items : List Tree} (spelled : Value text item) (scans : ScansValue text item)
    (trailing : Blanks after) (leading : Blanks before) (scansRest : ScansItems rest items) :
    ScansItems (text ++ (after ++ unit ',' :: (before ++ rest))) (item :: items) := by
  intro fuel path count index space last enough blanks
  obtain ⟨head, tail, same, _⟩ := spelled.head
  have positive : 0 < text.length := by
    rw [same]
    exact Nat.succ_pos _
  simp only [List.length_append, List.length_cons] at enough
  obtain ⟨fuel, rfl⟩ : ∃ less, fuel = less + 1 := ⟨fuel - 1, by omega⟩
  simp only [List.append_assoc, List.cons_append]
  rw [scanItems_item spelled scans path count index (by omega) blanks
    (trailing.ends (ends_cons _ (by decide))), repeatedInItems]
  refine scanned_bind ?_
  dsimp only
  rw [whitespace_token (by decide) _ trailing, Cursor.token_cons, if_neg (by decide),
    if_neg (by decide)]
  simp only [Cursor.advance, List.drop_one, List.tail_cons]
  rw [scansRest fuel path (count + 1) _ before last (by omega) leading]
  congr 1
  refine cursor_eq last ?_
  simp only [List.length_append, List.length_cons]
  omega

/-! ### Objects -/

theorem scanValue_object {fuel : Nat} (path : List CodeUnit) (index : Nat)
    {space rest : List CodeUnit} (blanks : Blanks space) (stops : Stops isRegExpSpace rest)
    (still : whitespace { index := index, rest := unit '{' :: (space ++ rest) } =
      { index := index, rest := unit '{' :: (space ++ rest) }) :
    scanValue (fuel + 2) path { index := index, rest := unit '{' :: (space ++ rest) } =
      if rest.head? = some (unit '}') then
        .ok { index := index + 1 + space.length + 1, rest := rest.drop 1 }
      else scanMembers fuel path [] { index := index + 1 + space.length, rest := rest } := by
  have skipped := whitespace_blanks (index + 1) blanks stops
  rw [scanValue, still, Cursor.token_cons, if_pos rfl, scanObject]
  simp only [Cursor.advance, List.drop_one, List.tail_cons]
  rw [skipped]
  rfl

theorem scansValue_emptyObject {space : List CodeUnit} (blanks : Blanks space) :
    ScansValue (unit '{' :: (space ++ [unit '}'])) (.object []) := by
  refine scansValue_of_start (.emptyObject blanks) ?_
  intro fuel path index rest enough ends still
  simp only [List.length_cons, List.length_append, List.length_nil] at enough
  obtain ⟨fuel, rfl⟩ : ∃ less, fuel = less + 1 := ⟨fuel - 1, by omega⟩
  simp only [List.cons_append, List.append_assoc, List.nil_append] at still ⊢
  rw [scanValue_object path index blanks (stops_cons _ (by decide)) still, List.head?_cons,
    if_pos rfl]
  simp only [repeatedKey, repeatedInMembers, scanned, List.drop_one, List.tail_cons]
  congr 1
  refine cursor_eq rest ?_
  simp only [List.length_cons, List.length_append, List.length_nil]
  omega

theorem scansValue_object {space text : List CodeUnit} {members : List (List CodeUnit × Tree)}
    (blanks : Blanks space) (spelled : Members text members) (scans : ScansMembers text members) :
    ScansValue (unit '{' :: (space ++ (text ++ [unit '}']))) (.object members) := by
  refine scansValue_of_start (.object blanks spelled) ?_
  intro fuel path index rest enough ends still
  simp only [List.length_cons, List.length_append, List.length_nil] at enough
  obtain ⟨fuel, rfl⟩ : ∃ less, fuel = less + 1 := ⟨fuel - 1, by omega⟩
  obtain ⟨tail, rfl⟩ := spelled.head
  simp only [List.cons_append, List.append_assoc, List.nil_append] at still ⊢
  have scanned := scans fuel path [] (index + 1 + space.length) [] rest
    (by simp only [List.length_cons] at enough ⊢; omega) blanks_nil
  simp only [List.nil_append, List.cons_append] at scanned
  rw [scanValue_object path index blanks (stops_cons _ (by decide)) still, List.head?_cons,
    if_neg (by decide), scanned, repeatedKey]
  congr 1
  refine cursor_eq rest ?_
  simp only [List.length_cons, List.length_append, List.length_nil]
  omega

theorem scansMember {spelled name before after text : List CodeUnit} {value : Tree}
    (spells : Spells spelled name) (leading : Blanks before) (trailing : Blanks after)
    (scans : ScansValue text value) :
    ScansMember (quoted spelled ++ (before ++ unit ':' :: (after ++ text))) (name, value) := by
  intro fuel path keys index space rest enough blanks ends
  simp only [List.length_append, List.length_cons] at enough
  have source : (quoted spelled ++ (before ++ unit ':' :: (after ++ text))) ++ rest =
      quoted spelled ++ (before ++ unit ':' :: (after ++ (text ++ rest))) := by
    simp only [List.append_assoc, List.cons_append]
  rw [source]
  have nonempty : (space ++ (quoted spelled ++
      (before ++ unit ':' :: (after ++ (text ++ rest))))).isEmpty = false := by
    simp [quoted]
  have skipped : whitespace { index := index, rest := space ++ (quoted spelled ++
      (before ++ unit ':' :: (after ++ (text ++ rest)))) } =
      { index := index + space.length, rest := quoted spelled ++
        (before ++ unit ':' :: (after ++ (text ++ rest))) } :=
    whitespace_token (by decide) index blanks _
  have token : Cursor.token { index := index + space.length, rest := quoted spelled ++
      (before ++ unit ':' :: (after ++ (text ++ rest))) } = some (unit '"') := rfl
  rw [scanMembers, nonempty, if_neg Bool.false_ne_true]
  dsimp only
  rw [skipped, token, if_neg (by decide), string_quoted spells]
  simp only [bind, Except.bind]
  by_cases seen : name ∈ keys
  · rw [if_pos seen, if_pos seen]
  · rw [if_neg seen, if_neg seen, whitespace_token (by decide) _ leading, Cursor.token_cons,
      if_neg (by decide)]
    simp only [Cursor.advance, List.drop_one, List.tail_cons]
    rw [scans fuel (memberPath path name) _ after rest (by omega) trailing ends]
    have position : index + space.length + (quoted spelled).length + before.length + 1 +
        after.length + text.length = index + space.length +
          (quoted spelled ++ (before ++ unit ':' :: (after ++ text))).length := by
      simp only [List.length_append, List.length_cons]
      omega
    rw [position]

theorem scansMembers_last {text after : List CodeUnit} {member : List CodeUnit × Tree}
    (scans : ScansMember text member) (trailing : Blanks after) :
    ScansMembers (text ++ after) [member] := by
  intro fuel path keys index space rest enough blanks
  rw [List.length_append] at enough
  obtain ⟨fuel, rfl⟩ : ∃ less, fuel = less + 1 := ⟨fuel - 1, by omega⟩
  rw [List.append_assoc, scans fuel path keys index space _ (by omega) blanks
    (trailing.ends (ends_cons rest (by decide))), repeatedInMembers]
  by_cases seen : member.1 ∈ keys
  · rw [if_pos seen, if_pos seen]
    rfl
  · rw [if_neg seen, if_neg seen, repeatedInMembers]
    refine scanned_bind ?_
    dsimp only
    rw [whitespace_token (by decide) _ trailing, Cursor.token_cons, if_pos rfl]
    congr 1
    refine cursor_eq rest ?_
    rw [List.length_append]
    dsimp only
    omega

theorem scansMembers_next {text after before rest : List CodeUnit}
    {member : List CodeUnit × Tree} {members : List (List CodeUnit × Tree)}
    (scans : ScansMember text member) (trailing : Blanks after) (leading : Blanks before)
    (scansRest : ScansMembers rest members) :
    ScansMembers (text ++ (after ++ unit ',' :: (before ++ rest))) (member :: members) := by
  intro fuel path keys index space last enough blanks
  simp only [List.length_append, List.length_cons] at enough
  obtain ⟨fuel, rfl⟩ : ∃ less, fuel = less + 1 := ⟨fuel - 1, by omega⟩
  simp only [List.append_assoc, List.cons_append]
  rw [scans fuel path keys index space _ (by omega) blanks
    (trailing.ends (ends_cons _ (by decide))), repeatedInMembers]
  by_cases seen : member.1 ∈ keys
  · rw [if_pos seen, if_pos seen]
    rfl
  · rw [if_neg seen, if_neg seen]
    refine scanned_bind ?_
    dsimp only
    rw [whitespace_token (by decide) _ trailing, Cursor.token_cons, if_neg (by decide),
      if_neg (by decide)]
    simp only [Cursor.advance, List.drop_one, List.tail_cons]
    rw [scansRest fuel path _ _ before last (by omega) leading]
    congr 1
    refine cursor_eq last ?_
    simp only [List.length_append, List.length_cons]
    omega

/-! ### Documents -/

mutual

theorem scansValue {text : List CodeUnit} {value : Tree} :
    Value text value → ScansValue text value
  | .trueWord => scansValue_true
  | .falseWord => scansValue_false
  | .nullWord => scansValue_null
  | .number number => scansValue_number number
  | .string spells => scansValue_string spells
  | .emptyArray blanks => scansValue_emptyArray blanks
  | .array blanks items => scansValue_array blanks items (scansItems items)
  | .emptyObject blanks => scansValue_emptyObject blanks
  | .object blanks members => scansValue_object blanks members (scansMembers members)

theorem scansItems {text : List CodeUnit} {items : List Tree} :
    Items text items → ScansItems text items
  | .last value trailing => scansItems_last value (scansValue value) trailing
  | .next value trailing leading items =>
      scansItems_next value (scansValue value) trailing leading (scansItems items)

theorem scansMembers {text : List CodeUnit} {members : List (List CodeUnit × Tree)} :
    Members text members → ScansMembers text members
  | .last (.mk spells before after value) trailing =>
      scansMembers_last (scansMember spells before after (scansValue value)) trailing
  | .next (.mk spells before after value) trailing leading members =>
      scansMembers_next (scansMember spells before after (scansValue value)) trailing leading
        (scansMembers members)

end

end ActionProxy
