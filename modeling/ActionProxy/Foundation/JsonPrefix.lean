import ActionProxy.Foundation.JsonParse
import ActionProxy.Foundation.Utf8Stream
import Mathlib.Data.List.TakeWhile

/-!
A JSON text inside a longer one: what has been read of a text is read the same when more
follows it, so that no proper prefix of the text of an object is JSON, and neither is the
text with anything visible after it.
-/

namespace JsonText

/-! ### Strings and spaces -/

theorem skipSpace_suffix (source : List Char) : skipSpace source <:+ source :=
  List.dropWhile_suffix _

theorem skipSpace_append {source rest : List Char} {char : Char}
    (skipped : skipSpace source = char :: rest) (more : List Char) :
    skipSpace (source ++ more) = char :: (rest ++ more) := by
  unfold skipSpace at skipped ⊢
  rw [List.dropWhile_append, skipped, if_neg (by simp), List.cons_append]

theorem map_read {First Second : Type} {read : Option (First × List Char)}
    {change : First → Second} {value : Second} {rest : List Char}
    (mapped : read.map (Prod.map change id) = some (value, rest)) :
    ∃ first, read = some (first, rest) ∧ change first = value := by
  cases read with
  | none => cases mapped
  | some pair =>
      obtain ⟨first, left⟩ := pair
      obtain ⟨rfl, rfl⟩ := Prod.mk.inj (Option.some.inj mapped)
      exact ⟨first, rfl, rfl⟩

theorem suffix_cons_of_suffix {rest source : List Char} (inside : rest <:+ source) (char : Char) :
    rest <:+ char :: source :=
  inside.trans (List.suffix_cons char source)

theorem suffix_escape {rest source : List Char} (inside : rest <:+ source)
    (first second third fourth : Char) :
    rest <:+ '\\' :: 'u' :: first :: second :: third :: fourth :: source :=
  inside.trans ⟨['\\', 'u', first, second, third, fourth], rfl⟩

theorem readStringFrom_append {pending : Option Nat} {source chars rest : List Char}
    (read : readStringFrom pending source = some (chars, rest)) (more : List Char) :
    readStringFrom pending (source ++ more) = some (chars, rest ++ more) ∧ rest <:+ source := by
  induction pending, source using readStringFrom.induct generalizing chars rest with
  | case1 pending first second third fourth tail noUnit =>
      rw [readStringFrom.eq_1 _ _ _ _ _ _ noUnit] at read
      cases read
  | case2 first second third fourth tail unit isUnit high inductionHypothesis =>
      rw [readStringFrom.eq_2 _ _ _ _ _ _ isUnit, if_pos high] at read
      obtain ⟨continued, inside⟩ := inductionHypothesis read
      refine ⟨?_, suffix_escape inside _ _ _ _⟩
      rw [← continued]
      exact (readStringFrom.eq_2 _ _ _ _ _ _ isUnit).trans (if_pos high)
  | case3 first second third fourth tail unit isUnit notHigh low =>
      rw [readStringFrom.eq_2 _ _ _ _ _ _ isUnit, if_neg notHigh, if_pos low] at read
      cases read
  | case4 first second third fourth tail unit isUnit notHigh notLow inductionHypothesis =>
      rw [readStringFrom.eq_2 _ _ _ _ _ _ isUnit, if_neg notHigh, if_neg notLow] at read
      obtain ⟨others, readOthers, rfl⟩ := map_read read
      obtain ⟨continued, inside⟩ := inductionHypothesis readOthers
      refine ⟨?_, suffix_escape inside _ _ _ _⟩
      have unfolded := readStringFrom.eq_2 first second third fourth (tail ++ more) unit isUnit
      rw [if_neg notHigh, if_neg notLow, continued] at unfolded
      exact unfolded
  | case5 first second third fourth tail unit high isUnit low inductionHypothesis =>
      rw [readStringFrom.eq_3 _ _ _ _ _ _ _ isUnit, if_pos low] at read
      obtain ⟨others, readOthers, rfl⟩ := map_read read
      obtain ⟨continued, inside⟩ := inductionHypothesis readOthers
      refine ⟨?_, suffix_escape inside _ _ _ _⟩
      have unfolded := readStringFrom.eq_3 first second third fourth (tail ++ more) unit high isUnit
      rw [if_pos low, continued] at unfolded
      exact unfolded
  | case6 first second third fourth tail unit high isUnit notLow =>
      rw [readStringFrom.eq_3 _ _ _ _ _ _ _ isUnit, if_neg notLow] at read
      cases read
  | case7 source high other =>
      rw [readStringFrom.eq_4 _ _ other] at read
      cases read
  | case8 tail =>
      rw [readStringFrom.eq_5] at read
      obtain ⟨rfl, rfl⟩ := Prod.mk.inj (Option.some.inj read)
      exact ⟨readStringFrom.eq_5 _, List.suffix_cons _ _⟩
  | case9 char tail other noEscape =>
      rw [readStringFrom.eq_6 _ _ other, noEscape] at read
      cases read
  | case10 char tail other escaped isEscape inductionHypothesis =>
      rw [readStringFrom.eq_6 _ _ other, isEscape] at read
      obtain ⟨others, readOthers, rfl⟩ := map_read read
      obtain ⟨continued, inside⟩ := inductionHypothesis readOthers
      refine ⟨?_, suffix_cons_of_suffix (suffix_cons_of_suffix inside _) _⟩
      have notUnit : ∀ (first second third fourth : Char) (rest : List Char),
          char = 'u' → tail ++ more = first :: second :: third :: fourth :: rest → False := by
        rintro first second third fourth rest rfl _
        rw [show simpleEscape 'u' = none by decide] at isEscape
        cases isEscape
      have unfolded := readStringFrom.eq_6 char (tail ++ more) notUnit
      rw [isEscape] at unfolded
      simp only [continued] at unfolded
      exact unfolded
  | case11 char tail other notQuote notEscape refused =>
      rw [readStringFrom.eq_7 _ _ other notQuote notEscape, if_pos refused] at read
      cases read
  | case12 char tail other notQuote notEscape plain inductionHypothesis =>
      rw [readStringFrom.eq_7 _ _ other notQuote notEscape, if_neg plain] at read
      obtain ⟨others, readOthers, rfl⟩ := map_read read
      obtain ⟨continued, inside⟩ := inductionHypothesis readOthers
      refine ⟨?_, suffix_cons_of_suffix inside _⟩
      have unfolded := readStringFrom.eq_7 char (tail ++ more)
        (fun _ _ _ _ _ same _ => plain (Or.inl same)) notQuote
        (fun _ _ same _ => plain (Or.inl same))
      rw [if_neg plain, continued] at unfolded
      exact unfolded
  | case13 =>
      rw [readStringFrom.eq_8] at read
      cases read

theorem readString_append {source rest : List Char} {value : String}
    (read : readString source = some (value, rest)) (more : List Char) :
    readString (source ++ more) = some (value, rest ++ more) ∧ rest <:+ source := by
  obtain ⟨chars, readChars, rfl⟩ := map_read read
  obtain ⟨continued, inside⟩ := readStringFrom_append readChars more
  exact ⟨by rw [readString, continued]; rfl, inside⟩

/-! ### Numbers -/

/-- A reader of a part of a number: it takes a start of the source, and takes the same when
more follows what is left. -/
def Continues {Value : Type} (read : List Char → Option (Value × List Char)) : Prop :=
  ∀ source value rest, read source = some (value, rest) →
    rest <:+ source ∧
      (rest ≠ [] → ∀ more, read (source ++ more) = some (value, rest ++ more))

theorem spanDigits_more {source digits rest : List Char}
    (spanned : spanDigits source = (digits, rest)) (stopped : rest ≠ []) (more : List Char) :
    spanDigits (source ++ more) = (digits, rest ++ more) := by
  induction source generalizing digits with
  | nil =>
      obtain ⟨-, rfl⟩ := Prod.mk.inj spanned
      exact absurd rfl stopped
  | cons char tail inductionHypothesis =>
      simp only [spanDigits, List.cons_append, List.takeWhile_cons, List.dropWhile_cons,
        Prod.mk.injEq] at *
      obtain ⟨taken, dropped⟩ := spanned
      cases digit : JsonNumber.isDigit char with
      | false =>
          simp only [digit, Bool.false_eq_true, if_false] at taken dropped ⊢
          exact ⟨taken, by rw [← dropped, List.cons_append]⟩
      | true =>
          simp only [digit, if_true] at taken dropped ⊢
          obtain ⟨more', rest'⟩ := inductionHypothesis ⟨rfl, dropped⟩
          exact ⟨by rw [more', taken], rest'⟩

theorem spanDigits_suffix {source digits rest : List Char}
    (spanned : spanDigits source = (digits, rest)) : rest <:+ source := by
  obtain ⟨-, rfl⟩ := Prod.mk.inj spanned
  exact List.dropWhile_suffix _

theorem continues_digits {Value : Type} (value : List Char → Value) :
    Continues (fun source =>
      if (spanDigits source).1 = [] then none
      else some (value (spanDigits source).1, (spanDigits source).2)) := by
  intro source result rest read
  cases spanned : spanDigits source with
  | mk digits left =>
      simp only [spanned] at read
      split_ifs at read with none
      obtain ⟨rfl, rfl⟩ := Prod.mk.inj (Option.some.inj read)
      refine ⟨spanDigits_suffix spanned, ?_⟩
      intro stopped more
      simp only [spanDigits_more spanned stopped more, if_neg none]

theorem readWhole_cons {char : Char} (other : char ≠ '0') (tail : List Char) :
    readWhole (char :: tail) =
      if (spanDigits (char :: tail)).1 = [] then none
      else some (id (spanDigits (char :: tail)).1, (spanDigits (char :: tail)).2) := by
  rw [readWhole]
  · rfl
  · rintro rest same
    exact other (List.cons.inj same).1

theorem continues_readWhole : Continues readWhole := by
  intro source whole rest read
  cases source with
  | nil => cases read
  | cons char tail =>
      by_cases zero : char = '0'
      · subst zero
        obtain ⟨rfl, rfl⟩ := Prod.mk.inj (Option.some.inj read)
        exact ⟨List.suffix_cons _ _, fun _ _ => rfl⟩
      · rw [readWhole_cons zero] at read
        obtain ⟨inside, continued⟩ := continues_digits id (char :: tail) whole rest read
        refine ⟨inside, ?_⟩
        intro stopped more
        rw [List.cons_append, readWhole_cons zero]
        exact continued stopped more

theorem continues_readFraction : Continues readFraction := by
  intro source fraction rest read
  cases source with
  | nil =>
      obtain ⟨rfl, rfl⟩ := Prod.mk.inj (Option.some.inj read)
      exact ⟨List.suffix_refl _, fun stopped => absurd rfl stopped⟩
  | cons char tail =>
      by_cases point : char = '.'
      · subst point
        obtain ⟨inside, continued⟩ := continues_digits id tail fraction rest read
        exact ⟨suffix_cons_of_suffix inside _, continued⟩
      · have absent : ∀ more, readFraction (char :: tail ++ more) =
            some ([], char :: tail ++ more) := by
          intro more
          apply JsonNumber.readFraction_absent
          intro head isHead
          obtain rfl := Option.some.inj isHead
          exact point
        have here := absent []
        rw [List.append_nil] at here
        obtain ⟨rfl, rfl⟩ := Prod.mk.inj (Option.some.inj (here.symm.trans read))
        exact ⟨List.suffix_refl _, fun _ more => absent more⟩

theorem continues_readExponentDigits (negative : Bool) :
    Continues (readExponentDigits negative) :=
  continues_digits (fun digits =>
    if negative then -(Nat.ofDigitChars 10 digits 0 : Int) else Nat.ofDigitChars 10 digits 0)

theorem readExponentPart_unmarked {mark : Char} (unmarked : ¬(mark = 'e' ∨ mark = 'E'))
    (tail : List Char) : readExponentPart (mark :: tail) = some (0, mark :: tail) := by
  rw [readExponentPart.eq_def]
  exact if_neg unmarked

theorem readExponentPart_minus {mark : Char} (marked : mark = 'e' ∨ mark = 'E')
    (digits : List Char) :
    readExponentPart (mark :: '-' :: digits) = readExponentDigits true digits := by
  rw [readExponentPart.eq_def]
  exact if_pos marked

theorem readExponentPart_plus {mark : Char} (marked : mark = 'e' ∨ mark = 'E')
    (digits : List Char) :
    readExponentPart (mark :: '+' :: digits) = readExponentDigits false digits := by
  rw [readExponentPart.eq_def]
  exact if_pos marked

theorem readExponentPart_unsigned {mark sign : Char} (marked : mark = 'e' ∨ mark = 'E')
    (notMinus : sign ≠ '-') (notPlus : sign ≠ '+') (digits : List Char) :
    readExponentPart (mark :: sign :: digits) = readExponentDigits false (sign :: digits) := by
  rw [readExponentPart.eq_def]
  simp only [if_pos marked]
  split
  · rename_i same
    exact absurd (List.cons.inj same).1 notMinus
  · rename_i same
    exact absurd (List.cons.inj same).1 notPlus
  · rfl

theorem continues_readExponentPart : Continues readExponentPart := by
  intro source exponent rest read
  cases source with
  | nil =>
      obtain ⟨rfl, rfl⟩ := Prod.mk.inj (Option.some.inj read)
      exact ⟨List.suffix_refl _, fun stopped => absurd rfl stopped⟩
  | cons mark tail =>
      by_cases marked : mark = 'e' ∨ mark = 'E'
      · cases tail with
        | nil =>
            rw [readExponentPart.eq_def] at read
            simp only [if_pos marked] at read
            cases read
        | cons sign digits =>
            by_cases minus : sign = '-'
            · subst minus
              rw [readExponentPart_minus marked] at read
              obtain ⟨inside, continued⟩ :=
                continues_readExponentDigits true digits exponent rest read
              refine ⟨suffix_cons_of_suffix (suffix_cons_of_suffix inside _) _, ?_⟩
              intro stopped more
              exact (readExponentPart_minus marked _).trans (continued stopped more)
            · by_cases plus : sign = '+'
              · subst plus
                rw [readExponentPart_plus marked] at read
                obtain ⟨inside, continued⟩ :=
                  continues_readExponentDigits false digits exponent rest read
                refine ⟨suffix_cons_of_suffix (suffix_cons_of_suffix inside _) _, ?_⟩
                intro stopped more
                exact (readExponentPart_plus marked _).trans (continued stopped more)
              · rw [readExponentPart_unsigned marked minus plus] at read
                obtain ⟨inside, continued⟩ :=
                  continues_readExponentDigits false (sign :: digits) exponent rest read
                refine ⟨suffix_cons_of_suffix inside _, ?_⟩
                intro stopped more
                exact (readExponentPart_unsigned marked minus plus _).trans
                  (continued stopped more)
      · rw [readExponentPart_unmarked marked] at read
        obtain ⟨rfl, rfl⟩ := Prod.mk.inj (Option.some.inj read)
        exact ⟨List.suffix_refl _, fun _ more => readExponentPart_unmarked marked _⟩

theorem nonempty_of_suffix {rest source : List Char} (inside : rest <:+ source)
    (stopped : rest ≠ []) : source ≠ [] := by
  rintro rfl
  exact stopped (List.suffix_nil.mp inside)

theorem continues_readMagnitudeLiteral (negative : Bool) :
    Continues (readMagnitudeLiteral negative) := by
  intro source number rest read
  unfold readMagnitudeLiteral at read ⊢
  cases wholeRead : readWhole source with
  | none =>
      rw [wholeRead] at read
      cases read
  | some first =>
      obtain ⟨whole, afterWhole⟩ := first
      rw [wholeRead] at read
      simp only [Option.bind_eq_bind, Option.bind_some] at read
      cases fractionRead : readFraction afterWhole with
      | none =>
          rw [fractionRead] at read
          cases read
      | some second =>
          obtain ⟨fraction, afterFraction⟩ := second
          rw [fractionRead, Option.bind_some] at read
          simp only at read
          cases exponentRead : readExponentPart afterFraction with
          | none =>
              rw [exponentRead] at read
              cases read
          | some third =>
              obtain ⟨exponent, afterExponent⟩ := third
              rw [exponentRead, Option.bind_some] at read
              obtain ⟨rfl, rfl⟩ := Prod.mk.inj (Option.some.inj read)
              obtain ⟨inWhole, moreWhole⟩ := continues_readWhole _ _ _ wholeRead
              obtain ⟨inFraction, moreFraction⟩ := continues_readFraction _ _ _ fractionRead
              obtain ⟨inExponent, moreExponent⟩ := continues_readExponentPart _ _ _ exponentRead
              refine ⟨inExponent.trans (inFraction.trans inWhole), ?_⟩
              intro stopped more
              have stoppedFraction := nonempty_of_suffix inExponent stopped
              have stoppedWhole := nonempty_of_suffix inFraction stoppedFraction
              simp only [Option.bind_eq_bind, moreWhole stoppedWhole more, Option.bind_some,
                moreFraction stoppedFraction more, moreExponent stopped more]
              rfl

theorem readNumber_other {char : Char} (other : char ≠ '-') (source : List Char) :
    readNumber (char :: source) = readMagnitudeLiteral false (char :: source) := by
  rw [readNumber]
  rintro rest same
  exact other (List.cons.inj same).1

theorem continues_readNumber : Continues readNumber := by
  intro source number rest read
  cases source with
  | nil => cases read
  | cons char tail =>
      by_cases minus : char = '-'
      · subst minus
        obtain ⟨inside, continued⟩ := continues_readMagnitudeLiteral true tail number rest read
        exact ⟨suffix_cons_of_suffix inside _, continued⟩
      · rw [readNumber_other minus] at read
        obtain ⟨inside, continued⟩ :=
          continues_readMagnitudeLiteral false (char :: tail) number rest read
        refine ⟨inside, ?_⟩
        intro stopped more
        exact (readNumber_other minus _).trans (continued stopped more)

theorem readNumber_head {char : Char} {tail : List Char} {number : JsonNumber} {rest : List Char}
    (read : readNumber (char :: tail) = some (number, rest)) :
    char = '-' ∨ JsonNumber.isDigit char = true := by
  by_contra neither
  rw [not_or] at neither
  have noDigits : (spanDigits (char :: tail)).1 = [] := by
    rw [spanDigits, List.takeWhile_cons, if_neg neither.2]
  have notZero : char ≠ '0' := by
    rintro rfl
    exact neither.2 rfl
  rw [readNumber_other neither.1, readMagnitudeLiteral, readWhole_cons notZero,
    if_pos noDigits] at read
  cases read

/-! ### Values -/

section

variable (nearest : JsonNumber → Option JsonNumber)

theorem parseValue_numeric {char : Char} (start : char = '-' ∨ JsonNumber.isDigit char = true)
    (fuel : Nat) (tail : List Char) :
    parseValue nearest (fuel + 1) (char :: tail) =
      (readNumber (char :: tail)).bind (fun read =>
        (nearest read.1).map (fun number => (.num number, read.2))) := by
  have other : char ≠ 'n' ∧ char ≠ 't' ∧ char ≠ 'f' ∧ char ≠ '"' ∧ char ≠ '[' ∧
      char ≠ '{' := by
    rcases start with minus | digit
    · rw [minus]
      decide
    · refine ⟨?_, ?_, ?_, ?_, ?_, ?_⟩ <;>
        · intro letter
          rw [letter] at digit
          cases digit
  rw [parseValue.eq_def]
  cases numberRead : readNumber (char :: tail) with
  | none => split <;> simp_all
  | some read => split <;> simp_all

/-- A value that was read is read the same from any longer source with any more fuel, when
something is left of the source or the value is an object. -/
def ValueContinues (fuel : Nat) : Prop :=
  ∀ source value rest, parseValue nearest fuel source = some (value, rest) →
    rest <:+ source ∧
      (source.head? = some '{' → '}' :: rest <:+ source) ∧
      (rest ≠ [] ∨ source.head? = some '{' → ∀ more larger, fuel ≤ larger →
        parseValue nearest larger (source ++ more) = some (value, rest ++ more))

def ItemsContinue (fuel : Nat) : Prop :=
  ∀ source items rest, parseItems nearest fuel source = some (items, rest) →
    rest <:+ source ∧ ∀ more larger, fuel ≤ larger →
      parseItems nearest larger (source ++ more) = some (items, rest ++ more)

def MembersContinue (fuel : Nat) : Prop :=
  ∀ source members rest, parseMembers nearest fuel source = some (members, rest) →
    '}' :: rest <:+ source ∧ ∀ more larger, fuel ≤ larger →
      parseMembers nearest larger (source ++ more) = some (members, rest ++ more)

variable {nearest}

theorem exists_succ_of_le {fuel larger : Nat} (enough : fuel + 1 ≤ larger) :
    ∃ more, larger = more + 1 ∧ fuel ≤ more := by
  obtain ⟨more, rfl⟩ := Nat.exists_eq_add_of_le enough
  exact ⟨fuel + more, by omega, by omega⟩

theorem suffix_of_skipSpace {source rest : List Char} {char : Char}
    (skipped : skipSpace source = char :: rest) : rest <:+ source :=
  (List.suffix_cons char rest).trans (skipped ▸ skipSpace_suffix source)

theorem itemsContinue_succ {fuel : Nat} (values : ValueContinues nearest fuel)
    (items : ItemsContinue nearest fuel) : ItemsContinue nearest (fuel + 1) := by
  intro source found rest read
  rw [parseItems] at read
  cases valueRead : parseValue nearest fuel (skipSpace source) with
  | none =>
      rw [valueRead] at read
      cases read
  | some first =>
      obtain ⟨item, afterItem⟩ := first
      rw [valueRead] at read
      simp only at read
      obtain ⟨itemInside, -, itemContinued⟩ := values _ _ _ valueRead
      have inSource : afterItem <:+ source := itemInside.trans (skipSpace_suffix source)
      cases skipped : skipSpace afterItem with
      | nil =>
          rw [skipped] at read
          cases read
      | cons mark tail =>
          have stopped : afterItem ≠ [] := by
            rintro rfl
            cases skipped
          -- an item is followed by a comma or a bracket, so the source was skipped to it
          have visible : ∀ more, skipSpace (source ++ more) = skipSpace source ++ more := by
            intro more
            cases start : skipSpace source with
            | nil =>
                rw [start] at itemInside
                exact absurd (List.suffix_nil.mp itemInside) stopped
            | cons char others => exact skipSpace_append start more
          have inTail : tail <:+ source := (suffix_of_skipSpace skipped).trans inSource
          rw [skipped] at read
          split at read
          · rename_i afterComma same
            obtain ⟨rfl, rfl⟩ := List.cons.inj same
            obtain ⟨others, readOthers, rfl⟩ := map_read read
            obtain ⟨inside, continued⟩ := items _ _ _ readOthers
            refine ⟨inside.trans inTail, ?_⟩
            intro more larger enough
            obtain ⟨fuel', rfl, enough'⟩ := exists_succ_of_le enough
            rw [parseItems, visible, itemContinued (Or.inl stopped) more fuel' enough']
            simp only
            rw [skipSpace_append skipped]
            simp only [continued more fuel' enough', Option.map_some, Prod.map_apply, id]
          · rename_i afterBracket same
            obtain ⟨rfl, rfl⟩ := List.cons.inj same
            obtain ⟨rfl, rfl⟩ := Prod.mk.inj (Option.some.inj read)
            refine ⟨inTail, ?_⟩
            intro more larger enough
            obtain ⟨fuel', rfl, enough'⟩ := exists_succ_of_le enough
            rw [parseItems, visible, itemContinued (Or.inl stopped) more fuel' enough']
            simp only
            rw [skipSpace_append skipped]
            rfl
          · cases read

theorem membersContinue_succ {fuel : Nat} (values : ValueContinues nearest fuel)
    (members : MembersContinue nearest fuel) : MembersContinue nearest (fuel + 1) := by
  intro source found rest read
  rw [parseMembers] at read
  split at read
  · rename_i afterQuote opened
    have inQuote := suffix_of_skipSpace opened
    cases keyRead : readString afterQuote with
    | none =>
        rw [keyRead] at read
        cases read
    | some first =>
        obtain ⟨key, afterKey⟩ := first
        rw [keyRead] at read
        simp only at read
        obtain ⟨-, keyInside⟩ := readString_append keyRead []
        split at read
        · rename_i afterColon colon
          have inColon := (suffix_of_skipSpace colon).trans (keyInside.trans inQuote)
          cases valueRead : parseValue nearest fuel (skipSpace afterColon) with
          | none =>
              rw [valueRead] at read
              cases read
          | some second =>
              obtain ⟨value, afterValue⟩ := second
              rw [valueRead] at read
              simp only at read
              obtain ⟨valueInside, -, valueContinued⟩ := values _ _ _ valueRead
              have inValue := (valueInside.trans (skipSpace_suffix _)).trans inColon
              cases skipped : skipSpace afterValue with
              | nil =>
                  rw [skipped] at read
                  cases read
              | cons mark tail =>
                  have stopped : afterValue ≠ [] := by
                    rintro rfl
                    cases skipped
                  have visible : ∀ more,
                      skipSpace (afterColon ++ more) = skipSpace afterColon ++ more := by
                    intro more
                    cases start : skipSpace afterColon with
                    | nil =>
                        rw [start] at valueInside
                        exact absurd (List.suffix_nil.mp valueInside) stopped
                    | cons char others => exact skipSpace_append start more
                  have markInside : mark :: tail <:+ source :=
                    (skipped ▸ skipSpace_suffix afterValue).trans inValue
                  rw [skipped] at read
                  split at read
                  · rename_i afterComma same
                    obtain ⟨rfl, rfl⟩ := List.cons.inj same
                    obtain ⟨others, readOthers, rfl⟩ := map_read read
                    obtain ⟨inside, continued⟩ := members _ _ _ readOthers
                    refine ⟨inside.trans ((List.suffix_cons _ _).trans markInside), ?_⟩
                    intro more larger enough
                    obtain ⟨fuel', rfl, enough'⟩ := exists_succ_of_le enough
                    rw [parseMembers, skipSpace_append opened]
                    simp only
                    rw [(readString_append keyRead more).1]
                    simp only
                    rw [skipSpace_append colon]
                    simp only
                    rw [visible, valueContinued (Or.inl stopped) more fuel' enough']
                    simp only
                    rw [skipSpace_append skipped]
                    simp only [continued more fuel' enough', Option.map_some, Prod.map_apply, id]
                  · rename_i afterBrace same
                    obtain ⟨rfl, rfl⟩ := List.cons.inj same
                    obtain ⟨rfl, rfl⟩ := Prod.mk.inj (Option.some.inj read)
                    refine ⟨markInside, ?_⟩
                    intro more larger enough
                    obtain ⟨fuel', rfl, enough'⟩ := exists_succ_of_le enough
                    rw [parseMembers, skipSpace_append opened]
                    simp only
                    rw [(readString_append keyRead more).1]
                    simp only
                    rw [skipSpace_append colon]
                    simp only
                    rw [visible, valueContinued (Or.inl stopped) more fuel' enough']
                    simp only
                    rw [skipSpace_append skipped]
                    rfl
                  · cases read
        · cases read
  · cases read

theorem skipSpace_of_parseItems {fuel : Nat} {source rest : List Char} {items : List Json}
    (read : parseItems nearest fuel source = some (items, rest)) : skipSpace source ≠ [] := by
  intro blank
  cases fuel with
  | zero => cases read
  | succ fuel =>
      have nothing : parseValue nearest fuel [] = none := by
        cases fuel <;> rfl
      rw [parseItems, blank, nothing] at read
      cases read

theorem skipSpace_of_parseMembers {fuel : Nat} {source rest : List Char}
    {members : List (String × Json)}
    (read : parseMembers nearest fuel source = some (members, rest)) :
    ∃ tail, skipSpace source = '"' :: tail := by
  cases fuel with
  | zero => cases read
  | succ fuel =>
      rw [parseMembers] at read
      split at read
      · rename_i tail opened
        exact ⟨tail, opened⟩
      · cases read

theorem not_object {char : Char} {tail : List Char} {Result : Prop} (other : char ≠ '{')
    (object : (char :: tail).head? = some '{') : Result :=
  absurd (Option.some.inj object) other

theorem valueContinues_succ {fuel : Nat} (items : ItemsContinue nearest fuel)
    (members : MembersContinue nearest fuel) : ValueContinues nearest (fuel + 1) := by
  intro source value rest read
  rw [parseValue.eq_def] at read
  simp only at read
  split at read
  · obtain ⟨rfl, rfl⟩ := Prod.mk.inj (Option.some.inj read)
    refine ⟨⟨['n', 'u', 'l', 'l'], rfl⟩, not_object (by decide), ?_⟩
    intro _ more larger enough
    obtain ⟨fuel', rfl, -⟩ := exists_succ_of_le enough
    rfl
  · obtain ⟨rfl, rfl⟩ := Prod.mk.inj (Option.some.inj read)
    refine ⟨⟨['t', 'r', 'u', 'e'], rfl⟩, not_object (by decide), ?_⟩
    intro _ more larger enough
    obtain ⟨fuel', rfl, -⟩ := exists_succ_of_le enough
    rfl
  · obtain ⟨rfl, rfl⟩ := Prod.mk.inj (Option.some.inj read)
    refine ⟨⟨['f', 'a', 'l', 's', 'e'], rfl⟩, not_object (by decide), ?_⟩
    intro _ more larger enough
    obtain ⟨fuel', rfl, -⟩ := exists_succ_of_le enough
    rfl
  · obtain ⟨text, readText, rfl⟩ := map_read read
    refine ⟨suffix_cons_of_suffix (readString_append readText []).2 _, not_object (by decide), ?_⟩
    intro _ more larger enough
    obtain ⟨fuel', rfl, -⟩ := exists_succ_of_le enough
    rw [List.cons_append, parseValue, (readString_append readText more).1]
    rfl
  · split at read
    · rename_i afterBracket closed
      obtain ⟨rfl, rfl⟩ := Prod.mk.inj (Option.some.inj read)
      refine ⟨suffix_cons_of_suffix (suffix_of_skipSpace closed) _, not_object (by decide), ?_⟩
      intro _ more larger enough
      obtain ⟨fuel', rfl, -⟩ := exists_succ_of_le enough
      rw [List.cons_append, parseValue, skipSpace_append closed]
      rfl
    · rename_i opened
      obtain ⟨found, readItems, rfl⟩ := map_read read
      obtain ⟨inside, continued⟩ := items _ _ _ readItems
      refine ⟨suffix_cons_of_suffix inside _, not_object (by decide), ?_⟩
      intro _ more larger enough
      obtain ⟨fuel', rfl, enough'⟩ := exists_succ_of_le enough
      rw [List.cons_append, parseValue]
      split
      · rename_i afterBracket closed
        obtain ⟨char, tail, start⟩ := List.exists_cons_of_ne_nil (skipSpace_of_parseItems readItems)
        obtain ⟨rfl, -⟩ := List.cons.inj ((skipSpace_append start more).symm.trans closed)
        exact absurd start (opened tail)
      · rw [continued more fuel' enough']
        rfl
  · split at read
    · rename_i afterBrace closed
      obtain ⟨rfl, rfl⟩ := Prod.mk.inj (Option.some.inj read)
      have braced := suffix_cons_of_suffix (closed ▸ skipSpace_suffix _) '{'
      refine ⟨suffix_cons_of_suffix (suffix_of_skipSpace closed) _, fun _ => braced, ?_⟩
      intro _ more larger enough
      obtain ⟨fuel', rfl, -⟩ := exists_succ_of_le enough
      rw [List.cons_append, parseValue, skipSpace_append closed]
      rfl
    · rename_i opened
      obtain ⟨found, readMembers, rfl⟩ := map_read read
      obtain ⟨inside, continued⟩ := members _ _ _ readMembers
      have braced := suffix_cons_of_suffix inside '{'
      refine ⟨(List.suffix_cons _ _).trans braced, fun _ => braced, ?_⟩
      intro _ more larger enough
      obtain ⟨fuel', rfl, enough'⟩ := exists_succ_of_le enough
      rw [List.cons_append, parseValue]
      split
      · rename_i afterBrace closed
        obtain ⟨tail, start⟩ := skipSpace_of_parseMembers readMembers
        cases (skipSpace_append start more).symm.trans closed
      · rw [continued more fuel' enough']
        rfl
  · cases source with
    | nil => cases read
    | cons char tail =>
        cases numberRead : readNumber (char :: tail) with
        | none =>
            rw [numberRead] at read
            cases read
        | some first =>
            obtain ⟨number, left⟩ := first
            rw [numberRead] at read
            simp only at read
            have start := readNumber_head numberRead
            obtain ⟨inside, continued⟩ := continues_readNumber _ _ _ numberRead
            have other : char ≠ '{' := by
              rintro rfl
              exact absurd start (by decide)
            cases held : nearest number with
            | none =>
                rw [held] at read
                cases read
            | some kept =>
                rw [held] at read
                obtain ⟨rfl, rfl⟩ := Prod.mk.inj (Option.some.inj read)
                refine ⟨inside, not_object other, ?_⟩
                intro stopped more larger enough
                obtain ⟨fuel', rfl, -⟩ := exists_succ_of_le enough
                have left : readNumber (char :: (tail ++ more)) = some (number, left ++ more) :=
                  continued (stopped.resolve_right (not_object other)) more
                rw [List.cons_append, parseValue_numeric nearest start, left, Option.bind_some, held]
                rfl

theorem continues_parse (fuel : Nat) :
    ValueContinues nearest fuel ∧ ItemsContinue nearest fuel ∧ MembersContinue nearest fuel := by
  induction fuel with
  | zero =>
      refine ⟨?_, ?_, ?_⟩
      · intro source value rest read
        cases read
      · intro source items rest read
        cases read
      · intro source members rest read
        cases read
  | succ fuel inductionHypothesis =>
      obtain ⟨values, items, members⟩ := inductionHypothesis
      exact ⟨valueContinues_succ items members, itemsContinue_succ values items,
        membersContinue_succ values members⟩

/-! ### Objects -/

/-- A text that is an object as a whole. -/
structure IsObjectText (nearest : JsonNumber → Option JsonNumber) (text : List Char) : Prop where
  opens : text.head? = some '{'
  parses : ∃ fuel value, parseValue nearest fuel text = some (value, [])

variable {text : List Char}

theorem skipSpace_opened (opens : text.head? = some '{') : skipSpace text = text := by
  obtain ⟨tail, rfl⟩ := List.head?_eq_some_iff.mp opens
  exact skipSpace_of_head tail rfl

theorem isObjectText_textWith (order : MemberOrder) {members : List (String × Option Json)}
    (distinct : distinctKeys (.obj members) = true)
    (exact : exactNumbers nearest (.obj members) = true) :
    IsObjectText nearest (textWith order (.obj members)) := by
  have read := reads_text order distinct exact
    (2 * (textWith order (.obj members)).length + 1) [] (Nat.le_succ _) ends_nil
  rw [List.append_nil] at read
  exact { opens := by rw [textWith_obj]; rfl, parses := ⟨_, _, read⟩ }

theorem IsObjectText.rest_eq (isObject : IsObjectText nearest text)
    {start more rest : List Char} {fuel : Nat} {value : Json}
    (split : start ++ more = text) (opens : start.head? = some '{')
    (read : parseValue nearest fuel start = some (value, rest)) : rest = [] ∧ more = [] := by
  obtain ⟨whole, found, parses⟩ := isObject.parses
  have first := ((continues_parse fuel).1 _ _ _ read).2.2 (Or.inr opens) more (max fuel whole)
    (Nat.le_max_left _ _)
  have second := ((continues_parse whole).1 _ _ _ parses).2.2 (Or.inr isObject.opens) []
    (max fuel whole) (Nat.le_max_right _ _)
  rw [List.append_nil] at second
  rw [split, second] at first
  have left := (Prod.mk.inj (Option.some.inj first)).2
  exact List.append_eq_nil_iff.mp left.symm

theorem jsonParse_of_unread {source : List Char} (opens : source.head? = some '{')
    (unread : ∀ fuel value rest, parseValue nearest fuel source = some (value, rest) →
      skipSpace rest ≠ []) : jsonParse nearest (String.ofList source) = none := by
  rw [jsonParse, String.toList_ofList, skipSpace_opened opens]
  cases read : parseValue nearest (2 * source.length + 1) source with
  | none => rfl
  | some pair =>
      obtain ⟨value, rest⟩ := pair
      simp only [if_neg (unread _ value rest read)]

theorem head?_of_start {start : List Char} (isStart : start <+: text) (nonempty : start ≠ []) :
    start.head? = text.head? := by
  obtain ⟨more, rfl⟩ := isStart
  exact (List.head?_append_of_ne_nil start nonempty).symm

theorem IsObjectText.prefix_unparsed (isObject : IsObjectText nearest text)
    {start : List Char} (isStart : start <+: text) (nonempty : start ≠ [])
    (proper : start ≠ text) : jsonParse nearest (String.ofList start) = none := by
  have opens := (head?_of_start isStart nonempty).trans isObject.opens
  obtain ⟨more, split⟩ := isStart
  apply jsonParse_of_unread opens
  intro fuel value rest read
  obtain ⟨-, noMore⟩ := isObject.rest_eq split opens read
  rw [noMore, List.append_nil] at split
  exact absurd split proper

theorem IsObjectText.append_unparsed (isObject : IsObjectText nearest text)
    {more : List Char} (visible : skipSpace more ≠ []) :
    jsonParse nearest (String.ofList (text ++ more)) = none := by
  have opens : (text ++ more).head? = some '{' := by
    rw [List.head?_append, isObject.opens, Option.some_or]
  apply jsonParse_of_unread opens
  intro fuel value rest read
  obtain ⟨whole, found, parses⟩ := isObject.parses
  have first := ((continues_parse fuel).1 _ _ _ read).2.2 (Or.inr opens) [] (max fuel whole)
    (Nat.le_max_left _ _)
  have second := ((continues_parse whole).1 _ _ _ parses).2.2 (Or.inr isObject.opens) more
    (max fuel whole) (Nat.le_max_right _ _)
  rw [List.append_nil, second] at first
  have left := (Prod.mk.inj (Option.some.inj first)).2
  rw [List.append_nil] at left
  rw [← left]
  exact visible

/-- A text that opens an object and ends in neither a brace nor a space is not JSON. -/
theorem unparsed_of_last {source : List Char} {last : Char}
    (opens : (source ++ [last]).head? = some '{') (notBrace : last ≠ '}')
    (visible : isJsonSpace last = false) :
    jsonParse nearest (String.ofList (source ++ [last])) = none := by
  apply jsonParse_of_unread opens
  intro fuel value rest read blank
  have braced := ((continues_parse fuel).1 _ _ _ read).2.1 opens
  obtain ⟨front, split⟩ := braced
  rcases List.eq_nil_or_concat rest with rfl | ⟨before, final, rfl⟩
  · have same := List.append_inj_right' split rfl
    exact notBrace (List.cons.inj same).1.symm
  · rw [List.concat_eq_append, ← List.cons_append, ← List.append_assoc] at split
    have same := (List.cons.inj (List.append_inj_right' split rfl)).1
    rw [same, List.concat_eq_append, skipSpace] at blank
    have spaces := List.dropWhile_eq_nil_iff.mp blank last (List.mem_append_right _ List.mem_cons_self)
    rw [visible] at spaces
    cases spaces

theorem IsObjectText.torn_unparsed (isObject : IsObjectText nearest text) {torn : List UInt8}
    (cut : torn <+: Utf8Stream.utf8 text) (proper : torn ≠ Utf8Stream.utf8 text) :
    jsonParse nearest (String.ofList (Utf8Stream.decode torn)) = none := by
  by_cases nothing : torn = []
  · rw [nothing]
    rfl
  · have inText := Utf8Stream.written_of_prefix cut
    obtain ⟨tail, opens⟩ := List.head?_eq_some_iff.mp isObject.opens
    have brace : String.utf8EncodeChar '\x7b' = [123] := by decide
    have start := cut
    rw [opens] at start
    obtain ⟨rest, read⟩ := Utf8Stream.written_opens brace start nothing
    rcases List.eq_nil_or_concat' (Utf8Stream.replaced (Utf8Stream.held torn)) with
      whole | ⟨front, last, split⟩
    · rw [Utf8Stream.decode, whole, List.append_nil]
      apply isObject.prefix_unparsed inText
      · rw [read]
        exact List.cons_ne_nil _ _
      · intro same
        exact proper (Utf8Stream.eq_utf8_of_written cut same (Utf8Stream.replaced_eq_nil whole))
    · have isReplaced : last = Utf8Stream.replacement := by
        apply Utf8Stream.mem_replaced
        rw [split]
        exact List.mem_append_right _ List.mem_cons_self
      rw [Utf8Stream.decode, split, ← List.append_assoc, isReplaced]
      apply unparsed_of_last
      · rw [read]
        rfl
      · decide
      · decide

end

end JsonText
