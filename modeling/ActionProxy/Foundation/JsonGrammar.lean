import Mathlib.Data.List.Nodup

/-!
The grammar of JSON over code units: the texts of a document, the names and values they
spell, and the objects at any depth of one. A string may spell half a surrogate pair, so
names are lists of code units and not strings.
-/

namespace JsonGrammar

/-- A code unit of a text. -/
abbrev CodeUnit := Nat

abbrev unit (char : Char) : CodeUnit := char.toNat

def units (text : String) : List CodeUnit := text.toList.map unit

/-! ### Tokens -/

def isBlank (code : CodeUnit) : Bool :=
  code == unit ' ' || code == unit '\t' || code == unit '\n' || code == unit '\r'

/-- Insignificant space. -/
def Blanks (text : List CodeUnit) : Prop := ∀ code ∈ text, isBlank code = true

theorem blanks_nil : Blanks [] := by
  intro code member
  cases member

def isDigit (code : CodeUnit) : Bool := decide (unit '0' ≤ code) && decide (code ≤ unit '9')

def Digits (text : List CodeUnit) : Prop := ∀ code ∈ text, isDigit code = true

def hexDigit? (code : CodeUnit) : Option Nat :=
  if isDigit code then some (code - unit '0')
  else if unit 'a' ≤ code ∧ code ≤ unit 'f' then some (code - unit 'a' + 10)
  else if unit 'A' ≤ code ∧ code ≤ unit 'F' then some (code - unit 'A' + 10)
  else none

/-- The code unit of `\uXXXX`. -/
def hexCode? (first second third fourth : CodeUnit) : Option CodeUnit := do
  let first ← hexDigit? first
  let second ← hexDigit? second
  let third ← hexDigit? third
  let fourth ← hexDigit? fourth
  return ((first * 16 + second) * 16 + third) * 16 + fourth

/-- The code unit of a two-character escape. -/
def escape? (code : CodeUnit) : Option CodeUnit :=
  if code = unit '"' ∨ code = unit '\\' ∨ code = unit '/' then some code
  else if code = unit 'b' then some 8
  else if code = unit 'f' then some 12
  else if code = unit 'n' then some 10
  else if code = unit 'r' then some 13
  else if code = unit 't' then some 9
  else none

/-- What stands between two quotes, and the name it spells. -/
inductive Spells : List CodeUnit → List CodeUnit → Prop
  | nil : Spells [] []
  | plain {code : CodeUnit} {text name : List CodeUnit} :
      0x20 ≤ code → code ≠ unit '"' → code ≠ unit '\\' → Spells text name →
      Spells (code :: text) (code :: name)
  | escape {code value : CodeUnit} {text name : List CodeUnit} :
      escape? code = some value → Spells text name →
      Spells (unit '\\' :: code :: text) (value :: name)
  | hex {first second third fourth value : CodeUnit} {text name : List CodeUnit} :
      hexCode? first second third fourth = some value → Spells text name →
      Spells (unit '\\' :: unit 'u' :: first :: second :: third :: fourth :: text) (value :: name)

/-- A text between quotes. -/
def quoted (text : List CodeUnit) : List CodeUnit := unit '"' :: (text ++ [unit '"'])

/-- The digits before the point: a zero alone, or digits that start with another. -/
inductive Whole : List CodeUnit → Prop
  | zero : Whole [unit '0']
  | digits {head : CodeUnit} {tail : List CodeUnit} :
      isDigit head = true → head ≠ unit '0' → Digits tail → Whole (head :: tail)

inductive Fraction : List CodeUnit → Prop
  | absent : Fraction []
  | digits {text : List CodeUnit} : text ≠ [] → Digits text → Fraction (unit '.' :: text)

inductive Sign : List CodeUnit → Prop
  | absent : Sign []
  | plus : Sign [unit '+']
  | minus : Sign [unit '-']

inductive Exponent : List CodeUnit → Prop
  | absent : Exponent []
  | digits {mark : CodeUnit} {sign text : List CodeUnit} :
      mark = unit 'e' ∨ mark = unit 'E' → Sign sign → text ≠ [] → Digits text →
      Exponent (mark :: (sign ++ text))

inductive Number : List CodeUnit → Prop
  | positive {whole fraction exponent : List CodeUnit} :
      Whole whole → Fraction fraction → Exponent exponent →
      Number (whole ++ (fraction ++ exponent))
  | negative {whole fraction exponent : List CodeUnit} :
      Whole whole → Fraction fraction → Exponent exponent →
      Number (unit '-' :: (whole ++ (fraction ++ exponent)))

/-! ### Values -/

/-- What a text spells, as far as names are concerned: a scalar is its text. -/
inductive Tree where
  | scalar (text : List CodeUnit)
  | array (items : List Tree)
  | object (members : List (List CodeUnit × Tree))

mutual

/-- The text of a value, from its first character to its last. -/
inductive Value : List CodeUnit → Tree → Prop
  | trueWord : Value (units "true") (.scalar (units "true"))
  | falseWord : Value (units "false") (.scalar (units "false"))
  | nullWord : Value (units "null") (.scalar (units "null"))
  | number {text : List CodeUnit} : Number text → Value text (.scalar text)
  | string {text name : List CodeUnit} :
      Spells text name → Value (quoted text) (.scalar (quoted text))
  | emptyArray {space : List CodeUnit} :
      Blanks space → Value (unit '[' :: (space ++ [unit ']'])) (.array [])
  | array {space text : List CodeUnit} {items : List Tree} :
      Blanks space → Items text items →
      Value (unit '[' :: (space ++ (text ++ [unit ']']))) (.array items)
  | emptyObject {space : List CodeUnit} :
      Blanks space → Value (unit '{' :: (space ++ [unit '}'])) (.object [])
  | object {space text : List CodeUnit} {members : List (List CodeUnit × Tree)} :
      Blanks space → Members text members →
      Value (unit '{' :: (space ++ (text ++ [unit '}']))) (.object members)

/-- The items of an array, from the first one to the closing bracket. -/
inductive Items : List CodeUnit → List Tree → Prop
  | last {text after : List CodeUnit} {item : Tree} :
      Value text item → Blanks after → Items (text ++ after) [item]
  | next {text after before rest : List CodeUnit} {item : Tree} {items : List Tree} :
      Value text item → Blanks after → Blanks before → Items rest items →
      Items (text ++ (after ++ unit ',' :: (before ++ rest))) (item :: items)

/-- The members of an object, from the first one to the closing brace. -/
inductive Members : List CodeUnit → List (List CodeUnit × Tree) → Prop
  | last {text after : List CodeUnit} {member : List CodeUnit × Tree} :
      Member text member → Blanks after → Members (text ++ after) [member]
  | next {text after before rest : List CodeUnit} {member : List CodeUnit × Tree}
      {members : List (List CodeUnit × Tree)} :
      Member text member → Blanks after → Blanks before → Members rest members →
      Members (text ++ (after ++ unit ',' :: (before ++ rest))) (member :: members)

inductive Member : List CodeUnit → List CodeUnit × Tree → Prop
  | mk {spelled name before after text : List CodeUnit} {value : Tree} :
      Spells spelled name → Blanks before → Blanks after → Value text value →
      Member (quoted spelled ++ (before ++ unit ':' :: (after ++ text))) (name, value)

end

namespace Tree

/-- A value at some depth of another. -/
inductive Within (value : Tree) : Tree → Prop
  | here : Within value value
  | item {items : List Tree} {item : Tree} :
      item ∈ items → Within value item → Within value (.array items)
  | member {members : List (List CodeUnit × Tree)} {member : List CodeUnit × Tree} :
      member ∈ members → Within value member.2 → Within value (.object members)

end Tree

/-! ### What a text starts with -/

/-- The characters that a value may start with. -/
def startsValue (code : CodeUnit) : Bool :=
  code == unit '{' || code == unit '[' || code == unit '"' || code == unit 't' ||
    code == unit 'f' || code == unit 'n' || code == unit '-' || isDigit code

/-- The characters that a value may be followed by. -/
def endsValue (code : CodeUnit) : Bool :=
  isBlank code || code == unit ',' || code == unit ']' || code == unit '}'

/-- What a value is followed by in a document: nothing, or a character that ends it. -/
def Ends (rest : List CodeUnit) : Prop := ∀ code ∈ rest.head?, endsValue code = true

theorem Number.head {text : List CodeUnit} (number : Number text) :
    ∃ head tail, text = head :: tail ∧ (head = unit '-' ∨ isDigit head = true) := by
  cases number with
  | positive whole =>
      cases whole with
      | zero => exact ⟨_, _, rfl, Or.inr (by decide)⟩
      | digits digit => exact ⟨_, _, rfl, Or.inr digit⟩
  | negative => exact ⟨_, _, rfl, Or.inl rfl⟩

theorem Value.head {text : List CodeUnit} {value : Tree} (spelled : Value text value) :
    ∃ head tail, text = head :: tail ∧ startsValue head = true := by
  cases spelled with
  | trueWord => exact ⟨unit 't', units "rue", rfl, by decide⟩
  | falseWord => exact ⟨unit 'f', units "alse", rfl, by decide⟩
  | nullWord => exact ⟨unit 'n', units "ull", rfl, by decide⟩
  | number number =>
      obtain ⟨head, tail, rfl, rfl | digit⟩ := number.head
      · exact ⟨_, _, rfl, by decide⟩
      · exact ⟨_, _, rfl, by simp [startsValue, digit]⟩
  | string => exact ⟨_, _, rfl, by decide⟩
  | emptyArray => exact ⟨_, _, rfl, by decide⟩
  | array => exact ⟨_, _, rfl, by decide⟩
  | emptyObject => exact ⟨_, _, rfl, by decide⟩
  | object => exact ⟨_, _, rfl, by decide⟩

theorem Items.head {text : List CodeUnit} {items : List Tree} (spelled : Items text items) :
    ∃ head tail, text = head :: tail ∧ startsValue head = true := by
  cases spelled with
  | last value =>
      obtain ⟨head, tail, rfl, starts⟩ := value.head
      exact ⟨_, _, rfl, starts⟩
  | next value =>
      obtain ⟨head, tail, rfl, starts⟩ := value.head
      exact ⟨_, _, rfl, starts⟩

theorem Member.head {text : List CodeUnit} {member : List CodeUnit × Tree}
    (spelled : Member text member) : ∃ tail, text = unit '"' :: tail := by
  cases spelled
  exact ⟨_, rfl⟩

theorem Members.head {text : List CodeUnit} {members : List (List CodeUnit × Tree)}
    (spelled : Members text members) : ∃ tail, text = unit '"' :: tail := by
  cases spelled with
  | last member =>
      obtain ⟨tail, rfl⟩ := member.head
      exact ⟨_, rfl⟩
  | next member =>
      obtain ⟨tail, rfl⟩ := member.head
      exact ⟨_, rfl⟩

theorem ends_nil : Ends [] := by
  intro code member
  cases member

theorem ends_cons {code : CodeUnit} (rest : List CodeUnit) (ends : endsValue code = true) :
    Ends (code :: rest) := by
  intro other member
  cases member
  exact ends

theorem Blanks.ends {space rest : List CodeUnit} (blanks : Blanks space) (ends : Ends rest) :
    Ends (space ++ rest) := by
  cases space with
  | nil => exact ends
  | cons code tail =>
      refine ends_cons _ ?_
      rw [endsValue, blanks code List.mem_cons_self]
      rfl

end JsonGrammar
