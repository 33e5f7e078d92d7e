import ActionProxy.Foundation.JsonValue

/-!
Values as the language reads them when nothing is known of their type: an absent value
or any JSON value. Reading a property of an absent value or `null` throws.
-/

namespace JsonText

/-- What is thrown: an error of a class, or any other value, by its text. -/
inductive Thrown where
  | error (className message : String)
  | value (text : String)
deriving DecidableEq, Repr

/-- `error instanceof Error ? error.message : String(error)`. -/
def errorMessage : Thrown → String
  | .error _ message => message
  | .value text => text

def Thrown.instanceOf : Thrown → String → Bool
  | .error className _, expected => className == expected
  | .value _, _ => false

/-- `value.key`. -/
def property (value : Option Json) (key : String) : Except Thrown (Option Json) :=
  match value with
  | none =>
      .error (.error "TypeError"
        ("Cannot read properties of undefined (reading '" ++ key ++ "')"))
  | some .null =>
      .error (.error "TypeError" ("Cannot read properties of null (reading '" ++ key ++ "')"))
  | some value => .ok (field? value key)

/-- `value?.key`. -/
def optionalProperty (value : Option Json) (key : String) : Option Json :=
  value.bind (field? · key)

/-- `first ?? second`. -/
def orElse (first second : Option Json) : Option Json :=
  match first with
  | none => second
  | some .null => second
  | some value => some value

/-- `value === text`. -/
def equalsText (value : Option Json) (text : String) : Bool :=
  match value with
  | some (.str other) => other == text
  | _ => false

/-- `Boolean(value)`. -/
def truthy : Option Json → Bool
  | none => false
  | some .null => false
  | some (.bool value) => value
  | some (.num number) => number != JsonNumber.zero
  | some (.str text) => text != ""
  | some _ => true

/-- `typeof value === 'object' && value !== null && !Array.isArray(value)`. -/
def asRecord? : Option Json → Option (List (String × Option Json))
  | some (.obj members) => some members
  | _ => none

/-- `typeof value`, of a value that is there. -/
def typeOf : Json → String
  | .str _ => "string"
  | .num _ => "number"
  | .bool _ => "boolean"
  | .null | .arr _ | .obj _ => "object"

def Number.MAX_SAFE_INTEGER : Nat := 9007199254740991

/-- `Number.isSafeInteger`. -/
def isSafeInteger (number : JsonNumber) : Bool :=
  decide (0 ≤ number.exponent) &&
    decide (number.significand * 10 ^ number.exponent.toNat ≤ Number.MAX_SAFE_INTEGER)

mutual

/-- `String(value)`. -/
def spelled : Json → String
  | .null => "null"
  | .bool value => if value then "true" else "false"
  | .num number => String.ofList number.text
  | .str text => text
  | .arr items => String.intercalate "," (spelledItems items)
  | .obj _ => "[object Object]"

def spelledItems : List Json → List String
  | [] => []
  | .null :: rest => "" :: spelledItems rest
  | item :: rest => spelled item :: spelledItems rest

end

/-- `${value}`. -/
def inTemplate : Option Json → String
  | none => "undefined"
  | some value => spelled value

end JsonText
