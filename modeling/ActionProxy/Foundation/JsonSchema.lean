import ActionProxy.Foundation.LooseValue
import ActionProxy.Foundation.SortedText

/-!
JSON schemas: the keywords of draft 2020-12 that closed formats are written in, which values a
schema accepts, and what of a value its `properties` list. A keyword says nothing of the values
it is not about; a schema of several keywords asks for all of them.
-/

namespace JsonText

/-- Some characters of a class, as `[class]{least,most}`. -/
structure PatternRun where
  allowed : Char → Bool
  least : Nat
  most : Nat

/-- The runs one after the other, from the first character to the last. -/
def matchesRuns : List PatternRun → List Char → Bool
  | [], text => text.isEmpty
  | run :: rest, text =>
      (List.range (run.most + 1)).any fun count =>
        decide (run.least ≤ count) && decide (count ≤ text.length) &&
          (text.take count).all run.allowed && matchesRuns rest (text.drop count)

inductive JsonKind where
  | object | array | string | number | integer | boolean | null

/-- An integer is a number without a fraction. -/
def JsonKind.holds : JsonKind → Json → Bool
  | .object, .obj _ => true
  | .array, .arr _ => true
  | .string, .str _ => true
  | .number, .num _ => true
  | .integer, .num decimal => decide (0 ≤ decimal.exponent)
  | .boolean, .bool _ => true
  | .null, .null => true
  | _, _ => false

/-- The texts of equal values, whatever order their members are in. -/
def keyOrder : MemberOrder := sortedOrder (fun left right => decide (left ≤ right))

inductive JsonSchema where
  | anything
  | nothing
  | type (kind : JsonKind)
  | enum (texts : List String)
  | const (text : String)
  | minLength (least : Nat)
  | pattern (runs : List PatternRun)
  | minimum (least : Int)
  | maximum (most : Int)
  | minItems (least : Nat)
  | maxItems (most : Nat)
  | uniqueItems
  | items (item : JsonSchema)
  | required (names : List String)
  /-- `properties` and the `additionalProperties` beside it. -/
  | properties (listed : List (String × JsonSchema)) (additional : JsonSchema)
  | allOf (parts : List JsonSchema)
  | oneOf (branches : List JsonSchema)
  | ifThen (test consequence : JsonSchema)

namespace JsonSchema

mutual

def accepts : JsonSchema → Json → Bool
  | .anything, _ => true
  | .nothing, _ => false
  | .type kind, value => kind.holds value
  | .enum texts, value => texts.any (equalsText (some value))
  | .const text, value => equalsText (some value) text
  | .minLength least, .str text => decide (least ≤ text.length)
  | .pattern runs, .str text => matchesRuns runs text.toList
  | .minimum least, .num number => !number.less (JsonNumber.ofInt least)
  | .maximum most, .num number => !(JsonNumber.ofInt most).less number
  | .minItems least, .arr list => decide (least ≤ list.length)
  | .maxItems most, .arr list => decide (list.length ≤ most)
  | .uniqueItems, .arr list => decide (list.map (textWith keyOrder)).Nodup
  | .items item, .arr list => list.all (accepts item)
  | .required names, .obj members => names.all (fun name => (member? members name).isSome)
  | .properties listed additional, .obj members =>
      acceptsListed listed members &&
        (definedMembers members).all (fun member =>
          (listed.map Prod.fst).contains member.1 || accepts additional member.2)
  | .allOf parts, value => acceptsAll parts value
  | .oneOf branches, value => accepting branches value == 1
  | .ifThen test consequence, value => !accepts test value || accepts consequence value
  | _, _ => true

/-- The members that `properties` lists pass the schemas it lists for them. -/
def acceptsListed : List (String × JsonSchema) → List (String × Option Json) → Bool
  | [], _ => true
  | (name, schema) :: rest, members =>
      (member? members name).all (accepts schema) && acceptsListed rest members

def acceptsAll : List JsonSchema → Json → Bool
  | [], _ => true
  | part :: rest, value => accepts part value && acceptsAll rest value

/-- How many of the branches accept the value. -/
def accepting : List JsonSchema → Json → Nat
  | [], _ => 0
  | branch :: rest, value => (accepts branch value).toNat + accepting rest value

end

/-- What of a value is listed: all of it, the members of these names, or of every member what
its own outline lists. -/
inductive Outline where
  | whole
  | listed (members : List (String × Outline))
  | each (member : Outline)

/-- The first outline that is not the whole value. -/
def Outline.orElse : Outline → Outline → Outline
  | .whole, other => other
  | outline, _ => outline

mutual

/-- The members under `properties`. An object of which none are listed holds members of any
name, each as `additionalProperties` has it. -/
def outline : JsonSchema → Outline
  | .properties [] additional => .each (outline additional)
  | .properties (entry :: rest) _ => .listed (outlineListed (entry :: rest))
  | .allOf parts => outlineAny parts
  | .oneOf branches => outlineAny branches
  | _ => .whole

def outlineListed : List (String × JsonSchema) → List (String × Outline)
  | [] => []
  | (name, schema) :: rest => (name, outline schema) :: outlineListed rest

def outlineAny : List JsonSchema → Outline
  | [] => .whole
  | part :: rest => (outline part).orElse (outlineAny rest)

end

end JsonSchema

namespace JsonSchema.Outline

mutual

/-- The value with nothing but what is listed. In an object of members of any name, one name
is never kept. -/
def cut (reserved : String) : Outline → Json → Json
  | .listed entries, .obj members => .obj (cutListed reserved entries members)
  | .each outline, .obj members =>
      .obj ((members.filter (fun member => member.1 != reserved)).map
        (fun member => (member.1, member.2.map (cut reserved outline))))
  | _, value => value

def cutListed (reserved : String) :
    List (String × Outline) → List (String × Option Json) → List (String × Option Json)
  | [], _ => []
  | (name, outline) :: rest, members =>
      (name, (member? members name).map (cut reserved outline)) ::
        cutListed reserved rest members

end

/-- An absent member takes its `default`. -/
def withDefault (name : String) (value : Json) : Json → Json
  | .obj members => .obj (members.map (fun member =>
      if member.1 = name then (name, some (member.2.getD value)) else member))
  | other => other

end JsonSchema.Outline

end JsonText
