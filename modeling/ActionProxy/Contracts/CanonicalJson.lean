import ActionProxy.Contracts.ActionRequest
import ActionProxy.Foundation.JsonParse

/-!
The canonical serializer on any value of the language: what it refuses and where,
and that the text of an accepted value is a faithful encoding of it. Which
decimals are numbers of the language is a parameter.
-/

namespace ActionProxy

open JsonText

/-- A number of the language. -/
inductive JsNumber (nearest : JsonNumber → Option JsonNumber) where
  | finite (value : JsonNumber) (held : nearest value = some value)
  | negativeZero (held : nearest JsonNumber.zero = some JsonNumber.zero)
  | infinite (negative : Bool)
  | notANumber

/-- What is neither an object nor a primitive of JSON. -/
inductive Unsupported where
  | function
  | symbol
  | bigint
  deriving DecidableEq

def Unsupported.typeof : Unsupported → String
  | .function => "function"
  | .symbol => "symbol"
  | .bigint => "bigint"

/-- A value of the language. An array may have holes; an object knows whether its
prototype is plain; both know whether they have symbol keys. A value inside
itself is a cycle where it comes back. -/
inductive JsValue (nearest : JsonNumber → Option JsonNumber) where
  | undefined
  | null
  | bool (value : Bool)
  | num (value : JsNumber nearest)
  | str (value : String)
  | unsupported (kind : Unsupported)
  | cycle
  | arr (symbols : Bool) (items : List (Option (JsValue nearest)))
  | obj (plain symbols : Bool) (members : List (String × JsValue nearest))

/-! ### The order of keys -/

/-- Surrogate halves are no characters, so the units are read back one character at a time. -/
theorem codeUnits_injective {left right : String} (same : codeUnits left = codeUnits right) :
    left = right := by
  have chars : ∀ {first second : List Char},
      codeUnits (String.ofList first) = codeUnits (String.ofList second) → first = second := by
    intro first
    induction first with
    | nil =>
        intro second same
        cases second with
        | nil => rfl
        | cons head tail =>
            simp only [codeUnits, String.toList_ofList, List.flatMap_cons, List.flatMap_nil] at same
            split at same <;> simp at same
    | cons head tail ih =>
        intro second same
        cases second with
        | nil =>
            simp only [codeUnits, String.toList_ofList, List.flatMap_cons, List.flatMap_nil] at same
            split at same <;> simp at same
        | cons other others =>
            have headScalar : head.toNat < 0xD800 ∨ 0xDFFF < head.toNat ∧ head.toNat < 0x110000 :=
              head.valid
            have otherScalar :
                other.toNat < 0xD800 ∨ 0xDFFF < other.toNat ∧ other.toNat < 0x110000 :=
              other.valid
            simp only [codeUnits, String.toList_ofList] at ih same
            simp only [List.flatMap_cons] at same
            split at same <;> split at same <;>
              simp only [List.cons_append, List.nil_append, List.cons.injEq] at same
            · rw [ih same.2, Char.toNat_inj.mp same.1]
            · omega
            · omega
            · obtain ⟨high, low, rest⟩ := same
              rw [ih rest, Char.toNat_inj.mp (show head.toNat = other.toNat by omega)]
  apply String.toList_inj.mp
  apply chars
  rw [String.ofList_toList, String.ofList_toList, same]

theorem codeUnitsLe_preorder : TotalPreorder codeUnitsLe := by
  constructor
  · intro left right
    simp only [codeUnitsLe, Bool.not_eq_true', decide_eq_false_iff_not, not_lt]
    exact le_total _ _
  · intro first second third
    simp only [codeUnitsLe, Bool.not_eq_true', decide_eq_false_iff_not, not_lt]
    exact le_trans

theorem codeUnitsLe_antisymm (left right : String) (forward : codeUnitsLe left right = true)
    (backward : codeUnitsLe right left = true) : left = right := by
  simp only [codeUnitsLe, Bool.not_eq_true', decide_eq_false_iff_not, not_lt] at forward backward
  exact codeUnits_injective (le_antisymm forward backward)

namespace JsValue

variable {nearest : JsonNumber → Option JsonNumber}

/-! ### Serializing -/

/-- The texts of a list of members, in order, or the first error among them. -/
def memberEntries :
    List (String × Except String (List Char)) → Except String (List (String × List Char))
  | [] => .ok []
  | (key, text) :: rest => do
      let text ← text
      let rest ← memberEntries rest
      return (key, text) :: rest

mutual

/-- The text of a value, or the message of a `CanonicalizationError`. -/
def serializeCanonicalJson (path : String) : JsValue nearest → Except String (List Char)
  | null => .ok (textWith codeUnitOrder .null)
  | str value => .ok (textWith codeUnitOrder (.str value))
  | bool value => .ok (textWith codeUnitOrder (.bool value))
  | num (.finite value _) => .ok (textWith codeUnitOrder (.num value))
  | num (.negativeZero _) => .ok (textWith codeUnitOrder (.num JsonNumber.zero))
  | num (.infinite _) => .error ("Non-finite number at " ++ path ++ ".")
  | num .notANumber => .error ("Non-finite number at " ++ path ++ ".")
  | undefined => .error ("Undefined value at " ++ path ++ ".")
  | unsupported kind => .error ("Unsupported " ++ kind.typeof ++ " value at " ++ path ++ ".")
  | cycle => .error ("Cyclic value at " ++ path ++ ".")
  | arr symbols items =>
      if symbols then .error ("Symbol-keyed property at " ++ path ++ ".")
      else do
        let texts ← serializeItems path 0 items
        return '[' :: (commaSeparated texts ++ [']'])
  | obj plain symbols members =>
      if symbols then .error ("Symbol-keyed property at " ++ path ++ ".")
      else if !plain then .error ("Non-plain object at " ++ path ++ ".")
      else do
        let entries ← memberEntries (codeUnitOrder.arrange (serializeMembers path members))
        return '\x7b' :: (commaSeparated (entries.map entryText) ++ ['\x7d'])

def serializeItems (path : String) (index : Nat) :
    List (Option (JsValue nearest)) → Except String (List (List Char))
  | [] => .ok []
  | none :: _ =>
      .error ("Sparse array element at " ++ path ++ "[" ++ toString index ++ "].")
  | some item :: rest => do
      let text ← serializeCanonicalJson (path ++ "[" ++ toString index ++ "]") item
      let texts ← serializeItems path (index + 1) rest
      return text :: texts

/-- Every member that is not undefined, with what its value serializes to. -/
def serializeMembers (path : String) :
    List (String × JsValue nearest) → List (String × Except String (List Char))
  | [] => []
  | (_, undefined) :: rest => serializeMembers path rest
  | (key, value) :: rest =>
      (key, serializeCanonicalJson (path ++ "." ++ key) value) :: serializeMembers path rest

end

def canonicalJsonStringify (value : JsValue nearest) : Except String String :=
  (serializeCanonicalJson "$" value).map String.ofList

/-! ### The JSON value -/

mutual

/-- The value as JSON, negative zero as zero; nothing when it is not JSON. -/
def json? : JsValue nearest → Option Json
  | null => some .null
  | bool value => some (.bool value)
  | num (.finite value _) => some (.num value)
  | num (.negativeZero _) => some (.num JsonNumber.zero)
  | str value => some (.str value)
  | arr false items => (jsonItems? items).map .arr
  | obj true false members => (jsonMembers? members).map .obj
  | _ => none

def jsonItems? : List (Option (JsValue nearest)) → Option (List Json)
  | [] => some []
  | none :: _ => none
  | some item :: rest => do
      let item ← json? item
      let rest ← jsonItems? rest
      return item :: rest

def jsonMembers? : List (String × JsValue nearest) → Option (List (String × Option Json))
  | [] => some []
  | (key, undefined) :: rest => (jsonMembers? rest).map ((key, none) :: ·)
  | (key, value) :: rest => do
      let value ← json? value
      let rest ← jsonMembers? rest
      return (key, some value) :: rest

end

/-! ### What is accepted -/

theorem memberEntries_ok (entries : List (String × List Char)) :
    memberEntries (entries.map (Prod.map id Except.ok)) = .ok entries := by
  induction entries with
  | nil => rfl
  | cons entry rest ih =>
      rw [List.map_cons, Prod.map, memberEntries, ih]
      rfl

theorem ok_of_memberEntries {members : List (String × Except String (List Char))}
    {entries : List (String × List Char)} (all : memberEntries members = .ok entries) :
    members = entries.map (Prod.map id Except.ok) := by
  induction members generalizing entries with
  | nil =>
      cases all
      rfl
  | cons member rest ih =>
      obtain ⟨key, text⟩ := member
      cases text with
      | error message => cases all
      | ok text =>
          cases others : memberEntries rest with
          | error message =>
              rw [memberEntries, others] at all
              cases all
          | ok more =>
              rw [memberEntries, others] at all
              cases all
              rw [ih others]
              rfl

theorem jsonItems?_cons {item : JsValue nearest} {rest : List (Option (JsValue nearest))}
    {parts : List Json} :
    jsonItems? (some item :: rest) = some parts ↔
      ∃ part others, json? item = some part ∧ jsonItems? rest = some others ∧
        parts = part :: others := by
  rw [jsonItems?]
  cases json? item with
  | none => simp
  | some part =>
      cases jsonItems? rest with
      | none => simp
      | some others => simp [eq_comm]

theorem jsonMembers?_undefined {key : String} {rest : List (String × JsValue nearest)}
    {parts : List (String × Option Json)} :
    jsonMembers? ((key, undefined) :: rest) = some parts ↔
      ∃ others, jsonMembers? rest = some others ∧ parts = (key, none) :: others := by
  rw [jsonMembers?, Option.map_eq_some_iff]
  simp only [eq_comm]

theorem jsonMembers?_cons {key : String} {value : JsValue nearest} (defined : value ≠ undefined)
    {rest : List (String × JsValue nearest)} {parts : List (String × Option Json)} :
    jsonMembers? ((key, value) :: rest) = some parts ↔
      ∃ part others, json? value = some part ∧ jsonMembers? rest = some others ∧
        parts = (key, some part) :: others := by
  rw [jsonMembers?]
  · cases json? value with
    | none => simp
    | some part =>
        cases jsonMembers? rest with
        | none => simp
        | some others => simp [eq_comm]
  · exact defined

theorem serializeMembers_cons (path key : String) {value : JsValue nearest}
    (defined : value ≠ undefined) (rest : List (String × JsValue nearest)) :
    serializeMembers path ((key, value) :: rest) =
      (key, serializeCanonicalJson (path ++ "." ++ key) value) :: serializeMembers path rest := by
  rw [serializeMembers]
  exact defined

mutual

/-- A JSON value serializes to its text with members in the order of their keys. -/
theorem serialize_of_json (path : String) (value : JsValue nearest) {json : Json}
    (read : json? value = some json) :
    serializeCanonicalJson path value = .ok (textWith codeUnitOrder json) := by
  match value with
  | null =>
      cases read
      rfl
  | bool value =>
      cases read
      rfl
  | str value =>
      cases read
      rfl
  | num (.finite value held) =>
      cases read
      rfl
  | num (.negativeZero held) =>
      cases read
      rfl
  | num (.infinite negative) => cases read
  | num .notANumber => cases read
  | undefined => cases read
  | unsupported kind => cases read
  | cycle => cases read
  | arr true items => cases read
  | arr false items =>
      obtain ⟨parts, partsRead, rfl⟩ := Option.map_eq_some_iff.mp read
      rw [serializeCanonicalJson, serializeItems_of_json path 0 items partsRead, textWith_arr]
      rfl
  | obj true true members => cases read
  | obj false symbols members => cases read
  | obj true false members =>
      obtain ⟨parts, partsRead, rfl⟩ := Option.map_eq_some_iff.mp read
      rw [serializeCanonicalJson, serializeMembers_of_json path members partsRead,
        codeUnitOrder.natural, memberEntries_ok, textWith]
      rfl

theorem serializeItems_of_json (path : String) (index : Nat)
    (items : List (Option (JsValue nearest))) {parts : List Json}
    (read : jsonItems? items = some parts) :
    serializeItems path index items = .ok (parts.map (textWith codeUnitOrder)) := by
  match items with
  | [] =>
      cases read
      rfl
  | none :: rest => cases read
  | some item :: rest =>
      obtain ⟨part, others, partRead, othersRead, rfl⟩ := jsonItems?_cons.mp read
      rw [serializeItems, serialize_of_json _ item partRead,
        serializeItems_of_json path (index + 1) rest othersRead]
      rfl

theorem serializeMembers_of_json (path : String) (members : List (String × JsValue nearest))
    {parts : List (String × Option Json)} (read : jsonMembers? members = some parts) :
    serializeMembers path members =
      (memberTexts codeUnitOrder parts).map (Prod.map id Except.ok) := by
  match members with
  | [] =>
      cases read
      rfl
  | (key, value) :: rest =>
      by_cases undefinedValue : value = undefined
      · subst undefinedValue
        obtain ⟨others, othersRead, rfl⟩ := jsonMembers?_undefined.mp read
        rw [serializeMembers, memberTexts]
        exact serializeMembers_of_json path rest othersRead
      · obtain ⟨part, others, partRead, othersRead, rfl⟩ :=
          (jsonMembers?_cons undefinedValue).mp read
        rw [serializeMembers_cons path key undefinedValue, serialize_of_json _ value partRead,
          serializeMembers_of_json path rest othersRead]
        rfl

end

mutual

theorem json_of_serialize (path : String) (value : JsValue nearest) {text : List Char}
    (accepted : serializeCanonicalJson path value = .ok text) : ∃ json, json? value = some json := by
  match value with
  | null => exact ⟨.null, rfl⟩
  | bool value => exact ⟨.bool value, rfl⟩
  | str value => exact ⟨.str value, rfl⟩
  | num (.finite value held) => exact ⟨.num value, rfl⟩
  | num (.negativeZero held) => exact ⟨.num JsonNumber.zero, rfl⟩
  | num (.infinite negative) => cases accepted
  | num .notANumber => cases accepted
  | undefined => cases accepted
  | unsupported kind => cases accepted
  | cycle => cases accepted
  | arr true items => cases accepted
  | arr false items =>
      cases texts : serializeItems path 0 items with
      | error message =>
          rw [serializeCanonicalJson, texts] at accepted
          cases accepted
      | ok texts' =>
          obtain ⟨parts, read⟩ := jsonItems_of_serialize path 0 items texts
          exact ⟨.arr parts, by rw [json?, read]; rfl⟩
  | obj true true members => cases accepted
  | obj false true members => cases accepted
  | obj false false members => cases accepted
  | obj true false members =>
      cases entries : memberEntries (codeUnitOrder.arrange (serializeMembers path members)) with
      | error message =>
          rw [serializeCanonicalJson, entries] at accepted
          cases accepted
      | ok entries' =>
          have all : ∀ member ∈ serializeMembers path members, ∃ text, member.2 = .ok text := by
            intro member listed
            have arranged := (codeUnitOrder.perm _).mem_iff.mpr listed
            rw [ok_of_memberEntries entries] at arranged
            obtain ⟨entry, _, rfl⟩ := List.mem_map.mp arranged
            exact ⟨entry.2, rfl⟩
          obtain ⟨parts, read⟩ := jsonMembers_of_serialize path members all
          exact ⟨.obj parts, by rw [json?, read]; rfl⟩

theorem jsonItems_of_serialize (path : String) (index : Nat)
    (items : List (Option (JsValue nearest))) {texts : List (List Char)}
    (accepted : serializeItems path index items = .ok texts) :
    ∃ parts, jsonItems? items = some parts := by
  match items with
  | [] => exact ⟨[], rfl⟩
  | none :: rest => cases accepted
  | some item :: rest =>
      rw [serializeItems] at accepted
      cases text : serializeCanonicalJson (path ++ "[" ++ toString index ++ "]") item with
      | error message =>
          rw [text] at accepted
          cases accepted
      | ok text' =>
          cases others : serializeItems path (index + 1) rest with
          | error message =>
              rw [text, others] at accepted
              cases accepted
          | ok others' =>
              obtain ⟨part, partRead⟩ := json_of_serialize _ item text
              obtain ⟨parts, partsRead⟩ := jsonItems_of_serialize path (index + 1) rest others
              exact ⟨part :: parts, jsonItems?_cons.mpr ⟨part, parts, partRead, partsRead, rfl⟩⟩

theorem jsonMembers_of_serialize (path : String) (members : List (String × JsValue nearest))
    (all : ∀ member ∈ serializeMembers path members, ∃ text, member.2 = .ok text) :
    ∃ parts, jsonMembers? members = some parts := by
  match members with
  | [] => exact ⟨[], rfl⟩
  | (key, value) :: rest =>
      by_cases undefinedValue : value = undefined
      · subst undefinedValue
        rw [serializeMembers] at all
        obtain ⟨parts, read⟩ := jsonMembers_of_serialize path rest all
        exact ⟨(key, none) :: parts, jsonMembers?_undefined.mpr ⟨parts, read, rfl⟩⟩
      · rw [serializeMembers_cons path key undefinedValue] at all
        obtain ⟨text, accepted⟩ := all _ List.mem_cons_self
        obtain ⟨part, partRead⟩ := json_of_serialize _ value accepted
        obtain ⟨parts, read⟩ := jsonMembers_of_serialize path rest
          (fun member listed => all member (List.mem_cons_of_mem _ listed))
        exact ⟨(key, some part) :: parts,
          (jsonMembers?_cons undefinedValue).mpr ⟨part, parts, partRead, read, rfl⟩⟩

end

/-- Acceptance is being JSON, and the text is the text of the JSON value. -/
theorem canonicalJsonStringify_ok_iff {value : JsValue nearest} {text : String} :
    canonicalJsonStringify value = .ok text ↔
      ∃ json, json? value = some json ∧ text = ActionProxy.canonicalJsonStringify json := by
  constructor
  · intro accepted
    cases serialized : serializeCanonicalJson "$" value with
    | error message =>
        rw [canonicalJsonStringify, serialized] at accepted
        cases accepted
    | ok chars =>
        obtain ⟨json, read⟩ := json_of_serialize "$" value serialized
        refine ⟨json, read, ?_⟩
        rw [canonicalJsonStringify, serialize_of_json "$" value read] at accepted
        cases accepted
        rfl
  · rintro ⟨json, read, rfl⟩
    rw [canonicalJsonStringify, serialize_of_json "$" value read]
    rfl

/-! ### Well-formed values -/

mutual

/-- No object lists a key twice. -/
def distinctKeys : JsValue nearest → Bool
  | arr _ items => distinctItems items
  | obj _ _ members => decide (members.map Prod.fst).Nodup && distinctMembers members
  | _ => true

def distinctItems : List (Option (JsValue nearest)) → Bool
  | [] => true
  | none :: rest => distinctItems rest
  | some item :: rest => distinctKeys item && distinctItems rest

def distinctMembers : List (String × JsValue nearest) → Bool
  | [] => true
  | (_, value) :: rest => distinctKeys value && distinctMembers rest

end

mutual

theorem json_wellFormed (value : JsValue nearest) {json : Json} (read : json? value = some json)
    (distinct : distinctKeys value = true) :
    JsonText.distinctKeys json = true ∧ exactNumbers nearest json = true := by
  match value with
  | null =>
      cases read
      exact ⟨rfl, rfl⟩
  | bool value =>
      cases read
      exact ⟨rfl, rfl⟩
  | str value =>
      cases read
      exact ⟨rfl, rfl⟩
  | num (.finite value held) =>
      cases read
      exact ⟨rfl, beq_iff_eq.mpr held⟩
  | num (.negativeZero held) =>
      cases read
      exact ⟨rfl, beq_iff_eq.mpr held⟩
  | num (.infinite negative) => cases read
  | num .notANumber => cases read
  | undefined => cases read
  | unsupported kind => cases read
  | cycle => cases read
  | arr true items => cases read
  | arr false items =>
      obtain ⟨parts, partsRead, rfl⟩ := Option.map_eq_some_iff.mp read
      have all := jsonItems_wellFormed items partsRead distinct
      exact ⟨everyObject_arr.mpr (fun part listed => (all part listed).1),
        everyPart_arr.mpr ⟨rfl, fun part listed => (all part listed).2⟩⟩
  | obj true true members => cases read
  | obj false symbols members => cases read
  | obj true false members =>
      obtain ⟨parts, partsRead, rfl⟩ := Option.map_eq_some_iff.mp read
      rw [distinctKeys, Bool.and_eq_true] at distinct
      obtain ⟨keys, all⟩ := jsonMembers_wellFormed members partsRead distinct.2
      have partKeys : (parts.map Prod.fst).Nodup := keys ▸ of_decide_eq_true distinct.1
      exact ⟨everyObject_obj.mpr
          ⟨decide_eq_true partKeys, fun part listed => (all part listed).1⟩,
        everyPart_obj.mpr ⟨rfl, fun part listed => (all part listed).2⟩⟩

theorem jsonItems_wellFormed (items : List (Option (JsValue nearest))) {parts : List Json}
    (read : jsonItems? items = some parts) (distinct : distinctItems items = true) :
    ∀ part ∈ parts, JsonText.distinctKeys part = true ∧ exactNumbers nearest part = true := by
  match items with
  | [] =>
      cases read
      intro part listed
      cases listed
  | none :: rest => cases read
  | some item :: rest =>
      obtain ⟨first, others, firstRead, othersRead, rfl⟩ := jsonItems?_cons.mp read
      rw [distinctItems, Bool.and_eq_true] at distinct
      intro part listed
      rcases List.mem_cons.mp listed with rfl | inRest
      · exact json_wellFormed item firstRead distinct.1
      · exact jsonItems_wellFormed rest othersRead distinct.2 part inRest

theorem jsonMembers_wellFormed (members : List (String × JsValue nearest))
    {parts : List (String × Option Json)} (read : jsonMembers? members = some parts)
    (distinct : distinctMembers members = true) :
    members.map Prod.fst = parts.map Prod.fst ∧ ∀ part ∈ definedMembers parts,
      JsonText.distinctKeys part.2 = true ∧ exactNumbers nearest part.2 = true := by
  match members with
  | [] =>
      cases read
      refine ⟨rfl, ?_⟩
      intro part listed
      cases listed
  | (key, value) :: rest =>
      rw [distinctMembers, Bool.and_eq_true] at distinct
      by_cases undefinedValue : value = undefined
      · subst undefinedValue
        obtain ⟨others, othersRead, rfl⟩ := jsonMembers?_undefined.mp read
        obtain ⟨keys, all⟩ := jsonMembers_wellFormed rest othersRead distinct.2
        exact ⟨by rw [List.map_cons, List.map_cons, keys], all⟩
      · obtain ⟨first, others, firstRead, othersRead, rfl⟩ :=
          (jsonMembers?_cons undefinedValue).mp read
        obtain ⟨keys, all⟩ := jsonMembers_wellFormed rest othersRead distinct.2
        refine ⟨by rw [List.map_cons, List.map_cons, keys], ?_⟩
        intro part listed
        rw [definedMembers_some] at listed
        rcases List.mem_cons.mp listed with rfl | inRest
        · exact json_wellFormed value firstRead distinct.1
        · exact all part inRest

end

/-! ### JSON values as values of the language -/

mutual

/-- A parsed value; a decimal that is no number of the language does not parse. -/
def ofJson : Json → JsValue nearest
  | .null => null
  | .bool value => bool value
  | .num value =>
      if held : nearest value = some value then num (.finite value held) else num .notANumber
  | .str value => str value
  | .arr items => arr false (ofItems items)
  | .obj members => obj true false (ofMembers members)

def ofItems : List Json → List (Option (JsValue nearest))
  | [] => []
  | item :: rest => some (ofJson item) :: ofItems rest

def ofMembers : List (String × Option Json) → List (String × JsValue nearest)
  | [] => []
  | (key, none) :: rest => (key, undefined) :: ofMembers rest
  | (key, some value) :: rest => (key, ofJson value) :: ofMembers rest

end

theorem ofJson_defined (value : Json) : (ofJson value : JsValue nearest) ≠ undefined := by
  intro same
  cases value with
  | num value =>
      rw [ofJson] at same
      split at same <;> cases same
  | _ => cases same

theorem jsonItems?_ofItems {items : List Json}
    (each : ∀ item ∈ items, json? (ofJson item : JsValue nearest) = some item) :
    jsonItems? (ofItems items : List (Option (JsValue nearest))) = some items := by
  induction items with
  | nil => rfl
  | cons item rest ih =>
      exact jsonItems?_cons.mpr ⟨item, rest, each item List.mem_cons_self,
        ih (fun other listed => each other (List.mem_cons_of_mem _ listed)), rfl⟩

theorem jsonMembers?_ofMembers {members : List (String × Option Json)}
    (each : ∀ member ∈ definedMembers members,
      json? (ofJson member.2 : JsValue nearest) = some member.2) :
    jsonMembers? (ofMembers members : List (String × JsValue nearest)) = some members := by
  induction members with
  | nil => rfl
  | cons member rest ih =>
      obtain ⟨key, value⟩ := member
      cases value with
      | none => exact jsonMembers?_undefined.mpr ⟨rest, ih each, rfl⟩
      | some value =>
          rw [definedMembers_some] at each
          exact (jsonMembers?_cons (ofJson_defined value)).mpr ⟨value, rest,
            each _ List.mem_cons_self,
            ih (fun other listed => each other (List.mem_cons_of_mem _ listed)), rfl⟩

theorem json?_ofJson {value : Json} (exact : exactNumbers nearest value = true) :
    json? (ofJson value : JsValue nearest) = some value := by
  induction value using treeInduction with
  | null => rfl
  | bool value => rfl
  | num value =>
      rw [ofJson, dif_pos (beq_iff_eq.mp exact)]
      rfl
  | str value => rfl
  | arr items ih =>
      have itemsExact := (everyPart_arr.mp exact).2
      rw [ofJson, json?, jsonItems?_ofItems (fun item listed =>
        ih item listed (itemsExact item listed))]
      rfl
  | obj members ih =>
      have membersExact := (everyPart_obj.mp exact).2
      rw [ofJson, json?, jsonMembers?_ofMembers (fun member listed =>
        ih member listed (membersExact member listed))]
      rfl

/-! ### Permutations of members -/

mutual

/-- The members of any objects inside, listed in another order. -/
inductive Permuted : JsValue nearest → JsValue nearest → Prop where
  | refl (value : JsValue nearest) : Permuted value value
  | arr (symbols : Bool) {left right : List (Option (JsValue nearest))}
      (items : PermutedItems left right) : Permuted (arr symbols left) (arr symbols right)
  | obj (plain symbols : Bool) {left arranged right : List (String × JsValue nearest)}
      (members : PermutedMembers left arranged) (perm : arranged.Perm right) :
      Permuted (obj plain symbols left) (obj plain symbols right)

inductive PermutedItems :
    List (Option (JsValue nearest)) → List (Option (JsValue nearest)) → Prop where
  | nil : PermutedItems [] []
  | hole {left right : List (Option (JsValue nearest))} (rest : PermutedItems left right) :
      PermutedItems (none :: left) (none :: right)
  | cons {item other : JsValue nearest} {left right : List (Option (JsValue nearest))}
      (head : Permuted item other) (rest : PermutedItems left right) :
      PermutedItems (some item :: left) (some other :: right)

inductive PermutedMembers :
    List (String × JsValue nearest) → List (String × JsValue nearest) → Prop where
  | nil : PermutedMembers [] []
  | cons (key : String) {value other : JsValue nearest}
      {left right : List (String × JsValue nearest)} (head : Permuted value other)
      (rest : PermutedMembers left right) :
      PermutedMembers ((key, value) :: left) ((key, other) :: right)

end

/-- What one member adds to the texts of its object. -/
def memberResult (path : String) (member : String × JsValue nearest) :
    Option (String × Except String (List Char)) :=
  match member.2 with
  | undefined => none
  | value => some (member.1, serializeCanonicalJson (path ++ "." ++ member.1) value)

theorem serializeMembers_eq (path : String) (members : List (String × JsValue nearest)) :
    serializeMembers path members = members.filterMap (memberResult path) := by
  induction members with
  | nil => rfl
  | cons member rest ih =>
      obtain ⟨key, value⟩ := member
      by_cases undefinedValue : value = undefined
      · subst undefinedValue
        exact ih
      · rw [serializeMembers_cons path key undefinedValue, ih, List.filterMap_cons_some]
        cases value <;> first | rfl | exact absurd rfl undefinedValue

theorem serializeMembers_keys (path : String) (members : List (String × JsValue nearest)) :
    ((serializeMembers path members).map Prod.fst).Sublist (members.map Prod.fst) := by
  induction members with
  | nil => exact List.Sublist.slnil
  | cons member rest ih =>
      obtain ⟨key, value⟩ := member
      by_cases undefinedValue : value = undefined
      · subst undefinedValue
        exact List.Sublist.cons _ ih
      · rw [serializeMembers_cons path key undefinedValue]
        exact List.Sublist.cons_cons _ ih

mutual

theorem serialize_permuted (path : String) (value : JsValue nearest) {other : JsValue nearest}
    (permuted : Permuted value other) (distinct : distinctKeys value = true) :
    serializeCanonicalJson path value = serializeCanonicalJson path other := by
  match value with
  | null =>
      cases permuted
      rfl
  | bool value =>
      cases permuted
      rfl
  | str value =>
      cases permuted
      rfl
  | num value =>
      cases permuted
      rfl
  | undefined =>
      cases permuted
      rfl
  | unsupported kind =>
      cases permuted
      rfl
  | cycle =>
      cases permuted
      rfl
  | arr symbols items =>
      cases permuted with
      | refl => rfl
      | arr _ related =>
          rw [serializeCanonicalJson, serializeCanonicalJson,
            serializeItems_permuted path 0 items related distinct]
  | obj plain symbols members =>
      cases permuted with
      | refl => rfl
      | @obj _ _ _ arranged right related perm =>
          rw [distinctKeys, Bool.and_eq_true] at distinct
          have same := serializeMembers_permuted path members related distinct.2
          have results : (serializeMembers path members).Perm (serializeMembers path right) := by
            rw [same, serializeMembers_eq, serializeMembers_eq]
            exact perm.filterMap _
          have keys := (serializeMembers_keys path members).nodup (of_decide_eq_true distinct.1)
          rw [serializeCanonicalJson, serializeCanonicalJson, codeUnitOrder,
            arrange_eq_of_perm codeUnitsLe_preorder codeUnitsLe_antisymm results keys]

theorem serializeItems_permuted (path : String) (index : Nat)
    (items : List (Option (JsValue nearest))) {others : List (Option (JsValue nearest))}
    (permuted : PermutedItems items others) (distinct : distinctItems items = true) :
    serializeItems path index items = serializeItems path index others := by
  match items with
  | [] =>
      cases permuted
      rfl
  | none :: rest =>
      cases permuted
      rfl
  | some item :: rest =>
      cases permuted with
      | cons head tail =>
          rw [distinctItems, Bool.and_eq_true] at distinct
          rw [serializeItems, serializeItems, serialize_permuted _ item head distinct.1,
            serializeItems_permuted path (index + 1) rest tail distinct.2]

theorem serializeMembers_permuted (path : String) (members : List (String × JsValue nearest))
    {others : List (String × JsValue nearest)} (permuted : PermutedMembers members others)
    (distinct : distinctMembers members = true) :
    serializeMembers path members = serializeMembers path others := by
  match members with
  | [] =>
      cases permuted
      rfl
  | (key, value) :: rest =>
      cases permuted with
      | @cons _ _ other _ right head tail =>
          rw [distinctMembers, Bool.and_eq_true] at distinct
          have restSame := serializeMembers_permuted path rest tail distinct.2
          by_cases undefinedValue : value = undefined
          · subst undefinedValue
            cases head
            rw [serializeMembers, serializeMembers, restSame]
          · have otherDefined : other ≠ undefined := by
              rintro rfl
              cases head
              exact undefinedValue rfl
            rw [serializeMembers_cons path key undefinedValue,
              serializeMembers_cons path key otherDefined, restSame,
              serialize_permuted _ value head distinct.1]

end

/-- The text of an accepted value parses to the value, is the same for every order
of members, for no other value, and for what was parsed. -/
theorem canonicalJsonStringify_faithful {value : JsValue nearest} {text : String}
    (distinct : distinctKeys value = true) (accepted : canonicalJsonStringify value = .ok text) :
    ∃ json parsed, json? value = some json ∧ jsonParse nearest text = some parsed ∧
      Same json parsed ∧
      canonicalJsonStringify (ofJson parsed : JsValue nearest) = .ok text ∧
      (∀ other, Permuted value other → canonicalJsonStringify other = .ok text) ∧
      (∀ other : JsValue nearest, canonicalJsonStringify other = .ok text →
        ∃ otherJson, json? other = some otherJson ∧ Same json otherJson) := by
  obtain ⟨json, read, rfl⟩ := canonicalJsonStringify_ok_iff.mp accepted
  obtain ⟨jsonDistinct, exactJson⟩ := json_wellFormed value read distinct
  obtain ⟨parsed, parse, same, _⟩ := jsonParse_text codeUnitOrder jsonDistinct exactJson
  refine ⟨json, parsed, read, parse, same, ?_, ?_, ?_⟩
  · have again := textWith_eq_of_same codeUnitsLe_preorder same jsonDistinct
      (tieFree_of_antisymm codeUnitsLe_antisymm json)
    refine canonicalJsonStringify_ok_iff.mpr
      ⟨parsed, json?_ofJson (exactNumbers_of_same same exactJson), ?_⟩
    rw [ActionProxy.canonicalJsonStringify, codeUnitOrder, again]
    rfl
  · intro other permuted
    rw [canonicalJsonStringify, ← serialize_permuted "$" value permuted distinct]
    exact accepted
  · intro other otherAccepted
    obtain ⟨otherJson, otherRead, texts⟩ := canonicalJsonStringify_ok_iff.mp otherAccepted
    exact ⟨otherJson, otherRead, same_of_textWith_eq (String.ofList_inj.mp texts)⟩

/-- A negative zero, an undefined member, and keys out of order. -/
private def unsortedValue : JsValue some :=
  obj true false [("b", num (.negativeZero rfl)), ("gone", undefined),
    ("a", arr false [some (bool true)])]

theorem canonicalJsonStringify_faithful_unsorted :
    ∃ json parsed, json? unsortedValue = some json ∧
      jsonParse some "\x7b\"a\":[true],\"b\":0\x7d" = some parsed ∧ Same json parsed ∧
      canonicalJsonStringify (ofJson parsed : JsValue some) =
        .ok "\x7b\"a\":[true],\"b\":0\x7d" ∧
      (∀ other, Permuted unsortedValue other →
        canonicalJsonStringify other = .ok "\x7b\"a\":[true],\"b\":0\x7d") ∧
      (∀ other : JsValue some,
        canonicalJsonStringify other = .ok "\x7b\"a\":[true],\"b\":0\x7d" →
          ∃ otherJson, json? other = some otherJson ∧ Same json otherJson) :=
  canonicalJsonStringify_faithful (by decide) (by decide)

end JsValue

end ActionProxy
