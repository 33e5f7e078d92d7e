import ActionProxy.Models

/-!
Canonical JSON of the action request contract: object members sorted by UTF-16
code units, hashed with SHA-256. A JSON value is never refused; the errors of
the serializer concern values that are not JSON.
-/

namespace ActionProxy

open JsonText

/-- The UTF-16 code units of a text. -/
def codeUnits (text : String) : List Nat :=
  text.toList.flatMap fun char =>
    if char.toNat < 0x10000 then [char.toNat]
    else [0xD800 + (char.toNat - 0x10000) / 0x400, 0xDC00 + (char.toNat - 0x10000) % 0x400]

/-- The language's `<=` on texts. -/
def codeUnitsLe (left right : String) : Bool := !decide (codeUnits right < codeUnits left)

def codeUnitOrder : MemberOrder := sortedOrder codeUnitsLe

def canonicalJsonStringify (value : Json) : String :=
  String.ofList (textWith codeUnitOrder value)

def hashCanonicalJson [Runtime] (value : Json) : String :=
  sha256Hex (canonicalJsonStringify value)

/-- `[...new Set(values)].sort()`. -/
def sortedUnique (values : List String) : List String :=
  values.dedup.insertionSort (fun left right => codeUnitsLe left right = true)

/-- A text that counts as given: present and not empty. -/
def nonEmpty (value : Option String) : Option String := value.filter (· ≠ "")

/-- An optional text as a member that is `null` when absent. -/
def nullable (value : Option String) : Option Json := some (value.elim .null .str)

end ActionProxy
