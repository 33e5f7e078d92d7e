import ActionProxy.Foundation.TextScan

/-!
Request targets as texts: the part before the query, the path of a target in
absolute form, and the decoding of percent escapes.
-/

namespace UriText

/-- `split('?')[0]`. -/
def beforeQuery (target : String) : String :=
  String.ofList (target.toList.takeWhile (· != '?'))

/-- A character under way: the bytes still to come, the bits read, the least code allowed. -/
structure Pending where
  remaining : Nat
  code : Nat
  least : Nat

/-- The first byte of a character of several bytes. -/
def Pending.start (byte : Nat) : Option Pending :=
  if byte / 32 = 6 then some { remaining := 1, code := byte % 32, least := 0x80 }
  else if byte / 16 = 14 then some { remaining := 2, code := byte % 16, least := 0x800 }
  else if byte / 8 = 30 then some { remaining := 3, code := byte % 8, least := 0x10000 }
  else none

/-- A path in origin form without anything to decode or cut off. -/
def isPlain (path : String) : Bool :=
  path.toList.head? == some '/' && path.toList.all (fun char => !(['%', '#', ';'].contains char))

end UriText
