import ActionProxy.Foundation.JsonText
import ActionProxy.Foundation.IsoTime

/-!
The hashing helpers every record of the server is bound by. What the JavaScript
runtime supplies (collation, digests, the reading of non-canonical dates) is a
parameter; collision-freedom of a digest is a hypothesis where it is used.
-/

namespace ActionProxy

open JsonText

class Runtime where
  localeCompare : String → String → Ordering
  /-- The finite value of `Number` on a text. -/
  parseNumber : String → Option JsonNumber
  toLowerCase : String → String
  sha256Hex : String → String
  hmacSha256Hex : String → String → String
  /-- `Date.parse` on a text that is not the canonical text of a date. -/
  parseOtherDate : String → Option Int

export Runtime (sha256Hex hmacSha256Hex)

/-- An object as the code types it, `Record<string, unknown>` over JSON values. -/
abbrev JsonObject := List (String × Option Json)

section

variable [Runtime]

/-- Members sorted by `localeCompare`. -/
def localeOrder : MemberOrder :=
  sortedOrder (fun left right => (Runtime.localeCompare left right).isLE)

def stableStringify (value : Json) : String :=
  String.ofList (textWith localeOrder value)

def hashJson (value : Json) : String := sha256Hex (stableStringify value)

/-- `Date.parse`. -/
def dateParse (source : String) : Option Int :=
  IsoTime.parseDate Runtime.parseOtherDate source

theorem same_of_stableStringify_eq {left right : Json}
    (same : stableStringify left = stableStringify right) : Same left right :=
  same_of_textWith_eq (String.ofList_injective same)

theorem same_of_hashJson_eq (injective : Function.Injective sha256Hex) {left right : Json}
    (same : hashJson left = hashJson right) : Same left right :=
  same_of_stableStringify_eq (injective same)

end

/-- A digest that is given on some texts and marks every other text. -/
def knownDigest (known : List (String × String)) (text : String) : String :=
  (known.lookup text).getD ("#" ++ text)

theorem knownDigest_injective {known : List (String × String)}
    (distinct : (known.map Prod.snd).Nodup)
    (unmarked : ∀ entry ∈ known, entry.2.toList.head? ≠ some '#') :
    Function.Injective (knownDigest known) := by
  have listed : ∀ {text digest : String}, known.lookup text = some digest →
      (text, digest) ∈ known := fun found => mem_of_lookup found
  have mark : ∀ text : String, ("#" ++ text).toList.head? = some '#' := by
    intro text
    simp
  intro left right same
  unfold knownDigest at same
  cases leftFound : known.lookup left with
  | some leftDigest =>
      cases rightFound : known.lookup right with
      | some rightDigest =>
          rw [leftFound, rightFound] at same
          simp only [Option.getD_some] at same
          subst same
          have unique := List.inj_on_of_nodup_map distinct (listed leftFound) (listed rightFound) rfl
          exact congrArg Prod.fst unique
      | none =>
          rw [leftFound, rightFound, Option.getD_some, Option.getD_none] at same
          exact absurd (same ▸ mark right) (unmarked _ (listed leftFound))
  | none =>
      cases rightFound : known.lookup right with
      | some rightDigest =>
          rw [leftFound, rightFound, Option.getD_some, Option.getD_none] at same
          exact absurd (same ▸ mark left) (unmarked _ (listed rightFound))
      | none =>
          rw [leftFound, rightFound, Option.getD_none, Option.getD_none] at same
          exact (String.append_right_inj "#").mp same

theorem knownDigest_ne_empty {known : List (String × String)}
    (nonempty : ∀ entry ∈ known, entry.2 ≠ "") (text : String) : knownDigest known text ≠ "" := by
  unfold knownDigest
  cases found : known.lookup text with
  | some digest => exact nonempty _ (mem_of_lookup found)
  | none =>
      intro empty
      have chars := congrArg String.toList empty
      simp at chars

/-- A runtime with the SHA-256 digests of the given texts. -/
abbrev sampleRuntime (known : List (String × String)) : Runtime :=
  { localeCompare := fun left right => compare left right
    parseNumber := fun _ => none
    toLowerCase := String.toLower
    sha256Hex := knownDigest known
    hmacSha256Hex := fun _ text => text
    parseOtherDate := fun _ => none }

end ActionProxy
