import ActionProxy.Foundation.SortedText
import ActionProxy.Security.Crypto

/-!
The hashed text as a canonical form. Members are sorted by `localeCompare`, which
ties distinct spellings of one text; an object with two tied keys is printed in
the order it enumerates them.
-/

namespace ActionProxy

open JsonText

section

variable [Runtime]

/-- Neither text is sorted after the other. -/
def localeBefore (left right : String) : Bool := (Runtime.localeCompare left right).isLE

theorem localeBefore_preorder [Std.TransCmp Runtime.localeCompare] :
    TotalPreorder localeBefore := by
  constructor
  · intro left right
    unfold localeBefore
    cases order : Runtime.localeCompare left right with
    | lt => exact Or.inl rfl
    | eq => exact Or.inl rfl
    | gt =>
        have swapped : Runtime.localeCompare right left = .lt :=
          Std.OrientedCmp.gt_iff_lt.mp order
        rw [swapped]
        exact Or.inr rfl
  · intro first second third
    exact Std.TransCmp.isLE_trans

theorem stableStringify_eq_iff (left right : Json) :
    stableStringify left = stableStringify right ↔
      textWith (sortedOrder localeBefore) left = textWith (sortedOrder localeBefore) right :=
  String.ofList_inj

/-- The text identifies a value up to member order and undefined members exactly
when no object in it has two keys that `localeCompare` ties. -/
theorem stableStringify_canonical_iff [Std.TransCmp Runtime.localeCompare] {value : Json}
    (distinct : distinctKeys value = true) :
    (∀ other, distinctKeys other = true →
        (stableStringify value = stableStringify other ↔ Same value other)) ↔
      tieFree localeBefore value = true := by
  rw [← canonical_iff_tieFree localeBefore_preorder distinct]
  simp only [stableStringify_eq_iff]

end

/-- A letter and its combining accent as the accented letter. -/
private def composeAccent : List Char → List Char
  | 'e' :: '\u0301' :: rest => 'é' :: composeAccent rest
  | char :: rest => char :: composeAccent rest
  | [] => []

private abbrev accentRuntime : Runtime :=
  { sampleRuntime [] with
    localeCompare := compareOn (fun text => String.ofList (composeAccent text.toList)) }

private theorem accentRuntime_compare : Std.TransCmp accentRuntime.localeCompare :=
  inferInstanceAs (Std.TransCmp (compareOn (fun text : String =>
    String.ofList (composeAccent text.toList))))

private def spelledKeys : Json :=
  .obj [("é", some (.bool true)), ("e\u0301", some (.bool false))]

private def spelledKeysReversed : Json :=
  .obj [("e\u0301", some (.bool false)), ("é", some (.bool true))]

/-- One object, its two spellings of a key enumerated in either order, has two texts. -/
theorem stableStringify_spelled_keys :
    Std.TransCmp accentRuntime.localeCompare ∧ distinctKeys spelledKeys = true ∧
      distinctKeys spelledKeysReversed = true ∧ Same spelledKeys spelledKeysReversed ∧
      @stableStringify accentRuntime spelledKeys ≠
        @stableStringify accentRuntime spelledKeysReversed := by
  refine ⟨accentRuntime_compare, by decide, by decide, ?_, ?_⟩
  · have swapped : (definedMembers [("é", some (.bool true)), ("e\u0301", some (.bool false))]).Perm
        [("e\u0301", Json.bool false), ("é", Json.bool true)] := List.Perm.swap _ _ []
    exact Same.obj swapped
      (SameMembers.cons (Same.bool false) (SameMembers.cons (Same.bool true) SameMembers.nil))
      (List.Perm.refl _)
  · intro same
    have texts := (@stableStringify_eq_iff accentRuntime _ _).mp same
    revert texts
    decide

theorem stableStringify_canonical_iff_spelled :
    (∀ other, distinctKeys other = true →
        (@stableStringify accentRuntime spelledKeys = @stableStringify accentRuntime other ↔
          Same spelledKeys other)) ↔
      tieFree (@localeBefore accentRuntime) spelledKeys = true :=
  @stableStringify_canonical_iff accentRuntime accentRuntime_compare spelledKeys (by decide)

end ActionProxy
