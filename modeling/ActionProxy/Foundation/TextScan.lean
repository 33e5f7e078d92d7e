import Mathlib.Data.List.DropRight
import Mathlib.Data.List.TakeWhile

/-!
The text operations of the language the policies and contracts are read with:
trimming, splitting at commas, prefixes and suffixes, over characters.
-/

namespace TextScan

/-- The characters `trim` removes and `\s` matches. -/
def isSpace (char : Char) : Bool :=
  let code := char.toNat
  (9 ≤ code && code ≤ 13) || code == 0x20 || code == 0xA0 || code == 0x1680 ||
    (0x2000 ≤ code && code ≤ 0x200A) || code == 0x2028 || code == 0x2029 || code == 0x202F ||
    code == 0x205F || code == 0x3000 || code == 0xFEFF

def trimChars (chars : List Char) : List Char :=
  (chars.dropWhile isSpace).rdropWhile isSpace

def trim (text : String) : String := String.ofList (trimChars text.toList)

/-- The trimmed text, when there is something besides white space in it. -/
def content (text : String) : Option String :=
  if trim text = "" then none else some (trim text)

/-- `split(',')`. -/
def splitCommas (text : String) : List String :=
  (text.toList.splitOn ',').map String.ofList

def startsWith (text start : String) : Bool := start.toList.isPrefixOf text.toList

def endsWith (text ending : String) : Bool := ending.toList.isSuffixOf text.toList

/-- `slice(0, -1)`. -/
def dropLast (text : String) : String := String.ofList text.toList.dropLast

theorem trimChars_trimChars (chars : List Char) : trimChars (trimChars chars) = trimChars chars := by
  have kept : (trimChars chars).dropWhile isSpace = trimChars chars := by
    rw [List.dropWhile_eq_self_iff]
    intro nonempty
    have start : trimChars chars <+: chars.dropWhile isSpace := List.rdropWhile_prefix _ _
    rw [start.getElem nonempty]
    exact List.dropWhile_get_zero_not isSpace chars _
  unfold trimChars at kept ⊢
  rw [kept, List.rdropWhile_idempotent]

theorem content_isSome {text : String} {char : Char} (listed : char ∈ text.toList)
    (visible : isSpace char = false) : (content text).isSome = true := by
  have kept : trimChars text.toList ≠ [] := by
    intro nothing
    have spaces := List.rdropWhile_eq_nil_iff.mp nothing
    have none : text.toList.dropWhile isSpace = [] := by
      by_contra some
      have positive := List.length_pos_iff.mpr some
      exact List.dropWhile_get_zero_not isSpace _ positive (spaces _ (List.get_mem _ _))
    have space := List.dropWhile_eq_nil_iff.mp none char listed
    rw [visible] at space
    cases space
  have nonempty : trim text ≠ "" := by
    intro empty
    apply kept
    rw [← String.toList_ofList (l := trimChars text.toList)]
    exact congrArg String.toList empty
  rw [content, if_neg nonempty]
  rfl

theorem trim_trim (text : String) : trim (trim text) = trim text := by
  unfold trim
  rw [String.toList_ofList, trimChars_trimChars]

theorem content_eq_some {text trimmed : String} (found : content text = some trimmed) :
    content trimmed = some trimmed ∧ trimmed ≠ "" := by
  unfold content at found
  split at found
  · cases found
  · rename_i nonempty
    cases found
    refine ⟨?_, nonempty⟩
    unfold content
    rw [trim_trim, if_neg nonempty]

theorem not_mem_piece {separator : Char} {text piece : List Char}
    (listed : piece ∈ text.splitOn separator) : separator ∉ piece := by
  induction text generalizing piece with
  | nil =>
      rw [List.splitOn_nil] at listed
      rw [List.mem_singleton.mp listed]
      exact List.not_mem_nil
  | cons char rest inductionHypothesis =>
      rw [List.splitOn_cons_eq_if_modifyHead] at listed
      split at listed
      · rcases List.mem_cons.mp listed with rfl | later
        · exact List.not_mem_nil
        · exact inductionHypothesis later
      · rename_i other
        cases pieces : rest.splitOn separator with
        | nil => exact absurd pieces (List.splitOn_ne_nil separator rest)
        | cons first more =>
            rw [pieces, List.modifyHead_cons] at listed
            rw [pieces] at inductionHypothesis
            rcases List.mem_cons.mp listed with rfl | later
            · rw [List.mem_cons, not_or]
              exact ⟨fun same => other (beq_iff_eq.mpr same.symm),
                inductionHypothesis List.mem_cons_self⟩
            · exact inductionHypothesis (List.mem_cons_of_mem _ later)

end TextScan
