import Mathlib.Order.Basic
import Mathlib.Order.Lattice
import Mathlib.Tactic.Push

/-!
Ranges of positions that are compared by name. The positions have names in their own
order; a bound has a position and is spelled in any way. Comparing the names with the
spellings selects the positions between the bounds exactly when each spelling is after the
name of the last position outside and not after that of the first inside.
-/

namespace NamedRange

/-- Not before a lower bound and not after an upper one, where there are such bounds. -/
structure Within {α : Type} [LE α] (lower upper : Option α) (item : α) : Prop where
  lower : ∀ bound ∈ lower, bound ≤ item
  upper : ∀ bound ∈ upper, item ≤ bound

instance {α : Type} [LE α] [DecidableLE α] (lower upper : Option α) (item : α) :
    Decidable (Within lower upper item) :=
  decidable_of_iff ((∀ bound ∈ lower, bound ≤ item) ∧ ∀ bound ∈ upper, item ≤ bound)
    ⟨fun both => ⟨both.1, both.2⟩, fun within => ⟨within.lower, within.upper⟩⟩

/-- Names of the positions from the first to the last, in their order. -/
structure Naming (β : Type) [LinearOrder β] where
  first : Int
  last : Int
  name : Int → β
  increasing : ∀ {left right}, first ≤ left → left < right → right ≤ last →
    name left < name right

namespace Naming

variable {β : Type} [LinearOrder β] (naming : Naming β)

/-- The position has a name. -/
structure Names (position : Int) : Prop where
  first : naming.first ≤ position
  last : position ≤ naming.last

variable {naming}

variable (naming)

/-- The first named position that is not before the bound. -/
def low (lower : Option (Int × β)) : Int :=
  match lower with
  | none => naming.first
  | some bound => max naming.first bound.1

/-- The last named position that is not after the bound. -/
def high (upper : Option (Int × β)) : Int :=
  match upper with
  | none => naming.last
  | some bound => min naming.last bound.1

variable {naming}

theorem first_le_low (lower : Option (Int × β)) : naming.first ≤ naming.low lower := by
  cases lower with
  | none => exact Int.le_refl _
  | some bound => exact Int.le_max_left _ _

theorem high_le_last (upper : Option (Int × β)) : naming.high upper ≤ naming.last := by
  cases upper with
  | none => exact Int.le_refl _
  | some bound => exact Int.min_le_left _ _

theorem low_le_iff {lower : Option (Int × β)} {position : Int}
    (first : naming.first ≤ position) :
    naming.low lower ≤ position ↔ ∀ bound ∈ lower.map Prod.fst, bound ≤ position := by
  cases lower with
  | none => simp [low, first]
  | some bound => simp [low, first]

theorem le_high_iff {upper : Option (Int × β)} {position : Int}
    (last : position ≤ naming.last) :
    position ≤ naming.high upper ↔ ∀ bound ∈ upper.map Prod.fst, position ≤ bound := by
  cases upper with
  | none => simp [high, last]
  | some bound => simp [high, last]

/-- The positions between the bounds are those from the low end to the high end. -/
theorem within_iff {lower upper : Option (Int × β)} {position : Int}
    (named : naming.Names position) :
    Within (lower.map Prod.fst) (upper.map Prod.fst) position ↔
      naming.low lower ≤ position ∧ position ≤ naming.high upper := by
  rw [low_le_iff named.first, le_high_iff named.last]
  exact ⟨fun within => ⟨within.lower, within.upper⟩, fun both => ⟨both.1, both.2⟩⟩

/-- The spellings select the positions between the bounds. -/
def Selects (naming : Naming β) (lower upper : Option (Int × β)) : Prop :=
  ∀ position, naming.Names position →
    (Within (lower.map Prod.snd) (upper.map Prod.snd) (naming.name position) ↔
      Within (lower.map Prod.fst) (upper.map Prod.fst) position)

section

variable {lower upper : Option (Int × β)}

theorem Selects.inside (selects : naming.Selects lower upper) {position : Int}
    (low : naming.low lower ≤ position) (high : position ≤ naming.high upper) :
    Within (lower.map Prod.snd) (upper.map Prod.snd) (naming.name position) := by
  have named : naming.Names position :=
    { first := Int.le_trans (first_le_low lower) low
      last := Int.le_trans high (high_le_last upper) }
  exact (selects position named).mpr ((within_iff named).mpr ⟨low, high⟩)

end

end Naming

end NamedRange
