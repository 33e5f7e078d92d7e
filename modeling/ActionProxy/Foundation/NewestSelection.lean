import Mathlib.Data.List.Sort
import Mathlib.Order.Defs.LinearOrder

/-!
The first items of a list in descending order of a key, the order of items of one key left
open: what a sorted and limited listing can show, and when two such listings of lists, one
a part of the other, can show the same.
-/

namespace Newest

variable {Item Key : Type} [LinearOrder Key]

/-- Items of greater keys come first. -/
def Descends (key : Item → Key) (items : List Item) : Prop :=
  items.Pairwise (fun first second => key second ≤ key first)

/-- The first `count` items, or all of them. -/
def limited (count : Option Nat) (items : List Item) : List Item :=
  match count with
  | some count => items.take count
  | none => items

/-- A listing of the items, newest first. -/
def Lists (key : Item → Key) (items : List Item) (count : Option Nat) (result : List Item) :
    Prop :=
  ∃ arranged : List Item, arranged.Perm items ∧ Descends key arranged ∧
    result = limited count arranged

section

variable {key : Item → Key} {items : List Item} {chosen : Item → Bool} {count : Nat}

end

end Newest
