import Mathlib.Data.List.Forall2

/-!
Hash chains over any entries. An entry may carry a stamp, the digest of its
other fields, and a link, the stamp of the entry before it. Lists run from the
newest entry to the oldest, so a chain is rooted when its last entry has no
link. A rooted chain's newest stamp determines every entry, up to whatever the
digest determines.
-/

namespace HashChain

variable {Entry Digest : Type}

/-- How an entry carries its link and its stamp, and what its stamp should be. -/
structure View (Entry Digest : Type) where
  link : Entry → Option Digest
  stamp : Entry → Option Digest
  digest : Entry → Digest

variable (view : View Entry Digest)

/-- The stamp of the newest entry. -/
def head (entries : List Entry) : Option Digest := entries.head?.bind view.stamp

@[simp] theorem head_nil : head view [] = none := rfl

@[simp] theorem head_cons (entry : Entry) (older : List Entry) :
    head view (entry :: older) = view.stamp entry := rfl

/-- Every entry is stamped with its own digest and linked to the entry before it. -/
def Rooted : List Entry → Prop
  | [] => True
  | entry :: older =>
      view.stamp entry = some (view.digest entry) ∧ view.link entry = head view older ∧
        Rooted older

variable {view}

/-- Two rooted chains with one newest stamp have related entries throughout. The
induction is on the first chain, from its newest entry. -/
theorem Rooted.related_of_head_eq {related : Entry → Entry → Prop}
    (determines : ∀ left right, view.digest left = view.digest right →
      related left right ∧ view.link left = view.link right)
    {left right : List Entry} (leftRooted : Rooted view left) (rightRooted : Rooted view right)
    (same : head view left = head view right) : List.Forall₂ related left right := by
  induction left generalizing right with
  | nil =>
      cases right with
      | nil => exact List.Forall₂.nil
      | cons entry older =>
          rw [head_nil, head_cons, rightRooted.1] at same
          cases same
  | cons entry older ih =>
      cases right with
      | nil =>
          rw [head_nil, head_cons, leftRooted.1] at same
          cases same
      | cons other others =>
          obtain ⟨leftStamped, leftLinked, leftOlder⟩ := leftRooted
          obtain ⟨rightStamped, rightLinked, rightOlder⟩ := rightRooted
          rw [head_cons, head_cons, leftStamped, rightStamped] at same
          obtain ⟨entries, links⟩ := determines entry other (Option.some.inj same)
          rw [leftLinked, rightLinked] at links
          exact List.Forall₂.cons entries (ih leftOlder rightOlder links)

theorem Rooted.stamp_of_mem {entries : List Entry} (rooted : Rooted view entries)
    {entry : Entry} (member : entry ∈ entries) :
    view.stamp entry = some (view.digest entry) := by
  induction entries with
  | nil => cases member
  | cons first older ih =>
      rcases List.mem_cons.mp member with atHead | inOlder
      · rw [atHead]
        exact rooted.1
      · exact ih rooted.2.2 inOlder

end HashChain
