import ActionProxy.Foundation.KeyedTable

/-!
A table with each value replaced or left out by its key and value, in the order of the table. A
table that such a selection leaves as it is stays so when a value that it keeps is set.
-/

namespace KeyedTable

variable {Key Value : Type}

private theorem keys_filterMap_sublist (select : Key → Value → Option Value)
    (entries : List (Key × Value)) :
    List.Sublist ((entries.filterMap (fun entry =>
      (select entry.1 entry.2).map (fun value => (entry.1, value)))).map Prod.fst)
      (entries.map Prod.fst) := by
  induction entries with
  | nil => exact List.Sublist.slnil
  | cons entry rest ih =>
      cases kept : select entry.1 entry.2 with
      | none =>
          rw [List.filterMap_cons_none (by rw [kept]; rfl), List.map_cons]
          exact ih.cons entry.1
      | some value =>
          rw [List.filterMap_cons_some (by rw [kept]; rfl), List.map_cons, List.map_cons]
          exact ih.cons_cons entry.1

/-- The values a selection keeps, under their keys. -/
def filterMap (select : Key → Value → Option Value) (table : KeyedTable Key Value) :
    KeyedTable Key Value :=
  { entries := table.entries.filterMap
      (fun entry => (select entry.1 entry.2).map (fun value => (entry.1, value)))
    distinct := (keys_filterMap_sublist select table.entries).nodup table.distinct }

theorem eq_of_entries {left right : KeyedTable Key Value} (same : left.entries = right.entries) :
    left = right := by
  cases left
  cases right
  cases same
  rfl

variable [DecidableEq Key]

theorem get?_filterMap (select : Key → Value → Option Value) (table : KeyedTable Key Value)
    (key : Key) : (table.filterMap select).get? key = (table.get? key).bind (select key) := by
  apply Option.ext
  intro value
  rw [get?_eq_some_iff, Option.bind_eq_some_iff]
  constructor
  · intro listed
    obtain ⟨entry, member, kept⟩ := List.mem_filterMap.mp listed
    obtain ⟨selected, found, same⟩ := Option.map_eq_some_iff.mp kept
    cases same
    exact ⟨entry.2, (table.get?_eq_some_iff entry.1 entry.2).mpr member, found⟩
  · rintro ⟨old, found, selected⟩
    refine List.mem_filterMap.mpr ⟨(key, old), (table.get?_eq_some_iff key old).mp found, ?_⟩
    rw [selected]
    rfl

/-- The selection leaves every value of the table as it is. -/
def Settled (select : Key → Value → Option Value) (table : KeyedTable Key Value) : Prop :=
  ∀ key value, table.get? key = some value → select key value = some value

theorem filterMap_of_settled {select : Key → Value → Option Value}
    {table : KeyedTable Key Value} (settled : table.Settled select) :
    table.filterMap select = table := by
  apply eq_of_entries
  have each : ∀ entry ∈ table.entries,
      (select entry.1 entry.2).map (fun value => (entry.1, value)) = some entry := by
    intro entry member
    rw [settled entry.1 entry.2 ((table.get?_eq_some_iff entry.1 entry.2).mpr member)]
    rfl
  show table.entries.filterMap _ = table.entries
  rw [List.filterMap_congr each, List.filterMap_some]

/-- A selection that keeps what it selected leaves its own result as it is. -/
theorem settled_filterMap {select : Key → Value → Option Value}
    (again : ∀ key value selected, select key value = some selected →
      select key selected = some selected) (table : KeyedTable Key Value) :
    (table.filterMap select).Settled select := by
  intro key value found
  rw [get?_filterMap, Option.bind_eq_some_iff] at found
  obtain ⟨old, _, selected⟩ := found
  exact again key old value selected

theorem settled_set {select : Key → Value → Option Value} {table : KeyedTable Key Value}
    (settled : table.Settled select) {key : Key} {value : Value}
    (kept : select key value = some value) : (table.set key value).Settled select := by
  intro other found held
  rw [get?_set] at held
  split at held
  · rename_i same
    cases held
    rw [same]
    exact kept
  · exact settled other found held

end KeyedTable
