import Mathlib.Data.List.Nodup
import Mathlib.Logic.Relation

/-!
A finite map that enumerates its entries in the order in which their keys were
first set, as a JavaScript `Map` does: setting a present key replaces its value
in place, setting a new key adds an entry at the end. Every key has one entry.
-/

structure KeyedTable (Key Value : Type) where
  entries : List (Key × Value)
  distinct : (entries.map Prod.fst).Nodup

namespace KeyedTable

variable {Key Value : Type}

def empty : KeyedTable Key Value := { entries := [], distinct := List.nodup_nil }

/-- The values in enumeration order. -/
def values (table : KeyedTable Key Value) : List Value := table.entries.map Prod.snd

variable [DecidableEq Key]

def get? (table : KeyedTable Key Value) (key : Key) : Option Value :=
  (table.entries.find? (fun entry => entry.1 = key)).map Prod.snd

/-- The entries after setting a key. -/
def setEntries (key : Key) (value : Value) : List (Key × Value) → List (Key × Value)
  | [] => [(key, value)]
  | entry :: rest =>
      if entry.1 = key then (key, value) :: rest else entry :: setEntries key value rest

theorem mem_keys_setEntries (key : Key) (value : Value) (entries : List (Key × Value))
    (other : Key) :
    other ∈ (setEntries key value entries).map Prod.fst ↔
      other = key ∨ other ∈ entries.map Prod.fst := by
  induction entries with
  | nil => simp [setEntries]
  | cons entry rest ih =>
      unfold setEntries
      split
      · rename_i same
        simp only [List.map_cons, List.mem_cons, same]
        tauto
      · simp only [List.map_cons, List.mem_cons, ih]
        tauto

theorem nodup_setEntries (key : Key) (value : Value) {entries : List (Key × Value)}
    (distinct : (entries.map Prod.fst).Nodup) :
    ((setEntries key value entries).map Prod.fst).Nodup := by
  induction entries with
  | nil => simp [setEntries]
  | cons entry rest ih =>
      rw [List.map_cons, List.nodup_cons] at distinct
      unfold setEntries
      split
      · rename_i same
        rw [List.map_cons, List.nodup_cons, ← same]
        exact distinct
      · rename_i other
        rw [List.map_cons, List.nodup_cons, mem_keys_setEntries]
        exact ⟨fun found => found.elim other distinct.1, ih distinct.2⟩

def set (table : KeyedTable Key Value) (key : Key) (value : Value) : KeyedTable Key Value :=
  { entries := setEntries key value table.entries
    distinct := nodup_setEntries key value table.distinct }

@[simp] theorem get?_empty (key : Key) : (empty : KeyedTable Key Value).get? key = none := rfl

private theorem find?_setEntries_self (key : Key) (value : Value) (entries : List (Key × Value)) :
    (setEntries key value entries).find? (fun entry => entry.1 = key) = some (key, value) := by
  induction entries with
  | nil => simp [setEntries]
  | cons entry rest ih =>
      unfold setEntries
      split
      · simp
      · rename_i other
        rw [List.find?_cons_of_neg (by simpa using other), ih]

private theorem find?_setEntries_other {key other : Key} (different : other ≠ key) (value : Value)
    (entries : List (Key × Value)) :
    (setEntries key value entries).find? (fun entry => entry.1 = other) =
      entries.find? (fun entry => entry.1 = other) := by
  induction entries with
  | nil => simp [setEntries, different.symm]
  | cons entry rest ih =>
      unfold setEntries
      split
      · rename_i same
        rw [List.find?_cons_of_neg (by simpa using different.symm),
          List.find?_cons_of_neg (by simpa [same] using different.symm)]
      · by_cases hit : entry.1 = other
        · rw [List.find?_cons_of_pos (by simpa using hit),
            List.find?_cons_of_pos (by simpa using hit)]
        · rw [List.find?_cons_of_neg (by simpa using hit),
            List.find?_cons_of_neg (by simpa using hit), ih]

@[simp] theorem get?_set_self (table : KeyedTable Key Value) (key : Key) (value : Value) :
    (table.set key value).get? key = some value := by
  rw [get?, set, find?_setEntries_self]
  rfl

theorem get?_set_other (table : KeyedTable Key Value) {key other : Key}
    (different : other ≠ key) (value : Value) :
    (table.set key value).get? other = table.get? other := by
  rw [get?, set, find?_setEntries_other different]
  rfl

theorem get?_set (table : KeyedTable Key Value) (key : Key) (value : Value) (other : Key) :
    (table.set key value).get? other = if other = key then some value else table.get? other := by
  split
  · rename_i same
    rw [same, get?_set_self]
  · rename_i different
    exact table.get?_set_other different value

theorem get?_eq_none_iff (table : KeyedTable Key Value) (key : Key) :
    table.get? key = none ↔ key ∉ table.entries.map Prod.fst := by
  simp only [get?, Option.map_eq_none_iff, List.find?_eq_none, decide_eq_true_eq, List.mem_map,
    not_exists, not_and]

private theorem setEntries_new {key : Key} (value : Value) {entries : List (Key × Value)}
    (absent : key ∉ entries.map Prod.fst) :
    setEntries key value entries = entries ++ [(key, value)] := by
  induction entries with
  | nil => rfl
  | cons entry rest ih =>
      rw [List.map_cons, List.mem_cons, not_or] at absent
      rw [setEntries, if_neg (fun same => absent.1 same.symm), ih absent.2, List.cons_append]

theorem entries_set_new (table : KeyedTable Key Value) {key : Key} (absent : table.get? key = none)
    (value : Value) : (table.set key value).entries = table.entries ++ [(key, value)] :=
  setEntries_new value ((table.get?_eq_none_iff key).mp absent)

theorem values_set_new {table : KeyedTable Key Value} {key : Key} (absent : table.get? key = none)
    (value : Value) : (table.set key value).values = table.values ++ [value] := by
  show (setEntries key value table.entries).map Prod.snd = _
  rw [setEntries_new value ((table.get?_eq_none_iff key).mp absent), List.map_append]
  rfl

theorem find?_values_set_new {table : KeyedTable Key Value} {key : Key} {value : Value}
    {test : Value → Bool} (absent : table.get? key = none)
    (none_before : table.values.find? test = none) (passes : test value = true) :
    (table.set key value).values.find? test = some value := by
  rw [values_set_new absent, List.find?_append, none_before, Option.none_or,
    List.find?_cons_of_pos passes]

private theorem setEntries_same {key : Key} {value : Value} {entries : List (Key × Value)}
    (listed : (key, value) ∈ entries) (distinct : (entries.map Prod.fst).Nodup) :
    setEntries key value entries = entries := by
  induction entries with
  | nil => exact absurd listed List.not_mem_nil
  | cons entry rest ih =>
      rw [List.map_cons, List.nodup_cons] at distinct
      unfold setEntries
      rcases List.mem_cons.mp listed with here | later
      · rw [← here, if_pos rfl]
      · have other : entry.1 ≠ key := by
          intro same
          rw [same] at distinct
          exact distinct.1 (List.mem_map.mpr ⟨(key, value), later, rfl⟩)
        rw [if_neg other, ih later distinct.2]

/-- The table without a key. -/
def erase (table : KeyedTable Key Value) (key : Key) : KeyedTable Key Value :=
  { entries := table.entries.filter (fun entry => entry.1 ≠ key)
    distinct := table.distinct.sublist (List.filter_sublist.map Prod.fst) }

theorem get?_erase (table : KeyedTable Key Value) (key other : Key) :
    (table.erase key).get? other = if other = key then none else table.get? other := by
  unfold get? erase
  rw [List.find?_filter]
  split
  · rename_i same
    subst same
    rw [Option.map_eq_none_iff, List.find?_eq_none]
    intro entry _
    simp
  · rename_i different
    congr 2
    funext entry
    by_cases hit : entry.1 = other
    · simp [hit, different]
    · simp [hit]

/-! ### Enumeration order -/

/-- The place of a key in enumeration order. -/
def position (table : KeyedTable Key Value) (key : Key) : Nat :=
  (table.entries.map Prod.fst).idxOf key

theorem get?_eq_some_iff (table : KeyedTable Key Value) (key : Key) (value : Value) :
    table.get? key = some value ↔ (key, value) ∈ table.entries := by
  constructor
  · intro found
    obtain ⟨entry, hit, rfl⟩ := Option.map_eq_some_iff.mp found
    have sameKey : entry.1 = key := by simpa using List.find?_some hit
    rw [← sameKey]
    exact List.mem_of_find?_eq_some hit
  · intro listed
    cases found : table.entries.find? (fun entry => entry.1 = key) with
    | none =>
        rw [List.find?_eq_none] at found
        exact absurd (decide_eq_true rfl) (found (key, value) listed)
    | some entry =>
        have sameKey : entry.1 = key := by simpa using List.find?_some found
        have same := List.inj_on_of_nodup_map table.distinct (List.mem_of_find?_eq_some found)
          listed sameKey
        rw [get?, found, same]
        rfl

/-- Setting a key changes nothing exactly when the value is there already. -/
theorem set_eq_self_iff (table : KeyedTable Key Value) (key : Key) (value : Value) :
    table.set key value = table ↔ table.get? key = some value := by
  constructor
  · intro same
    rw [← same, get?_set_self]
  · intro found
    have entries := setEntries_same ((table.get?_eq_some_iff key value).mp found) table.distinct
    cases table with
    | mk listed distinct =>
        simp only [set, mk.injEq]
        exact entries

theorem erase_ne_self {table : KeyedTable Key Value} {key : Key}
    (there : (table.get? key).isSome) : table.erase key ≠ table := by
  intro same
  rw [← same, get?_erase, if_pos rfl] at there
  cases there

theorem mem_values_iff (table : KeyedTable Key Value) (value : Value) :
    value ∈ table.values ↔ ∃ key, table.get? key = some value := by
  constructor
  · intro member
    obtain ⟨entry, listed, rfl⟩ := List.mem_map.mp member
    exact ⟨entry.1, (table.get?_eq_some_iff _ _).mpr listed⟩
  · rintro ⟨key, found⟩
    exact List.mem_map_of_mem ((table.get?_eq_some_iff _ _).mp found)

private theorem idxOf_le_of_find? {entries : List (Key × Value)} {hit : Key × Value}
    {test : Key × Value → Bool} (distinct : (entries.map Prod.fst).Nodup)
    (found : entries.find? test = some hit) {other : Key × Value}
    (listed : other ∈ entries) (passes : test other = true) :
    (entries.map Prod.fst).idxOf hit.1 ≤ (entries.map Prod.fst).idxOf other.1 := by
  induction entries with
  | nil => cases listed
  | cons entry rest ih =>
      rw [List.map_cons, List.nodup_cons] at distinct
      rw [List.find?_cons] at found
      rw [List.map_cons]
      cases tested : test entry with
      | true =>
          rw [tested] at found
          cases found
          rw [List.idxOf_cons_self]
          exact Nat.zero_le _
      | false =>
          rw [tested] at found
          have inRest : other ∈ rest := by
            rcases List.mem_cons.mp listed with rfl | inRest
            · rw [passes] at tested
              cases tested
            · exact inRest
          have apart : ∀ later ∈ rest, entry.1 ≠ later.1 := by
            intro later member same
            exact distinct.1 (same ▸ List.mem_map_of_mem member)
          rw [List.idxOf_cons_ne _ (apart hit (List.mem_of_find?_eq_some found)),
            List.idxOf_cons_ne _ (apart other inRest)]
          exact Nat.succ_le_succ (ih distinct.2 found inRest)

/-- The first entry that passes a test passes it and precedes every other that does. -/
theorem find?_eq_some_iff_first (table : KeyedTable Key Value) (test : Key × Value → Bool)
    (key : Key) (value : Value) :
    table.entries.find? test = some (key, value) ↔
      table.get? key = some value ∧ test (key, value) = true ∧
        ∀ other otherValue, table.get? other = some otherValue →
          test (other, otherValue) = true → table.position key ≤ table.position other := by
  constructor
  · intro found
    refine ⟨(table.get?_eq_some_iff key value).mpr (List.mem_of_find?_eq_some found),
      List.find?_some found, ?_⟩
    intro other otherValue foundOther passes
    exact idxOf_le_of_find? table.distinct found ((table.get?_eq_some_iff other otherValue).mp foundOther) passes
  · rintro ⟨found, passes, first⟩
    have listed := (table.get?_eq_some_iff key value).mp found
    cases hit : table.entries.find? test with
    | none => exact absurd passes (by simpa using List.find?_eq_none.mp hit _ listed)
    | some entry =>
        obtain ⟨hitKey, hitValue⟩ := entry
        have hitListed := List.mem_of_find?_eq_some hit
        have before := first hitKey hitValue ((table.get?_eq_some_iff _ _).mpr hitListed)
          (List.find?_some hit)
        have after := idxOf_le_of_find? table.distinct hit listed passes
        have keyListed : key ∈ table.entries.map Prod.fst :=
          List.mem_map.mpr ⟨(key, value), listed, rfl⟩
        have sameKey : key = hitKey :=
          (List.idxOf_inj keyListed).mp (Nat.le_antisymm before after)
        subst sameKey
        have sameValue := Option.some.inj
          (((table.get?_eq_some_iff _ _).mpr hitListed).symm.trans found)
        rw [sameValue]

/-! ### Evolution -/

/-- Every value stays under its key and only moves along `advance`. -/
def Evolves (advance : Value → Value → Prop) (old new : KeyedTable Key Value) : Prop :=
  ∀ key value, old.get? key = some value →
    ∃ next, new.get? key = some next ∧ Relation.ReflTransGen advance value next

theorem Evolves.refl (advance : Value → Value → Prop) (table : KeyedTable Key Value) :
    Evolves advance table table :=
  fun _ value found => ⟨value, found, Relation.ReflTransGen.refl⟩

theorem Evolves.trans {advance : Value → Value → Prop} {first second third : KeyedTable Key Value}
    (early : Evolves advance first second) (late : Evolves advance second third) :
    Evolves advance first third := by
  intro key value found
  obtain ⟨middle, foundMiddle, before⟩ := early key value found
  obtain ⟨last, foundLast, after⟩ := late key middle foundMiddle
  exact ⟨last, foundLast, before.trans after⟩

theorem evolves_set_new (advance : Value → Value → Prop) {table : KeyedTable Key Value} {key : Key}
    (absent : table.get? key = none) (value : Value) :
    Evolves advance table (table.set key value) := by
  intro other current found
  refine ⟨current, ?_, Relation.ReflTransGen.refl⟩
  rw [get?_set_other, found]
  rintro rfl
  rw [absent] at found
  cases found

theorem evolves_set {advance : Value → Value → Prop} {table : KeyedTable Key Value} {key : Key}
    {current next : Value} (found : table.get? key = some current) (advances : advance current next) :
    Evolves advance table (table.set key next) := by
  intro other value foundOther
  by_cases same : other = key
  · subst same
    obtain rfl : current = value := Option.some.inj (found.symm.trans foundOther)
    exact ⟨next, get?_set_self _ _ _, Relation.ReflTransGen.single advances⟩
  · exact ⟨value, (get?_set_other table same next).trans foundOther, Relation.ReflTransGen.refl⟩

end KeyedTable
