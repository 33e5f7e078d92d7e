import Mathlib.Data.List.Sort

/-!
Listings that sort, select and cut. A stable sort commutes with a selection, so the order of
these two steps is free; a cut commutes with a selection in exactly two cases.
-/

namespace StableSelection

variable {Item : Type}

section

variable {before : Item → Item → Prop} [DecidableRel before]

theorem orderedInsert_first {item : Item} {items : List Item}
    (first : ∀ other ∈ items, before item other) :
    items.orderedInsert before item = item :: items := by
  cases items with
  | nil => rfl
  | cons other rest =>
      exact List.orderedInsert_cons_of_le before rest (first other List.mem_cons_self)

theorem filter_orderedInsert_selected [IsTrans Item before] {selected : Item → Bool} {item : Item}
    {items : List Item} (chosen : selected item = true) (sorted : items.Pairwise before) :
    (items.orderedInsert before item).filter selected =
      (items.filter selected).orderedInsert before item := by
  induction items with
  | nil => exact List.filter_cons_of_pos chosen
  | cons other rest ih =>
      obtain ⟨above, restSorted⟩ := List.pairwise_cons.mp sorted
      by_cases first : before item other
      · have least : ∀ later ∈ (other :: rest).filter selected, before item later := by
          intro later listed
          rcases List.mem_cons.mp (List.mem_filter.mp listed).1 with rfl | inRest
          · exact first
          · exact IsTrans.trans item other later first (above later inRest)
        rw [List.orderedInsert_cons_of_le before rest first, List.filter_cons_of_pos chosen,
          orderedInsert_first least]
      · rw [List.orderedInsert_of_not_le before rest first]
        cases kept : selected other with
        | true =>
            rw [List.filter_cons_of_pos kept, List.filter_cons_of_pos kept,
              List.orderedInsert_of_not_le before _ first, ih restSorted]
        | false =>
            rw [List.filter_cons_of_neg (Bool.eq_false_iff.mp kept),
              List.filter_cons_of_neg (Bool.eq_false_iff.mp kept), ih restSorted]

theorem filter_orderedInsert_dropped {selected : Item → Bool} {item : Item} {items : List Item}
    (dropped : selected item = false) :
    (items.orderedInsert before item).filter selected = items.filter selected := by
  induction items with
  | nil => exact List.filter_cons_of_neg (Bool.eq_false_iff.mp dropped)
  | cons other rest ih =>
      by_cases first : before item other
      · rw [List.orderedInsert_cons_of_le before rest first,
          List.filter_cons_of_neg (Bool.eq_false_iff.mp dropped)]
      · rw [List.orderedInsert_of_not_le before rest first, List.filter_cons, List.filter_cons, ih]

theorem filter_insertionSort [Std.Total before] [IsTrans Item before] (selected : Item → Bool)
    (items : List Item) :
    (items.insertionSort before).filter selected =
      (items.filter selected).insertionSort before := by
  induction items with
  | nil => rfl
  | cons item rest ih =>
      rw [List.insertionSort_cons]
      cases chosen : selected item with
      | true =>
          rw [filter_orderedInsert_selected chosen (List.pairwise_insertionSort before rest),
            List.filter_cons_of_pos chosen, List.insertionSort_cons, ih]
      | false =>
          rw [filter_orderedInsert_dropped chosen,
            List.filter_cons_of_neg (Bool.eq_false_iff.mp chosen), ih]

/-- Items that come before the first sorted one stay in front, in their own order. -/
theorem insertionSort_append_of_first {front items : List Item}
    (among : front.Pairwise before)
    (first : ∀ item ∈ front, ∀ head ∈ (items.insertionSort before).head?, before item head) :
    (front ++ items).insertionSort before = front ++ items.insertionSort before := by
  induction front with
  | nil => rfl
  | cons item rest ih =>
      obtain ⟨above, restAmong⟩ := List.pairwise_cons.mp among
      rw [List.cons_append, List.insertionSort_cons,
        ih restAmong (fun other listed => first other (List.mem_cons_of_mem item listed)),
        List.cons_append]
      cases rest with
      | cons next others =>
          exact List.orderedInsert_cons_of_le before _ (above next List.mem_cons_self)
      | nil =>
          rw [List.nil_append]
          cases sorted : items.insertionSort before with
          | nil => rfl
          | cons head others =>
              apply List.orderedInsert_cons_of_le
              exact first item List.mem_cons_self head (by rw [sorted]; rfl)

end

section

variable {selected : Item → Bool} {items : List Item} {count : Nat}

theorem filter_take_first (selected : Item → Bool) (items : List Item) (count : Nat) :
    (items.take count).filter selected <+: (items.filter selected).take count := by
  rw [List.prefix_take_iff]
  refine ⟨(List.take_prefix count items).filter selected, ?_⟩
  exact (List.length_filter_le _ _).trans (List.length_take_le count items)

/-- Cutting first loses nothing exactly when nothing is selected behind the cut or everything
is selected before it. -/
theorem filter_take_eq_iff (selected : Item → Bool) (items : List Item) (count : Nat) :
    (items.take count).filter selected = (items.filter selected).take count ↔
      (∀ item ∈ items.take count, selected item = true) ∨
        ∀ item ∈ items.drop count, selected item = false := by
  have split : items.filter selected =
      (items.take count).filter selected ++ (items.drop count).filter selected := by
    rw [← List.filter_append, List.take_append_drop]
  have short := List.length_take_le count items
  constructor
  · intro same
    by_contra neither
    rw [not_or] at neither
    obtain ⟨extra, listed, chosen⟩ : ∃ item ∈ items.drop count, selected item = true := by
      by_contra none
      refine neither.2 (fun item listed => ?_)
      exact Bool.eq_false_iff.mpr (fun chosen => none ⟨item, listed, chosen⟩)
    have fewer : ((items.take count).filter selected).length < (items.take count).length := by
      refine lt_of_le_of_ne (List.length_filter_le _ _) (fun full => neither.1 ?_)
      exact List.length_filter_eq_length_iff.mp full
    have behind : 0 < ((items.drop count).filter selected).length :=
      List.length_pos_of_mem (List.mem_filter.mpr ⟨listed, chosen⟩)
    have lengths := congrArg List.length same
    rw [split, List.length_take, List.length_append] at lengths
    omega
  · intro either
    rw [split]
    rcases either with all | none
    · rw [List.filter_eq_self.mpr all]
      rcases Nat.le_total count items.length with enough | few
      · rw [List.take_left' (List.length_take_of_le enough)]
      · rw [List.drop_eq_nil_of_le few, List.filter_nil, List.append_nil, List.take_take,
          Nat.min_self]
    · have nothing : (items.drop count).filter selected = [] := by
        rw [List.filter_eq_nil_iff]
        exact fun item listed => Bool.eq_false_iff.mp (none item listed)
      rw [nothing, List.append_nil]
      exact (List.take_of_length_le ((List.length_filter_le _ _).trans short)).symm

theorem take_filter_of_all (all : ∀ item ∈ items.take count, selected item = true) :
    (items.filter selected).take count = items.take count := by
  rw [← (filter_take_eq_iff selected items count).mpr (Or.inl all), List.filter_eq_self.mpr all]

/-- Of the items a query fetches up to a count, the selected ones are the first `count` selected
of all exactly when those were fetched and the cut lost nothing. -/
theorem fetched_eq_iff (fetched selected : Item → Bool) (items : List Item) (count : Nat) :
    ((items.filter fetched).take count).filter selected = (items.filter selected).take count ↔
      (∀ item ∈ (items.filter selected).take count, fetched item = true) ∧
        ((∀ item ∈ (items.filter fetched).take count, selected item = true) ∨
          ∀ item ∈ (items.filter fetched).drop count, selected item = false) := by
  have swap : (items.filter fetched).filter selected = (items.filter selected).filter fetched := by
    rw [List.filter_filter, List.filter_filter]
    simp only [Bool.and_comm]
  rw [← filter_take_eq_iff selected (items.filter fetched) count, swap]
  constructor
  · intro same
    have all : ∀ item ∈ (items.filter selected).take count, fetched item = true := by
      intro item listed
      rw [← same] at listed
      have taken := List.mem_of_mem_take (List.mem_filter.mp listed).1
      exact (List.mem_filter.mp taken).2
    exact ⟨all, by rw [take_filter_of_all all, same]⟩
  · intro both
    rw [both.2, take_filter_of_all both.1]

end

end StableSelection
