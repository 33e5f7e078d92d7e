import ActionProxy.Foundation.TextScan

/-!
The lines of a trimmed text: of lines that are written one after the other each comes back
as it was written.
-/

namespace FileLines

open TextScan

/-- The lines of the trimmed text; there are none when nothing is left of it. -/
def fileLines (text : List Char) : List (List Char) :=
  if trimChars text = [] then [] else (trimChars text).splitOn '\n'

/-- A line with no space at its ends. -/
structure Solid (line : List Char) : Prop where
  nonempty : line ≠ []
  first : ∀ char ∈ line.head?, isSpace char = false
  last : ∀ char ∈ line.getLast?, isSpace char = false
  single : '\n' ∉ line

/-- The lines with newlines between them. -/
def joined : List (List Char) → List Char
  | [] => []
  | [line] => line
  | line :: next :: rest => line ++ '\n' :: joined (next :: rest)

theorem joined_cons (line : List Char) {rest : List (List Char)} (some : rest ≠ []) :
    joined (line :: rest) = line ++ '\n' :: joined rest := by
  cases rest with
  | nil => exact absurd rfl some
  | cons next rest => rfl

/-- The lines with a newline after each. -/
def terminated (lines : List (List Char)) : List Char := lines.flatMap (fun line => line ++ ['\n'])

theorem terminated_append (lines : List (List Char)) (last : List Char) :
    terminated lines ++ last = joined (lines ++ [last]) := by
  induction lines with
  | nil => rfl
  | cons line rest inductionHypothesis =>
      rw [List.cons_append, joined_cons line (List.append_ne_nil_of_right_ne_nil _ (by simp)),
        ← inductionHypothesis, terminated, List.flatMap_cons, List.append_assoc, List.append_assoc]
      rfl

theorem terminated_concat (lines : List (List Char)) (line : List Char) :
    terminated (lines ++ [line]) = terminated lines ++ (line ++ ['\n']) := by
  rw [terminated, List.flatMap_append, List.flatMap_singleton]
  rfl

theorem splitOn_joined {lines : List (List Char)} (some : lines ≠ [])
    (solid : ∀ line ∈ lines, '\n' ∉ line) : (joined lines).splitOn '\n' = lines := by
  induction lines with
  | nil => exact absurd rfl some
  | cons line rest inductionHypothesis =>
      have single := solid line List.mem_cons_self
      cases rest with
      | nil => exact List.splitOn_eq_singleton single
      | cons next rest =>
          rw [joined, List.splitOn_append_cons_self_of_not_mem single,
            inductionHypothesis (List.cons_ne_nil _ _)
              (fun other listed => solid other (List.mem_cons_of_mem _ listed))]

theorem joined_ne_nil {lines : List (List Char)} (some : lines ≠ [])
    (solid : ∀ line ∈ lines, Solid line) : joined lines ≠ [] := by
  cases lines with
  | nil => exact absurd rfl some
  | cons line rest =>
      have nonempty := (solid line List.mem_cons_self).nonempty
      cases rest with
      | nil => exact nonempty
      | cons next rest => exact List.append_ne_nil_of_left_ne_nil nonempty _

theorem joined_first {lines : List (List Char)} (solid : ∀ line ∈ lines, Solid line) :
    ∀ char ∈ (joined lines).head?, isSpace char = false := by
  cases lines with
  | nil =>
      intro char none
      cases none
  | cons line rest =>
      have firstSolid := solid line List.mem_cons_self
      cases rest with
      | nil => exact firstSolid.first
      | cons next rest =>
          rw [joined, List.head?_append_of_ne_nil _ firstSolid.nonempty]
          exact firstSolid.first

theorem joined_last {lines : List (List Char)} (solid : ∀ line ∈ lines, Solid line) :
    ∀ char ∈ (joined lines).getLast?, isSpace char = false := by
  induction lines with
  | nil =>
      intro char none
      cases none
  | cons line rest inductionHypothesis =>
      cases rest with
      | nil => exact (solid line List.mem_cons_self).last
      | cons next rest =>
          have restSolid : ∀ other ∈ next :: rest, Solid other :=
            fun other listed => solid other (List.mem_cons_of_mem _ listed)
          have restSome := joined_ne_nil (List.cons_ne_nil next rest) restSolid
          rw [joined, List.getLast?_append_of_ne_nil _ (List.cons_ne_nil _ _),
            List.getLast?_cons_of_ne_nil restSome]
          exact inductionHypothesis restSolid

/-- Trimming takes spaces from the end of a text that begins and ends with none. -/
theorem trimChars_append {core back : List Char} (nonempty : core ≠ [])
    (first : ∀ char ∈ core.head?, isSpace char = false)
    (last : ∀ char ∈ core.getLast?, isSpace char = false)
    (spaces : ∀ char ∈ back, isSpace char = true) : trimChars (core ++ back) = core := by
  have start : (core ++ back).dropWhile isSpace = core ++ back := by
    obtain ⟨head, tail, rfl⟩ := List.exists_cons_of_ne_nil nonempty
    rw [List.cons_append, List.dropWhile_cons, first head rfl]
    rfl
  have ending : core.reverse.dropWhile isSpace = core.reverse := by
    rcases List.eq_nil_or_concat core with rfl | ⟨front, final, rfl⟩
    · rfl
    · have visible := last final (by simp)
      rw [List.concat_eq_append, List.reverse_append, List.reverse_singleton, List.singleton_append,
        List.dropWhile_cons, visible]
      rfl
  have all : back.reverse.dropWhile isSpace = [] := by
    rw [List.dropWhile_eq_nil_iff]
    intro char listed
    exact spaces char (List.mem_reverse.mp listed)
  rw [trimChars, start, List.rdropWhile, List.reverse_append, List.dropWhile_append, all]
  simp only [List.isEmpty_nil, if_true, ending, List.reverse_reverse]

theorem fileLines_joined {lines : List (List Char)} (some : lines ≠ [])
    (solid : ∀ line ∈ lines, Solid line) {back : List Char}
    (spaces : ∀ char ∈ back, isSpace char = true) : fileLines (joined lines ++ back) = lines := by
  have nonempty := joined_ne_nil some solid
  have trimmed := trimChars_append nonempty (joined_first solid) (joined_last solid) spaces
  rw [fileLines, trimmed, if_neg nonempty]
  exact splitOn_joined some (fun line listed => (solid line listed).single)

theorem fileLines_terminated {lines : List (List Char)} (solid : ∀ line ∈ lines, Solid line) :
    fileLines (terminated lines) = lines := by
  rcases List.eq_nil_or_concat lines with rfl | ⟨front, last, rfl⟩
  · rfl
  · rw [List.concat_eq_append] at solid ⊢
    have split : terminated (front ++ [last]) = joined (front ++ [last]) ++ ['\n'] := by
      rw [terminated_concat, ← List.append_assoc, terminated_append]
    rw [split]
    apply fileLines_joined (List.append_ne_nil_of_right_ne_nil _ (List.cons_ne_nil _ _)) solid
    intro char listed
    obtain rfl := List.mem_singleton.mp listed
    rfl

theorem fileLines_unterminated {lines : List (List Char)} (solid : ∀ line ∈ lines, Solid line)
    {last back : List Char} (lastSolid : Solid last) (spaces : ∀ char ∈ back, isSpace char = true) :
    fileLines (terminated lines ++ (last ++ back)) = lines ++ [last] := by
  rw [← List.append_assoc, terminated_append]
  apply fileLines_joined (List.append_ne_nil_of_right_ne_nil _ (List.cons_ne_nil _ _)) ?_ spaces
  intro line listed
  rcases List.mem_append.mp listed with before | isLast
  · exact solid line before
  · exact (List.mem_singleton.mp isLast) ▸ lastSolid

theorem exists_core {first : Char} (visible : isSpace first = false) (text : List Char) :
    ∃ core back, first :: text = core ++ back ∧ core.head? = some first ∧
      (∀ char ∈ core.getLast?, isSpace char = false) ∧ ∀ char ∈ back, isSpace char = true := by
  induction text using List.reverseRecOn with
  | nil =>
      refine ⟨[first], [], rfl, rfl, ?_, List.forall_mem_nil _⟩
      intro char isLast
      obtain rfl := Option.some.inj isLast
      exact visible
  | append_singleton text last inductionHypothesis =>
      by_cases space : isSpace last = true
      · obtain ⟨core, back, split, opens, ends, spaces⟩ := inductionHypothesis
        refine ⟨core, back ++ [last], ?_, opens, ends, ?_⟩
        · rw [← List.append_assoc, ← split]
          rfl
        · intro char listed
          rcases List.mem_append.mp listed with before | isLast
          · exact spaces char before
          · exact (List.mem_singleton.mp isLast) ▸ space
      · refine ⟨first :: (text ++ [last]), [], (List.append_nil _).symm, rfl, ?_,
          List.forall_mem_nil _⟩
        intro char isLast
        rw [← List.cons_append, List.getLast?_concat] at isLast
        obtain rfl := Option.some.inj isLast
        exact Bool.eq_false_iff.mpr space

/-! ### Reading every line -/

section

variable {Line Value : Type} {read : Line → Option Value} {lines : List Line}

theorem mapM_of_each {value : Line → Value}
    (each : ∀ line ∈ lines, read line = some (value line)) :
    lines.mapM read = some (lines.map value) := by
  induction lines with
  | nil => rfl
  | cons line rest inductionHypothesis =>
      have restRead := inductionHypothesis
        (fun other listed => each other (List.mem_cons_of_mem line listed))
      rw [List.mapM_cons, each line List.mem_cons_self, restRead]
      rfl

theorem mapM_unread {line : Line} (listed : line ∈ lines) (unread : read line = none) :
    lines.mapM read = none := by
  induction lines with
  | nil => cases listed
  | cons first rest inductionHypothesis =>
      rw [List.mapM_cons]
      rcases List.mem_cons.mp listed with rfl | later
      · rw [unread]
        rfl
      · rw [inductionHypothesis later]
        cases read first with
        | none => rfl
        | some value => rfl

end

end FileLines
