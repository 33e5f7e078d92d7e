import ActionProxy.Foundation.TextScan

/-!
Paths with `/` between their segments, as `path.posix` joins and normalises them: empty segments
and `.` are dropped, and `..` takes the segment before it away, or stays in front of a path that
is not absolute. The segments of a normalised path are those of the path.
-/

namespace PosixPath

/-- The segments that are neither empty nor `.`. -/
def segments (path : List Char) : List (List Char) :=
  (path.splitOn '/').filter (fun segment => decide (segment ≠ [] ∧ segment ≠ ['.']))

def isAbsolute (path : List Char) : Bool := path.head? == some '/'

/-- One more segment over those met before it, the last of them first. -/
def step (absolute : Bool) (stack : List (List Char)) (segment : List Char) : List (List Char) :=
  if segment = ['.', '.'] then
    match stack with
    | [] => if absolute then [] else [segment]
    | top :: below => if top = ['.', '.'] then segment :: stack else below
  else segment :: stack

def resolve (absolute : Bool) (segments : List (List Char)) : List (List Char) :=
  (segments.foldl (step absolute) []).reverse

/-- The segments of a path once `..` is resolved. -/
def parts (path : List Char) : List (List Char) := resolve (isAbsolute path) (segments path)

/-- `path.posix.normalize`. -/
def normalize (path : List Char) : List Char :=
  let body := ['/'].intercalate (parts path)
  let trailing := path.getLast? == some '/'
  if body = [] then
    if isAbsolute path then ['/'] else if path ≠ [] ∧ trailing then ['.', '/'] else ['.']
  else
    (if isAbsolute path then ['/'] else []) ++ body ++ (if trailing then ['/'] else [])

/-- `path.posix.join` of two texts. -/
def join (directory name : List Char) : List Char :=
  if directory = [] then normalize name
  else if name = [] then normalize directory
  else normalize (directory ++ '/' :: name)

/-! ### Resolved segments -/

/-- Resolving the stack again, from the bottom, gives the stack. -/
def Reached (absolute : Bool) (stack : List (List Char)) : Prop :=
  stack.reverse.foldl (step absolute) [] = stack

theorem reached_step {absolute : Bool} {stack : List (List Char)} (reached : Reached absolute stack)
    (segment : List Char) : Reached absolute (step absolute stack segment) := by
  have pushed : step absolute stack segment = segment :: stack →
      Reached absolute (segment :: stack) := by
    intro push
    unfold Reached
    rw [List.reverse_cons, List.foldl_append, reached]
    exact push
  by_cases up : segment = ['.', '.']
  · cases stack with
    | nil =>
        cases absolute with
        | true =>
            simp only [step, up, if_true]
            exact reached
        | false =>
            have push : step false [] segment = [segment] := by simp [step, up]
            rw [push]
            exact pushed push
    | cons top below =>
        by_cases higher : top = ['.', '.']
        · have push : step absolute (top :: below) segment = segment :: top :: below := by
            simp [step, up, higher]
          rw [push]
          exact pushed push
        · have popped : step absolute (top :: below) segment = below := by
            simp [step, up, higher]
          rw [popped]
          -- the top was pushed last, over what was reached from below
          unfold Reached at reached ⊢
          rw [List.reverse_cons, List.foldl_append] at reached
          have push : ∀ stack, step absolute stack top = top :: stack := by
            intro stack
            simp [step, higher]
          rw [List.foldl_cons, List.foldl_nil, push] at reached
          exact List.tail_eq_of_cons_eq reached
  · have push : step absolute stack segment = segment :: stack := by simp [step, up]
    rw [push]
    exact pushed push

theorem reached_foldl {absolute : Bool} {stack : List (List Char)} (reached : Reached absolute stack)
    (segments : List (List Char)) : Reached absolute (segments.foldl (step absolute) stack) := by
  induction segments generalizing stack with
  | nil => exact reached
  | cons segment rest ih => exact ih (reached_step reached segment)

theorem resolve_resolve (absolute : Bool) (segments : List (List Char)) :
    resolve absolute (resolve absolute segments) = resolve absolute segments := by
  have start : Reached absolute [] := rfl
  have reached : Reached absolute (segments.foldl (step absolute) []) :=
    reached_foldl start segments
  unfold resolve
  rw [reached]

theorem mem_foldl_step {absolute : Bool} {segments stack : List (List Char)} {segment : List Char}
    (member : segment ∈ segments.foldl (step absolute) stack) :
    segment ∈ stack ∨ segment ∈ segments := by
  induction segments generalizing stack with
  | nil => exact .inl member
  | cons first rest ih =>
      rcases ih member with here | later
      · unfold step at here
        have either : segment ∈ first :: stack := by
          split at here
          · split at here
            · split at here
              · cases here
              · exact List.mem_cons.mpr (.inl (List.mem_singleton.mp here))
            · split at here
              · exact here
              · exact List.mem_cons_of_mem _ (List.mem_cons_of_mem _ here)
          · exact here
        rcases List.mem_cons.mp either with rfl | old
        · exact .inr List.mem_cons_self
        · exact .inl old
      · exact .inr (List.mem_cons_of_mem _ later)

theorem mem_parts {path segment : List Char} (member : segment ∈ parts path) :
    segment ∈ segments path := by
  rcases mem_foldl_step (List.mem_reverse.mp member) with impossible | member
  · cases impossible
  · exact member

/-- A segment that is not `..` is put at the end. -/
theorem resolve_append_name (absolute : Bool) (segments : List (List Char)) {name : List Char}
    (plain : name ≠ ['.', '.']) :
    resolve absolute (segments ++ [name]) = resolve absolute segments ++ [name] := by
  have push : ∀ stack, step absolute stack name = name :: stack := by
    intro stack
    simp [step, plain]
  unfold resolve
  rw [List.foldl_append, List.foldl_cons, List.foldl_nil, push, List.reverse_cons]

/-! ### Segments of texts -/

theorem segments_slash (first second : List Char) :
    segments (first ++ '/' :: second) = segments first ++ segments second := by
  unfold segments
  rw [List.splitOn_append_cons_self, List.filter_append]

theorem segments_of_name {name : List Char} (unsplit : '/' ∉ name) (nonempty : name ≠ [])
    (other : name ≠ ['.']) : segments name = [name] := by
  unfold segments
  rw [List.splitOn_eq_singleton unsplit, List.filter_cons_of_pos (by simp [nonempty, other])]
  rfl

theorem mem_segments {path segment : List Char} (member : segment ∈ segments path) :
    '/' ∉ segment ∧ segment ≠ [] ∧ segment ≠ ['.'] := by
  obtain ⟨split', kept⟩ := List.mem_filter.mp member
  have both := of_decide_eq_true kept
  exact ⟨TextScan.not_mem_piece split', both.1, both.2⟩

theorem segments_intercalate {pieces : List (List Char)}
    (plain : ∀ piece ∈ pieces, '/' ∉ piece ∧ piece ≠ [] ∧ piece ≠ ['.']) :
    segments (['/'].intercalate pieces) = pieces := by
  by_cases empty : pieces = []
  · subst empty
    rfl
  · unfold segments
    rw [List.splitOn_intercalate '/' (fun piece member => (plain piece member).1) empty,
      List.filter_eq_self]
    intro piece member
    exact decide_eq_true (plain piece member).2

theorem segments_parts (path : List Char) :
    segments (['/'].intercalate (parts path)) = parts path :=
  segments_intercalate (fun _ member => mem_segments (mem_parts member))

theorem segments_root_cons (path : List Char) : segments ('/' :: path) = segments path :=
  segments_slash [] path

theorem segments_slash_end (path : List Char) : segments (path ++ ['/']) = segments path :=
  (segments_slash path []).trans (List.append_nil _)

/-! ### Normalised paths -/

theorem isAbsolute_normalize (path : List Char) : isAbsolute (normalize path) = isAbsolute path := by
  unfold normalize
  dsimp only
  cases absolute : isAbsolute path with
  | true =>
      split
      · rfl
      · rfl
  | false =>
      split
      · rw [if_neg Bool.false_ne_true]
        split <;> rfl
      · rename_i body
        -- the first character is that of the first segment
        cases pieces : parts path with
        | nil => exact absurd (by rw [pieces]; rfl) body
        | cons first rest =>
            have plain := mem_segments (mem_parts (by rw [pieces]; exact List.mem_cons_self))
            cases first with
            | nil => exact absurd rfl plain.2.1
            | cons char chars =>
                have other : char ≠ '/' := by
                  rintro rfl
                  exact plain.1 List.mem_cons_self
                cases rest <;> simp [isAbsolute, List.intercalate, other]

theorem segments_normalize (path : List Char) : segments (normalize path) = parts path := by
  have kept := segments_parts path
  unfold normalize
  dsimp only
  split
  · rename_i body
    rw [body] at kept
    rw [← kept]
    split
    · rfl
    · split <;> rfl
  · split
    · rw [List.append_assoc, List.singleton_append, segments_root_cons]
      split
      · rw [segments_slash_end, kept]
      · rw [List.append_nil, kept]
    · rw [List.nil_append]
      split
      · rw [segments_slash_end, kept]
      · rw [List.append_nil, kept]

/-- Normalising changes neither the parts of a path nor whether it is absolute. -/
theorem parts_normalize (path : List Char) : parts (normalize path) = parts path := by
  rw [parts, isAbsolute_normalize, segments_normalize, parts, resolve_resolve]

/-! ### Joined paths -/

theorem isAbsolute_join {directory name : List Char} (relative : isAbsolute name = false) :
    isAbsolute (join directory name) = isAbsolute directory := by
  unfold join
  split
  · rename_i empty
    rw [isAbsolute_normalize, relative, empty]
    rfl
  · split
    · rw [isAbsolute_normalize]
    · rename_i some _
      rw [isAbsolute_normalize]
      cases directory with
      | nil => exact absurd rfl some
      | cons char rest => rfl

theorem parts_join {directory name : List Char} (relative : isAbsolute name = false) :
    parts (join directory name) =
      resolve (isAbsolute directory) (segments directory ++ segments name) := by
  unfold join
  split
  · rename_i empty
    rw [parts_normalize, empty, parts, relative]
    rfl
  · rename_i some
    split
    · rename_i empty
      rw [parts_normalize, parts, empty]
      exact congrArg _ (List.append_nil _).symm
    · rw [parts_normalize, parts, segments_slash]
      cases directory with
      | nil => exact absurd rfl some
      | cons char rest => rfl

theorem relative_of_unsplit {name : List Char} (unsplit : '/' ∉ name) :
    isAbsolute name = false := by
  cases name with
  | nil => rfl
  | cons char rest =>
      have other : char ≠ '/' := by
        rintro rfl
        exact unsplit List.mem_cons_self
      simp [isAbsolute, other]

/-- A name that is neither `.` nor `..` and has no `/` is put behind the directory's parts. -/
theorem parts_join_name (directory : List Char) {name : List Char} (unsplit : '/' ∉ name)
    (nonempty : name ≠ []) (here : name ≠ ['.']) (up : name ≠ ['.', '.']) :
    parts (join directory name) = parts directory ++ [name] := by
  rw [parts_join (relative_of_unsplit unsplit), segments_of_name unsplit nonempty here,
    resolve_append_name _ _ up]
  rfl

/-- A directory is strictly below another: it is named by going down from it. -/
def Below (path directory : List Char) : Prop :=
  isAbsolute path = isAbsolute directory ∧
    ∃ names, names ≠ [] ∧ ['.', '.'] ∉ names ∧ parts path = parts directory ++ names

theorem below_join_name (directory : List Char) {name : List Char} (unsplit : '/' ∉ name)
    (nonempty : name ≠ []) (here : name ≠ ['.']) (up : name ≠ ['.', '.']) :
    Below (join directory name) directory := by
  refine ⟨isAbsolute_join (relative_of_unsplit unsplit), [name], List.cons_ne_nil _ _, ?_,
    parts_join_name directory unsplit nonempty here up⟩
  rw [List.mem_singleton]
  exact up.symm

theorem not_below_here (directory : List Char) : ¬ Below (join directory ['.']) directory := by
  rintro ⟨_, names, some, _, same⟩
  have kept : parts (join directory ['.']) = parts directory :=
    (parts_join rfl).trans (congrArg _ (List.append_nil _))
  rw [kept] at same
  exact some (List.append_cancel_left ((List.append_nil _).trans same)).symm

theorem not_below_up (directory : List Char) : ¬ Below (join directory ['.', '.']) directory := by
  rintro ⟨_, names, some, down, same⟩
  rw [parts_join rfl, parts, resolve, resolve, List.foldl_append] at same
  -- one step up from the stack of the directory
  have above : ∀ stack : List (List Char),
      (step (isAbsolute directory) stack ['.', '.']).reverse ≠ stack.reverse ++ names := by
    intro stack same
    cases stack with
    | nil =>
        cases absolute : isAbsolute directory with
        | true =>
            rw [absolute] at same
            exact some same.symm
        | false =>
            rw [absolute] at same
            exact down (by rw [show names = [['.', '.']] from same.symm]; exact List.mem_cons_self)
    | cons top below =>
        by_cases higher : top = ['.', '.']
        · have push : step (isAbsolute directory) (top :: below) ['.', '.'] =
              ['.', '.'] :: top :: below := by simp [step, higher]
          rw [push, List.reverse_cons] at same
          have last := List.append_cancel_left same
          exact down (by rw [← last]; exact List.mem_cons_self)
        · have pop : step (isAbsolute directory) (top :: below) ['.', '.'] = below := by
            simp [step, higher]
          rw [pop] at same
          have lengths := congrArg List.length same
          simp only [List.length_reverse, List.length_append, List.length_cons] at lengths
          omega
  exact above _ same

end PosixPath
