import Mathlib.Data.List.Basic
import Mathlib.Data.List.Infix

/-!
Splitting a stream into messages. A decoder looks at what is buffered and waits
for more, fails, or takes something off its front; what it takes it takes however
much follows. A stream arrives in pieces, and what a piece completes is handed
over when the whole piece was taken in: a stream means the same in every splitting
exactly when no cut of it fails, or when it fails before its first message.
-/

namespace Framing

variable {α β M σ ε : Type}

/-- What a decoder does with what is buffered. -/
inductive Step (α M : Type) where
  | more
  | fail
  | emit (messages : List M) (rest : List α)

/-- A decoder that takes what it takes off the front, whatever follows. -/
structure Decoder (α M : Type) where
  step : List α → Step α M
  start : step [] = .more
  whole : ∀ {buffer : List α} {messages : List M} {rest : List α},
    step buffer = .emit messages rest →
      ∃ front, front ≠ [] ∧ buffer = front ++ rest ∧
        ∀ more, step (front ++ more) = .emit messages more

namespace Decoder

theorem shorter (decoder : Decoder α M) {buffer rest : List α} {messages : List M}
    (taken : decoder.step buffer = .emit messages rest) : rest.length < buffer.length := by
  obtain ⟨front, nonempty, rfl, _⟩ := decoder.whole taken
  have positive := List.length_pos_iff.mpr nonempty
  rw [List.length_append]
  omega

theorem step_append (decoder : Decoder α M) {buffer rest : List α} {messages : List M}
    (taken : decoder.step buffer = .emit messages rest) (more : List α) :
    decoder.step (buffer ++ more) = .emit messages (rest ++ more) := by
  obtain ⟨front, _, rfl, every⟩ := decoder.whole taken
  rw [List.append_assoc]
  exact every _

/-- The messages handed over before those of what follows. -/
def after (messages : List M) (result : Option (List M × List α)) : Option (List M × List α) :=
  result.map (Prod.map (messages ++ ·) id)

@[simp] theorem after_nothing (result : Option (List M × List α)) : after [] result = result := by
  cases result <;> rfl

theorem after_isSome (messages : List M) (result : Option (List M × List α)) :
    (after messages result).isSome = result.isSome :=
  Option.isSome_map

theorem after_after (first second : List M) (result : Option (List M × List α)) :
    after first (after second result) = after (first ++ second) result := by
  unfold after
  rw [Option.map_map]
  congr 1
  funext result
  simp [Prod.map]

/-- Everything that is complete in the buffer, and what is left of it. -/
def drain (decoder : Decoder α M) (buffer : List α) : Option (List M × List α) :=
  match _taken : decoder.step buffer with
  | .more => some ([], buffer)
  | .fail => none
  | .emit messages rest => after messages (decoder.drain rest)
termination_by buffer.length
decreasing_by exact decoder.shorter _taken

theorem drain_more {decoder : Decoder α M} {buffer : List α}
    (waits : decoder.step buffer = .more) : decoder.drain buffer = some ([], buffer) := by
  rw [drain]
  split <;> simp_all

theorem drain_fail {decoder : Decoder α M} {buffer : List α}
    (fails : decoder.step buffer = .fail) : decoder.drain buffer = none := by
  rw [drain]
  split <;> simp_all

theorem drain_emit {decoder : Decoder α M} {buffer rest : List α} {messages : List M}
    (taken : decoder.step buffer = .emit messages rest) :
    decoder.drain buffer = after messages (decoder.drain rest) := by
  rw [drain]
  split <;> simp_all

theorem drain_nil (decoder : Decoder α M) : decoder.drain [] = some ([], []) :=
  drain_more decoder.start

@[elab_as_elim]
theorem takingInduction (decoder : Decoder α M) {motive : List α → Prop}
    (more : ∀ buffer, decoder.step buffer = .more → motive buffer)
    (fail : ∀ buffer, decoder.step buffer = .fail → motive buffer)
    (emit : ∀ buffer messages rest, decoder.step buffer = .emit messages rest → motive rest →
      motive buffer) (buffer : List α) : motive buffer := by
  induction bound : buffer.length using Nat.strongRecOn generalizing buffer with
  | ind length ih =>
      cases taken : decoder.step buffer with
      | more => exact more buffer taken
      | fail => exact fail buffer taken
      | emit messages rest =>
          have less := decoder.shorter taken
          rw [bound] at less
          exact emit buffer messages rest taken (ih rest.length less rest rfl)

theorem step_of_drain {decoder : Decoder α M} {buffer rest : List α} {messages : List M}
    (drained : decoder.drain buffer = some (messages, rest)) : decoder.step rest = .more := by
  induction buffer using decoder.takingInduction generalizing messages with
  | more buffer waits =>
      rw [drain_more waits] at drained
      cases drained
      exact waits
  | fail buffer fails =>
      rw [drain_fail fails] at drained
      cases drained
  | emit buffer first left taken ih =>
      rw [drain_emit taken] at drained
      obtain ⟨⟨later, rest'⟩, inner, same⟩ := Option.map_eq_some_iff.mp drained
      cases same
      exact ih inner

theorem drain_append {decoder : Decoder α M} {buffer rest : List α} {messages : List M}
    (drained : decoder.drain buffer = some (messages, rest)) (more : List α) :
    decoder.drain (buffer ++ more) =
      after messages (decoder.drain (rest ++ more)) := by
  induction buffer using decoder.takingInduction generalizing messages with
  | more buffer waits =>
      rw [drain_more waits] at drained
      cases drained
      exact (after_nothing _).symm
  | fail buffer fails =>
      rw [drain_fail fails] at drained
      cases drained
  | emit buffer first left taken ih =>
      rw [drain_emit taken] at drained
      obtain ⟨⟨later, rest'⟩, inner, same⟩ := Option.map_eq_some_iff.mp drained
      cases same
      rw [drain_emit (decoder.step_append taken more), ih inner, after_after]

/-! ### Which streams mean the same in every splitting -/

/-- No beginning of the stream fails. -/
def Steady (decoder : Decoder α M) (stream : List α) : Prop :=
  ∀ front, front <+: stream → (decoder.drain front).isSome = true

/-- The stream fails, and no shorter beginning of it hands anything over. -/
def Blocked (decoder : Decoder α M) (stream : List α) : Prop :=
  decoder.drain stream = none ∧
    ∀ front, front <+: stream → ∀ messages rest,
      decoder.drain front = some (messages, rest) → messages = []

/-- A stream is steady when its first step is, however little of it is there, and
what is left after it is steady. -/
theorem steady_iff {decoder : Decoder α M} {stream : List α} :
    decoder.Steady stream ↔
      (∀ front, front <+: stream → decoder.step front ≠ .fail) ∧
        ∀ messages rest, decoder.step stream = .emit messages rest → decoder.Steady rest := by
  constructor
  · intro steady
    constructor
    · intro front start fails
      have shown := steady front start
      rw [drain_fail fails] at shown
      cases shown
    · intro messages rest taken more start
      obtain ⟨front, _, rfl, every⟩ := decoder.whole taken
      have shown := steady (front ++ more) ((List.prefix_append_right_inj front).mpr start)
      rw [drain_emit (every more), after_isSome] at shown
      exact shown
  · rintro ⟨first, later⟩ front start
    cases taken : decoder.step front with
    | more => rw [drain_more taken]; rfl
    | fail => exact absurd taken (first front start)
    | emit messages rest =>
        obtain ⟨more, rfl⟩ := start
        have steady := later messages (rest ++ more) (decoder.step_append taken more)
        rw [drain_emit taken, after_isSome]
        exact steady rest (List.prefix_append rest more)

/-- A stream is blocked when its first step fails, or hands over nothing and
leaves a blocked stream. -/
theorem blocked_iff {decoder : Decoder α M} {stream : List α} :
    decoder.Blocked stream ↔
      decoder.step stream = .fail ∨
        ∃ rest, decoder.step stream = .emit [] rest ∧ decoder.Blocked rest := by
  constructor
  · rintro ⟨fails, silent⟩
    cases taken : decoder.step stream with
    | more =>
        rw [drain_more taken] at fails
        cases fails
    | fail => exact Or.inl rfl
    | emit messages rest =>
        obtain ⟨front, _, rfl, every⟩ := decoder.whole taken
        have alone : decoder.drain front = some (messages, []) := by
          have last := every []
          rw [List.append_nil] at last
          rw [drain_emit last, drain_nil, after, Option.map_some, Prod.map_apply, List.append_nil]
          rfl
        have nothing := silent front (List.prefix_append front rest) messages [] alone
        subst nothing
        refine Or.inr ⟨rest, rfl, ?_, ?_⟩
        · rw [drain_emit (every rest)] at fails
          exact Option.map_eq_none_iff.mp fails
        · intro more start messages left drained
          have shown := silent (front ++ more) ((List.prefix_append_right_inj front).mpr start)
            messages left
          rw [drain_emit (every more), drained] at shown
          exact shown rfl
  · rintro (fails | ⟨rest, taken, blocked⟩)
    · refine ⟨drain_fail fails, ?_⟩
      rintro front ⟨more, rfl⟩ messages left drained
      cases taken : decoder.step front with
      | more =>
          rw [drain_more taken] at drained
          cases drained
          rfl
      | fail =>
          rw [drain_fail taken] at drained
          cases drained
      | emit first left' =>
          rw [decoder.step_append taken more] at fails
          cases fails
    · obtain ⟨front, _, rfl, every⟩ := decoder.whole taken
      refine ⟨by rw [drain_emit taken, blocked.1]; rfl, ?_⟩
      intro start within messages left drained
      cases opened : decoder.step start with
      | more =>
          rw [drain_more opened] at drained
          cases drained
          rfl
      | fail =>
          rw [drain_fail opened] at drained
          cases drained
      | emit first rest' =>
          obtain ⟨more, same⟩ := within
          have whole := decoder.step_append opened more
          rw [same, taken] at whole
          cases whole
          rw [drain_emit opened] at drained
          obtain ⟨⟨later, left'⟩, inner, equal⟩ := Option.map_eq_some_iff.mp drained
          cases equal
          exact blocked.2 rest' (List.prefix_append rest' more) later left' inner

end Decoder

/-! ### Loops -/

/-- A loop that takes what is complete off a buffer until nothing more is, or it
fails; what it took is appended to what it has. -/
def loop (next : β → Except ε (Option (List M × β))) : Nat → β → List M → Except ε (List M × β)
  | 0, buffer, messages => .ok (messages, buffer)
  | turns + 1, buffer, messages =>
      match next buffer with
      | .error failure => .error failure
      | .ok none => .ok (messages, buffer)
      | .ok (some (found, rest)) => loop next turns rest (messages ++ found)

/-- One turn of a loop does to the view of a buffer what the decoder does to the buffer. -/
def Turns (next : β → Except ε (Option (List M × β))) (decoder : Decoder α M)
    (view : List α → β) (buffer : List α) : Prop :=
  match decoder.step buffer with
  | .more => next (view buffer) = .ok none
  | .fail => ∃ failure, next (view buffer) = .error failure
  | .emit messages rest => next (view buffer) = .ok (some (messages, view rest))

/-- What a turn over the buffer itself does. -/
def stepOf : Except ε (Option (List M × List α)) → Step α M
  | .error _ => .fail
  | .ok none => .more
  | .ok (some (messages, rest)) => .emit messages rest

theorem next_of_emit {turn : Except ε (Option (List M × List α))} {messages : List M}
    {rest : List α} (taken : stepOf turn = .emit messages rest) :
    turn = .ok (some (messages, rest)) := by
  cases turn with
  | error failure => cases taken
  | ok result =>
      cases result with
      | none => cases taken
      | some found =>
          cases taken
          rfl

theorem turns_of_stepOf {next : List α → Except ε (Option (List M × List α))}
    {decoder : Decoder α M} {buffer : List α} (same : decoder.step buffer = stepOf (next buffer)) :
    Turns next decoder id buffer := by
  unfold Turns
  rw [same]
  cases taken : next buffer with
  | error failure => exact ⟨failure, taken⟩
  | ok result =>
      cases result with
      | none => exact taken
      | some found => exact taken

theorem toOption_map (outcome : Except ε α) (change : α → β) :
    (outcome.map change).toOption = outcome.toOption.map change := by
  cases outcome <;> rfl

theorem loop_toOption {next : β → Except ε (Option (List M × β))} {decoder : Decoder α M}
    {view : List α → β} (size : β → Nat) (same : ∀ buffer, Turns next decoder view buffer)
    (less : ∀ {buffer messages rest}, decoder.step buffer = .emit messages rest →
      size (view rest) < size (view buffer))
    {turns : Nat} {buffer : List α} (enough : size (view buffer) < turns) (messages : List M) :
    (loop next turns (view buffer) messages).toOption =
      (Decoder.after messages (decoder.drain buffer)).map (Prod.map id view) := by
  induction buffer using decoder.takingInduction generalizing turns messages with
  | more buffer waits =>
      obtain ⟨turns, rfl⟩ := Nat.exists_eq_add_one.mpr (Nat.zero_lt_of_lt enough)
      have turn := same buffer
      rw [Turns, waits] at turn
      rw [Decoder.drain_more waits, loop, turn]
      simp [Decoder.after, Except.toOption]
  | fail buffer fails =>
      obtain ⟨turns, rfl⟩ := Nat.exists_eq_add_one.mpr (Nat.zero_lt_of_lt enough)
      have turn := same buffer
      rw [Turns, fails] at turn
      obtain ⟨failure, turn⟩ := turn
      rw [Decoder.drain_fail fails, loop, turn]
      rfl
  | emit buffer first rest taken ih =>
      obtain ⟨turns, rfl⟩ := Nat.exists_eq_add_one.mpr (Nat.zero_lt_of_lt enough)
      have turn := same buffer
      rw [Turns, taken] at turn
      have smaller := less taken
      rw [loop, turn, Decoder.drain_emit taken, Decoder.after_after]
      exact ih (by omega) (messages ++ first)

/-! ### Separators -/

section Separators

variable [DecidableEq α]

/-- `indexOf`: where the separator first is. -/
def indexOf? (separator buffer : List α) : Option Nat :=
  (List.range (buffer.length + 1)).find? (fun index => separator.isPrefixOf (buffer.drop index))

/-- The separator after this is the first one. -/
def First (separator front : List α) : Prop :=
  ¬ separator <:+: (front ++ separator).dropLast

omit [DecidableEq α] in
theorem infix_iff_drop {separator buffer : List α} :
    separator <:+: buffer ↔ ∃ index ≤ buffer.length, separator <+: buffer.drop index := by
  constructor
  · rintro ⟨front, rest, rfl⟩
    refine ⟨front.length, ?_, rest, ?_⟩
    · simp only [List.length_append]
      omega
    · rw [List.append_assoc, List.drop_left]
  · rintro ⟨index, _, start⟩
    exact start.isInfix.trans (List.drop_suffix index buffer).isInfix

omit [DecidableEq α] in
theorem infix_take {separator buffer : List α} {index count : Nat}
    (start : separator <+: buffer.drop index) (enough : index + separator.length ≤ count) :
    separator <:+: buffer.take count := by
  have last : separator <:+ buffer.take (index + separator.length) := by
    rw [List.take_add, ← List.prefix_iff_eq_take.mp start]
    exact List.suffix_append _ _
  exact last.isInfix.trans (List.take_prefix_take_left enough).isInfix

theorem indexOf?_eq_none_iff {separator buffer : List α} :
    indexOf? separator buffer = none ↔ ¬ separator <:+: buffer := by
  rw [indexOf?, List.find?_range_eq_none, infix_iff_drop]
  push Not
  constructor
  · intro every index bound start
    have shown := every index (by omega)
    rw [List.isPrefixOf_iff_prefix.mpr start] at shown
    cases shown
  · intro every index bound
    have shown := every index (by omega)
    rw [← List.isPrefixOf_iff_prefix] at shown
    rw [Bool.not_eq_true] at shown
    rw [shown]
    rfl

omit [DecidableEq α] in
theorem dropLast_eq_take {separator front : List α} (rest : List α) (nonempty : separator ≠ []) :
    (front ++ separator).dropLast =
      (front ++ (separator ++ rest)).take (front.length + separator.length - 1) := by
  have positive := List.length_pos_iff.mpr nonempty
  have short : front.length + separator.length - 1 ≤ (front ++ separator).length := by
    rw [List.length_append]
    omega
  rw [List.dropLast_eq_take, ← List.append_assoc, List.take_append_of_le_length short,
    List.length_append]

theorem indexOf?_first {separator front : List α} (nonempty : separator ≠ [])
    (first : First separator front) (rest : List α) :
    indexOf? separator (front ++ (separator ++ rest)) = some front.length := by
  rw [indexOf?, List.find?_range_eq_some]
  refine ⟨?_, ?_, ?_⟩
  · rw [List.drop_left, List.isPrefixOf_iff_prefix]
    exact List.prefix_append separator rest
  · rw [List.mem_range]
    simp only [List.length_append]
    omega
  · intro index before
    rw [Bool.not_eq_true', ← Bool.not_eq_true, List.isPrefixOf_iff_prefix]
    intro start
    apply first
    rw [dropLast_eq_take rest nonempty]
    exact infix_take start (by omega)

theorem eq_of_indexOf? {separator buffer : List α} {index : Nat} (nonempty : separator ≠ [])
    (found : indexOf? separator buffer = some index) :
    ∃ front rest, buffer = front ++ (separator ++ rest) ∧ front.length = index ∧
      First separator front := by
  rw [indexOf?, List.find?_range_eq_some] at found
  obtain ⟨here, bound, none⟩ := found
  rw [List.isPrefixOf_iff_prefix] at here
  obtain ⟨rest, same⟩ := here
  rw [List.mem_range] at bound
  have whole : buffer = buffer.take index ++ (separator ++ rest) := by
    rw [same, List.take_append_drop]
  have size : (buffer.take index).length = index := by
    rw [List.length_take]
    omega
  refine ⟨buffer.take index, rest, whole, size, ?_⟩
  intro earlier
  obtain ⟨place, within, start⟩ := infix_iff_drop.mp earlier
  have positive := List.length_pos_iff.mpr nonempty
  have room := start.length_le
  rw [List.length_drop, List.length_dropLast, List.length_append, size] at room
  have absent := none place (by omega)
  rw [Bool.not_eq_true', ← Bool.not_eq_true, List.isPrefixOf_iff_prefix] at absent
  apply absent
  rw [dropLast_eq_take rest nonempty, ← whole, List.drop_take] at start
  exact start.trans (List.take_prefix _ _)

omit [DecidableEq α] in
theorem First.absent {separator front rest start : List α} (first : First separator front)
    (within : start <+: front ++ (separator ++ rest))
    (short : start.length < front.length + separator.length) : ¬ separator <:+: start := by
  intro occurs
  apply first
  by_cases nonempty : separator = []
  · subst nonempty
    exact List.nil_infix
  · rw [dropLast_eq_take rest nonempty]
    apply occurs.trans
    exact (List.prefix_take_iff.mpr ⟨within, by omega⟩).isInfix

omit [DecidableEq α] in
/-- A separator that starts with something new is first where it is put. -/
theorem first_of_not_mem {head : α} {tail front : List α} (absent : head ∉ front) :
    First (head :: tail) front := by
  intro occurs
  obtain ⟨index, _, start⟩ := infix_iff_drop.mp occurs
  have room := start.length_le
  rw [List.length_drop, List.length_dropLast, List.length_append, List.length_cons] at room
  have before : index < front.length := by omega
  apply absent
  have within : index < (front ++ head :: tail).dropLast.length := by
    rw [List.length_dropLast, List.length_append, List.length_cons]
    omega
  rw [List.drop_eq_getElem_cons within] at start
  have same := (List.cons_prefix_cons.mp start).1
  rw [List.getElem_dropLast, List.getElem_append_left before] at same
  rw [same]
  exact List.getElem_mem before

theorem First.unique {separator front rest front' rest' : List α} (nonempty : separator ≠ [])
    (one : First separator front) (other : First separator front')
    (same : front ++ (separator ++ rest) = front' ++ (separator ++ rest')) :
    front = front' ∧ rest = rest' := by
  have place := indexOf?_first nonempty one rest
  rw [same, indexOf?_first nonempty other rest'] at place
  obtain ⟨fronts, rests⟩ := List.append_inj same (Option.some.inj place).symm
  exact ⟨fronts, List.append_cancel_left rests⟩

end Separators

/-! ### Runs over pieces -/

/-- The pieces of a stream; none is empty. -/
def Splits (chunks : List (List α)) (stream : List α) : Prop :=
  chunks.flatten = stream ∧ ∀ chunk ∈ chunks, chunk ≠ []

instance [DecidableEq α] (chunks : List (List α)) (stream : List α) :
    Decidable (Splits chunks stream) :=
  inferInstanceAs (Decidable (_ ∧ _))

theorem splits_one {stream : List α} (nonempty : stream ≠ []) : Splits [stream] stream :=
  ⟨by rw [List.flatten_cons, List.flatten_nil, List.append_nil], by simpa using nonempty⟩

theorem splits_two {front : List α} (nonempty : front ≠ []) (more : List α) :
    ∃ later, Splits (front :: later) (front ++ more) := by
  by_cases last : more = []
  · subst more
    exact ⟨[], by rw [List.append_nil]; exact splits_one nonempty⟩
  · refine ⟨[more], by simp, ?_⟩
    simp [nonempty, last]

/-- Taking in pieces up to the first failure: what was handed over, and the state
at the end or the failure. -/
def pushAll (push : σ → List α → Except ε (List M × σ)) :
    σ → List (List α) → List M × Except ε σ
  | state, [] => ([], .ok state)
  | state, chunk :: chunks =>
      match push state chunk with
      | .error failure => ([], .error failure)
      | .ok (messages, state) =>
          let later := pushAll push state chunks
          (messages ++ later.1, later.2)

/-- The same messages were handed over, and both failed or neither did. -/
def Alike (first second : List M × Except ε σ) : Prop :=
  first.1 = second.1 ∧ (first.2.isOk = second.2.isOk)

/-- A state holds what is buffered, and a push drains it together with the piece. -/
def Implements (push : σ → List α → Except ε (List M × σ)) (decoder : Decoder α M)
    (holding : List α → σ) : Prop :=
  ∀ buffer chunk, (push (holding buffer) chunk).toOption =
    (decoder.drain (buffer ++ chunk)).map (Prod.map id holding)

section Runs

variable {push : σ → List α → Except ε (List M × σ)} {decoder : Decoder α M}
  {holding : List α → σ}

theorem Implements.push_some (implements : Implements push decoder holding)
    {buffer chunk rest : List α} {messages : List M}
    (drained : decoder.drain (buffer ++ chunk) = some (messages, rest)) :
    push (holding buffer) chunk = .ok (messages, holding rest) := by
  have pushed := implements buffer chunk
  rw [drained] at pushed
  cases taken : push (holding buffer) chunk with
  | error failure =>
      rw [taken] at pushed
      cases pushed
  | ok result =>
      rw [taken] at pushed
      cases pushed
      rfl

theorem Implements.push_none (implements : Implements push decoder holding)
    {buffer chunk : List α} (drained : decoder.drain (buffer ++ chunk) = none) :
    ∃ failure, push (holding buffer) chunk = .error failure := by
  have pushed := implements buffer chunk
  rw [drained] at pushed
  cases taken : push (holding buffer) chunk with
  | error failure => exact ⟨failure, rfl⟩
  | ok result =>
      rw [taken] at pushed
      cases pushed

/-- When no cut fails, the pieces hand over what the whole stream does. -/
theorem Implements.pushAll_steady (implements : Implements push decoder holding)
    {chunks : List (List α)} {buffer rest : List α} {messages : List M}
    (steady : ∀ front, front <+: chunks.flatten → (decoder.drain (buffer ++ front)).isSome = true)
    (waits : decoder.step buffer = .more)
    (drained : decoder.drain (buffer ++ chunks.flatten) = some (messages, rest)) :
    pushAll push (holding buffer) chunks = (messages, .ok (holding rest)) := by
  induction chunks generalizing buffer messages with
  | nil =>
      rw [List.flatten_nil, List.append_nil, Decoder.drain_more waits] at drained
      cases drained
      rfl
  | cons chunk chunks ih =>
      rw [List.flatten_cons] at steady drained
      obtain ⟨⟨first, left⟩, here⟩ :=
        Option.isSome_iff_exists.mp (steady chunk (List.prefix_append _ _))
      have onward (more : List α) : decoder.drain (buffer ++ (chunk ++ more)) =
          Decoder.after first (decoder.drain (left ++ more)) := by
        rw [← List.append_assoc]
        exact Decoder.drain_append here more
      rw [onward] at drained
      obtain ⟨⟨later, rest'⟩, inner, same⟩ := Option.map_eq_some_iff.mp drained
      cases same
      have tail := ih
        (fun front start => by
          have shown := steady (chunk ++ front) ((List.prefix_append_right_inj chunk).mpr start)
          rwa [onward, Decoder.after_isSome] at shown)
        (Decoder.step_of_drain here) inner
      rw [pushAll, implements.push_some here]
      simp only [tail]

theorem Implements.pushAll_blocked (implements : Implements push decoder holding)
    {chunks : List (List α)} {buffer : List α}
    (silent : ∀ front, front <+: chunks.flatten → ∀ messages rest,
      decoder.drain (buffer ++ front) = some (messages, rest) → messages = [])
    (waits : decoder.step buffer = .more)
    (fails : decoder.drain (buffer ++ chunks.flatten) = none) :
    (pushAll push (holding buffer) chunks).1 = [] ∧
      (pushAll push (holding buffer) chunks).2.isOk = false := by
  induction chunks generalizing buffer with
  | nil =>
      rw [List.flatten_nil, List.append_nil, Decoder.drain_more waits] at fails
      cases fails
  | cons chunk chunks ih =>
      rw [List.flatten_cons] at silent fails
      cases here : decoder.drain (buffer ++ chunk) with
      | none =>
          obtain ⟨failure, pushed⟩ := implements.push_none here
          rw [pushAll, pushed]
          exact ⟨rfl, rfl⟩
      | some result =>
          obtain ⟨first, left⟩ := result
          have nothing := silent chunk (List.prefix_append _ _) first left here
          subst nothing
          have onward (more : List α) : decoder.drain (buffer ++ (chunk ++ more)) =
              decoder.drain (left ++ more) := by
            rw [← List.append_assoc, Decoder.drain_append here more, Decoder.after_nothing]
          have tail := ih
            (fun front start messages rest drained =>
              silent (chunk ++ front) ((List.prefix_append_right_inj chunk).mpr start) messages rest
                (by rw [onward]; exact drained))
            (Decoder.step_of_drain here) (by rw [← onward]; exact fails)
          simp only [pushAll, implements.push_some here, List.nil_append]
          exact tail

theorem Implements.pushAll_whole (implements : Implements push decoder holding)
    {chunks : List (List α)} {rest : List α} {messages : List M}
    (steady : decoder.Steady chunks.flatten)
    (drained : decoder.drain chunks.flatten = some (messages, rest)) :
    pushAll push (holding []) chunks = (messages, .ok (holding rest)) :=
  implements.pushAll_steady (fun front start => by rw [List.nil_append]; exact steady front start)
    decoder.start drained

theorem Implements.pushAll_stopped (implements : Implements push decoder holding)
    (chunks : List (List α)) (blocked : decoder.Blocked chunks.flatten) :
    (pushAll push (holding []) chunks).1 = [] ∧
      (pushAll push (holding []) chunks).2.isOk = false :=
  implements.pushAll_blocked
    (fun front start => by rw [List.nil_append]; exact blocked.2 front start)
    decoder.start blocked.1

theorem Implements.pushAll_alone (implements : Implements push decoder holding)
    {stream : List α} (fails : decoder.drain stream = none) :
    (pushAll push (holding []) [stream]).1 = [] ∧
      (pushAll push (holding []) [stream]).2.isOk = false := by
  obtain ⟨failure, pushed⟩ : ∃ failure, push (holding []) stream = .error failure :=
    implements.push_none fails
  rw [pushAll, pushed]
  exact ⟨rfl, rfl⟩

/-- A stream means the same in every splitting exactly when no cut of it fails or
it fails before its first message. -/
theorem Implements.independent_iff (implements : Implements push decoder holding)
    (stream : List α) :
    (∀ first second, Splits first stream → Splits second stream →
      Alike (pushAll push (holding []) first) (pushAll push (holding []) second)) ↔
      decoder.Steady stream ∨ decoder.Blocked stream := by
  constructor
  · intro independent
    by_cases steady : decoder.Steady stream
    · exact Or.inl steady
    · right
      unfold Decoder.Steady at steady
      push Not at steady
      obtain ⟨front, ⟨more, rfl⟩, broken⟩ := steady
      have broken : decoder.drain front = none := by simpa using broken
      have nonempty : front ≠ [] := by
        rintro rfl
        rw [decoder.drain_nil] at broken
        cases broken
      have whole_nonempty : front ++ more ≠ [] := List.append_ne_nil_of_left_ne_nil nonempty more
      -- the failing cut makes the piece that ends there fail, so the whole stream must fail
      have fails : decoder.drain (front ++ more) = none := by
        cases whole : decoder.drain (front ++ more) with
        | none => rfl
        | some result =>
            have together : push (holding []) (front ++ more) = .ok (result.1, holding result.2) :=
              implements.push_some whole
            obtain ⟨later, splits⟩ := splits_two nonempty more
            obtain ⟨failure, stopped⟩ : ∃ failure, push (holding []) front = .error failure :=
              implements.push_none broken
            have cut := (independent _ _ splits (splits_one whole_nonempty)).2
            rw [pushAll, stopped, pushAll, together] at cut
            cases cut
      refine ⟨fails, ?_⟩
      rintro start ⟨later, same⟩ messages rest drained
      by_cases nothing : start = []
      · subst nothing
        rw [decoder.drain_nil] at drained
        cases drained
        rfl
      · obtain ⟨pieces, splits⟩ := splits_two nothing later
        rw [same] at splits
        have cut := (independent _ _ splits (splits_one whole_nonempty)).1
        have pushed : push (holding []) start = .ok (messages, holding rest) :=
          implements.push_some drained
        rw [pushAll, pushed, (implements.pushAll_alone fails).1] at cut
        exact (List.append_eq_nil_iff.mp cut).1
  · rintro (steady | blocked) first second ⟨rfl, _⟩ ⟨same, _⟩
    · obtain ⟨⟨messages, rest⟩, drained⟩ :=
        Option.isSome_iff_exists.mp (steady first.flatten (List.prefix_refl _))
      rw [implements.pushAll_whole steady drained, implements.pushAll_whole (by rwa [same])
        (by rwa [same])]
      exact ⟨rfl, rfl⟩
    · have one := implements.pushAll_stopped first blocked
      have two := implements.pushAll_stopped second (by rwa [same])
      exact ⟨one.1.trans two.1.symm, one.2.trans two.2.symm⟩

end Runs

end Framing
