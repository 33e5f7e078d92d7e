import Mathlib.Logic.Function.Basic
import ActionProxy.Foundation.Interleaving

/-!
Interleaved computations that hold names. A name is free until a computation takes
it; from then on no other changes what it stands for, so that a computation may rely
on what it left under the names it holds.
-/

namespace Interleaving

/-- A contract with names: a name once taken is never free again, and `respects` says
of a change that it leaves what a name stands for as it is. -/
structure Ownership (σ τ : Type) extends Contract σ where
  free : σ → τ → Prop
  spent : ∀ {first second : σ} {name : τ}, guar first second → free second name → free first name
  respects : τ → σ → σ → Prop
  respects_refl : ∀ (name : τ) (state : σ), respects name state state
  respects_trans : ∀ {name : τ} {first second third : σ},
    respects name first second → respects name second third → respects name first third

namespace Ownership

variable {σ τ ε α β : Type} (own : Ownership σ τ)

/-- What the others may do while a computation holds names. -/
structure Stable (held : τ → Prop) (state now : σ) : Prop where
  guar : own.guar state now
  kept : ∀ name, held name → own.respects name state now

variable {own}

theorem Stable.refl (held : τ → Prop) (state : σ) : own.Stable held state state :=
  { guar := own.refl state
    kept := fun name _ => own.respects_refl name state }

theorem Stable.trans {held : τ → Prop} {first second third : σ}
    (one : own.Stable held first second) (other : own.Stable held second third) :
    own.Stable held first third :=
  { guar := own.trans one.guar other.guar
    kept := fun name holds => own.respects_trans (one.kept name holds) (other.kept name holds) }

variable (own)

/-- What a step may do to what it does not hold, and the names it may hold after it. -/
structure Moves (held after : τ → Prop) (now next : σ) : Prop where
  inv : own.inv next
  guar : own.guar now next
  others : ∀ name, ¬ held name → ¬ own.free now name → own.respects name now next
  taken : ∀ name, after name → held name ∨ own.free now name ∧ ¬ own.free next name

/-- From any state the others may leave, each step keeps the contract, and the
computation ends as promised with the names it holds then. -/
def Guarded (post : (τ → Prop) → α → σ → Prop) (failed : (τ → Prop) → ε → σ → Prop) :
    (τ → Prop) → Prog σ ε α → σ → Prop
  | held, .pure value, state => ∀ now, own.Stable held state now → own.inv now → post held value now
  | held, .throw error, state =>
      ∀ now, own.Stable held state now → own.inv now → failed held error now
  | held, .step write next, state => ∀ now, own.Stable held state now → own.inv now →
      ∃ after, own.Moves held after now (write now) ∧
        Guarded post failed after (next now) (write now)

variable {own}

theorem Guarded.later {post : (τ → Prop) → α → σ → Prop} {failed : (τ → Prop) → ε → σ → Prop}
    {held : τ → Prop} {prog : Prog σ ε α} {state now : σ}
    (safe : own.Guarded post failed held prog state) (moved : own.Stable held state now) :
    own.Guarded post failed held prog now := by
  cases prog with
  | pure value =>
      intro after changed holds
      exact safe after (moved.trans changed) holds
  | throw error =>
      intro after changed holds
      exact safe after (moved.trans changed) holds
  | step write next =>
      intro after changed holds
      exact safe after (moved.trans changed) holds

theorem Guarded.bind {post : (τ → Prop) → β → σ → Prop} {failed : (τ → Prop) → ε → σ → Prop}
    {held : τ → Prop} {prog : Prog σ ε α} {next : α → Prog σ ε β} {state : σ}
    (holds : own.inv state)
    (safe : own.Guarded (fun names value now => own.Guarded post failed names (next value) now)
      failed held prog state) :
    own.Guarded post failed held (prog.bind next) state := by
  induction prog generalizing state held with
  | pure value => exact safe state (Stable.refl held state) holds
  | throw error => exact safe
  | step write rest ih =>
      intro now moved still
      obtain ⟨after, moves, later⟩ := safe now moved still
      exact ⟨after, moves, ih now moves.inv later⟩

theorem Guarded.attempt {post : (τ → Prop) → β → σ → Prop} {failed : (τ → Prop) → ε → σ → Prop}
    {held : τ → Prop} {prog : Prog σ ε α} {next : Except ε α → Prog σ ε β} {state : σ}
    (holds : own.inv state)
    (safe : own.Guarded
      (fun names value now => own.Guarded post failed names (next (.ok value)) now)
      (fun names error now => own.Guarded post failed names (next (.error error)) now)
      held prog state) :
    own.Guarded post failed held (prog.attempt.bind next) state := by
  induction prog generalizing state held with
  | pure value => exact safe state (Stable.refl held state) holds
  | throw error => exact safe state (Stable.refl held state) holds
  | step write rest ih =>
      intro now moved still
      obtain ⟨after, moves, later⟩ := safe now moved still
      exact ⟨after, moves, ih now moves.inv later⟩

theorem Guarded.mono {post weaker : (τ → Prop) → α → σ → Prop}
    {failed weakerFailed : (τ → Prop) → ε → σ → Prop} {held : τ → Prop} {prog : Prog σ ε α}
    {state : σ} (safe : own.Guarded post failed held prog state)
    (ends : ∀ names value now, own.inv now → post names value now → weaker names value now)
    (fails : ∀ names error now, own.inv now → failed names error now →
      weakerFailed names error now) :
    own.Guarded weaker weakerFailed held prog state := by
  induction prog generalizing state held with
  | pure value =>
      intro now moved holds
      exact ends held value now holds (safe now moved holds)
  | throw error =>
      intro now moved holds
      exact fails held error now holds (safe now moved holds)
  | step write next ih =>
      intro now moved holds
      obtain ⟨after, moves, later⟩ := safe now moved holds
      exact ⟨after, moves, ih now later⟩

theorem Guarded.call {post : (τ → Prop) → α → σ → Prop} {failed : (τ → Prop) → ε → σ → Prop}
    {held : τ → Prop} {operation : σ → β × σ} {next : β → Prog σ ε α} {state : σ}
    (steps : ∀ now, own.Stable held state now → own.inv now →
      ∃ after, own.Moves held after now (operation now).2 ∧
        own.Guarded post failed after (next (operation now).1) (operation now).2) :
    own.Guarded post failed held ((Prog.call operation).bind next) state := steps

/-! ### Parts of a computation that change nothing the contract speaks of -/

/-- Every step leaves a view of the state as it is. -/
def Quiet (view : σ → β) : Prog σ ε α → Prop
  | .pure _ => True
  | .throw _ => True
  | .step write next => ∀ state, view (write state) = view state ∧ Quiet view (next state)

theorem Quiet.bind {γ : Type} {view : σ → γ} {prog : Prog σ ε α} {next : α → Prog σ ε β}
    (quiet : Quiet view prog) (after : ∀ value, Quiet view (next value)) :
    Quiet view (prog.bind next) := by
  induction prog with
  | pure value => exact after value
  | throw error => trivial
  | step write rest ih => exact fun state => ⟨(quiet state).1, ih state (quiet state).2⟩

theorem Quiet.handle {γ : Type} {view : σ → γ} {prog : Prog σ ε α} {handler : ε → Prog σ ε α}
    (quiet : Quiet view prog) (after : ∀ error, Quiet view (handler error)) :
    Quiet view (prog.handle handler) := by
  induction prog with
  | pure value => trivial
  | throw error => exact after error
  | step write rest ih => exact fun state => ⟨(quiet state).1, ih state (quiet state).2⟩

theorem Quiet.call {γ : Type} {view : σ → γ} {operation : σ → α × σ}
    (same : ∀ state, view (operation state).2 = view state) :
    Quiet view (Prog.call operation : Prog σ ε α) :=
  fun state => ⟨same state, trivial⟩

theorem Quiet.within {τ' γ : Type} {part : τ' → σ} {put : σ → τ' → τ'} {view : τ' → γ}
    {inner : σ → β} {prog : Prog σ ε α} (quiet : Quiet inner prog)
    (same : ∀ state next, inner next = inner (part state) → view (put next state) = view state) :
    Quiet view (prog.within part put) := by
  induction prog with
  | pure value => trivial
  | throw error => trivial
  | step write rest ih =>
      intro state
      exact ⟨same state _ (quiet (part state)).1, ih (part state) (quiet (part state)).2⟩

theorem Quiet.map {γ δ : Type} {view : σ → γ} {prog : Prog σ ε α} (project : γ → δ)
    (quiet : Quiet view prog) : Quiet (fun state => project (view state)) prog := by
  induction prog with
  | pure value => trivial
  | throw error => trivial
  | step write rest ih =>
      intro state
      exact ⟨congrArg project (quiet state).1, ih state (quiet state).2⟩

theorem Quiet.safe {γ : Type} {contract : Contract σ} {permitted : σ → σ → Prop} {view : σ → γ}
    {prog : Prog σ ε α} {state : σ} (quiet : Quiet view prog)
    (speaks : ∀ now after, view after = view now → contract.inv now →
      contract.inv after ∧ contract.guar now after) :
    Safe contract permitted (fun _ _ => True) (fun _ _ => True) prog state := by
  induction prog generalizing state with
  | pure value => exact fun _ _ _ => trivial
  | throw error => exact fun _ _ _ => trivial
  | step write rest ih =>
      intro now _ still _
      obtain ⟨same, later⟩ := quiet now
      obtain ⟨kept, changed⟩ := speaks now (write now) same still
      exact ⟨kept, changed, ih now later⟩

theorem Quiet.yields {γ : Type} {view : σ → γ} {prog : Prog σ ε α} {state : σ}
    (quiet : Quiet view prog) : Yields (fun _ after => view after = view state) prog state := by
  induction prog generalizing state with
  | pure value => rfl
  | throw error => trivial
  | step write rest ih =>
      obtain ⟨same, later⟩ := quiet state
      exact (ih state later).mono fun _ _ ended => ended.trans same

/-- The contract depends on a view of the state alone. -/
def SpeaksOf (own : Ownership σ τ) (view : σ → β) : Prop :=
  ∀ now next, view next = view now → own.inv now →
    own.inv next ∧ own.guar now next ∧ ∀ name, own.respects name now next

theorem Guarded.quiet {γ : Type} {view : σ → γ} (speaks : SpeaksOf own view) (held : τ → Prop)
    {prog : Prog σ ε α} {state : σ} (quiet : Quiet view prog) (holds : own.inv state) :
    own.Guarded (fun names _ now => names = held ∧ own.Stable held state now)
      (fun names _ now => names = held ∧ own.Stable held state now) held prog state := by
  induction prog generalizing state with
  | pure value => exact fun now moved _ => ⟨rfl, moved⟩
  | throw error => exact fun now moved _ => ⟨rfl, moved⟩
  | step write rest ih =>
      intro now moved still
      obtain ⟨same, later⟩ := quiet now
      obtain ⟨kept, changed, respected⟩ := speaks now (write now) same still
      have stable : own.Stable held state (write now) :=
        moved.trans { guar := changed, kept := fun name _ => respected name }
      refine ⟨held, ⟨kept, changed, fun name _ _ => respected name, fun name => Or.inl⟩, ?_⟩
      apply Guarded.mono (ih now later kept)
      · exact fun names value after _ ended => ⟨ended.1, stable.trans ended.2⟩
      · exact fun names error after _ ended => ⟨ended.1, stable.trans ended.2⟩

/-! ### Whole runs -/

/-- Each computation is guarded with the names it holds; no name is held twice, and a
held name is not free. -/
structure Shared (post : (τ → Prop) → α → σ → Prop) (failed : (τ → Prop) → ε → σ → Prop)
    (holds : Nat → τ → Prop) (world : World σ ε α) : Prop where
  inv : own.inv world.state
  threads : ∀ index prog, world.threads[index]? = some prog →
    own.Guarded post failed (holds index) prog world.state
  apart : ∀ first second name, holds first name → holds second name → first = second
  used : ∀ index name, holds index name → ¬ own.free world.state name
  started : ∀ index name, holds index name → index < world.threads.length

/-- A change that respects every name in use is one the computations allow for. -/
theorem Shared.environment {post : (τ → Prop) → α → σ → Prop}
    {failed : (τ → Prop) → ε → σ → Prop} {holds : Nat → τ → Prop} {world : World σ ε α}
    (shared : own.Shared post failed holds world) {next : σ} (kept : own.inv next)
    (changed : own.guar world.state next)
    (respected : ∀ name, ¬ own.free world.state name → own.respects name world.state next) :
    own.Shared post failed holds { world with state := next } :=
  { inv := kept
    threads := fun index prog found =>
      (shared.threads index prog found).later
        { guar := changed
          kept := fun name held => respected name (shared.used index name held) }
    apart := shared.apart
    used := fun index name held freed => shared.used index name held (own.spent changed freed)
    started := shared.started }

theorem Shared.start {post : (τ → Prop) → α → σ → Prop} {failed : (τ → Prop) → ε → σ → Prop}
    {holds : Nat → τ → Prop} {world : World σ ε α} (shared : own.Shared post failed holds world)
    {prog : Prog σ ε α}
    (safe : own.Guarded post failed (fun _ => False) prog world.state) :
    own.Shared post failed holds { world with threads := world.threads ++ [prog] } := by
  refine ⟨shared.inv, ?_, shared.apart, shared.used, ?_⟩
  · intro index other found
    rcases Nat.lt_or_ge index world.threads.length with old | new
    · rw [List.getElem?_append_left old] at found
      exact shared.threads index other found
    · rw [List.getElem?_append_right new, List.getElem?_singleton] at found
      split at found
      · cases found
        have nothing : holds index = fun _ => False := by
          funext name
          exact propext ⟨fun held => absurd (shared.started index name held) (by omega), False.elim⟩
        rw [nothing]
        exact safe
      · cases found
  · intro index name held
    have old := shared.started index name held
    rw [List.length_append]
    omega

theorem Shared.advance {post : (τ → Prop) → α → σ → Prop} {failed : (τ → Prop) → ε → σ → Prop}
    {holds : Nat → τ → Prop} {world : World σ ε α} (shared : own.Shared post failed holds world)
    {thread : Nat} {write : σ → σ} {next : σ → Prog σ ε α}
    (found : world.threads[thread]? = some (.step write next)) :
    ∃ names, own.Shared post failed names
      { state := write world.state
        threads := world.threads.set thread (next world.state) } := by
  have present : thread < world.threads.length := (List.getElem?_eq_some_iff.mp found).1
  obtain ⟨after, moves, safe⟩ :=
    shared.threads thread _ found world.state (Stable.refl _ _) shared.inv
  -- a name is held after the step as before it, or was free before
  have held_before : ∀ index name, Function.update holds thread after index name →
      holds index name ∨ index = thread ∧ own.free world.state name ∧
        ¬ own.free (write world.state) name := by
    intro index name held
    by_cases same : index = thread
    · subst same
      rw [Function.update_self] at held
      exact (moves.taken name held).imp_right (fun taken => ⟨rfl, taken⟩)
    · rw [Function.update_of_ne same] at held
      exact Or.inl held
  refine ⟨Function.update holds thread after, moves.inv, ?_, ?_, ?_, ?_⟩
  · intro index prog listed
    by_cases same : index = thread
    · subst same
      rw [List.getElem?_set_self present] at listed
      cases listed
      rw [Function.update_self]
      exact safe
    · rw [List.getElem?_set_ne (Ne.symm same)] at listed
      rw [Function.update_of_ne same]
      refine (shared.threads index prog listed).later
        { guar := moves.guar, kept := fun name held => ?_ }
      refine moves.others name (fun mine => same ?_) (shared.used index name held)
      exact shared.apart index thread name held mine
  · intro first second name firstHolds secondHolds
    rcases held_before first name firstHolds with firstHeld | ⟨rfl, unused, _⟩
    · rcases held_before second name secondHolds with secondHeld | ⟨rfl, unused, _⟩
      · exact shared.apart first second name firstHeld secondHeld
      · exact absurd unused (shared.used first name firstHeld)
    · rcases held_before second name secondHolds with secondHeld | ⟨rfl, _, _⟩
      · exact absurd unused (shared.used second name secondHeld)
      · rfl
  · intro index name held freed
    rcases held_before index name held with old | ⟨_, _, taken⟩
    · exact shared.used index name old (own.spent moves.guar freed)
    · exact taken freed
  · intro index name held
    rw [List.length_set]
    rcases held_before index name held with old | ⟨rfl, _, _⟩
    · exact shared.started index name old
    · exact present

/-- In every world that guarded computations reach, each is still guarded and the
names are still apart. -/
theorem Shared.reaches {post : (τ → Prop) → α → σ → Prop} {failed : (τ → Prop) → ε → σ → Prop}
    {system : System σ ε α} {first world : World σ ε α}
    (reached : Reaches system Unrestricted first world)
    (starts : ∀ prog, system.starts prog → ∀ state, own.inv state →
      own.Guarded post failed (fun _ => False) prog state)
    (environment : ∀ change, system.environment change → ∀ state, own.inv state →
      own.inv (change state) ∧ own.guar state (change state) ∧
        ∀ name, ¬ own.free state name → own.respects name state (change state))
    (initial : own.inv first.state) (none_started : first.threads = []) :
    ∃ holds, own.Shared post failed holds world := by
  induction reached with
  | refl =>
      refine ⟨fun _ _ => False, initial, ?_, ?_, ?_, ?_⟩
      · intro index prog found
        rw [none_started] at found
        cases found
      · intro _ _ _ held
        exact held.elim
      · intro _ _ held
        exact held.elim
      · intro _ _ held
        exact held.elim
  | @step world earlier choice offered _ ih =>
      obtain ⟨holds, shared⟩ := ih
      cases choice with
      | start prog => exact ⟨holds, shared.start (starts prog offered world.state shared.inv)⟩
      | environment change =>
          obtain ⟨kept, changed, respected⟩ := environment change offered world.state shared.inv
          exact ⟨holds, shared.environment kept changed respected⟩
      | advance thread =>
          simp only [World.step, World.advance]
          cases found : world.threads[thread]? with
          | none => exact ⟨holds, shared⟩
          | some prog =>
              cases prog with
              | pure value => exact ⟨holds, shared⟩
              | throw error => exact ⟨holds, shared⟩
              | step write next => exact shared.advance found

end Ownership

end Interleaving
