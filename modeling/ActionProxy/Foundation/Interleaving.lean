import Mathlib.Logic.Relation

/-!
Interleaved computations over a shared state. A computation is a tree of atomic
steps: each step reads the state, changes it, and goes on with what it read; any
number of other steps may come between two steps of one computation, and a
computation may never be resumed.
-/

namespace Interleaving

inductive Prog (σ ε α : Type) where
  | pure (value : α)
  | throw (error : ε)
  | step (write : σ → σ) (next : σ → Prog σ ε α)

namespace Prog

variable {σ ε α β : Type}

def bind : Prog σ ε α → (α → Prog σ ε β) → Prog σ ε β
  | .pure value, next => next value
  | .throw error, _ => .throw error
  | .step write rest, next => .step write (fun state => (rest state).bind next)

instance : Monad (Prog σ ε) where
  pure := Prog.pure
  bind := Prog.bind

/-- One atomic operation that answers and changes the state. -/
def call (operation : σ → β × σ) : Prog σ ε β :=
  .step (fun state => (operation state).2) (fun state => .pure (operation state).1)

/-- One atomic operation that leaves the state as it is. -/
def read (view : σ → β) : Prog σ ε β := call (fun state => (view state, state))

/-- The computation, with its error handled by another. -/
def handle : Prog σ ε α → (ε → Prog σ ε α) → Prog σ ε α
  | .pure value, _ => .pure value
  | .throw error, handler => handler error
  | .step write rest, handler => .step write (fun state => (rest state).handle handler)

/-- The computation and how it ended. -/
def attempt : Prog σ ε α → Prog σ ε (Except ε α)
  | .pure value => .pure (.ok value)
  | .throw error => .pure (.error error)
  | .step write rest => .step write (fun state => (rest state).attempt)

/-- A computation on a part of the state. -/
def within {τ : Type} (part : τ → σ) (put : σ → τ → τ) : Prog σ ε α → Prog τ ε α
  | .pure value => .pure value
  | .throw error => .throw error
  | .step write rest =>
      .step (fun state => put (write (part state)) state)
        (fun state => (rest (part state)).within part put)

/-- The answer of an operation, or its error. -/
def ofExcept : Except ε α → Prog σ ε α
  | .ok value => .pure value
  | .error error => .throw error

theorem pure_bind (value : α) (next : α → Prog σ ε β) :
    (Pure.pure value >>= next : Prog σ ε β) = next value := rfl

theorem ofExcept_ok (value : α) : (ofExcept (.ok value) : Prog σ ε α) = Pure.pure value := rfl

theorem bind_assoc {γ : Type} (prog : Prog σ ε α) (next : α → Prog σ ε β)
    (last : β → Prog σ ε γ) :
    prog >>= next >>= last = prog >>= fun value => next value >>= last := by
  induction prog with
  | pure value => rfl
  | throw error => rfl
  | step write rest ih => exact congrArg (Prog.step write) (funext fun state => ih state)

theorem within_bind {τ : Type} (part : τ → σ) (put : σ → τ → τ) (prog : Prog σ ε α)
    (next : α → Prog σ ε β) :
    (prog >>= next).within part put =
      prog.within part put >>= fun value => (next value).within part put := by
  induction prog with
  | pure value => rfl
  | throw error => rfl
  | step write rest ih => exact congrArg (Prog.step _) (funext fun state => ih (part state))

theorem within_handle {τ : Type} (part : τ → σ) (put : σ → τ → τ) (prog : Prog σ ε α)
    (handler : ε → Prog σ ε α) :
    (prog.handle handler).within part put =
      (prog.within part put).handle fun error => (handler error).within part put := by
  induction prog with
  | pure value => rfl
  | throw error => rfl
  | step write rest ih => exact congrArg (Prog.step _) (funext fun state => ih (part state))

end Prog

variable {σ ε α : Type}

/-- A shared state and the computations that were started, at the point each has
reached. -/
structure World (σ ε α : Type) where
  state : σ
  threads : List (Prog σ ε α)

/-- What happens next: a computation starts, one that is not finished takes its next
step, or the state changes by itself. -/
inductive Choice (σ ε α : Type) where
  | start (prog : Prog σ ε α)
  | advance (thread : Nat)
  | environment (change : σ → σ)

namespace World

def advance (world : World σ ε α) (thread : Nat) : World σ ε α :=
  match world.threads[thread]? with
  | some (.step write next) =>
      { state := write world.state
        threads := world.threads.set thread (next world.state) }
  | _ => world

def step (world : World σ ε α) : Choice σ ε α → World σ ε α
  | .start prog => { world with threads := world.threads ++ [prog] }
  | .advance thread => world.advance thread
  | .environment change => { world with state := change world.state }

/-- The choices made in turn. -/
def run (world : World σ ε α) (choices : List (Choice σ ε α)) : World σ ε α :=
  choices.foldl step world

end World

/-- The computations that may start and the changes that happen by themselves. -/
structure System (σ ε α : Type) where
  starts : Prog σ ε α → Prop
  environment : (σ → σ) → Prop

def System.Offers (system : System σ ε α) : Choice σ ε α → Prop
  | .start prog => system.starts prog
  | .advance _ => True
  | .environment change => system.environment change

/-- The worlds that a system reaches by choices whose change of state is permitted. -/
inductive Reaches (system : System σ ε α) (permitted : σ → σ → Prop) (first : World σ ε α) :
    World σ ε α → Prop where
  | refl : Reaches system permitted first first
  | step {world : World σ ε α} (earlier : Reaches system permitted first world)
      (choice : Choice σ ε α) (offered : system.Offers choice)
      (allowed : permitted world.state (world.step choice).state) :
      Reaches system permitted first (world.step choice)

/-- A system with no condition on its changes. -/
abbrev Unrestricted (_ _ : σ) : Prop := True

/-- Every change of state that the choices make in turn is permitted. -/
def World.Meets (permitted : σ → σ → Prop) (world : World σ ε α) :
    List (Choice σ ε α) → Prop
  | [] => True
  | choice :: rest => permitted world.state (world.step choice).state ∧
      (world.step choice).Meets permitted rest

instance World.decidableMeets {permitted : σ → σ → Prop}
    [∀ before after, Decidable (permitted before after)] :
    (choices : List (Choice σ ε α)) → (world : World σ ε α) →
      Decidable (world.Meets permitted choices)
  | [], _ => isTrue trivial
  | choice :: rest, world =>
      @instDecidableAnd _ _ _ (World.decidableMeets rest (world.step choice))

theorem World.meets_unrestricted (world : World σ ε α) (choices : List (Choice σ ε α)) :
    world.Meets Unrestricted choices := by
  induction choices generalizing world with
  | nil => trivial
  | cons choice rest ih => exact ⟨trivial, ih (world.step choice)⟩

theorem reaches_run {system : System σ ε α} {permitted : σ → σ → Prop} {first world : World σ ε α}
    (reached : Reaches system permitted first world) {choices : List (Choice σ ε α)}
    (offered : ∀ choice ∈ choices, system.Offers choice)
    (meets : world.Meets permitted choices) :
    Reaches system permitted first (world.run choices) := by
  induction choices generalizing world with
  | nil => exact reached
  | cons choice rest ih =>
      apply ih
      · exact Reaches.step reached choice (offered choice List.mem_cons_self) meets.1
      · intro other member
        exact offered other (List.mem_cons_of_mem _ member)
      · exact meets.2

/-! ### Rely and guarantee -/

/-- What every state satisfies and how states may change between two moments. -/
structure Contract (σ : Type) where
  inv : σ → Prop
  guar : σ → σ → Prop
  refl : ∀ state, guar state state
  trans : ∀ {first second third : σ}, guar first second → guar second third → guar first third

variable {β : Type} (contract : Contract σ) (permitted : σ → σ → Prop)

/-- From any state that the others may leave, each step keeps the contract, and the
computation ends as promised. -/
def Safe (post : α → σ → Prop) (failed : ε → σ → Prop) : Prog σ ε α → σ → Prop
  | .pure value, state => ∀ now, contract.guar state now → contract.inv now → post value now
  | .throw error, state => ∀ now, contract.guar state now → contract.inv now → failed error now
  | .step write next, state => ∀ now, contract.guar state now → contract.inv now →
      permitted now (write now) →
        contract.inv (write now) ∧ contract.guar now (write now) ∧
          Safe post failed (next now) (write now)

variable {contract permitted}

theorem Safe.later {post : α → σ → Prop} {failed : ε → σ → Prop} {prog : Prog σ ε α}
    {state now : σ} (safe : Safe contract permitted post failed prog state)
    (moved : contract.guar state now) : Safe contract permitted post failed prog now := by
  cases prog with
  | pure value =>
      intro after changed holds
      exact safe after (contract.trans moved changed) holds
  | throw error =>
      intro after changed holds
      exact safe after (contract.trans moved changed) holds
  | step write next =>
      intro after changed holds
      exact safe after (contract.trans moved changed) holds

theorem Safe.mono {post weaker : α → σ → Prop} {failed weakerFailed : ε → σ → Prop}
    {prog : Prog σ ε α} {state : σ} (safe : Safe contract permitted post failed prog state)
    (ends : ∀ value now, contract.inv now → post value now → weaker value now)
    (fails : ∀ error now, contract.inv now → failed error now → weakerFailed error now) :
    Safe contract permitted weaker weakerFailed prog state := by
  induction prog generalizing state with
  | pure value =>
      intro now moved holds
      exact ends value now holds (safe now moved holds)
  | throw error =>
      intro now moved holds
      exact fails error now holds (safe now moved holds)
  | step write next ih =>
      intro now moved holds allowed
      obtain ⟨kept, changed, rest⟩ := safe now moved holds allowed
      exact ⟨kept, changed, ih now rest⟩

/-- A safe computation ends in a state that the one it starts in may become. -/
theorem Safe.since {post : α → σ → Prop} {failed : ε → σ → Prop} {prog : Prog σ ε α}
    {earlier state : σ} (before : contract.guar earlier state)
    (safe : Safe contract permitted post failed prog state) :
    Safe contract permitted (fun value now => contract.guar earlier now ∧ post value now)
      failed prog state := by
  induction prog generalizing state with
  | pure value =>
      intro now moved holds
      exact ⟨contract.trans before moved, safe now moved holds⟩
  | throw error => exact safe
  | step write next ih =>
      intro now moved holds allowed
      obtain ⟨kept, changed, rest⟩ := safe now moved holds allowed
      exact ⟨kept, changed, ih now (contract.trans before (contract.trans moved changed)) rest⟩

/-- A computation followed by another is safe when the second is safe wherever the
first may leave it. -/
theorem Safe.bind {post : β → σ → Prop} {failed : ε → σ → Prop} {prog : Prog σ ε α}
    {next : α → Prog σ ε β} {state : σ} (holds : contract.inv state)
    (safe : Safe contract permitted
      (fun value now => Safe contract permitted post failed (next value) now) failed prog state) :
    Safe contract permitted post failed (prog.bind next) state := by
  induction prog generalizing state with
  | pure value => exact safe state (contract.refl state) holds
  | throw error => exact safe
  | step write rest ih =>
      intro now moved still allowed
      obtain ⟨kept, changed, later⟩ := safe now moved still allowed
      exact ⟨kept, changed, ih now kept later⟩

/-- A handled computation is safe when the handler is wherever it may fail. -/
theorem Safe.handle {post : α → σ → Prop} {failed : ε → σ → Prop} {prog : Prog σ ε α}
    {handler : ε → Prog σ ε α} {state : σ} (holds : contract.inv state)
    (safe : Safe contract permitted post
      (fun error now => Safe contract permitted post failed (handler error) now) prog state) :
    Safe contract permitted post failed (prog.handle handler) state := by
  induction prog generalizing state with
  | pure value => exact safe
  | throw error => exact safe state (contract.refl state) holds
  | step write rest ih =>
      intro now moved still allowed
      obtain ⟨kept, changed, later⟩ := safe now moved still allowed
      exact ⟨kept, changed, ih now kept later⟩

theorem Safe.call {post : α → σ → Prop} {failed : ε → σ → Prop} {operation : σ → β × σ}
    {next : β → Prog σ ε α} {state : σ}
    (keeps : ∀ now, contract.guar state now → contract.inv now →
      permitted now (operation now).2 →
        contract.inv (operation now).2 ∧ contract.guar now (operation now).2 ∧
          Safe contract permitted post failed (next (operation now).1) (operation now).2) :
    Safe contract permitted post failed ((Prog.call operation).bind next) state := keeps

theorem Safe.read {post : α → σ → Prop} {failed : ε → σ → Prop} {view : σ → β}
    {next : β → Prog σ ε α} {state : σ}
    (keeps : ∀ now, contract.guar state now → contract.inv now →
      Safe contract permitted post failed (next (view now)) now) :
    Safe contract permitted post failed ((Prog.read view).bind next) state := by
  intro now moved holds _
  exact ⟨holds, contract.refl now, keeps now moved holds⟩

/-- In a world that a system of safe computations reaches, the state keeps the
invariant and every computation is still safe. -/
theorem Reaches.safe {system : System σ ε α} {first world : World σ ε α}
    {post : α → σ → Prop} {failed : ε → σ → Prop}
    (reached : Reaches system permitted first world)
    (starts : ∀ prog, system.starts prog → ∀ state, contract.inv state →
      Safe contract permitted post failed prog state)
    (environment : ∀ change, system.environment change → ∀ state, contract.inv state →
      permitted state (change state) →
        contract.inv (change state) ∧ contract.guar state (change state))
    (initial : contract.inv first.state)
    (threads : ∀ prog ∈ first.threads, Safe contract permitted post failed prog first.state) :
    contract.inv world.state ∧
      ∀ prog ∈ world.threads, Safe contract permitted post failed prog world.state := by
  induction reached with
  | refl => exact ⟨initial, threads⟩
  | @step world earlier choice offered allowed ih =>
      obtain ⟨holds, safe⟩ := ih
      cases choice with
      | start prog =>
          refine ⟨holds, ?_⟩
          intro other member
          rcases List.mem_append.mp member with old | new
          · exact safe other old
          · rw [List.mem_singleton.mp new]
            exact starts prog offered world.state holds
      | environment change =>
          obtain ⟨kept, changed⟩ := environment change offered world.state holds allowed
          exact ⟨kept, fun other member => (safe other member).later changed⟩
      | advance thread =>
          simp only [World.step, World.advance] at allowed ⊢
          cases found : world.threads[thread]? with
          | none =>
              dsimp only
              exact ⟨holds, safe⟩
          | some prog =>
              have member := List.mem_of_getElem? found
              rw [found] at allowed
              cases prog with
              | pure value => exact ⟨holds, safe⟩
              | throw error => exact ⟨holds, safe⟩
              | step write next =>
                  obtain ⟨kept, changed, rest⟩ :=
                    safe _ member world.state (contract.refl _) holds allowed
                  refine ⟨kept, ?_⟩
                  intro other listed
                  rcases List.mem_or_eq_of_mem_set listed with old | rfl
                  · exact (safe other old).later changed
                  · exact rest

/-- Between the first world and one that safe computations reach from it, the state has
changed as the contract guarantees. -/
theorem Reaches.guar {system : System σ ε α} {first world : World σ ε α}
    {post : α → σ → Prop} {failed : ε → σ → Prop}
    (reached : Reaches system permitted first world)
    (starts : ∀ prog, system.starts prog → ∀ state, contract.inv state →
      Safe contract permitted post failed prog state)
    (environment : ∀ change, system.environment change → ∀ state, contract.inv state →
      permitted state (change state) →
        contract.inv (change state) ∧ contract.guar state (change state))
    (initial : contract.inv first.state)
    (threads : ∀ prog ∈ first.threads, Safe contract permitted post failed prog first.state) :
    contract.guar first.state world.state := by
  induction reached with
  | refl => exact contract.refl first.state
  | @step world earlier choice offered allowed ih =>
      obtain ⟨holds, safe⟩ := earlier.safe starts environment initial threads
      apply contract.trans ih
      cases choice with
      | start prog => exact contract.refl world.state
      | environment change => exact (environment change offered world.state holds allowed).2
      | advance thread =>
          simp only [World.step, World.advance] at allowed ⊢
          cases found : world.threads[thread]? with
          | none => exact contract.refl world.state
          | some prog =>
              have member := List.mem_of_getElem? found
              rw [found] at allowed
              cases prog with
              | pure value => exact contract.refl world.state
              | throw error => exact contract.refl world.state
              | step write next =>
                  exact (safe _ member world.state (contract.refl _) holds allowed).2.1

/-! ### Properties kept by every step -/

/-- The contract that every step keeps a property, however it changes the state. -/
def keeping (inv : σ → Prop) : Contract σ :=
  { inv := inv
    guar := fun _ _ => True
    refl := fun _ => trivial
    trans := fun _ _ => trivial }

/-- The computation keeps a property, and what it answers passes a check. -/
def KeepsWith (permitted : σ → σ → Prop) (inv : σ → Prop) (answers : α → Prop)
    (prog : Prog σ ε α) : Prop :=
  ∀ state, inv state →
    Safe (keeping inv) permitted (fun value _ => answers value) (fun _ _ => True) prog state

abbrev Keeps (permitted : σ → σ → Prop) (inv : σ → Prop) (prog : Prog σ ε α) : Prop :=
  KeepsWith permitted inv (fun _ => True) prog

section

variable {permitted : σ → σ → Prop} {inv : σ → Prop} {answers : α → Prop} {ends : β → Prop}

theorem KeepsWith.pure {value : α} (answered : answers value) :
    KeepsWith permitted inv answers (Pure.pure value : Prog σ ε α) :=
  fun _ _ _ _ _ => answered

theorem KeepsWith.throw (error : ε) :
    KeepsWith permitted inv answers (.throw error : Prog σ ε α) :=
  fun _ _ _ _ _ => trivial

theorem KeepsWith.ofExcept (answer : Except ε α) :
    Keeps permitted inv (Prog.ofExcept answer : Prog σ ε α) := by
  cases answer with
  | ok value => exact KeepsWith.pure trivial
  | error error => exact KeepsWith.throw error

theorem KeepsWith.bind {first : Prog σ ε α} {next : α → Prog σ ε β}
    (before : KeepsWith permitted inv answers first)
    (after : ∀ value, answers value → KeepsWith permitted inv ends (next value)) :
    KeepsWith permitted inv ends (first >>= next) := by
  intro state holds
  apply Safe.bind holds
  apply Safe.mono (before state holds)
  · intro value now still answered
    exact after value answered now still
  · intro error now _ _
    trivial

theorem KeepsWith.read {view : σ → α} {next : α → Prog σ ε β}
    (reads : ∀ state, inv state → answers (view state))
    (after : ∀ value, answers value → KeepsWith permitted inv ends (next value)) :
    KeepsWith permitted inv ends (Prog.read view >>= next) := by
  intro state _
  apply Safe.read
  intro now _ holds
  exact after (view now) (reads now holds) now holds

theorem KeepsWith.read_any {view : σ → α} {next : α → Prog σ ε β}
    (after : ∀ value, KeepsWith permitted inv ends (next value)) :
    KeepsWith permitted inv ends (Prog.read view >>= next) :=
  KeepsWith.read (fun _ _ => trivial) (fun value (_ : True) => after value)

theorem KeepsWith.call {operation : σ → α × σ} {next : α → Prog σ ε β}
    (keeps : ∀ state, inv state → permitted state (operation state).2 → inv (operation state).2)
    (after : ∀ value, KeepsWith permitted inv ends (next value)) :
    KeepsWith permitted inv ends (Prog.call operation >>= next) := by
  intro state _
  apply Safe.call
  intro now _ holds allowed
  have kept := keeps now holds allowed
  exact ⟨kept, trivial, after _ _ kept⟩

theorem KeepsWith.last {operation : σ → α × σ}
    (keeps : ∀ state, inv state → permitted state (operation state).2 → inv (operation state).2) :
    Keeps permitted inv (Prog.call operation : Prog σ ε α) := by
  intro state _ now _ holds allowed
  exact ⟨keeps now holds allowed, trivial, fun _ _ _ => trivial⟩

/-- What every computation that may start keeps holds in every world reached. -/
theorem Reaches.keeps {system : System σ ε α} {first world : World σ ε α}
    (reached : Reaches system permitted first world)
    (starts : ∀ prog, system.starts prog → Keeps permitted inv prog)
    (environment : ∀ change, system.environment change → ∀ state, inv state →
      permitted state (change state) → inv (change state))
    (initial : inv first.state) (none_started : first.threads = []) : inv world.state := by
  have safe : (keeping inv).inv world.state ∧ ∀ prog ∈ world.threads,
      Safe (keeping inv) permitted (fun _ _ => True) (fun _ _ => True) prog world.state := by
    apply Reaches.safe reached
    · exact starts
    · intro change offered state holds allowed
      exact ⟨environment change offered state holds allowed, trivial⟩
    · exact initial
    · intro prog member
      rw [none_started] at member
      cases member
  exact safe.1

end

/-! ### A run with nothing between the steps -/

/-- How the computation ends when no other step comes between its own, and the state it
leaves. -/
def Prog.alone : Prog σ ε α → σ → Except ε α × σ
  | .pure value, state => (.ok value, state)
  | .throw error, state => (.error error, state)
  | .step write next, state => (next state).alone (write state)

theorem Prog.alone_ok {prog : Prog σ ε α} {state : σ}
    (ended : (prog.alone state).1.isOk = true) :
    ∃ value after, prog.alone state = (.ok value, after) := by
  cases answered : prog.alone state with
  | mk answer after =>
      rw [answered] at ended
      cases answer with
      | error error => cases ended
      | ok value => exact ⟨value, after, rfl⟩

/-- If the computation, run alone, answers, the answer and the state pass the check. -/
def Yields (post : α → σ → Prop) : Prog σ ε α → σ → Prop
  | .pure value, state => post value state
  | .throw _, _ => True
  | .step write next, state => Yields post (next state) (write state)

section

variable {post : α → σ → Prop} {state : σ}

theorem Yields.alone {prog : Prog σ ε α} (yields : Yields post prog state) {value : α} {after : σ}
    (answered : prog.alone state = (.ok value, after)) : post value after := by
  induction prog generalizing state with
  | pure found =>
      cases answered
      exact yields
  | throw error => cases answered
  | step write next ih => exact ih state yields answered

theorem Yields.mono {weaker : α → σ → Prop} {prog : Prog σ ε α} (yields : Yields post prog state)
    (ends : ∀ value after, post value after → weaker value after) :
    Yields weaker prog state := by
  induction prog generalizing state with
  | pure found => exact ends found state yields
  | throw error => exact trivial
  | step write next ih => exact ih state yields

theorem Yields.bind {post : β → σ → Prop} {prog : Prog σ ε α} {next : α → Prog σ ε β}
    (yields : Yields (fun value after => Yields post (next value) after) prog state) :
    Yields post (prog >>= next) state := by
  induction prog generalizing state with
  | pure found => exact yields
  | throw error => exact trivial
  | step write rest ih => exact ih state yields

/-- A handler that never answers leaves the answers of the computation. -/
theorem Yields.handle {prog : Prog σ ε α} {handler : ε → Prog σ ε α}
    (yields : Yields post prog state)
    (fails : ∀ error after, Yields post (handler error) after) :
    Yields post (prog.handle handler) state := by
  induction prog generalizing state with
  | pure found => exact yields
  | throw error => exact fails error state
  | step write rest ih => exact ih state yields

end

end Interleaving
