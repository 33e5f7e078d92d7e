import Mathlib.Data.List.Basic

/-!
Computations that ask an environment and go on with its answers. The environment may
answer anything or never: what a computation does is said of every point it can reach,
by conditions on what it asks, returns and throws after the exchanges before it.
-/

namespace Dialogue

/-- A computation over questions, each with its type of answers. -/
inductive Talk (Q : Type) (A : Q → Type) (ε α : Type) where
  | pure (value : α)
  | throw (error : ε)
  | ask (question : Q) (next : A question → Talk Q A ε α)

/-- A question and its answer. -/
abbrev Exchange (Q : Type) (A : Q → Type) : Type := (question : Q) × A question

namespace Talk

variable {Q : Type} {A : Q → Type} {ε α β : Type}

def bind : Talk Q A ε α → (α → Talk Q A ε β) → Talk Q A ε β
  | .pure value, next => next value
  | .throw error, _ => .throw error
  | .ask question rest, next => .ask question (fun answer => (rest answer).bind next)

instance : Monad (Talk Q A ε) where
  pure := Talk.pure
  bind := Talk.bind

/-- The computation with its error as a value. -/
def attempt : Talk Q A ε α → Talk Q A ε (Except ε α)
  | .pure value => .pure (.ok value)
  | .throw error => .pure (.error error)
  | .ask question rest => .ask question (fun answer => (rest answer).attempt)

def ofExcept : Except ε α → Talk Q A ε α
  | .ok value => .pure value
  | .error error => .throw error

/-- From this history on the computation asks, returns and throws only what the
conditions allow, whatever the answers are. -/
def Holds (asks : List (Exchange Q A) → Q → Prop) (returns : List (Exchange Q A) → α → Prop)
    (throws : List (Exchange Q A) → ε → Prop) : Talk Q A ε α → List (Exchange Q A) → Prop
  | .pure value, history => returns history value
  | .throw error, history => throws history error
  | .ask question next, history =>
      asks history question ∧
        ∀ answer, (next answer).Holds asks returns throws (history ++ [⟨question, answer⟩])

section

variable {asks : List (Exchange Q A) → Q → Prop} {returns : List (Exchange Q A) → α → Prop}
  {throws : List (Exchange Q A) → ε → Prop} {history : List (Exchange Q A)}

theorem holds_bind_iff {prog : Talk Q A ε β} {next : β → Talk Q A ε α} :
    (prog >>= next).Holds asks returns throws history ↔
      prog.Holds asks (fun history value => (next value).Holds asks returns throws history) throws
        history := by
  change (prog.bind next).Holds asks returns throws history ↔ _
  induction prog generalizing history with
  | pure value => rfl
  | throw error => rfl
  | ask question rest ih =>
      simp only [bind, Holds]
      exact and_congr_right (fun _ => forall_congr' (fun answer => ih answer))

theorem holds_attempt_iff {prog : Talk Q A ε β}
    {returns : List (Exchange Q A) → Except ε β → Prop} :
    prog.attempt.Holds asks returns throws history ↔
      prog.Holds asks (fun history value => returns history (.ok value))
        (fun history error => returns history (.error error)) history := by
  induction prog generalizing history with
  | pure value => rfl
  | throw error => rfl
  | ask question rest ih =>
      simp only [attempt, Holds]
      exact and_congr_right (fun _ => forall_congr' (fun answer => ih answer))

theorem holds_ofExcept {outcome : Except ε α} (ok : ∀ value, outcome = .ok value → returns history value)
    (error : ∀ failure, outcome = .error failure → throws history failure) :
    (ofExcept outcome : Talk Q A ε α).Holds asks returns throws history := by
  cases outcome with
  | ok value => exact ok value rfl
  | error failure => exact error failure rfl

/-- Every question that may be asked is of this kind. -/
def Only (kind : Q → Prop) : Talk Q A ε α → Prop
  | .pure _ => True
  | .throw _ => True
  | .ask question next => kind question ∧ ∀ answer, (next answer).Only kind

variable {kind : Q → Prop}

theorem Only.bind {prog : Talk Q A ε β} {next : β → Talk Q A ε α} (first : prog.Only kind)
    (after : ∀ value, (next value).Only kind) : (prog >>= next).Only kind := by
  change (prog.bind next).Only kind
  induction prog with
  | pure value => exact after value
  | throw error => exact first
  | ask question rest ih => exact ⟨first.1, fun answer => ih answer (first.2 answer)⟩

theorem Only.attempt {prog : Talk Q A ε α} (only : prog.Only kind) : prog.attempt.Only kind := by
  induction prog with
  | pure value => exact only
  | throw error => exact only
  | ask question rest ih => exact ⟨only.1, fun answer => ih answer (only.2 answer)⟩

/-- The history went on with questions of this kind alone. -/
def Extends (kind : Q → Prop) (earlier later : List (Exchange Q A)) : Prop :=
  ∃ more, later = earlier ++ more ∧ ∀ exchange ∈ more, kind exchange.1

theorem extends_snoc (history : List (Exchange Q A)) {question : Q} (asked : kind question)
    (answer : A question) : Extends kind history (history ++ [⟨question, answer⟩]) := by
  refine ⟨_, rfl, ?_⟩
  intro exchange listed
  rw [List.mem_singleton.mp listed]
  exact asked

theorem Extends.refl (history : List (Exchange Q A)) : Extends kind history history :=
  ⟨[], (List.append_nil history).symm, fun _ listed => absurd listed List.not_mem_nil⟩

theorem Extends.trans {first second third : List (Exchange Q A)} (one : Extends kind first second)
    (other : Extends kind second third) : Extends kind first third := by
  obtain ⟨more, rfl, asked⟩ := one
  obtain ⟨later, rfl, still⟩ := other
  refine ⟨more ++ later, List.append_assoc _ _ _, ?_⟩
  intro exchange listed
  exact (List.mem_append.mp listed).elim (asked exchange) (still exchange)

/-- A computation that asks questions of a kind alone extends the history by such ones. -/
theorem Only.holds {prog : Talk Q A ε α} (only : prog.Only kind)
    (allowed : ∀ history question, kind question → asks history question)
    (returned : ∀ later value, Extends kind history later → returns later value)
    (thrown : ∀ later error, Extends kind history later → throws later error) :
    prog.Holds asks returns throws history := by
  induction prog generalizing history with
  | pure value => exact returned history value (Extends.refl history)
  | throw error => exact thrown history error (Extends.refl history)
  | ask question rest ih =>
      refine ⟨allowed history question only.1, ?_⟩
      intro answer
      have before := extends_snoc history only.1 answer
      apply ih answer (only.2 answer)
      · exact fun later value since => returned later value (before.trans since)
      · exact fun later error since => thrown later error (before.trans since)

end

/-- The exchanges so far and what is left to do. -/
inductive Reached (prog : Talk Q A ε α) : List (Exchange Q A) → Talk Q A ε α → Prop where
  | start : Reached prog [] prog
  | answered {history : List (Exchange Q A)} {question : Q} {next : A question → Talk Q A ε α}
      (reached : Reached prog history (.ask question next)) (answer : A question) :
      Reached prog (history ++ [⟨question, answer⟩]) (next answer)

/-- The computation waits for the answer to this question. -/
def Asking (prog : Talk Q A ε α) (question : Q) : Prop := ∃ next, prog = .ask question next

/-- The computation has returned or thrown. -/
def Ended (prog : Talk Q A ε α) : Prop :=
  (∃ value, prog = .pure value) ∨ ∃ error, prog = .throw error

section

variable {asks : List (Exchange Q A) → Q → Prop} {returns : List (Exchange Q A) → α → Prop}
  {throws : List (Exchange Q A) → ε → Prop} {prog now : Talk Q A ε α}
  {history : List (Exchange Q A)}

theorem Reached.holds (reached : Reached prog history now)
    (start : prog.Holds asks returns throws []) : now.Holds asks returns throws history := by
  induction reached with
  | start => exact start
  | answered _ answer ih => exact ih.2 answer

theorem Reached.asked (reached : Reached prog history now)
    (start : prog.Holds asks returns throws []) {question : Q} (asking : now.Asking question) :
    asks history question := by
  obtain ⟨next, rfl⟩ := asking
  exact (reached.holds start).1

theorem Reached.returned (reached : Reached prog history now)
    (start : prog.Holds asks returns throws []) {value : α} (done : now = .pure value) :
    returns history value := by
  subst done
  exact reached.holds start

theorem Reached.ended {ends : List (Exchange Q A) → Prop} (reached : Reached prog history now)
    (start : prog.Holds asks (fun history _ => ends history) (fun history _ => ends history) [])
    (done : now.Ended) : ends history := by
  rcases done with ⟨value, rfl⟩ | ⟨error, rfl⟩
  · exact reached.holds start
  · exact reached.holds start

/-- Questions of a kind that are asked only when none was asked before are asked at
most once. -/
theorem Reached.atMostOnce (kind : Q → Bool) (reached : Reached prog history now)
    (start : prog.Holds asks returns throws [])
    (fresh : ∀ history question, asks history question → kind question = true →
      ∀ exchange ∈ history, kind exchange.1 = false) :
    (history.filter (fun exchange => kind exchange.1)).length ≤ 1 := by
  induction reached with
  | start => exact Nat.zero_le 1
  | answered reached answer ih =>
      rename_i before question next
      rw [List.filter_append, List.length_append]
      by_cases asked : kind question = true
      · have allowed := reached.asked start ⟨next, rfl⟩
        have none : before.filter (fun exchange => kind exchange.1) = [] := by
          rw [List.filter_eq_nil_iff]
          intro exchange listed same
          rw [fresh before question allowed asked exchange listed] at same
          cases same
        rw [none, List.length_nil, Nat.zero_add]
        exact List.length_filter_le _ _
      · have none : [(⟨question, answer⟩ : Exchange Q A)].filter (fun exchange => kind exchange.1) =
            [] := by
          rw [List.filter_eq_nil_iff]
          intro exchange listed
          rw [List.mem_singleton.mp listed]
          exact asked
        rw [none, List.length_nil]
        omega

end

end Talk

end Dialogue
