import ActionProxy.Foundation.Ownership

/-!
Rules for computations that keep a contract while others run. What a computation answers is
checked when it answers; a fact that no change allowed by the contract undoes is kept.
-/

namespace Interleaving

variable {σ ε α β : Type}

namespace Contract

/-- Wherever the invariant holds, the computation keeps the contract, and what it answers
passes a check. -/
def Obeyed (contract : Contract σ) (answers : α → Prop) (prog : Prog σ ε α) : Prop :=
  ∀ state, contract.inv state →
    Safe contract Unrestricted (fun value _ => answers value) (fun _ _ => True) prog state

variable {contract : Contract σ} {answers : α → Prop} {ends : β → Prop}

theorem Obeyed.pure {value : α} (passes : answers value) :
    contract.Obeyed answers (.pure value : Prog σ ε α) :=
  fun _ _ _ _ _ => passes

theorem Obeyed.throw {error : ε} : contract.Obeyed answers (.throw error : Prog σ ε α) :=
  fun _ _ _ _ _ => trivial

theorem Obeyed.ofExcept (answer : Except ε α) :
    contract.Obeyed (fun value => answer = .ok value) (Prog.ofExcept answer : Prog σ ε α) := by
  cases answer with
  | ok value => exact Obeyed.pure rfl
  | error error => exact Obeyed.throw

theorem Obeyed.ofMapped {δ : Type} (answer : Except δ α) (error : δ → ε) :
    contract.Obeyed (fun value => answer = .ok value)
      (Prog.ofExcept (answer.mapError error) : Prog σ ε α) := by
  cases answer with
  | ok value => exact Obeyed.pure rfl
  | error error => exact Obeyed.throw

theorem Obeyed.mono {prog : Prog σ ε α} {weaker : α → Prop}
    (obeyed : contract.Obeyed answers prog) (passes : ∀ value, answers value → weaker value) :
    contract.Obeyed weaker prog := by
  intro state holds
  apply Safe.mono (obeyed state holds)
  · exact fun value _ _ => passes value
  · exact fun _ _ _ _ => trivial

theorem Obeyed.any {prog : Prog σ ε α} (obeyed : contract.Obeyed answers prog) :
    contract.Obeyed (fun _ => True) prog :=
  obeyed.mono fun _ _ => trivial

theorem Obeyed.bind {prog : Prog σ ε α} {next : α → Prog σ ε β}
    (first : contract.Obeyed answers prog)
    (rest : ∀ value, answers value → contract.Obeyed ends (next value)) :
    contract.Obeyed ends (prog.bind next) := by
  intro state holds
  apply Safe.bind holds
  apply Safe.mono (first state holds)
  · exact fun value now still passed => rest value passed now still
  · exact fun _ _ _ _ => trivial

theorem Obeyed.attempt {prog : Prog σ ε α} (obeyed : contract.Obeyed answers prog) :
    contract.Obeyed (fun ended => ∀ value, ended = .ok value → answers value)
      (prog.attempt : Prog σ ε (Except ε α)) := by
  intro state holds
  have safe := obeyed state holds
  clear obeyed holds
  induction prog generalizing state with
  | pure value =>
      intro now moved still other same
      cases same
      exact safe now moved still
  | throw error =>
      intro now moved still other same
      cases same
  | step write next ih =>
      intro now moved still allowed
      obtain ⟨kept, changed, later⟩ := safe now moved still allowed
      exact ⟨kept, changed, ih now (write now) later⟩

theorem Obeyed.call {operation : σ → α × σ}
    (steps : ∀ now, contract.inv now → contract.inv (operation now).2 ∧
      contract.guar now (operation now).2 ∧ answers (operation now).1) :
    contract.Obeyed answers (Prog.call operation : Prog σ ε α) := by
  intro state _ now _ still _
  obtain ⟨kept, changed, passed⟩ := steps now still
  exact ⟨kept, changed, fun _ _ _ => passed⟩

theorem Obeyed.quiet {γ : Type} {view : σ → γ} {prog : Prog σ ε α}
    (quiet : Ownership.Quiet view prog)
    (speaks : ∀ now after, view after = view now → contract.inv now →
      contract.inv after ∧ contract.guar now after) :
    contract.Obeyed (fun _ => True) prog :=
  fun _ _ => quiet.safe speaks

theorem Obeyed.andThen {prog : Prog σ ε α} {next : α → Prog σ ε β} {post : β → σ → Prop}
    {state : σ} (first : contract.Obeyed answers prog) (holds : contract.inv state)
    (rest : ∀ value now, contract.inv now → answers value →
      Safe contract Unrestricted post (fun _ _ => True) (next value) now) :
    Safe contract Unrestricted post (fun _ _ => True) (prog.bind next) state := by
  apply Safe.bind holds
  apply Safe.mono (first state holds)
  · exact fun value now still passed => rest value now still passed
  · exact fun _ _ _ _ => trivial

theorem Obeyed.keep {prog : Prog σ ε α} {fact : σ → Prop} {state : σ}
    (obeyed : contract.Obeyed answers prog) (holds : contract.inv state) (known : fact state)
    (lasts : ∀ now, contract.guar state now → fact state → fact now) :
    Safe contract Unrestricted (fun value now => answers value ∧ fact now) (fun _ _ => True)
      prog state := by
  apply Safe.mono (Safe.since (contract.refl state) (obeyed state holds))
  · exact fun value now _ ended => ⟨ended.2, lasts now ended.1 known⟩
  · exact fun _ _ _ _ => trivial

end Contract

end Interleaving
