import ActionProxy.Foundation.Interleaving

/-!
The log of interleaved calls. Each step of a call is recorded with the call that
took it, the states on both sides, how many steps had been taken when the call
took its first, and whether the call answers with it. The log is beside the state:
no step reads it.
-/

namespace Interleaving

variable {σ ε α β κ : Type}

namespace Prog

/-- Every step of the computation changes the state in a given way. -/
def Only (changes : σ → σ → Prop) : Prog σ ε α → Prop
  | .pure _ => True
  | .throw _ => True
  | .step write next => ∀ state, changes state (write state) ∧ (next state).Only changes

theorem Only.bind {changes : σ → σ → Prop} {prog : Prog σ ε α} {next : α → Prog σ ε β}
    (first : prog.Only changes) (later : ∀ value, (next value).Only changes) :
    (prog >>= next).Only changes := by
  induction prog with
  | pure value => exact later value
  | throw error => trivial
  | step write rest ih => exact fun state => ⟨(first state).1, ih state (first state).2⟩

/-- The computation has its answer. -/
def answered : Prog σ ε α → Bool
  | .pure _ => true
  | _ => false

end Prog

structure Moment (σ κ : Type) where
  call : κ
  /-- How many steps all calls had taken when this call took its first. -/
  began : Nat
  before : σ
  after : σ
  /-- The call answers with this step. -/
  ended : Bool

structure Logged (σ κ : Type) where
  state : σ
  log : List (Moment σ κ)

/-- The step that a call takes next. -/
def Logged.moment (logged : Logged σ κ) (call : κ) (began : Nat) (write : σ → σ) (ended : Bool) :
    Moment σ κ :=
  { call := call
    began := began
    before := logged.state
    after := write logged.state
    ended := ended }

def Logged.take (logged : Logged σ κ) (call : κ) (began : Nat) (write : σ → σ) (ended : Bool) :
    Logged σ κ :=
  { state := write logged.state
    log := logged.log ++ [logged.moment call began write ended] }

namespace Prog

/-- The rest of a call that took its first step after `began` others. -/
def loggedFrom (call : κ) (began : Nat) : Prog σ ε α → Prog (Logged σ κ) ε α
  | .pure value => .pure value
  | .throw error => .throw error
  | .step write next =>
      .step (fun logged => logged.take call began write (next logged.state).answered)
        (fun logged => (next logged.state).loggedFrom call began)

/-- A call that has not taken a step. -/
def logged (call : κ) : Prog σ ε α → Prog (Logged σ κ) ε α
  | .pure value => .pure value
  | .throw error => .throw error
  | .step write next =>
      .step
        (fun logged => logged.take call logged.log.length write (next logged.state).answered)
        (fun logged => (next logged.state).loggedFrom call logged.log.length)

/-- One computation is another with its steps recorded. -/
inductive LoggedAs : Prog (Logged σ κ) ε α → Prog σ ε α → Prop where
  | fresh (call : κ) (prog : Prog σ ε α) : LoggedAs (prog.logged call) prog
  | begun (call : κ) (began : Nat) (prog : Prog σ ε α) : LoggedAs (prog.loggedFrom call began) prog

end Prog

/-! ### Logged runs are the runs -/

/-- The calls that may be made, and nothing else happens. -/
def calling (prog : κ → Prog σ ε α) (offered : κ → Prop) : System σ ε α :=
  { starts := fun started => ∃ call, offered call ∧ started = prog call
    environment := fun _ => False }

def callingLogged (prog : κ → Prog σ ε α) (offered : κ → Prop) : System (Logged σ κ) ε α :=
  { starts := fun started => ∃ call, offered call ∧ started = (prog call).logged call
    environment := fun _ => False }

structure World.LoggedAs (logged : World (Logged σ κ) ε α) (plain : World σ ε α) : Prop where
  state : logged.state.state = plain.state
  count : logged.threads.length = plain.threads.length
  threads : ∀ (thread : Nat) (recorded : Prog (Logged σ κ) ε α) (prog : Prog σ ε α),
    logged.threads[thread]? = some recorded → plain.threads[thread]? = some prog →
      recorded.LoggedAs prog

namespace World.LoggedAs

variable {logged : World (Logged σ κ) ε α} {plain : World σ ε α}

theorem set (same : logged.LoggedAs plain) {recordedState : Logged σ κ} {state : σ}
    {recorded : Prog (Logged σ κ) ε α} {prog : Prog σ ε α} (thread : Nat)
    (states : recordedState.state = state) (shape : recorded.LoggedAs prog) :
    LoggedAs { state := recordedState, threads := logged.threads.set thread recorded }
      { state := state, threads := plain.threads.set thread prog } := by
  constructor
  · exact states
  · simp only [List.length_set, same.count]
  · intro other inLogged inPlain foundLogged foundPlain
    by_cases here : thread = other
    · subst here
      have bound : thread < logged.threads.length := by
        obtain ⟨bound, -⟩ := List.getElem?_eq_some_iff.mp foundLogged
        simpa only [List.length_set] using bound
      rw [List.getElem?_set_self bound] at foundLogged
      rw [List.getElem?_set_self (same.count ▸ bound)] at foundPlain
      cases foundLogged
      cases foundPlain
      exact shape
    · rw [List.getElem?_set_ne here] at foundLogged foundPlain
      exact same.threads other inLogged inPlain foundLogged foundPlain

theorem advance (same : logged.LoggedAs plain) (thread : Nat) :
    (logged.advance thread).LoggedAs (plain.advance thread) := by
  unfold World.advance
  cases foundPlain : plain.threads[thread]? with
  | none =>
      have outside := List.getElem?_eq_none_iff.mp foundPlain
      rw [List.getElem?_eq_none (same.count ▸ outside)]
      exact same
  | some prog =>
      obtain ⟨inPlain, -⟩ := List.getElem?_eq_some_iff.mp foundPlain
      obtain ⟨recorded, foundLogged⟩ : ∃ recorded, logged.threads[thread]? = some recorded :=
        ⟨_, List.getElem?_eq_getElem (same.count.symm ▸ inPlain)⟩
      have shape := same.threads thread recorded prog foundLogged foundPlain
      rw [foundLogged]
      cases shape with
      | fresh call prog =>
          cases prog with
          | pure value => exact same
          | throw error => exact same
          | step write next =>
              dsimp only [Prog.logged]
              rw [same.state]
              exact same.set thread (congrArg write same.state) (Prog.LoggedAs.begun call _ _)
      | begun call began prog =>
          cases prog with
          | pure value => exact same
          | throw error => exact same
          | step write next =>
              dsimp only [Prog.loggedFrom]
              rw [same.state]
              exact same.set thread (congrArg write same.state) (Prog.LoggedAs.begun call began _)

theorem start (same : logged.LoggedAs plain) (call : κ) (prog : Prog σ ε α) :
    (logged.step (.start (prog.logged call))).LoggedAs (plain.step (.start prog)) := by
  constructor
  · exact same.state
  · simp only [World.step, List.length_append, same.count, List.length_singleton]
  · intro thread recorded other foundLogged foundPlain
    simp only [World.step, List.getElem?_append, same.count] at foundLogged foundPlain
    split at foundPlain
    · rename_i inside
      rw [if_pos inside] at foundLogged
      exact same.threads thread recorded other foundLogged foundPlain
    · rename_i outside
      rw [if_neg outside] at foundLogged
      rw [List.mem_singleton.mp (List.mem_of_getElem? foundLogged),
        List.mem_singleton.mp (List.mem_of_getElem? foundPlain)]
      exact Prog.LoggedAs.fresh call _

end World.LoggedAs

/-- Every run of calls has its log. -/
theorem Reaches.withLog {prog : κ → Prog σ ε α} {offered : κ → Prop} {first world : World σ ε α}
    {firstLogged : World (Logged σ κ) ε α}
    (reached : Reaches (calling prog offered) Unrestricted first world)
    (initial : firstLogged.LoggedAs first) :
    ∃ logged, Reaches (callingLogged prog offered) Unrestricted firstLogged logged ∧
      logged.LoggedAs world := by
  induction reached with
  | refl => exact ⟨firstLogged, Reaches.refl, initial⟩
  | step earlier choice allowed permits ih =>
      obtain ⟨logged, reachedLogged, same⟩ := ih
      cases choice with
      | start started =>
          obtain ⟨call, isOffered, rfl⟩ := allowed
          exact ⟨_, reachedLogged.step (.start ((prog call).logged call)) ⟨call, isOffered, rfl⟩
            trivial, same.start call (prog call)⟩
      | advance thread =>
          exact ⟨_, reachedLogged.step (.advance thread) trivial trivial, same.advance thread⟩
      | environment change => exact absurd allowed not_false

/-- A logged run without its log is a run. -/
theorem Reaches.withoutLog {prog : κ → Prog σ ε α} {offered : κ → Prop}
    {permitted : Logged σ κ → Logged σ κ → Prop} {first : World σ ε α}
    {firstLogged logged : World (Logged σ κ) ε α}
    (reached : Reaches (callingLogged prog offered) permitted firstLogged logged)
    (initial : firstLogged.LoggedAs first) :
    ∃ world, Reaches (calling prog offered) Unrestricted first world ∧ logged.LoggedAs world := by
  induction reached with
  | refl => exact ⟨first, Reaches.refl, initial⟩
  | step earlier choice allowed permits ih =>
      obtain ⟨world, reachedPlain, same⟩ := ih
      cases choice with
      | start started =>
          obtain ⟨call, isOffered, rfl⟩ := allowed
          exact ⟨_, reachedPlain.step (.start (prog call)) ⟨call, isOffered, rfl⟩ trivial,
            same.start call (prog call)⟩
      | advance thread =>
          exact ⟨_, reachedPlain.step (.advance thread) trivial trivial, same.advance thread⟩
      | environment change => exact absurd allowed not_false

/-! ### What a log says of the states -/

/-- The steps lead from one state to the other, each from where the one before it
ended. -/
def Leads : σ → List (Moment σ κ) → σ → Prop
  | first, [], last => first = last
  | first, moment :: rest, last => moment.before = first ∧ Leads moment.after rest last

theorem Leads.append {first middle last : σ} {earlier later : List (Moment σ κ)}
    (before : Leads first earlier middle) (after : Leads middle later last) :
    Leads first (earlier ++ later) last := by
  induction earlier generalizing first with
  | nil =>
      cases before
      exact after
  | cons moment rest ih => exact ⟨before.1, ih before.2⟩

theorem Leads.steady {first last : σ} {moments : List (Moment σ κ)}
    (leads : Leads first moments last) {view : σ → β}
    (steady : ∀ moment ∈ moments, view moment.before = view moment.after) :
    view first = view last := by
  induction moments generalizing first with
  | nil => rw [leads]
  | cons moment rest ih =>
      obtain ⟨rfl, later⟩ := leads
      rw [steady moment List.mem_cons_self]
      exact ih later (fun other member => steady other (List.mem_cons_of_mem _ member))

/-- What no step brought about holds at the end only if it did at the start. -/
theorem Leads.absent {first last : σ} {moments : List (Moment σ κ)}
    (leads : Leads first moments last) {holds : σ → Prop}
    (kept : ∀ moment ∈ moments, holds moment.after → holds moment.before)
    (now : holds last) : holds first := by
  induction moments generalizing first with
  | nil =>
      rw [leads]
      exact now
  | cons moment rest ih =>
      obtain ⟨rfl, later⟩ := leads
      exact kept moment List.mem_cons_self
        (ih later (fun other member => kept other (List.mem_cons_of_mem _ member)))

/-- The later log continues the earlier one. -/
def Logged.Extends (earlier later : Logged σ κ) : Prop :=
  ∃ since, later.log = earlier.log ++ since ∧ Leads earlier.state since later.state

theorem Logged.Extends.refl (logged : Logged σ κ) : logged.Extends logged :=
  ⟨[], (List.append_nil _).symm, rfl⟩

theorem Logged.Extends.trans {first second third : Logged σ κ} (before : first.Extends second)
    (after : second.Extends third) : first.Extends third := by
  obtain ⟨earlier, earlierLog, leads⟩ := before
  obtain ⟨later, laterLog, leadsOn⟩ := after
  refine ⟨earlier ++ later, ?_, leads.append leadsOn⟩
  rw [laterLog, earlierLog, List.append_assoc]

theorem Logged.take_extends (logged : Logged σ κ) (call : κ) (began : Nat) (write : σ → σ)
    (ended : Bool) : logged.Extends (logged.take call began write ended) :=
  ⟨_, rfl, rfl, rfl⟩

theorem Logged.Extends.steady {start now : Logged σ κ} (moved : start.Extends now) {began : Nat}
    (since : began ≤ start.log.length) {view : σ → β}
    (steady : ∀ moment ∈ now.log.drop began, view moment.before = view moment.after) :
    view start.state = view now.state := by
  obtain ⟨later, log, leads⟩ := moved
  apply leads.steady
  intro moment member
  apply steady
  rw [log, List.drop_append_of_le_length since]
  exact List.mem_append_right _ member

theorem Logged.Extends.absent {start now : Logged σ κ} (moved : start.Extends now) {began : Nat}
    (since : began ≤ start.log.length) {holds : σ → Prop}
    (kept : ∀ moment ∈ now.log.drop began, holds moment.after → holds moment.before)
    (held : holds now.state) : holds start.state := by
  obtain ⟨later, log, leads⟩ := moved
  apply leads.absent _ held
  intro moment member
  apply kept
  rw [log, List.drop_append_of_le_length since]
  exact List.mem_append_right _ member

theorem Logged.Extends.length_le {start now : Logged σ κ} (moved : start.Extends now) :
    start.log.length ≤ now.log.length := by
  obtain ⟨later, log, -⟩ := moved
  rw [log, List.length_append]
  exact Nat.le_add_right _ _

/-- The contract of calls that append to the log. -/
def recording (inv : Logged σ κ → Prop) : Contract (Logged σ κ) :=
  { inv := inv
    guar := Logged.Extends
    refl := Logged.Extends.refl
    trans := Logged.Extends.trans }

section

variable {inv : Logged σ κ → Prop} {permitted : Logged σ κ → Logged σ κ → Prop}
  {post : α → Logged σ κ → Prop} {failed : ε → Logged σ κ → Prop}
  {operation : σ → β × σ} {next : β → Prog σ ε α} {call : κ} {began : Nat} {before : Logged σ κ}

theorem Safe.begin
    (keeps : ∀ now, before.Extends now → inv now →
      let after := now.take call now.log.length (fun state => (operation state).2)
        (next (operation now.state).1).answered
      permitted now after → inv after ∧ Safe (recording inv) permitted post failed
        ((next (operation now.state).1).loggedFrom call now.log.length) after) :
    Safe (recording inv) permitted post failed (((Prog.call operation).bind next).logged call)
      before := by
  intro now moved holds allowed
  obtain ⟨kept, rest⟩ := keeps now moved holds allowed
  exact ⟨kept, now.take_extends call _ _ _, rest⟩

theorem Safe.proceed
    (keeps : ∀ now, before.Extends now → inv now →
      let after := now.take call began (fun state => (operation state).2)
        (next (operation now.state).1).answered
      permitted now after → inv after ∧ Safe (recording inv) permitted post failed
        ((next (operation now.state).1).loggedFrom call began) after) :
    Safe (recording inv) permitted post failed
      (((Prog.call operation).bind next).loggedFrom call began) before := by
  intro now moved holds allowed
  obtain ⟨kept, rest⟩ := keeps now moved holds allowed
  exact ⟨kept, now.take_extends call _ _ _, rest⟩

end

end Interleaving
