import ActionProxy.Foundation.KeyedTable

/-!
Calls that read records of a shared table, hold what they read, and write it back changed. The
calls take turns in any order. While no record is held twice, what a call holds is what the table
has, and every write replaces the record that it was made from.
-/

namespace HeldRecords

variable {Key Value Request Call Entry : Type} [DecidableEq Key]

/-- What a call does in one turn: where it gets to, the record it writes, and what is noted. -/
structure Turn (Key Value Call Entry : Type) where
  call : Call
  written : Option (Key × Value)
  entries : List Entry

structure Machine (Key Value Request Call Entry : Type) where
  /-- A call that has just read what it begins with. -/
  enter : Request → KeyedTable Key Value → Call
  entered : Request → Entry
  turn : Call → KeyedTable Key Value → Turn Key Value Call Entry
  /-- The records a call has read and not yet written, as it read them. -/
  holds : Call → List (Key × Option Value)

/-- The table, the calls at the points they have reached, and what was noted. -/
structure World (Key Value Call Entry : Type) where
  table : KeyedTable Key Value
  calls : List Call
  log : List Entry

inductive Choice (Request : Type) where
  | enter (request : Request)
  | advance (index : Nat)

def World.empty : World Key Value Call Entry :=
  { table := KeyedTable.empty, calls := [], log := [] }

def stored (table : KeyedTable Key Value) : Option (Key × Value) → KeyedTable Key Value
  | none => table
  | some entry => table.set entry.1 entry.2

/-- The world after a turn of the call at an index. -/
def World.put (world : World Key Value Call Entry) (index : Nat)
    (turn : Turn Key Value Call Entry) : World Key Value Call Entry :=
  { table := stored world.table turn.written
    calls := world.calls.set index turn.call
    log := world.log ++ turn.entries }

namespace Machine

variable (machine : Machine Key Value Request Call Entry)

def opened (world : World Key Value Call Entry) (request : Request) :
    World Key Value Call Entry :=
  { table := world.table
    calls := world.calls ++ [machine.enter request world.table]
    log := world.log ++ [machine.entered request] }

def step (world : World Key Value Call Entry) : Choice Request → World Key Value Call Entry
  | .enter request => machine.opened world request
  | .advance index =>
      match world.calls[index]? with
      | some call => world.put index (machine.turn call world.table)
      | none => world

def run (world : World Key Value Call Entry) (choices : List (Choice Request)) :
    World Key Value Call Entry :=
  choices.foldl machine.step world

def heldKeys (call : Call) : List Key := (machine.holds call).map Prod.fst

/-- No record is held twice. -/
def Apart (world : World Key Value Call Entry) : Prop :=
  (world.calls.flatMap machine.heldKeys).Nodup

instance (world : World Key Value Call Entry) : Decidable (machine.Apart world) :=
  inferInstanceAs (Decidable (List.Nodup _))

/-- What the call holds is what the table has. -/
def Current (table : KeyedTable Key Value) (call : Call) : Prop :=
  ∀ hold ∈ machine.holds call, table.get? hold.1 = hold.2

/-- The worlds reached by requests that are offered, through worlds that are allowed. -/
inductive Reaches (offered : Request → Prop) (allowed : World Key Value Call Entry → Prop) :
    World Key Value Call Entry → Prop where
  | empty : Reaches offered allowed World.empty
  | step {world : World Key Value Call Entry} (earlier : Reaches offered allowed world)
      (choice : Choice Request) (offers : ∀ request, choice = .enter request → offered request)
      (allows : allowed (machine.step world choice)) :
      Reaches offered allowed (machine.step world choice)

/-- Every world on the way is allowed. -/
def Through (allowed : World Key Value Call Entry → Prop) :
    World Key Value Call Entry → List (Choice Request) → Prop
  | _, [] => True
  | world, choice :: rest =>
      allowed (machine.step world choice) ∧ Through allowed (machine.step world choice) rest

instance decidableThrough {allowed : World Key Value Call Entry → Prop} [DecidablePred allowed] :
    (world : World Key Value Call Entry) → (choices : List (Choice Request)) →
      Decidable (machine.Through allowed world choices)
  | _, [] => isTrue trivial
  | world, choice :: rest =>
      @instDecidableAnd _ _ _ (decidableThrough (machine.step world choice) rest)

variable {machine} {offered : Request → Prop} {allowed : World Key Value Call Entry → Prop}
  {world : World Key Value Call Entry}

theorem step_none {index : Nat} (outside : world.calls[index]? = none) :
    machine.step world (.advance index) = world := by
  unfold Machine.step
  dsimp only
  rw [outside]

theorem step_some {index : Nat} {call : Call} (here : world.calls[index]? = some call) :
    machine.step world (.advance index) = world.put index (machine.turn call world.table) := by
  unfold Machine.step
  dsimp only
  rw [here]

theorem through_true (world : World Key Value Call Entry) (choices : List (Choice Request)) :
    machine.Through (fun _ => True) world choices := by
  induction choices generalizing world with
  | nil => trivial
  | cons choice rest ih => exact ⟨trivial, ih _⟩

theorem Reaches.run (reached : machine.Reaches offered allowed world)
    {choices : List (Choice Request)}
    (offers : ∀ request, Choice.enter request ∈ choices → offered request)
    (through : machine.Through allowed world choices) :
    machine.Reaches offered allowed (machine.run world choices) := by
  induction choices generalizing world with
  | nil => exact reached
  | cons choice rest ih =>
      apply ih
      · apply reached.step choice
        · rintro request rfl
          exact offers request List.mem_cons_self
        · exact through.1
      · intro request member
        exact offers request (List.mem_cons_of_mem _ member)
      · exact through.2

/-! ### Holding apart -/

omit [DecidableEq Key] in
theorem Apart.alone (apart : machine.Apart world) {first second : Nat} {one other : Call}
    (atFirst : world.calls[first]? = some one) (atSecond : world.calls[second]? = some other)
    (different : first ≠ second) {key : Key} (held : key ∈ machine.heldKeys one) :
    key ∉ machine.heldKeys other := by
  obtain ⟨inFirst, isOne⟩ := List.getElem?_eq_some_iff.mp atFirst
  obtain ⟨inSecond, isOther⟩ := List.getElem?_eq_some_iff.mp atSecond
  have pairs := List.pairwise_iff_getElem.mp (List.nodup_flatMap.mp apart).2
  intro heldToo
  rcases Nat.lt_or_gt_of_ne different with before | after
  · have disjoint := pairs first second inFirst inSecond before
    rw [isOne, isOther] at disjoint
    exact disjoint held heldToo
  · have disjoint := pairs second first inSecond inFirst after
    rw [isOne, isOther] at disjoint
    exact disjoint heldToo held

omit [DecidableEq Key] in
theorem Apart.own (apart : machine.Apart world) {index : Nat} {call : Call}
    (here : world.calls[index]? = some call) : (machine.heldKeys call).Nodup :=
  (List.nodup_flatMap.mp apart).1 call (List.mem_of_getElem? here)

theorem get?_stored_other (table : KeyedTable Key Value) {written : Option (Key × Value)}
    {key : Key} (other : ∀ entry ∈ written, entry.1 ≠ key) :
    (stored table written).get? key = table.get? key := by
  cases written with
  | none => rfl
  | some entry => exact table.get?_set_other (Ne.symm (other entry rfl)) entry.2

/-! ### Invariants of runs without crossings -/

/-- What a turn has to answer for: it takes no record, and it writes only what it held and holds
no longer. -/
structure Releases (machine : Machine Key Value Request Call Entry) (call : Call)
    (turn : Turn Key Value Call Entry) : Prop where
  kept : ∀ hold ∈ machine.holds turn.call, hold ∈ machine.holds call
  held : ∀ entry ∈ turn.written, entry.1 ∈ machine.heldKeys call
  released : ∀ entry ∈ turn.written, entry.1 ∉ machine.heldKeys turn.call

omit [DecidableEq Key] in
theorem Releases.of_unwritten {call : Call} {turn : Turn Key Value Call Entry}
    (unwritten : turn.written = none)
    (kept : ∀ hold ∈ machine.holds turn.call, hold ∈ machine.holds call) :
    machine.Releases call turn := by
  have none : ∀ entry, entry ∉ turn.written := by
    intro entry member
    rw [unwritten] at member
    cases member
  exact { kept := kept, held := fun entry member => absurd member (none entry)
          released := fun entry member => absurd member (none entry) }

omit [DecidableEq Key] in
theorem Releases.of_written {call : Call} {turn : Turn Key Value Call Entry} {key : Key}
    {value : Value} (written : turn.written = some (key, value))
    (kept : ∀ hold ∈ machine.holds turn.call, hold ∈ machine.holds call)
    (held : key ∈ machine.heldKeys call) (released : key ∉ machine.heldKeys turn.call) :
    machine.Releases call turn := by
  have only : ∀ entry ∈ turn.written, entry.1 = key := by
    intro entry member
    rw [written] at member
    cases member
    rfl
  constructor
  · exact kept
  · intro entry member
    rw [only entry member]
    exact held
  · intro entry member
    rw [only entry member]
    exact released

/-- No other call holds a record that the call at an index holds. -/
def Alone (machine : Machine Key Value Request Call Entry) (world : World Key Value Call Entry)
    (index : Nat) (call : Call) : Prop :=
  ∀ second other, world.calls[second]? = some other → index ≠ second →
    ∀ key ∈ machine.heldKeys call, key ∉ machine.heldKeys other

/-- An invariant that every request and every turn on current records keeps. -/
structure Keeps (machine : Machine Key Value Request Call Entry) (offered : Request → Prop)
    (inv : World Key Value Call Entry → Prop) : Prop where
  empty : inv World.empty
  enter : ∀ world request, offered request → inv world →
    machine.Current world.table (machine.enter request world.table) ∧
      inv (machine.opened world request)
  turn : ∀ world index call, inv world → world.calls[index]? = some call →
    machine.Current world.table call → (machine.heldKeys call).Nodup →
      machine.Alone world index call →
        machine.Releases call (machine.turn call world.table) ∧
          inv (world.put index (machine.turn call world.table))

theorem mem_put {index : Nat} {call one : Call} {turn : Turn Key Value Call Entry}
    (here : world.calls[index]? = some call) (member : one ∈ (world.put index turn).calls) :
    one = turn.call ∨ ∃ second, index ≠ second ∧ world.calls[second]? = some one := by
  obtain ⟨second, atSecond⟩ := List.getElem?_of_mem member
  by_cases same : index = second
  · subst same
    obtain ⟨bound, -⟩ := List.getElem?_eq_some_iff.mp here
    rw [World.put, List.getElem?_set_self bound] at atSecond
    cases atSecond
    exact .inl rfl
  · rw [World.put, List.getElem?_set_ne same] at atSecond
    exact .inr ⟨second, same, atSecond⟩

theorem countP_put (test : Call → Bool) {index : Nat} {call : Call}
    (turn : Turn Key Value Call Entry) (here : world.calls[index]? = some call) :
    (world.put index turn).calls.countP test + (if test call then 1 else 0) =
      world.calls.countP test + (if test turn.call then 1 else 0) := by
  obtain ⟨bound, isCall⟩ := List.getElem?_eq_some_iff.mp here
  unfold World.put
  dsimp only
  rw [List.countP_set bound, isCall]
  cases passes : test call with
  | false => rfl
  | true =>
      have some : 0 < world.calls.countP test :=
        List.countP_pos_iff.mpr ⟨call, List.mem_of_getElem? here, passes⟩
      simp only [if_true]
      omega

theorem current_put {index : Nat} {call : Call} {turn : Turn Key Value Call Entry}
    (current : ∀ one ∈ world.calls, machine.Current world.table one)
    (here : world.calls[index]? = some call) (alone : machine.Alone world index call)
    (releases : machine.Releases call turn) :
    ∀ one ∈ (world.put index turn).calls, machine.Current (world.put index turn).table one := by
  intro one member hold holds
  have inKeys : hold.1 ∈ machine.heldKeys one := List.mem_map_of_mem holds
  rcases mem_put here member with rfl | ⟨second, different, atSecond⟩
  · rw [World.put, get?_stored_other world.table]
    · exact current call (List.mem_of_getElem? here) hold (releases.kept hold holds)
    · intro entry written same
      rw [← same] at inKeys
      exact releases.released entry written inKeys
  · rw [World.put, get?_stored_other world.table]
    · exact current one (List.mem_of_getElem? atSecond) hold holds
    · intro entry written same
      rw [← same] at inKeys
      exact alone second one atSecond different entry.1 (releases.held entry written) inKeys

/-- While no record is held twice, an invariant is kept and what is held is current. -/
theorem Reaches.keeps {inv : World Key Value Call Entry → Prop}
    (keeps : machine.Keeps offered inv) (reached : machine.Reaches offered machine.Apart world) :
    inv world ∧ (∀ call ∈ world.calls, machine.Current world.table call) ∧ machine.Apart world := by
  induction reached with
  | empty =>
      refine ⟨keeps.empty, ?_, List.nodup_nil⟩
      intro call member
      cases member
  | @step world earlier choice offers allows ih =>
      obtain ⟨holds, current, apart⟩ := ih
      cases choice with
      | enter request =>
          obtain ⟨currentNow, holdsNow⟩ := keeps.enter world request (offers request rfl) holds
          refine ⟨holdsNow, ?_, allows⟩
          intro call member
          rcases List.mem_append.mp member with old | new
          · exact current call old
          · rw [List.mem_singleton.mp new]
            exact currentNow
      | advance index =>
          cases here : world.calls[index]? with
          | none =>
              rw [step_none here]
              exact ⟨holds, current, apart⟩
          | some call =>
              rw [step_some here] at allows ⊢
              have alone : machine.Alone world index call := by
                intro second other atSecond different key held
                exact apart.alone here atSecond different held
              obtain ⟨releases, holdsNow⟩ := keeps.turn world index call holds here
                (current call (List.mem_of_getElem? here)) (apart.own here) alone
              exact ⟨holdsNow, current_put current here alone releases, allows⟩

end Machine

end HeldRecords
