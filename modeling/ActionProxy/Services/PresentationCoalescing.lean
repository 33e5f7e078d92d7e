import ActionProxy.Services.PresentationSync

/-!
Synchronizing a presentation in every interleaving of calls and passes: one pass at a time,
one trailing pass in the queue, and no call returns before what it asked for was part of a
pass that started after it.
-/

namespace ActionProxy

open JsonText

/-! ### What a call waits for -/

/-- The first pass of a batch is still to come or running. -/
def DrainPhase.early : DrainPhase → Bool
  | .scheduled _ | .firstPass => true
  | _ => false

namespace SyncWorld

/-- The work of a call. -/
def Made (world : SyncWorld) (work : ApprovalPresentationSyncWork) : Prop :=
  ∃ call ∈ world.calls, call.work = work

/-- The work was merged from the work of calls. -/
def Composed (world : SyncWorld) (work : ApprovalPresentationSyncWork)
    (works : List ApprovalPresentationSyncWork) : Prop :=
  Merged work works ∧ ∀ one ∈ works, world.Made one

/-- What was asked for is part of the work. -/
def Carried (world : SyncWorld) (work asked : ApprovalPresentationSyncWork) : Prop :=
  ∃ works, world.Composed work works ∧ asked ∈ works

/-- A pass that started after the call carries what it asked for. -/
def Served (world : SyncWorld) (number : Nat) (asked : ApprovalPresentationSyncWork) : Prop :=
  ∃ pass ∈ world.passes, number < pass.callsBefore ∧ world.Carried pass.work asked

/-- A pass that is still to come will carry what was asked for. -/
def Queued (world : SyncWorld) (state : ApprovalPresentationSyncState)
    (asked : ApprovalPresentationSyncWork) : Prop :=
  (∃ work, state.phase = .scheduled work ∧ world.Carried work asked) ∨
    ∃ work, state.trailing = some work ∧ world.Carried work asked

/-- The one batch that is not settled is the active one; its queue is open while its first
pass has not ended; and every call waits for a batch that carries it, or was served. -/
structure Coalesced (notifies : Bool) (world : SyncWorld) : Prop where
  current : ∀ batch state, world.states[batch]? = some state → state.phase ≠ .settled →
    world.active = some batch
  live : ∀ batch, world.active = some batch →
    ∃ state, world.states[batch]? = some state ∧ state.phase ≠ .settled
  accepting : ∀ state ∈ world.states, state.acceptingTrailing = true → state.phase.early = true
  queue : ∀ state ∈ world.states, ∀ work, state.trailing = some work →
    state.phase.early = true ∧ ∃ works, world.Composed work works
  waits : ∀ number call batch joined, world.calls[number]? = some call →
    call.status = .waiting batch joined → ∃ state, world.states[batch]? = some state ∧
      (joined = true → world.Queued state call.work ∨ world.Served number call.work)
  returned : ∀ number call, world.calls[number]? = some call → call.status = .returned →
    (call.work.approval.status = .pending ∨ notifies = false) ∨ world.Served number call.work

/-- Calls and passes stay. -/
structure Grows (world later : SyncWorld) : Prop where
  made : ∀ work, world.Made work → later.Made work
  passes : ∀ pass ∈ world.passes, pass ∈ later.passes

variable {world next : SyncWorld}

theorem Composed.later {work : ApprovalPresentationSyncWork}
    {works : List ApprovalPresentationSyncWork} (composed : world.Composed work works)
    (grows : world.Grows next) : next.Composed work works :=
  ⟨composed.1, fun one listed => grows.made one (composed.2 one listed)⟩

theorem Carried.later {work asked : ApprovalPresentationSyncWork}
    (carried : world.Carried work asked) (grows : world.Grows next) :
    next.Carried work asked := by
  obtain ⟨works, composed, among⟩ := carried
  exact ⟨works, composed.later grows, among⟩

theorem Served.later {number : Nat} {asked : ApprovalPresentationSyncWork}
    (served : world.Served number asked) (grows : world.Grows next) :
    next.Served number asked := by
  obtain ⟨pass, listed, after, carried⟩ := served
  exact ⟨pass, grows.passes pass listed, after, carried.later grows⟩

theorem Queued.later {state : ApprovalPresentationSyncState} {asked : ApprovalPresentationSyncWork}
    (queued : world.Queued state asked) (grows : world.Grows next) :
    next.Queued state asked := by
  rcases queued with ⟨work, scheduled, carried⟩ | ⟨work, trailing, carried⟩
  · exact Or.inl ⟨work, scheduled, carried.later grows⟩
  · exact Or.inr ⟨work, trailing, carried.later grows⟩

theorem carried_single {work : ApprovalPresentationSyncWork} (made : world.Made work) :
    world.Carried work work := by
  refine ⟨[work], ⟨.single work, ?_⟩, List.mem_cons_self⟩
  intro one listed
  rw [List.mem_singleton.mp listed]
  exact made

theorem composed_merge {trailing : Option ApprovalPresentationSyncWork}
    (composed : ∀ work, trailing = some work → ∃ works, world.Composed work works)
    {incoming : ApprovalPresentationSyncWork} (made : world.Made incoming) :
    world.Carried (mergeApprovalPresentationSyncWork trailing incoming) incoming := by
  cases trailing with
  | none => exact carried_single made
  | some work =>
      obtain ⟨works, merged, all⟩ := composed work rfl
      refine ⟨works ++ [incoming], ⟨.more merged incoming, ?_⟩,
        List.mem_append_right works List.mem_cons_self⟩
      intro one listed
      rcases List.mem_append.mp listed with early | last
      · exact all one early
      · rw [List.mem_singleton.mp last]
        exact made

theorem Carried.merge {work asked : ApprovalPresentationSyncWork}
    (carried : world.Carried work asked) {incoming : ApprovalPresentationSyncWork}
    (made : world.Made incoming) :
    world.Carried (mergeApprovalPresentationSyncWork (some work) incoming) asked := by
  obtain ⟨works, ⟨merged, all⟩, among⟩ := carried
  refine ⟨works ++ [incoming], ⟨.more merged incoming, ?_⟩, List.mem_append_left _ among⟩
  intro one listed
  rcases List.mem_append.mp listed with early | last
  · exact all one early
  · rw [List.mem_singleton.mp last]
    exact made

theorem coalesced_initial (notifies : Bool) : initial.Coalesced notifies where
  current := fun _ _ found => by cases found
  live := fun _ found => by cases found
  accepting := fun _ listed => absurd listed List.not_mem_nil
  queue := fun _ listed => absurd listed List.not_mem_nil
  waits := fun _ _ _ _ found => by cases found
  returned := fun _ _ found => by cases found

/-! ### Passes -/

variable {notifies : Bool}

/-- A batch that goes on without being settled; whoever waits in its queue is still in it,
or was served by the passes since. -/
theorem Coalesced.goOn (holds : world.Coalesced notifies) {batch : Nat}
    {before after : ApprovalPresentationSyncState} (found : world.states[batch]? = some before)
    (unsettled : before.phase ≠ .settled) (stays : after.phase ≠ .settled)
    (passes : List SyncPass) (more : ∀ pass ∈ world.passes, pass ∈ passes)
    (accepting : after.acceptingTrailing = true → after.phase.early = true)
    (queue : ∀ work, after.trailing = some work → after.phase.early = true ∧
      ∃ works, world.Composed work works)
    (waits : ∀ number call, world.calls[number]? = some call → world.Queued before call.work →
      world.Queued after call.work ∨ Served { world with passes := passes } number call.work) :
    Coalesced notifies
      { world with states := world.states.set batch after, passes := passes } := by
  have grows :
      world.Grows { world with states := world.states.set batch after, passes := passes } :=
    ⟨fun _ made => made, more⟩
  have active := holds.current batch before found unsettled
  have inside := (List.getElem?_eq_some_iff.mp found).1
  have here : (world.states.set batch after)[batch]? = some after :=
    List.getElem?_set_self inside
  have member {state : ApprovalPresentationSyncState}
      (listed : state ∈ world.states.set batch after) : state = after ∨ state ∈ world.states :=
    (List.mem_or_eq_of_mem_set listed).symm
  constructor
  · intro other state now open_
    by_cases same : batch = other
    · exact same ▸ active
    · rw [List.getElem?_set_ne same] at now
      exact holds.current other state now open_
  · intro other now
    have same : batch = other := Option.some.inj (active.symm.trans now)
    exact ⟨after, same ▸ here, stays⟩
  · intro state listed accepts
    rcases member listed with rfl | early
    · exact accepting accepts
    · exact holds.accepting state early accepts
  · intro state listed work trailing
    rcases member listed with rfl | early
    · obtain ⟨opened, works, composed⟩ := queue work trailing
      exact ⟨opened, works, composed.later grows⟩
    · obtain ⟨opened, works, composed⟩ := holds.queue state early work trailing
      exact ⟨opened, works, composed.later grows⟩
  · intro number call other joined called status
    obtain ⟨state, there, waiting⟩ := holds.waits number call other joined called status
    by_cases same : batch = other
    · subst same
      rw [found] at there
      cases there
      refine ⟨after, here, ?_⟩
      intro among
      rcases waiting among with queued | served
      · rcases waits number call called queued with queued | served
        · exact Or.inl (queued.later grows)
        · exact Or.inr (served.later ⟨fun _ made => made, fun _ listed => listed⟩)
      · exact Or.inr (served.later grows)
    · refine ⟨state, (List.getElem?_set_ne same).trans there, ?_⟩
      intro among
      rcases waiting among with queued | served
      · exact Or.inl (queued.later grows)
      · exact Or.inr (served.later grows)
  · intro number call called status
    rcases holds.returned number call called status with skipped | served
    · exact Or.inl skipped
    · exact Or.inr (served.later grows)

theorem served_by_pass {number : Nat} {call : SyncCall} {work : ApprovalPresentationSyncWork}
    (called : world.calls[number]? = some call) (carried : world.Carried work call.work) :
    Served
      { world with passes := world.passes ++ [{ work := work, callsBefore := world.calls.length }] }
      number call.work := by
  refine ⟨_, List.mem_append_right _ List.mem_cons_self, ?_, carried⟩
  exact (List.getElem?_eq_some_iff.mp called).1

theorem Coalesced.begin (holds : world.Coalesced notifies) (batch : Nat) :
    (world.begin batch).Coalesced notifies := by
  unfold SyncWorld.begin
  cases found : world.states[batch]? with
  | none => exact holds
  | some state =>
      dsimp only
      split
      · rename_i work scheduled
        have listed := List.mem_of_getElem? found
        refine holds.goOn found (by rw [scheduled]; simp) (by simp) _
          (fun pass early => List.mem_append_left _ early) (fun _ => rfl) ?_ ?_
        · intro trailing queued
          exact ⟨rfl, (holds.queue state listed trailing queued).2⟩
        · rintro number call called (⟨first, same, carried⟩ | queued)
          · rw [scheduled] at same
            cases same
            exact Or.inr (served_by_pass called carried)
          · exact Or.inl (Or.inr queued)
      · exact holds

theorem Coalesced.endPass (holds : world.Coalesced notifies) (batch : Nat)
    (outcome : Except Thrown Unit) : (world.endPass batch outcome).Coalesced notifies := by
  unfold SyncWorld.endPass
  cases found : world.states[batch]? with
  | none => exact holds
  | some state =>
      have listed := List.mem_of_getElem? found
      dsimp only
      split
      · rename_i first
        cases trailing : state.trailing with
        | some work =>
            refine holds.goOn found (by rw [first]; simp) (by simp) _
              (fun pass early => List.mem_append_left _ early) (fun accepts => by cases accepts)
              (fun _ queued => by cases queued) ?_
            rintro number call called (⟨_, same, _⟩ | ⟨queued, same, carried⟩)
            · rw [first] at same
              cases same
            · rw [trailing] at same
              cases same
              exact Or.inr (served_by_pass called carried)
        | none =>
            refine holds.goOn found (by rw [first]; simp) (by simp) _ (fun _ early => early)
              (fun accepts => by cases accepts) (fun _ queued => by cases queued) ?_
            rintro number call called (⟨_, same, _⟩ | ⟨queued, same, carried⟩)
            · rw [first] at same
              cases same
            · rw [trailing] at same
              cases same
      · rename_i trailing
        have closed : state.acceptingTrailing = true → False := by
          intro accepts
          have early := holds.accepting state listed accepts
          rw [trailing] at early
          cases early
        have empty : ∀ work, state.trailing = some work → False := by
          intro work queued
          have early := (holds.queue state listed work queued).1
          rw [trailing] at early
          cases early
        refine holds.goOn found (by rw [trailing]; simp) (by simp) _ (fun _ early => early)
          (fun accepts => (closed accepts).elim) (fun work queued => (empty work queued).elim) ?_
        rintro number call called (⟨_, same, _⟩ | ⟨queued, same, carried⟩)
        · rw [trailing] at same
          cases same
        · exact (empty queued same).elim
      · exact holds

theorem Coalesced.unqueued (holds : world.Coalesced notifies) {batch : Nat}
    {state : ApprovalPresentationSyncState} (found : world.states[batch]? = some state)
    (late : state.phase.early = false) (asked : ApprovalPresentationSyncWork) :
    ¬ world.Queued state asked := by
  rintro (⟨work, scheduled, -⟩ | ⟨work, trailing, -⟩)
  · rw [scheduled] at late
    cases late
  · have early := (holds.queue state (List.mem_of_getElem? found) work trailing).1
    rw [late] at early
    cases early

theorem Coalesced.settle (holds : world.Coalesced notifies) (batch : Nat) :
    (world.settle batch).Coalesced notifies := by
  unfold SyncWorld.settle
  cases found : world.states[batch]? with
  | none => exact holds
  | some state =>
      dsimp only
      split
      · rename_i drained
        have active := holds.current batch state found (by rw [drained]; simp)
        have listed := List.mem_of_getElem? found
        have inside := (List.getElem?_eq_some_iff.mp found).1
        rw [active, if_pos rfl]
        have late : state.phase.early = false := by rw [drained]; rfl
        have member {other : ApprovalPresentationSyncState}
            (now : other ∈ world.states.set batch { state with phase := .settled }) :
            other = { state with phase := .settled } ∨ other ∈ world.states :=
          (List.mem_or_eq_of_mem_set now).symm
        constructor
        · intro other now there unsettled
          by_cases same : batch = other
          · subst same
            simp only [setState, List.getElem?_set_self inside, Option.some.injEq] at there
            rw [← there] at unsettled
            exact absurd rfl unsettled
          · simp only [setState, List.getElem?_set_ne same] at there
            have also := holds.current other now there unsettled
            exact absurd (Option.some.inj (active.symm.trans also)) same
        · exact fun other now => by cases now
        · intro other now accepts
          rcases member now with rfl | early
          · have opened := holds.accepting state listed accepts
            rw [late] at opened
            cases opened
          · exact holds.accepting other early accepts
        · intro other now work trailing
          rcases member now with rfl | early
          · have opened := (holds.queue state listed work trailing).1
            rw [late] at opened
            cases opened
          · exact holds.queue other early work trailing
        · intro number call other joined called status
          obtain ⟨now, there, waiting⟩ := holds.waits number call other joined called status
          by_cases same : batch = other
          · subst same
            rw [found] at there
            cases there
            refine ⟨_, List.getElem?_set_self inside, ?_⟩
            intro among
            rcases waiting among with queued | served
            · exact absurd queued (holds.unqueued found late call.work)
            · exact Or.inr served
          · exact ⟨now, (List.getElem?_set_ne same).trans there, waiting⟩
        · exact holds.returned
      · exact holds

/-! ### Calls -/

/-- The calls are those before, but for one that has this work now. -/
structure Calls (world : SyncWorld) (calls : List SyncCall) (number : Nat) (call : SyncCall) :
    Prop where
  here : calls[number]? = some call
  others : ∀ other one, calls[other]? = some one → other ≠ number →
    world.calls[other]? = some one
  kept : ∀ (other : Nat) (one : SyncCall), world.calls[other]? = some one →
    ∃ now : SyncCall, calls[other]? = some now ∧ now.work = one.work

theorem Calls.grows {calls : List SyncCall} {number : Nat} {call : SyncCall}
    (changed : world.Calls calls number call) (active : Option Nat)
    (states : List ApprovalPresentationSyncState) :
    world.Grows { world with active := active, states := states, calls := calls } := by
  refine ⟨?_, fun pass listed => listed⟩
  rintro work ⟨one, listed, rfl⟩
  obtain ⟨other, there⟩ := List.getElem?_of_mem listed
  obtain ⟨now, found, same⟩ := changed.kept other one there
  exact ⟨now, List.mem_of_getElem? found, same⟩

theorem Coalesced.callChanges (holds : world.Coalesced notifies) {calls : List SyncCall}
    {number : Nat} {call : SyncCall} (changed : world.Calls calls number call)
    (waits : ∀ batch joined, call.status = .waiting batch joined →
      ∃ state, world.states[batch]? = some state ∧
        (joined = true → Queued { world with calls := calls } state call.work ∨
          Served { world with calls := calls } number call.work))
    (returned : call.status = .returned →
      (call.work.approval.status = .pending ∨ notifies = false) ∨
        Served { world with calls := calls } number call.work) :
    Coalesced notifies { world with calls := calls } := by
  have grows := changed.grows world.active world.states
  constructor
  · exact holds.current
  · exact holds.live
  · exact holds.accepting
  · intro state listed work trailing
    obtain ⟨opened, works, composed⟩ := holds.queue state listed work trailing
    exact ⟨opened, works, composed.later grows⟩
  · intro other one batch joined called status
    by_cases same : other = number
    · subst same
      cases changed.here.symm.trans called
      exact waits batch joined status
    · obtain ⟨state, there, waiting⟩ :=
        holds.waits other one batch joined (changed.others other one called same) status
      refine ⟨state, there, ?_⟩
      intro among
      exact (waiting among).imp (Queued.later · grows) (Served.later · grows)
  · intro other one called status
    by_cases same : other = number
    · subst same
      cases changed.here.symm.trans called
      exact returned status
    · exact (holds.returned other one (changed.others other one called same) status).imp_right
        (Served.later · grows)

theorem calls_append (world : SyncWorld) (call : SyncCall) :
    world.Calls (world.calls ++ [call]) world.calls.length call := by
  constructor
  · rw [List.getElem?_append_right (Nat.le_refl _), Nat.sub_self]
    rfl
  · intro other one found different
    have inside := (List.getElem?_eq_some_iff.mp found).1
    rw [List.length_append, List.length_singleton] at inside
    rw [← found, List.getElem?_append_left (by omega)]
  · intro other one found
    have inside := (List.getElem?_eq_some_iff.mp found).1
    exact ⟨one, by rw [List.getElem?_append_left inside, found], rfl⟩

theorem calls_set {number : Nat} {call : SyncCall} (called : world.calls[number]? = some call)
    (status : CallStatus) :
    world.Calls (world.calls.set number { call with status := status }) number
      { call with status := status } := by
  have inside := (List.getElem?_eq_some_iff.mp called).1
  constructor
  · exact List.getElem?_set_self inside
  · intro other one found different
    rw [List.getElem?_set_ne different.symm] at found
    exact found
  · intro other one found
    by_cases same : number = other
    · subst same
      rw [called] at found
      cases found
      exact ⟨_, List.getElem?_set_self inside, rfl⟩
    · exact ⟨one, (List.getElem?_set_ne same).trans found, rfl⟩

theorem Coalesced.join (holds : world.Coalesced notifies) {calls : List SyncCall} {number : Nat}
    {call : SyncCall} (changed : world.Calls calls number call) (batch : Nat)
    {states : List ApprovalPresentationSyncState} (after : ApprovalPresentationSyncState)
    (here : states[batch]? = some after) (opened : after.phase.early = true)
    (elsewhere : ∀ other, other ≠ batch → states[other]? = world.states[other]?)
    (alone : ∀ other state, world.states[other]? = some state → state.phase ≠ .settled →
      other = batch)
    (joins : call.status = .waiting batch true)
    (queue : ∀ work, after.trailing = some work →
      ∃ works, Composed { world with calls := calls } work works)
    (waits : ∀ before, world.states[batch]? = some before → ∀ asked, world.Queued before asked →
      Queued { world with calls := calls } after asked)
    (queued : Queued { world with calls := calls } after call.work) :
    Coalesced notifies
      { world with active := some batch, states := states, calls := calls } := by
  have grows := changed.grows (some batch) states
  have unsettled : after.phase ≠ .settled := by
    intro settled
    rw [settled] at opened
    cases opened
  have member {state : ApprovalPresentationSyncState} (listed : state ∈ states) :
      state = after ∨ state ∈ world.states := by
    obtain ⟨other, there⟩ := List.getElem?_of_mem listed
    by_cases same : other = batch
    · subst same
      exact Or.inl (Option.some.inj (there.symm.trans here))
    · rw [elsewhere other same] at there
      exact Or.inr (List.mem_of_getElem? there)
  constructor
  · intro other state there open_
    by_cases same : other = batch
    · rw [same]
    · rw [elsewhere other same] at there
      exact absurd (alone other state there open_) same
  · intro other now
    cases now
    exact ⟨after, here, unsettled⟩
  · intro state listed accepts
    rcases member listed with rfl | early
    · exact opened
    · exact holds.accepting state early accepts
  · intro state listed work trailing
    rcases member listed with rfl | early
    · exact ⟨opened, queue work trailing⟩
    · obtain ⟨open_, works, composed⟩ := holds.queue state early work trailing
      exact ⟨open_, works, composed.later grows⟩
  · intro other one waited joined called status
    by_cases same : other = number
    · subst same
      cases changed.here.symm.trans called
      cases joins.symm.trans status
      exact ⟨after, here, fun _ => Or.inl queued⟩
    · obtain ⟨state, there, waiting⟩ :=
        holds.waits other one waited joined (changed.others other one called same) status
      by_cases target : waited = batch
      · subst target
        refine ⟨after, here, ?_⟩
        intro among
        exact (waiting among).imp (waits state there one.work) (Served.later · grows)
      · refine ⟨state, (elsewhere waited target).trans there, ?_⟩
        intro among
        exact (waiting among).imp (Queued.later · grows) (Served.later · grows)
  · intro other one called status
    by_cases same : other = number
    · subst same
      cases changed.here.symm.trans called
      cases joins.symm.trans status
    · exact (holds.returned other one (changed.others other one called same) status).imp_right
        (Served.later · grows)

theorem Coalesced.startBatch (holds : world.Coalesced notifies) (idle : world.active = none)
    (work : ApprovalPresentationSyncWork) {calls : List SyncCall} {number : Nat}
    (changed : world.Calls calls number { work := work, status := (world.startBatch work).2 }) :
    Coalesced notifies { (world.startBatch work).1 with calls := calls } := by
  have made : Made { world with calls := calls } work :=
    ⟨_, List.mem_of_getElem? changed.here, rfl⟩
  refine holds.join changed world.states.length
    { acceptingTrailing := true, trailing := none, phase := .scheduled work }
    ?_ rfl ?_ ?_ rfl (fun _ queued => by cases queued) ?_ ?_
  · dsimp only [SyncWorld.startBatch]
    rw [List.getElem?_append_right (Nat.le_refl _), Nat.sub_self]
    rfl
  · intro other different
    dsimp only [SyncWorld.startBatch]
    rw [List.getElem?_append]
    split
    · rfl
    · rename_i beyond
      rw [List.getElem?_eq_none (by simp; omega), List.getElem?_eq_none (by omega)]
  · intro other state there unsettled
    exact absurd (idle.symm.trans (holds.current other state there unsettled)) (by simp)
  · intro before there
    have inside := (List.getElem?_eq_some_iff.mp there).1
    exact absurd inside (Nat.lt_irrefl _)
  · exact Or.inl ⟨work, rfl, carried_single made⟩

/-- A call that enters starts a batch, is merged into the queue of the active one, or
comes too late for it. -/
theorem Coalesced.enter (holds : world.Coalesced notifies)
    (work : ApprovalPresentationSyncWork) {calls : List SyncCall} {number : Nat}
    (changed : world.Calls calls number { work := work, status := (world.enter work).2 }) :
    Coalesced notifies { (world.enter work).1 with calls := calls } := by
  unfold SyncWorld.enter at changed ⊢
  cases active : world.active with
  | none =>
      rw [active] at changed
      exact holds.startBatch active work changed
  | some batch =>
      obtain ⟨state, there, unsettled⟩ := holds.live batch active
      rw [active] at changed
      dsimp only at changed ⊢
      rw [there] at changed ⊢
      dsimp only at changed ⊢
      by_cases closed : (!state.acceptingTrailing) = true
      · rw [if_pos closed] at changed ⊢
        refine holds.callChanges changed ?_ (fun status => by cases status)
        intro waited joined status
        cases status
        exact ⟨state, there, fun among => by cases among⟩
      · have accepts : state.acceptingTrailing = true := by simpa using closed
        rw [if_neg closed] at changed ⊢
        have grows := changed.grows world.active world.states
        have made : Made { world with calls := calls } work :=
          ⟨_, List.mem_of_getElem? changed.here, rfl⟩
        have listed := List.mem_of_getElem? there
        have inside := (List.getElem?_eq_some_iff.mp there).1
        have composed : ∀ trailing, state.trailing = some trailing →
            ∃ works, Composed { world with calls := calls } trailing works := by
          intro trailing queued
          obtain ⟨-, works, composed⟩ := holds.queue state listed trailing queued
          exact ⟨works, composed.later grows⟩
        have carried := composed_merge composed made
        refine holds.join changed batch
          { state with
            trailing := some (mergeApprovalPresentationSyncWork state.trailing work) }
          (List.getElem?_set_self inside) (holds.accepting state listed accepts)
          (fun other different => List.getElem?_set_ne different.symm) ?_ rfl ?_ ?_
          (Or.inr ⟨_, rfl, carried⟩)
        · intro other one found unsettled
          exact Option.some.inj
            ((holds.current other one found unsettled).symm.trans active)
        · intro merged queued
          cases queued
          obtain ⟨works, composed, -⟩ := carried
          exact ⟨works, composed⟩
        · intro before found asked queued
          cases there.symm.trans found
          rcases queued with ⟨first, scheduled, inFirst⟩ | ⟨trailing, same, inTrailing⟩
          · exact Or.inl ⟨first, scheduled, inFirst.later grows⟩
          · refine Or.inr ⟨_, rfl, ?_⟩
            rw [same]
            exact (inTrailing.later grows).merge made

theorem Coalesced.sync (holds : world.Coalesced notifies) (approval : ApprovalRecord)
    (toolCall : ToolCallRecord) (resolution : Option ApprovalResolutionContext)
    (deliveriesOverride : Option (List ApprovalDeliveryRecord)) :
    (world.syncApprovalPresentationBestEffort notifies approval toolCall resolution
      deliveriesOverride).Coalesced notifies := by
  unfold SyncWorld.syncApprovalPresentationBestEffort
  dsimp only
  split
  · rename_i skipped
    refine holds.callChanges (calls_append world _) ?_ (fun _ => Or.inl skipped)
    exact fun batch joined status => by cases status
  · exact holds.enter _ (calls_append world _)

theorem Coalesced.resume (holds : world.Coalesced notifies) (number : Nat) :
    (world.resume number).Coalesced notifies := by
  unfold SyncWorld.resume
  split
  · rename_i call called
    split
    · rename_i batch joined status
      split
      · rename_i settled
        obtain ⟨state, there, phase⟩ := Option.map_eq_some_iff.mp settled
        obtain ⟨now, also, waiting⟩ := holds.waits number call batch joined called status
        cases there.symm.trans also
        split
        · rename_i among
          refine holds.callChanges (calls_set called .returned) ?_ ?_
          · exact fun batch joined status => by cases status
          · intro _
            refine Or.inr ?_
            rcases waiting among with queued | served
            · exact absurd queued (holds.unqueued there (by rw [phase]; rfl) call.work)
            · exact served.later ((calls_set called .returned).grows world.active world.states)
        · exact holds.enter call.work (calls_set called _)
      · exact holds
    · exact holds
  · exact holds

theorem Coalesced.step (holds : world.Coalesced notifies) (event : SyncEvent) :
    (world.step notifies event).Coalesced notifies := by
  cases event with
  | called approval toolCall resolution deliveriesOverride =>
      exact holds.sync approval toolCall resolution deliveriesOverride
  | begun batch => exact holds.begin batch
  | passEnded batch outcome => exact holds.endPass batch outcome
  | settled batch => exact holds.settle batch
  | resumed number => exact holds.resume number

theorem coalesced_run (notifies : Bool) (events : List SyncEvent) :
    (run notifies events).Coalesced notifies := by
  unfold run
  have start := coalesced_initial notifies
  generalize SyncWorld.initial = first at start
  induction events generalizing first with
  | nil => exact start
  | cons event rest ih => exact ih (first.step notifies event) (start.step event)

/-! ### What holds in every interleaving -/

/-- Nothing goes on: no drain, pass or waiting call can make a step of its own. -/
def AtRest (notifies : Bool) (world : SyncWorld) : Prop :=
  ∀ event : SyncEvent, event.internal = true → world.step notifies event = world

theorem moved_ne {batch : Nat} {before after : ApprovalPresentationSyncState}
    (found : world.states[batch]? = some before) (moves : after.phase ≠ before.phase)
    (same : world.states.set batch after = world.states) : False := by
  have inside := (List.getElem?_eq_some_iff.mp found).1
  have now := List.getElem?_set_self (a := after) inside
  rw [same, found] at now
  cases now
  exact moves rfl

theorem settled_at_rest (rest : world.AtRest notifies) {batch : Nat}
    {state : ApprovalPresentationSyncState} (found : world.states[batch]? = some state) :
    state.phase = .settled := by
  cases phase : state.phase with
  | scheduled work =>
      have same := rest (.begun batch) rfl
      simp only [SyncWorld.step, SyncWorld.begin, found, phase] at same
      have passes := congrArg (fun later => later.passes.length) same
      simp [setState, startPass] at passes
  | firstPass =>
      have same := rest (.passEnded batch (.ok ())) rfl
      simp only [SyncWorld.step, SyncWorld.endPass, found, phase] at same
      cases trailing : state.trailing with
      | some work =>
          rw [trailing] at same
          exact (moved_ne found (by rw [phase]; simp) (congrArg SyncWorld.states same)).elim
      | none =>
          rw [trailing] at same
          exact (moved_ne found (by rw [phase]; simp) (congrArg SyncWorld.states same)).elim
  | trailingPass =>
      have same := rest (.passEnded batch (.ok ())) rfl
      simp only [SyncWorld.step, SyncWorld.endPass, found, phase] at same
      exact (moved_ne found (by rw [phase]; simp) (congrArg SyncWorld.states same)).elim
  | drained =>
      have same := rest (.settled batch) rfl
      simp only [SyncWorld.step, SyncWorld.settle, found, phase] at same
      exact (moved_ne found (by rw [phase]; simp) (congrArg SyncWorld.states same)).elim
  | settled => rfl

/-- At rest every call is over: each waits for a batch, and a settled one lets it go on. -/
theorem Coalesced.returned_at_rest (holds : world.Coalesced notifies)
    (rest : world.AtRest notifies) {number : Nat} {call : SyncCall}
    (called : world.calls[number]? = some call) : call.status = .returned := by
  cases status : call.status with
  | returned => rfl
  | waiting batch joined =>
      exfalso
      obtain ⟨state, there, -⟩ := holds.waits number call batch joined called status
      have settled := settled_at_rest rest there
      have idle : world.active = none := by
        cases active : world.active with
        | none => rfl
        | some other =>
            obtain ⟨one, found, unsettled⟩ := holds.live other active
            exact absurd (settled_at_rest rest found) unsettled
      have inside := (List.getElem?_eq_some_iff.mp called).1
      have same := rest (.resumed number) rfl
      simp only [SyncWorld.step, SyncWorld.resume, called, status, there, Option.map_some,
        settled] at same
      have now := congrArg (fun later : SyncWorld => later.calls[number]?) same
      cases joined with
      | true =>
          simp only [if_true, List.getElem?_set_self inside, called, Option.some.injEq] at now
          have after := congrArg SyncCall.status now
          rw [status] at after
          cases after
      | false =>
          simp only [Bool.false_eq_true, if_false, SyncWorld.enter, idle, SyncWorld.startBatch,
            List.getElem?_set_self inside, called, Option.some.injEq] at now
          have after := congrArg SyncCall.status now
          rw [status] at after
          cases after

/-- The call had nothing to synchronize: its approval is pending, or no notifier
synchronizes presentations. -/
def Skipped (notifies : Bool) (call : SyncCall) : Prop :=
  call.work.approval.status = .pending ∨ notifies = false

/-- A pass that started after the call was merged from the work of calls, of this one
among them, and it presents, whatever the store lists, the last delivery that they have
under the id of each of its overrides. -/
def Included (world : SyncWorld) (number : Nat) (asked : ApprovalPresentationSyncWork) : Prop :=
  ∃ pass ∈ world.passes, number < pass.callsBefore ∧
    ∃ works, world.Composed pass.work works ∧ asked ∈ works ∧
      ∀ stored, ∀ delivery ∈ asked.overrides, ∃ last,
        latest delivery.id (works.flatMap (·.overrides)) = some last ∧
          last ∈ presentedDeliveries stored pass.work

theorem Served.included {number : Nat} {asked : ApprovalPresentationSyncWork}
    (served : world.Served number asked) : world.Included number asked := by
  obtain ⟨pass, listed, after, works, composed, among⟩ := served
  refine ⟨pass, listed, after, works, composed, among, ?_⟩
  intro stored delivery given
  exact composed.1.presents stored among given

theorem Coalesced.alone (holds : world.Coalesced notifies) {one other : Nat}
    {first second : ApprovalPresentationSyncState} (here : world.states[one]? = some first)
    (there : world.states[other]? = some second) (open_ : first.phase ≠ .settled)
    (also : second.phase ≠ .settled) : one = other :=
  Option.some.inj
    ((holds.current one first here open_).symm.trans (holds.current other second there also))

theorem unsettled_of_running {phase : DrainPhase} (running : phase.running = true) :
    phase ≠ .settled := by
  intro settled
  rw [settled] at running
  cases running

theorem unsettled_of_early {phase : DrainPhase} (early : phase.early = true) :
    phase ≠ .settled := by
  intro settled
  rw [settled] at early
  cases early

/-- At most one pass runs. -/
def OnePass (world : SyncWorld) : Prop :=
  ∀ (one other : Nat) (first second : ApprovalPresentationSyncState),
    world.states[one]? = some first → world.states[other]? = some second →
      first.phase.running = true → second.phase.running = true → one = other

/-- At most one trailing pass is queued. -/
def OneQueued (world : SyncWorld) : Prop :=
  ∀ (one other : Nat) (first second : ApprovalPresentationSyncState),
    world.states[one]? = some first → world.states[other]? = some second →
      first.trailing.isSome = true → second.trailing.isSome = true → one = other

theorem Coalesced.onePass (holds : world.Coalesced notifies) : world.OnePass := by
  intro one other first second here there runs also
  exact holds.alone here there (unsettled_of_running runs) (unsettled_of_running also)

theorem Coalesced.oneQueued (holds : world.Coalesced notifies) : world.OneQueued := by
  have queued {batch : Nat} {state : ApprovalPresentationSyncState}
      (found : world.states[batch]? = some state) (waits : state.trailing.isSome = true) :
      state.phase ≠ .settled := by
    obtain ⟨work, trailing⟩ := Option.isSome_iff_exists.mp waits
    exact unsettled_of_early (holds.queue state (List.mem_of_getElem? found) work trailing).1
  intro one other first second here there waits also
  exact holds.alone here there (queued here waits) (queued there also)

/-- In every interleaving one pass runs at a time and one trailing pass is queued; and
every call that is over, as every call is at rest, was skipped or included in a pass that
started after it. -/
theorem presentation_sync_coalesces (notifies : Bool) (events : List SyncEvent) :
    (run notifies events).OnePass ∧ (run notifies events).OneQueued ∧
    ((run notifies events).AtRest notifies → ∀ call ∈ (run notifies events).calls,
      call.status = .returned) ∧
    ∀ (number : Nat) (call : SyncCall), (run notifies events).calls[number]? = some call →
      call.status = .returned →
      Skipped notifies call ∨ (run notifies events).Included number call.work := by
  have holds := coalesced_run notifies events
  refine ⟨holds.onePass, holds.oneQueued, ?_, ?_⟩
  · intro rest call listed
    obtain ⟨number, called⟩ := List.getElem?_of_mem listed
    exact holds.returned_at_rest rest called
  · intro number call called status
    exact (holds.returned number call called status).imp_right Served.included

private def decidedApproval (status : ApprovalStatus) : ApprovalRecord :=
  { id := "approval", workspaceId := none, toolCallId := "call", status := status
    requestedBy := "agent", requestedByAuth := none, authorization := none
    authorizationConsumedAt := none, authorizationConsumedReason := none, approvedBy := none
    cancelledAt := none, cancelledBy := none, cancellationReason := none, expiredAt := none
    finalizedAt := none, rejectedBy := none, note := none, rejectionReason := none
    originalInput := [], originalEnvelopeHash := none, originalInputHash := none
    editedInput := none, approvedEnvelopeHash := none, approvedInputHash := none
    reviewHash := none, approverUsers := none, approverGroups := none
    requiredApprovals := none, separationOfDuties := none, supersededAt := none
    supersededByApprovalId := none, decisions := none, createdAt := "", updatedAt := "" }

private def presentedToolCall : ToolCallRecord :=
  { id := "call", workspaceId := none, toolName := "refund", input := [], inputHash := none
    actionEnvelope := none, actionEnvelopeHash := none, canonicalActionRequestHash := none
    canonicalActionRequestVersion := none, canonicalDecisionInputHash := none
    canonicalPolicyContext := none, contentInfluence := none, influenceScopeId := none
    requestedBy := "agent", requestedByAuth := none, agentId := "agent", reason := ""
    metadata := [], status := .authorized, decision := none, authorizationDecision := none
    authorizationReason := none, decisionTrace := none, policyReason := none
    policyVersionId := none, policyVersionHash := none, resultDelivery := none
    resultSource := none, resultWithheld := none, risk := none, result := none, error := none
    createdAt := "", updatedAt := "" }

private def messageDelivery (messageId : String) : ApprovalDeliveryRecord :=
  { id := "delivery", approvalId := "approval", channelId := "telegram", destination := none
    messageId := some messageId }

private def repair (status : ApprovalStatus) (messageId : String) : SyncEvent :=
  .called (decidedApproval status) presentedToolCall none (some [messageDelivery messageId])

/-- Two calls come while the first pass runs, with two messages of one delivery. -/
private def supersededRepair : List SyncEvent :=
  [repair .approved "first", .begun 0, repair .approved "second", repair .approved "third",
    .passEnded 0 (.ok ()), .passEnded 0 (.ok ()), .settled 0, .resumed 0, .resumed 1, .resumed 2]

/-- A call that returned need not have its deliveries in a pass: a later message of the
same delivery takes the place of its own, and a call for a pending approval starts none. -/
theorem overrides_not_all_presented :
    ¬ (∀ (notifies : Bool) (events : List SyncEvent) (number : Nat) (call : SyncCall),
        (run notifies events).calls[number]? = some call → call.status = .returned →
        ¬ Skipped notifies call → ∀ delivery ∈ call.work.overrides,
          ∃ pass ∈ (run notifies events).passes, delivery ∈ pass.work.overrides) ∧
      ¬ (∀ (notifies : Bool) (events : List SyncEvent) (number : Nat) (call : SyncCall),
        (run notifies events).calls[number]? = some call → call.status = .returned →
        ∀ delivery ∈ call.work.overrides,
          ∃ pass ∈ (run notifies events).passes, delivery.id ∈ pass.work.overrides.map (·.id)) := by
  constructor
  · intro all
    obtain ⟨pass, listed, given⟩ := all true supersededRepair 1 _ rfl rfl
      (by rintro (pending | silent) <;> contradiction) (messageDelivery "second")
      List.mem_cons_self
    have passes : (run true supersededRepair).passes.map (·.work.overrides) =
        [[messageDelivery "first"], [messageDelivery "third"]] := rfl
    have among := List.mem_map_of_mem (f := fun pass : SyncPass => pass.work.overrides) listed
    rw [passes] at among
    simp only [List.mem_cons, List.not_mem_nil, or_false] at among
    rcases among with same | same <;> rw [same] at given <;> revert given <;> decide
  · intro all
    obtain ⟨pass, listed, -⟩ := all true [repair .pending "first"] 0 _ rfl rfl
      (messageDelivery "first") List.mem_cons_self
    exact List.not_mem_nil listed

end SyncWorld

end ActionProxy
