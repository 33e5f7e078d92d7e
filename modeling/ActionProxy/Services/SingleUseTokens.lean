import ActionProxy.Services.ExecutionAuthority

/-!
Whole histories of a local execution authority: whatever is issued, inspected, consumed and
executed, in any order and at any times, a token leads to one invocation at most, in time
and under the binding it was issued for.
-/

namespace ActionProxy

open JsonText

/-! ### Operations -/

inductive AuthorityOperation (nearest : JsonNumber → Option JsonNumber) (Executor : Type) where
  | issue (input : IssueInput nearest) (reading : Option Int) (drawnId : String)
  | inspect (authorization : Nat)
  | consume (authorization : Nat) (expected : ExecutionAuthorizationBindingV1)
      (reading : Option Int)
  | register (name : String) (executor : Executor)
  | execute (invocation : AuthorizedExecutionInvocationV1) (reading : Option Int)

inductive AuthorityAnswer (Executor : Type) where
  | issued (authorization : Nat)
  | projection (kept : KeptProjection)
  | registered
  | invoked (executor : Executor)

/-- An authority with what was asked of it so far, and what it answered. -/
structure AuthorityHistory (nearest : JsonNumber → Option JsonNumber) (Executor : Type) where
  events : List (AuthorityOperation nearest Executor × Except GateError (AuthorityAnswer Executor))
  authority : LocalAuthority Executor

variable {nearest : JsonNumber → Option JsonNumber} {Executor : Type} [Runtime]

def LocalAuthority.step (options : AuthorityOptions) (authority : LocalAuthority Executor) :
    AuthorityOperation nearest Executor →
      Except GateError (AuthorityAnswer Executor) × LocalAuthority Executor
  | .issue input reading drawnId =>
      let done := authority.issue options input reading drawnId
      (done.1.map .issued, done.2)
  | .inspect authorization => ((authority.inspect authorization).map .projection, authority)
  | .consume authorization expected reading =>
      let done := authority.consume authorization expected reading
      (done.1.map .projection, done.2)
  | .register name executor => (.ok .registered, authority.register name executor)
  | .execute invocation reading =>
      let done := authority.execute invocation reading
      (done.1.map .invoked, done.2)

namespace AuthorityHistory

def next (options : AuthorityOptions) (history : AuthorityHistory nearest Executor)
    (operation : AuthorityOperation nearest Executor) : AuthorityHistory nearest Executor :=
  let done := history.authority.step options operation
  { events := history.events ++ [(operation, done.1)], authority := done.2 }

/-- The history of a new authority and these operations. -/
def run (options : AuthorityOptions) (operations : List (AuthorityOperation nearest Executor)) :
    AuthorityHistory nearest Executor :=
  operations.foldl (next options) { events := [], authority := .initial }

end AuthorityHistory

/-! ### What one operation does -/

namespace LocalAuthority

/-- The authority with the record of a token marked. -/
def mark (authority : LocalAuthority Executor) (authorization : Nat) (record : AuthorityRecord) :
    LocalAuthority Executor :=
  { authority with issued := authority.issued.set authorization { record with consumed := true } }

/-- Everything an operation can do to an authority. -/
inductive Step (options : AuthorityOptions) (before : LocalAuthority Executor) :
    AuthorityOperation nearest Executor → Except GateError (AuthorityAnswer Executor) →
      LocalAuthority Executor → Prop where
  | stays (operation : AuthorityOperation nearest Executor)
      (answer : Except GateError (AuthorityAnswer Executor))
      (other : ∀ authorization, answer ≠ .ok (.issued authorization)) :
      Step options before operation answer before
  | issues (input : IssueInput nearest) (now ttlMs : Int) (drawnId : String)
      (projection : KeptProjection) (lives : ttlOf options input = some ttlMs)
      (projected : projectionOf input ttlMs now drawnId = .ok projection) :
      Step options before (.issue input (some now) drawnId) (.ok (.issued before.issued.length))
        { before with
          issued := before.issued ++ [{ consumed := false, projection := projection }] }
  | consumes (operation : AuthorityOperation nearest Executor)
      (answer : Except GateError (AuthorityAnswer Executor))
      (other : ∀ authorization, answer ≠ .ok (.issued authorization)) (authorization : Nat)
      (record : AuthorityRecord) (found : before.issued[authorization]? = some record)
      (fresh : record.consumed = false) :
      Step options before operation answer (before.mark authorization record)
  | registers (name : String) (executor : Executor) :
      Step options before (.register name executor) (.ok .registered)
        (before.register name executor)
  | invokes (invocation : AuthorizedExecutionInvocationV1) (executor : Executor)
      (reading : Option Int) (record : AuthorityRecord)
      (found : before.issued[invocation.authorization]? = some record)
      (accepted : refusal record invocation.expectedBinding reading = none) :
      Step options before (.execute invocation reading) (.ok (.invoked executor))
        { before.mark invocation.authorization record with
          invocations := before.invocations ++
            [{ invocation := invocation, executor := executor, reading := reading }] }

theorem refusal_eq_none {record : AuthorityRecord} {expected : ExecutionAuthorizationBindingV1}
    {reading : Option Int} :
    refusal record expected reading = none ↔ record.consumed = false ∧
      expiredAt reading record.projection.expiresAt = false ∧
      sameCanonicalValue record.projection.binding expected.json = true := by
  unfold refusal
  split
  · rename_i consumed
    simp [consumed]
  · rename_i fresh
    split
    · rename_i expired
      simp [expired]
    · rename_i inTime
      split
      · rename_i other
        simp at other
        simp [other]
      · rename_i same
        simp at fresh inTime same
        simp [fresh, inTime, same]

theorem Step.refused (options : AuthorityOptions) (before : LocalAuthority Executor)
    (operation : AuthorityOperation nearest Executor) (error : GateError) :
    Step options before operation (.error error) before :=
  .stays operation (.error error) (fun _ same => by cases same)

omit [Runtime] in
theorem issue_cases (options : AuthorityOptions) (authority : LocalAuthority Executor)
    (input : IssueInput nearest) (reading : Option Int) (drawnId : String) :
    (∃ error, authority.issue options input reading drawnId = (.error error, authority)) ∨
      ∃ now ttlMs projection, reading = some now ∧ ttlOf options input = some ttlMs ∧
        projectionOf input ttlMs now drawnId = .ok projection ∧
        authority.issue options input reading drawnId =
          (.ok authority.issued.length,
            { authority with
              issued := authority.issued ++
                [{ consumed := false, projection := projection }] }) := by
  unfold issue
  cases lives : ttlOf options input with
  | none => exact Or.inl ⟨_, rfl⟩
  | some ttlMs =>
      cases reading with
      | none => exact Or.inl ⟨_, rfl⟩
      | some now =>
          cases projected : projectionOf input ttlMs now drawnId with
          | error error => exact Or.inl ⟨error, by simp only [projected]⟩
          | ok projection =>
              exact Or.inr ⟨now, ttlMs, projection, rfl, rfl, projected, by simp only [projected]⟩

theorem consume_cases (authority : LocalAuthority Executor) (authorization : Nat)
    (expected : ExecutionAuthorizationBindingV1) (reading : Option Int) :
    (∃ error, authority.consume authorization expected reading = (.error error, authority)) ∨
      ∃ record, authority.issued[authorization]? = some record ∧
        refusal record expected reading = none ∧
        authority.consume authorization expected reading =
          (.ok record.projection, authority.mark authorization record) := by
  unfold consume
  cases found : authority.issued[authorization]? with
  | none => exact Or.inl ⟨_, rfl⟩
  | some record =>
      dsimp only
      cases refused : refusal record expected reading with
      | some error => exact Or.inl ⟨_, rfl⟩
      | none => exact Or.inr ⟨record, rfl, refused, rfl⟩

/-- An execution is refused, or consumes its token; then it invokes the executor, if the
tool has one. -/
theorem execute_cases (authority : LocalAuthority Executor)
    (invocation : AuthorizedExecutionInvocationV1) (reading : Option Int) :
    (∃ error, authority.execute invocation reading = (.error error, authority)) ∨
      ∃ record, authority.issued[invocation.authorization]? = some record ∧
        refusal record invocation.expectedBinding reading = none ∧
        ((∃ error, authority.execute invocation reading =
            (.error error, authority.mark invocation.authorization record)) ∨
          ∃ executor, authority.execute invocation reading =
            (.ok executor,
              { authority.mark invocation.authorization record with
                invocations := authority.invocations ++
                  [{ invocation := invocation, executor := executor, reading := reading }] })) := by
  unfold execute
  cases authority.inspect invocation.authorization with
  | error error => exact Or.inl ⟨error, rfl⟩
  | ok projection =>
      dsimp only
      split
      · exact Or.inl ⟨_, rfl⟩
      · rcases authority.consume_cases invocation.authorization invocation.expectedBinding
            reading with ⟨error, same⟩ | ⟨record, found, accepted, done⟩
        · rw [same]
          exact Or.inl ⟨error, rfl⟩
        · rw [done]
          refine Or.inr ⟨record, found, accepted, ?_⟩
          dsimp only
          cases (authority.mark invocation.authorization record).tools.get? invocation.toolName with
          | none => exact Or.inl ⟨_, rfl⟩
          | some executor => exact Or.inr ⟨executor, rfl⟩

theorem step_cases (options : AuthorityOptions) (authority : LocalAuthority Executor)
    (operation : AuthorityOperation nearest Executor) :
    Step options authority operation (authority.step options operation).1
      (authority.step options operation).2 := by
  cases operation with
  | issue input reading drawnId =>
      rw [step]
      rcases authority.issue_cases options input reading drawnId with
        ⟨error, same⟩ | ⟨now, ttlMs, projection, rfl, lives, projected, done⟩
      · rw [same]
        exact .refused options authority _ error
      · rw [done]
        exact .issues input now ttlMs drawnId projection lives projected
  | inspect authorization =>
      refine .stays _ _ ?_
      intro other
      rw [step]
      cases authority.inspect authorization <;> simp [Except.map]
  | consume authorization expected reading =>
      rw [step]
      rcases authority.consume_cases authorization expected reading with
        ⟨error, same⟩ | ⟨record, found, accepted, done⟩
      · rw [same]
        exact .refused options authority _ error
      · rw [done]
        exact .consumes _ _ (fun _ same => by cases same) authorization record found
          (refusal_eq_none.mp accepted).1
  | register name executor => exact .registers name executor
  | execute invocation reading =>
      rw [step]
      rcases authority.execute_cases invocation reading with
        ⟨error, same⟩ | ⟨record, found, accepted, ⟨error, done⟩ | ⟨executor, done⟩⟩
      · rw [same]
        exact .refused options authority _ error
      · rw [done]
        exact .consumes _ _ (fun _ same => by cases same) invocation.authorization record found
          (refusal_eq_none.mp accepted).1
      · rw [done]
        exact .invokes invocation executor reading record found accepted

/-! ### Projections -/

omit [Runtime] in
/-- A projection keeps a copy of the binding it is issued for and the text of its expiry. -/
theorem projectionOf_ok {input : IssueInput nearest} {ttlMs now : Int} {drawnId : String}
    {projection : KeptProjection}
    (projected : projectionOf input ttlMs now drawnId = .ok projection) :
    canonicalClone nearest input.binding.binding.json = some projection.binding ∧
      IsoTime.toISOString (now + ttlMs) = some projection.expiresAt := by
  unfold projectionOf at projected
  cases blank : (TextScan.content drawnId).isNone with
  | true =>
      rw [blank] at projected
      cases projected
  | false =>
      rw [blank] at projected
      cases binding : canonicalClone nearest input.binding.binding.json with
      | none =>
          rw [binding] at projected
          cases projected
      | some copy =>
          rw [binding] at projected
          cases capabilities : canonicalClone nearest
              ((input.capabilities.map HeldJson.json).getD conservativeExecutorCapabilities) with
          | none =>
              rw [capabilities] at projected
              cases projected
          | some declared =>
              rw [capabilities] at projected
              cases expires : IsoTime.toISOString (now + ttlMs) with
              | none =>
                  rw [expires] at projected
                  cases projected
              | some expiresAt =>
                  rw [expires] at projected
                  cases issued : IsoTime.toISOString now with
                  | none =>
                      rw [issued] at projected
                      cases projected
                  | some issuedAt =>
                      rw [issued] at projected
                      cases projected
                      exact ⟨rfl, rfl⟩

omit [Runtime] in
theorem projection_binding {input : IssueInput nearest} {ttlMs now : Int} {drawnId : String}
    {projection : KeptProjection}
    (projected : projectionOf input ttlMs now drawnId = .ok projection) :
    Same input.binding.binding.json projection.binding := by
  obtain ⟨copy, parsed, same⟩ := canonicalClone_same nearest input.binding.binding.distinct
    (ExecutionAuthorizationBindingV1.exact input.binding.held)
  have kept := parsed.symm.trans (projectionOf_ok projected).1
  cases kept
  exact same

theorem expiredAt_projection {input : IssueInput nearest} {ttlMs now : Int} {drawnId : String}
    {projection : KeptProjection}
    (projected : projectionOf input ttlMs now drawnId = .ok projection) (time : Int) :
    expiredAt (some time) projection.expiresAt = decide (now + ttlMs ≤ time) := by
  have read : dateParse projection.expiresAt = some (now + ttlMs) :=
    IsoTime.parseDate_toISOString (projectionOf_ok projected).2
  unfold expiredAt
  rw [read]

omit [Runtime] in
/-- Only the binding a token was issued for is accepted for it, and it always is. -/
theorem sameCanonicalValue_projection {input : IssueInput nearest} {ttlMs now : Int}
    {drawnId : String} {projection : KeptProjection}
    (projected : projectionOf input ttlMs now drawnId = .ok projection)
    (expected : ExecutionAuthorizationBindingV1) :
    sameCanonicalValue projection.binding expected.json = true ↔
      expected = input.binding.binding := by
  have copied := projection_binding projected
  have texts := canonicalText_of_same copied input.binding.binding.distinct
  constructor
  · intro same
    unfold sameCanonicalValue at same
    rw [texts] at same
    exact (ExecutionAuthorizationBindingV1.eq_of_same (same_of_sameCanonicalValue same)).symm
  · intro equal
    unfold sameCanonicalValue
    rw [texts, equal]
    exact beq_self_eq_true _

/-- A token is refused unless it is fresh, in time and presented with its binding. -/
theorem refusal_projection {input : IssueInput nearest} {ttlMs now : Int} {drawnId : String}
    {record : AuthorityRecord}
    (projected : projectionOf input ttlMs now drawnId = .ok record.projection)
    (expected : ExecutionAuthorizationBindingV1) (time : Int) :
    refusal record expected (some time) = none ↔
      record.consumed = false ∧ time < now + ttlMs ∧ expected = input.binding.binding := by
  rw [refusal_eq_none, expiredAt_projection projected, sameCanonicalValue_projection projected,
    decide_eq_false_iff_not, not_le]

end LocalAuthority

/-! ### Every history -/

namespace AuthorityHistory

open LocalAuthority

/-- The token was issued by this call of `issue`. -/
def Issued (history : AuthorityHistory nearest Executor) (input : IssueInput nearest)
    (reading : Option Int) (drawnId : String) (authorization : Nat) : Prop :=
  (AuthorityOperation.issue input reading drawnId, .ok (.issued authorization)) ∈ history.events

/-- The record keeps what the token was issued for. -/
def Keeps (options : AuthorityOptions) (input : IssueInput nearest) (reading : Option Int)
    (drawnId : String) (record : AuthorityRecord) : Prop :=
  ∃ now ttlMs, reading = some now ∧ ttlOf options input = some ttlMs ∧
    projectionOf input ttlMs now drawnId = .ok record.projection

/-- Tokens and records belong together; whatever was invoked consumed its token, which
accepted it. -/
structure Sound (options : AuthorityOptions) (history : AuthorityHistory nearest Executor) :
    Prop where
  kept : ∀ input reading drawnId authorization,
    history.Issued input reading drawnId authorization →
    ∃ record, history.authority.issued[authorization]? = some record ∧
      Keeps options input reading drawnId record
  known : ∀ (authorization : Nat) (record : AuthorityRecord),
    history.authority.issued[authorization]? = some record →
    ∃ input reading drawnId, history.Issued input reading drawnId authorization
  invoked : ∀ one ∈ history.authority.invocations, ∃ record,
    history.authority.issued[one.invocation.authorization]? = some record ∧
      record.consumed = true ∧
      refusal { record with consumed := false } one.invocation.expectedBinding one.reading = none
  once : (history.authority.invocations.map (·.invocation.authorization)).Nodup

/-- Records stay; a consumed one stays consumed. -/
def Grown (before after : List AuthorityRecord) : Prop :=
  ∀ (authorization : Nat) (record : AuthorityRecord), before[authorization]? = some record →
    ∃ later : AuthorityRecord, after[authorization]? = some later ∧
      later.projection = record.projection ∧ (record.consumed = true → later.consumed = true)

omit [Runtime] in
theorem grown_append (before : List AuthorityRecord) (record : AuthorityRecord) :
    Grown before (before ++ [record]) := by
  intro authorization kept found
  have inside := (List.getElem?_eq_some_iff.mp found).1
  exact ⟨kept, (List.getElem?_append_left inside).trans found, rfl, id⟩

omit [Runtime] in
theorem grown_mark {before : List AuthorityRecord} {authorization : Nat}
    {record : AuthorityRecord} (found : before[authorization]? = some record) :
    Grown before (before.set authorization { record with consumed := true }) := by
  intro other kept there
  have inside := (List.getElem?_eq_some_iff.mp found).1
  by_cases same : authorization = other
  · subst same
    cases found.symm.trans there
    exact ⟨_, List.getElem?_set_self inside, rfl, fun _ => rfl⟩
  · exact ⟨kept, (List.getElem?_set_ne same).trans there, rfl, id⟩

variable {options : AuthorityOptions} {history : AuthorityHistory nearest Executor}

/-- What holds of the issued tokens holds after an operation that only marks records. -/
theorem Sound.later (sound : history.Sound options)
    (operation : AuthorityOperation nearest Executor)
    (answer : Except GateError (AuthorityAnswer Executor))
    (other : ∀ authorization, answer ≠ .ok (.issued authorization))
    {authority : LocalAuthority Executor} (same : authority.issued.length =
      history.authority.issued.length)
    (grown : Grown history.authority.issued authority.issued)
    (invoked : ∀ one ∈ authority.invocations, one ∈ history.authority.invocations ∨
      ∃ record, authority.issued[one.invocation.authorization]? = some record ∧
        record.consumed = true ∧
        refusal { record with consumed := false } one.invocation.expectedBinding one.reading = none)
    (once : (authority.invocations.map (·.invocation.authorization)).Nodup) :
    Sound options
      { events := history.events ++ [(operation, answer)], authority := authority } := by
  constructor
  · intro input reading drawnId authorization listed
    rcases List.mem_append.mp listed with early | now
    · obtain ⟨record, found, now, ttlMs, read, lives, projected⟩ :=
        sound.kept input reading drawnId authorization early
      obtain ⟨later, there, kept, -⟩ := grown authorization record found
      exact ⟨later, there, now, ttlMs, read, lives, kept ▸ projected⟩
    · have parts := Prod.mk.inj (List.mem_singleton.mp now)
      exact absurd parts.2.symm (other authorization)
  · intro authorization record found
    have inside := (List.getElem?_eq_some_iff.mp found).1
    rw [same] at inside
    obtain ⟨input, reading, drawnId, listed⟩ :=
      sound.known authorization _ (List.getElem?_eq_getElem inside)
    exact ⟨input, reading, drawnId, List.mem_append_left _ listed⟩
  · intro one listed
    rcases invoked one listed with early | now
    · obtain ⟨record, found, consumed, accepted⟩ := sound.invoked one early
      obtain ⟨later, there, kept, still⟩ := grown _ record found
      refine ⟨later, there, still consumed, ?_⟩
      rw [refusal_eq_none] at accepted ⊢
      rw [kept]
      exact accepted
    · exact now
  · exact once

theorem Sound.next (sound : history.Sound options)
    (operation : AuthorityOperation nearest Executor) :
    (history.next options operation).Sound options := by
  unfold AuthorityHistory.next
  dsimp only
  have moved := step_cases options history.authority operation
  generalize history.authority.step options operation = done at moved
  obtain ⟨answer, after⟩ := done
  dsimp only at moved ⊢
  cases moved with
  | stays _ _ other =>
      exact sound.later operation answer other rfl
        (fun _ record found => ⟨record, found, rfl, id⟩) (fun _ listed => Or.inl listed) sound.once
  | issues input now ttlMs drawnId projection lives projected =>
      have grown := grown_append history.authority.issued
        { consumed := false, projection := projection }
      constructor
      · intro given reading drawn authorization listed
        rcases List.mem_append.mp listed with early | last
        · obtain ⟨record, found, time, ttl, read, alive, kept⟩ :=
            sound.kept given reading drawn authorization early
          obtain ⟨later, there, same, -⟩ := grown authorization record found
          exact ⟨later, there, time, ttl, read, alive, same ▸ kept⟩
        · cases List.mem_singleton.mp last
          refine ⟨{ consumed := false, projection := projection }, ?_, now, ttlMs, rfl, lives,
            projected⟩
          rw [List.getElem?_append_right (Nat.le_refl _), Nat.sub_self]
          rfl
      · intro authorization record found
        by_cases inside : authorization < history.authority.issued.length
        · obtain ⟨given, reading, drawn, listed⟩ :=
            sound.known authorization _ (List.getElem?_eq_getElem inside)
          exact ⟨given, reading, drawn, List.mem_append_left _ listed⟩
        · have bound := (List.getElem?_eq_some_iff.mp found).1
          rw [List.length_append, List.length_singleton] at bound
          have last : authorization = history.authority.issued.length := by omega
          subst last
          exact ⟨input, some now, drawnId, List.mem_append_right _ List.mem_cons_self⟩
      · intro one listed
        obtain ⟨record, found, consumed, accepted⟩ := sound.invoked one listed
        have inside := (List.getElem?_eq_some_iff.mp found).1
        exact ⟨record, (List.getElem?_append_left inside).trans found, consumed, accepted⟩
      · exact sound.once
  | consumes _ _ other authorization record found fresh =>
      exact sound.later operation answer other (List.length_set ..) (grown_mark found)
        (fun _ listed => Or.inl listed) sound.once
  | registers name executor =>
      exact sound.later _ _ (fun _ same => by cases same) rfl
        (fun _ record found => ⟨record, found, rfl, id⟩) (fun _ listed => Or.inl listed) sound.once
  | invokes invocation executor reading record found accepted =>
      have inside := (List.getElem?_eq_some_iff.mp found).1
      have fresh := (refusal_eq_none.mp accepted).1
      refine sound.later _ _ (fun _ same => by cases same) (List.length_set ..)
        (grown_mark found) ?_ ?_
      · intro one listed
        rcases List.mem_append.mp listed with early | last
        · exact Or.inl early
        · rw [List.mem_singleton.mp last]
          refine Or.inr ⟨_, List.getElem?_set_self inside, rfl, ?_⟩
          rw [refusal_eq_none] at accepted ⊢
          exact ⟨rfl, accepted.2⟩
      · -- a token that was used before is consumed, and this one was fresh
        have unused : invocation.authorization ∉
            history.authority.invocations.map (·.invocation.authorization) := by
          intro used
          obtain ⟨one, listed, same⟩ := List.mem_map.mp used
          obtain ⟨earlier, there, consumed, -⟩ := sound.invoked one listed
          rw [same, found] at there
          cases there
          rw [fresh] at consumed
          cases consumed
        rw [List.map_append, List.map_singleton, List.nodup_append]
        refine ⟨sound.once, List.nodup_singleton _, ?_⟩
        intro one early other last equal
        rw [List.mem_singleton.mp last] at equal
        exact unused (equal ▸ early)

theorem sound_run (options : AuthorityOptions)
    (operations : List (AuthorityOperation nearest Executor)) :
    (run options operations).Sound options := by
  unfold run
  have start : Sound options
      ({ events := [], authority := .initial } : AuthorityHistory nearest Executor) :=
    { kept := fun _ _ _ _ listed => absurd listed List.not_mem_nil
      known := fun _ _ found => by cases found
      invoked := fun _ listed => absurd listed List.not_mem_nil
      once := List.nodup_nil }
  generalize ({ events := [], authority := .initial } : AuthorityHistory nearest Executor) = first
    at start
  induction operations generalizing first with
  | nil => exact start
  | cons operation rest ih => exact ih (first.next options operation) (start.next operation)

/-- The executor was invoked as the token allows: before its expiry, with the tool and the
input it was issued for, and under its binding, which is that of the attempt where it was
built for one. -/
structure AsIssued (binding : ExecutionAuthorizationBindingV1) (expiry : Int)
    (one : ToolInvocation Executor) : Prop where
  inTime : ∀ time, one.reading = some time → time < expiry
  toolName : one.invocation.toolName = binding.action.toolName
  inputHash : hashJson (.obj one.invocation.input) = binding.action.inputHash
  expected : one.invocation.expectedBinding = binding
  attempt : ∀ (now : Int) (approval : Option ApprovalRecord) (attempt : ExecutionAttemptRecordV1)
    (toolCall : ToolCallRecord),
    buildExecutionAuthorizationBinding now approval attempt toolCall = .ok binding →
      attempt.executorId = localExecutorId ∧
        buildExecutionAuthorizationBinding now approval attempt toolCall =
          .ok one.invocation.expectedBinding

theorem built_executorId {now : Int} {approval : Option ApprovalRecord}
    {attempt : ExecutionAttemptRecordV1} {toolCall : ToolCallRecord}
    {binding : ExecutionAuthorizationBindingV1}
    (built : buildExecutionAuthorizationBinding now approval attempt toolCall = .ok binding) :
    binding.executorId = attempt.executorId := by
  unfold buildExecutionAuthorizationBinding at built
  split at built
  · cases built
  · cases built
  · cases built
    rfl

theorem asIssued_of_accepted {input : IssueInput nearest} {ttlMs now : Int} {drawnId : String}
    {record : AuthorityRecord} {one : ToolInvocation Executor}
    (projected : projectionOf input ttlMs now drawnId = .ok record.projection)
    (accepted : refusal record one.invocation.expectedBinding one.reading = none) :
    AsIssued input.binding.binding (now + ttlMs) one := by
  have bound : one.invocation.expectedBinding = input.binding.binding :=
    (sameCanonicalValue_projection projected _).mp (refusal_eq_none.mp accepted).2.2
  constructor
  · intro time read
    rw [read] at accepted
    exact ((refusal_projection projected _ time).mp accepted).2.1
  · rw [← bound]
    rfl
  · rw [← bound]
    rfl
  · exact bound
  · intro when approval attempt toolCall built
    refine ⟨?_, bound ▸ built⟩
    rw [← built_executorId built, ← bound]
    rfl

/-- A token that is not consumed yet can be consumed with its binding until it expires. -/
def Consumable (authority : LocalAuthority Executor) (authorization : Nat)
    (binding : ExecutionAuthorizationBindingV1) (expiry : Int) : Prop :=
  ∀ time < expiry, ∃ projection,
    (authority.consume authorization binding (some time)).1 = .ok projection

/-- In every history an executor is invoked at most once for a token, a token that was
issued, and as it was issued; and what fails to consume a token changes nothing, so that it
stays consumable with the binding it was issued for. -/
theorem local_authority_single_use (options : AuthorityOptions)
    (operations : List (AuthorityOperation nearest Executor)) :
    ((run options operations).authority.invocations.map (·.invocation.authorization)).Nodup ∧
    (∀ one ∈ (run options operations).authority.invocations, ∃ input reading drawnId,
      (run options operations).Issued input reading drawnId one.invocation.authorization) ∧
    (∀ input reading drawnId authorization,
      (run options operations).Issued input reading drawnId authorization →
      ∃ now ttlMs record, reading = some now ∧ ttlOf options input = some ttlMs ∧
        (run options operations).authority.issued[authorization]? = some record ∧
        (∀ one ∈ (run options operations).authority.invocations,
          one.invocation.authorization = authorization →
          AsIssued input.binding.binding (now + ttlMs) one) ∧
        (record.consumed = false → Consumable (run options operations).authority authorization
          input.binding.binding (now + ttlMs))) ∧
    ∀ authorization expected reading error,
      ((run options operations).authority.consume authorization expected reading).1 =
        .error error →
      ((run options operations).authority.consume authorization expected reading).2 =
        (run options operations).authority := by
  have sound := sound_run options operations
  generalize run options operations = history at sound
  refine ⟨sound.once, ?_, ?_, ?_⟩
  · intro one listed
    obtain ⟨record, found, -⟩ := sound.invoked one listed
    exact sound.known _ record found
  · intro input reading drawnId authorization issued
    obtain ⟨record, found, now, ttlMs, read, lives, projected⟩ :=
      sound.kept input reading drawnId authorization issued
    refine ⟨now, ttlMs, record, read, lives, found, ?_, ?_⟩
    · intro one listed named
      obtain ⟨other, there, -, accepted⟩ := sound.invoked one listed
      rw [named, found] at there
      cases there
      let unused : AuthorityRecord := { record with consumed := false }
      have same : projectionOf input ttlMs now drawnId = .ok unused.projection := projected
      exact asIssued_of_accepted same accepted
    · intro fresh time inTime
      have accepted := (refusal_projection projected input.binding.binding time).mpr
        ⟨fresh, inTime, rfl⟩
      unfold LocalAuthority.consume
      rw [found]
      dsimp only
      rw [accepted]
      exact ⟨record.projection, rfl⟩
  · intro authorization expected reading error failed
    rcases history.authority.consume_cases authorization expected reading with
      ⟨_, same⟩ | ⟨record, -, -, done⟩
    · rw [same]
    · rw [done] at failed
      cases failed

end AuthorityHistory

/-! ### What is taken from the invocation -/

namespace LocalAuthority

omit [Runtime] in
/-- A token is issued for any binding, under the default capabilities, while its times can
be shown. -/
theorem projectionOf_default {input : IssueInput nearest} {ttlMs now : Int}
    {drawnId expiresAt issuedAt : String} (capabilities : input.capabilities = none)
    (named : (TextScan.content drawnId).isNone = false)
    (expires : IsoTime.toISOString (now + ttlMs) = some expiresAt)
    (issued : IsoTime.toISOString now = some issuedAt) :
    ∃ projection, projectionOf input ttlMs now drawnId = .ok projection ∧
      sameCanonicalValue projection.capabilities conservativeExecutorCapabilities = true := by
  obtain ⟨copy, parsed, -⟩ := canonicalClone_same nearest input.binding.binding.distinct
    (ExecutionAuthorizationBindingV1.exact input.binding.held)
  have plain : distinctKeys conservativeExecutorCapabilities = true := by decide
  obtain ⟨declared, read, same⟩ := canonicalClone_same nearest plain rfl
  refine ⟨{ authorizationId := drawnId, binding := copy, capabilities := declared
            expiresAt := expiresAt, issuedAt := issuedAt }, ?_, ?_⟩
  · unfold projectionOf
    rw [named, parsed, capabilities, Option.map_none, Option.getD_none, read, expires, issued]
    rfl
  · unfold sameCanonicalValue
    rw [canonicalText_of_same same plain]
    exact beq_self_eq_true _

theorem execute_accepted {authority : LocalAuthority Executor}
    {invocation : AuthorizedExecutionInvocationV1} {reading : Option Int}
    {record : AuthorityRecord} {executor : Executor}
    (found : authority.issued[invocation.authorization]? = some record)
    (capable : sameCanonicalValue record.projection.capabilities
      conservativeExecutorCapabilities = true)
    (accepted : refusal record invocation.expectedBinding reading = none)
    (registered : authority.tools.get? invocation.toolName = some executor) :
    (authority.execute invocation reading).2.invocations = authority.invocations ++
      [{ invocation := invocation, executor := executor, reading := reading }] := by
  have shown : authority.inspect invocation.authorization = .ok record.projection := by
    unfold inspect recordFor
    rw [found]
    rfl
  have used : authority.consume invocation.authorization invocation.expectedBinding reading =
      (.ok record.projection, authority.mark invocation.authorization record) := by
    unfold consume
    rw [found]
    dsimp only
    rw [accepted]
    rfl
  unfold execute
  rw [shown]
  dsimp only
  rw [if_neg (by simp [capable]), used]
  dsimp only
  have tools : (authority.mark invocation.authorization record).tools = authority.tools := rfl
  rw [tools, registered]
  rfl

end LocalAuthority

/-- A binding of one execution of a tool without arguments. -/
private def bindingOf (toolName inputHash : String) : ExecutionAuthorizationBindingV1 :=
  { action := { actionEnvelopeHash := "envelope", inputHash := inputHash, toolName := toolName }
    approval :=
      { approvalId := none, authorizationHash := none, authorizationNonce := none
        receiptHash := none, receiptId := none }
    contentInfluence :=
      { bindingHash := none, influenceScopeId := none, resultSourceHash := "source" }
    decision :=
      { decisionId := none, decisionInputHash := none, outcome := .allow, version := none }
    execution :=
      { attemptId := "attempt", attemptNumber := 1, grantId := none, mode := .localMock }
    executorId := localExecutorId
    policy :=
      { digest := none, evaluatorVersion := none, providerId := none, providerVersion := none
        version := none, versionHash := "policy" }
    request :=
      { canonicalActionRequestHash := none, canonicalActionRequestVersion := none
        toolCallId := "call" }
    workspaceId := "workspace" }

private def defaultOptions : AuthorityOptions := { defaultTtlMs := 60000, positive := by decide }

private def refundInput (inputHash : String) : IssueInput some :=
  { binding := { binding := bindingOf "refund" inputHash, held := rfl }
    capabilities := none
    ttlMs := none }

omit [Runtime] in
private theorem issued_refund (inputHash : String) : ∃ projection,
    LocalAuthority.projectionOf (refundInput inputHash) 60000 0 "id" = .ok projection ∧
      sameCanonicalValue projection.capabilities conservativeExecutorCapabilities = true ∧
      (LocalAuthority.initial : LocalAuthority Unit).issue defaultOptions (refundInput inputHash)
        (some 0) "id" = (.ok 0, { LocalAuthority.initial with
          issued := [{ consumed := false, projection := projection }] }) := by
  have late : (IsoTime.toISOString (0 + 60000)).isSome = true :=
    IsoTime.toISOString_isSome.mpr (by decide)
  have early : (IsoTime.toISOString 0).isSome = true := IsoTime.toISOString_isSome.mpr (by decide)
  have named : (TextScan.content "id").isNone = false := by decide +kernel
  obtain ⟨expiresAt, expires⟩ := Option.isSome_iff_exists.mp late
  obtain ⟨issuedAt, issued⟩ := Option.isSome_iff_exists.mp early
  have none : (refundInput inputHash).capabilities = none := rfl
  obtain ⟨projection, projected, capable⟩ :=
    LocalAuthority.projectionOf_default none named expires issued
  refine ⟨projection, projected, capable, ?_⟩
  have lives : LocalAuthority.ttlOf defaultOptions (refundInput inputHash) = some 60000 := rfl
  unfold LocalAuthority.issue
  rw [lives]
  dsimp only
  rw [projected]
  rfl

/-- The invocation of a refund that states another tool in its binding. -/
private def misstated (inputHash : String) : AuthorizedExecutionInvocationV1 :=
  { authorization := 0
    authorizationBinding := bindingOf "search" inputHash
    input := []
    toolName := "refund" }

open AuthorityHistory in
omit [Runtime] in
/-- The binding that an invocation states need not be the issued one: the tool, the input
and the executor it names are not read. And a consumption that fails need not leave a
token that can be consumed: it was consumed before. -/
theorem stated_binding_not_read :
    (¬ ∀ [Runtime] (options : AuthorityOptions)
        (operations : List (AuthorityOperation some Unit)) (input : IssueInput some)
        (reading : Option Int) (drawnId : String) (authorization : Nat),
        (run options operations).Issued input reading drawnId authorization →
        ∀ one ∈ (run options operations).authority.invocations,
          one.invocation.authorization = authorization →
          one.invocation.authorizationBinding = input.binding.binding) ∧
      ¬ ∀ [Runtime] (options : AuthorityOptions)
        (operations : List (AuthorityOperation some Unit)) (input : IssueInput some)
        (reading : Option Int) (drawnId : String) (authorization : Nat),
        (run options operations).Issued input reading drawnId authorization →
        ∀ expected at_ error,
          ((run options operations).authority.consume authorization expected at_).1 =
            .error error →
          ∃ time projection, (((run options operations).authority.consume authorization expected
            at_).2.consume authorization input.binding.binding (some time)).1 = .ok projection := by
  let runtime := sampleRuntime []
  obtain ⟨inputHash, hashed⟩ : ∃ inputHash, inputHash = hashJson (.obj []) := ⟨_, rfl⟩
  obtain ⟨projection, projected, capable, issued⟩ := issued_refund inputHash
  let fresh : AuthorityRecord := { consumed := false, projection := projection }
  let holder : LocalAuthority Unit := { LocalAuthority.initial with issued := [fresh] }
  let event : AuthorityOperation some Unit × Except GateError (AuthorityAnswer Unit) :=
    (.issue (refundInput inputHash) (some 0) "id", .ok (.issued 0))
  have first : next defaultOptions { events := [], authority := .initial } event.1 =
      { events := [event], authority := holder } := by
    unfold AuthorityHistory.next LocalAuthority.step
    dsimp only [event]
    rw [issued]
    rfl
  have accepted : LocalAuthority.refusal fresh (bindingOf "refund" inputHash) (some 1) = none :=
    (LocalAuthority.refusal_projection projected _ 1).mpr ⟨rfl, by decide, rfl⟩
  constructor
  · intro all
    have bound : (misstated inputHash).expectedBinding = bindingOf "refund" inputHash := by
      unfold AuthorizedExecutionInvocationV1.expectedBinding misstated
      dsimp only
      rw [← hashed]
      rfl
    have invoked : ((holder.register "refund" ()).execute (misstated inputHash)
        (some 1)).2.invocations =
          [] ++ [{ invocation := misstated inputHash, executor := (), reading := some 1 }] :=
      LocalAuthority.execute_accepted rfl capable (by rw [bound]; exact accepted) rfl
    have ran : run defaultOptions
        [event.1, .register "refund" (), .execute (misstated inputHash) (some 1)] =
        next defaultOptions (next defaultOptions { events := [event], authority := holder }
          (.register "refund" ())) (.execute (misstated inputHash) (some 1)) := by
      rw [← first]
      rfl
    have listed : { invocation := misstated inputHash, executor := (), reading := some 1 } ∈
        (run defaultOptions [event.1, .register "refund" (),
          .execute (misstated inputHash) (some 1)]).authority.invocations := by
      rw [ran]
      unfold AuthorityHistory.next LocalAuthority.step
      dsimp only
      rw [invoked]
      exact List.mem_cons_self
    have same := all defaultOptions
      [event.1, .register "refund" (), .execute (misstated inputHash) (some 1)]
      (refundInput inputHash) (some 0) "id" 0
      (by
        rw [ran]
        exact List.mem_append_left _ (List.mem_append_left _ List.mem_cons_self))
      _ listed rfl
    have tools : "search" = "refund" := congrArg (fun binding => binding.action.toolName) same
    exact absurd tools (by decide)
  · intro all
    have used : holder.consume 0 (bindingOf "refund" inputHash) (some 1) =
        (.ok projection, holder.mark 0 fresh) := by
      have found : holder.issued[0]? = some fresh := rfl
      unfold LocalAuthority.consume
      rw [found]
      dsimp only
      rw [accepted]
      rfl
    have ran : (run defaultOptions
        [event.1, .consume 0 (bindingOf "refund" inputHash) (some 1)]) =
        { events := [event, (.consume 0 (bindingOf "refund" inputHash) (some 1),
            .ok (.projection projection))]
          authority := holder.mark 0 fresh } := by
      have last : run defaultOptions
          [event.1, .consume 0 (bindingOf "refund" inputHash) (some 1)] =
          next defaultOptions { events := [event], authority := holder }
            (.consume 0 (bindingOf "refund" inputHash) (some 1)) := by
        rw [← first]
        rfl
      rw [last]
      unfold AuthorityHistory.next LocalAuthority.step
      dsimp only
      rw [used]
      rfl
    have again := all defaultOptions
      [event.1, .consume 0 (bindingOf "refund" inputHash) (some 1)]
      (refundInput inputHash) (some 0) "id" 0 (by rw [ran]; exact List.mem_cons_self)
      (bindingOf "refund" inputHash) (some 1)
    rw [ran] at again
    obtain ⟨time, projection, consumed⟩ := again _ rfl
    cases consumed

end ActionProxy
