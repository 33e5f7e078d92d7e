import ActionProxy.Services.ObservedTools

/-!
What runs of the detector's calls leave of the observations. A record that two calls hold loses the
update of the one that writes first. While no record is held twice, every observation is counted,
and a changed schema waits for its review until a call that reviews it begins.
-/

namespace ActionProxy

open HeldRecords JsonText

section

variable [Runtime]

/-! ### What the writes keep of a record -/

/-- The tool, its count and its schema hash are the same. -/
structure SameTool (record updated : ObservedToolRecord) : Prop where
  id : updated.id = record.id
  workspaceId : updated.workspaceId = record.workspaceId
  toolName : updated.toolName = record.toolName
  callCount : updated.callCount = record.callCount
  schemaHash : updated.schemaHash = record.schemaHash

omit [Runtime] in
theorem SameTool.trans {first second third : ObservedToolRecord} (left : SameTool first second)
    (right : SameTool second third) : SameTool first third :=
  { id := right.id.trans left.id
    workspaceId := right.workspaceId.trans left.workspaceId
    toolName := right.toolName.trans left.toolName
    callCount := right.callCount.trans left.callCount
    schemaHash := right.schemaHash.trans left.schemaHash }

theorem sameTool_refresh (resolveCovered : Bool) (record : ObservedToolRecord)
    (policy : PolicyFile) : SameTool record (refreshRecordView resolveCovered record policy) :=
  { id := rfl, workspaceId := rfl, toolName := rfl, callCount := rfl, schemaHash := rfl }

theorem sameTool_withWildcard (policy : PolicyFile) (candidates : List ObservedToolRecord)
    (record : ObservedToolRecord) :
    SameTool record (withWildcardSuggestion policy candidates record) := by
  have self : SameTool record record :=
    { id := rfl, workspaceId := rfl, toolName := rfl, callCount := rfl, schemaHash := rfl }
  unfold withWildcardSuggestion
  split
  · exact self
  · split
    · dsimp only
      split
      · exact self
      · exact
          { id := rfl, workspaceId := rfl, toolName := rfl, callCount := rfl, schemaHash := rfl }
    · exact self

theorem sameTool_dismissed (now : String) {policy : PolicyFile} {record enriched : ObservedToolRecord}
    {records : List ObservedToolRecord} (found : enrichedRecord policy record records = some enriched) :
    SameTool record (dismissedRecord now enriched) := by
  unfold enrichedRecord withWildcardSuggestions at found
  cases found
  have enriched := (sameTool_refresh false record policy).trans (sameTool_withWildcard policy
    ((records.map (fun record => refreshRecordView false record policy)).filter
      ObservedToolRecord.undecided) _)
  exact enriched.trans
    { id := rfl, workspaceId := rfl, toolName := rfl, callCount := rfl, schemaHash := rfl }

/-- A schema change waits for its review. -/
def ObservedToolRecord.NeedsReview (record : ObservedToolRecord) : Prop :=
  record.status = .unresolved ∧ SchemaChange.needsReview record.schemaChange = true

theorem observedRecord_needsReview (workspaceId now : String) {input : ObserveToolInput}
    {existing : Option ObservedToolRecord}
    (needed : (hashesDiffer (existing.bind ObservedToolRecord.schemaHash)
        input.observedHash).isSome = true ∨
      SchemaChange.needsReview (existing.bind ObservedToolRecord.schemaChange) = true) :
    (observedRecord workspaceId now input existing).NeedsReview := by
  have reviewed : SchemaChange.needsReview
      (observedRecord workspaceId now input existing).schemaChange = true := by
    unfold observedRecord
    dsimp only
    cases changed : hashesDiffer (existing.bind ObservedToolRecord.schemaHash)
      input.observedHash with
    | some hashes => rfl
    | none =>
        rw [changed] at needed
        exact needed.resolve_left (by simp)
  refine ⟨?_, reviewed⟩
  unfold observedRecord at reviewed ⊢
  dsimp only at reviewed ⊢
  rw [if_pos (.inr reviewed)]

/-- A refresh under a policy that does not cover the tool leaves the review to wait. -/
theorem refresh_needsReview {record : ObservedToolRecord} {policy : PolicyFile}
    (needs : record.NeedsReview)
    (uncovered : (coverageForPolicy policy record.toolName).status ≠ .covered) :
    (refreshRecordView true record policy).NeedsReview := by
  obtain ⟨unresolved, review⟩ := needs
  have resolves : (true && decide ((coverageForPolicy policy record.toolName).status = .covered)) =
      false := by
    rw [Bool.true_and, decide_eq_false uncovered]
  unfold ObservedToolRecord.NeedsReview refreshRecordView
  dsimp only
  rw [resolves]
  simp [unresolved, review]

/-! ### What the notes tell of a tool -/

/-- The last schema hash after a note. -/
def notedHash (toolName : String) (last : Option String) : DetectorNote → Option String
  | .recorded name schemaHash => if name = toolName then schemaHash.or last else last
  | .began _ => last
  | .audited _ => last

/-- The schema hash of the last observation of the tool that had one. -/
def lastSchemaHash (toolName : String) (notes : List DetectorNote) : Option String :=
  notes.foldl (notedHash toolName) none

omit [Runtime] in
theorem lastSchemaHash_snoc (toolName : String) (notes : List DetectorNote) (note : DetectorNote) :
    lastSchemaHash toolName (notes ++ [note]) =
      notedHash toolName (lastSchemaHash toolName notes) note := by
  unfold lastSchemaHash
  rw [List.foldl_append]
  rfl

/-- A call began that dismisses the tool, or refreshes the coverage under a policy that covers it. -/
def DetectorNote.Reviews (workspaceId toolName : String) : DetectorNote → Prop
  | .began (.observeTool _ _) => False
  | .began (.dismiss _ id _) => id = observedToolId workspaceId toolName
  | .began (.refreshPolicyCoverage policy) =>
      (coverageForPolicy policy toolName).status = .covered
  | .recorded _ _ => False
  | .audited _ => False

/-- An observation changed the schema hash, and no call that reviews the tool began since. -/
def ReviewDue (workspaceId toolName : String) (notes : List DetectorNote) : Prop :=
  ∃ earlier later schemaHash, notes = earlier ++ .recorded toolName schemaHash :: later ∧
    (hashesDiffer (lastSchemaHash toolName earlier) schemaHash).isSome = true ∧
      ∀ note ∈ later, ¬ note.Reviews workspaceId toolName

theorem reviewDue_snoc {workspaceId toolName : String} {notes : List DetectorNote}
    {note : DetectorNote} (due : ReviewDue workspaceId toolName (notes ++ [note])) :
    (¬ note.Reviews workspaceId toolName ∧ ReviewDue workspaceId toolName notes) ∨
      ∃ schemaHash, note = .recorded toolName schemaHash ∧
        (hashesDiffer (lastSchemaHash toolName notes) schemaHash).isSome = true := by
  obtain ⟨earlier, later, schemaHash, split', changed, unreviewed⟩ := due
  rcases List.eq_nil_or_concat later with rfl | ⟨front, last, rfl⟩
  · obtain ⟨same, isLast⟩ := List.append_inj' split' rfl
    cases isLast
    rw [← same] at changed
    exact .inr ⟨schemaHash, rfl, changed⟩
  · rw [List.concat_eq_append, ← List.cons_append, ← List.append_assoc] at split'
    obtain ⟨same, isLast⟩ := List.append_inj' split' rfl
    cases isLast
    rw [List.concat_eq_append] at unreviewed
    refine .inl ⟨unreviewed note (List.mem_append_right _ List.mem_cons_self), ?_⟩
    refine ⟨earlier, front, schemaHash, same, changed, ?_⟩
    intro other member
    exact unreviewed other (List.mem_append_left _ member)

omit [Runtime] in
theorem lastSchemaHash_recorded (toolName : String) (notes : List DetectorNote)
    (schemaHash : Option String) :
    lastSchemaHash toolName (notes ++ [.recorded toolName schemaHash]) =
      schemaHash.or (lastSchemaHash toolName notes) := by
  rw [lastSchemaHash_snoc]
  exact if_pos rfl

theorem not_reviewDue_of_began {workspaceId toolName : String} {notes : List DetectorNote}
    {call : DetectorCall} (reviews : (DetectorNote.began call).Reviews workspaceId toolName) :
    ¬ ReviewDue workspaceId toolName (notes ++ [.began call]) := by
  intro due
  rcases reviewDue_snoc due with ⟨unreviewed, _⟩ | ⟨schemaHash, recorded, _⟩
  · exact unreviewed reviews
  · cases recorded

/-- Notes that bring about no review and no hash of the tool. -/
def Silent (toolName : String) (notes : List DetectorNote) : Prop :=
  ∀ schemaHash, DetectorNote.recorded toolName schemaHash ∉ notes

theorem reviewDue_of_silent {workspaceId toolName : String} {notes added : List DetectorNote}
    (silent : Silent toolName added) (due : ReviewDue workspaceId toolName (notes ++ added)) :
    ReviewDue workspaceId toolName notes := by
  induction added using List.reverseRecOn with
  | nil =>
      rw [List.append_nil] at due
      exact due
  | append_singleton front note ih =>
      rw [← List.append_assoc] at due
      rcases reviewDue_snoc due with ⟨_, before⟩ | ⟨schemaHash, rfl, _⟩
      · apply ih _ before
        intro schemaHash member
        exact silent schemaHash (List.mem_append_left _ member)
      · exact absurd (List.mem_append_right _ List.mem_cons_self) (silent schemaHash)

omit [Runtime] in
theorem lastSchemaHash_of_silent {toolName : String} {notes added : List DetectorNote}
    (silent : Silent toolName added) :
    lastSchemaHash toolName (notes ++ added) = lastSchemaHash toolName notes := by
  induction added using List.reverseRecOn with
  | nil => rw [List.append_nil]
  | append_singleton front note ih =>
      have fronts : Silent toolName front := by
        intro schemaHash member
        exact silent schemaHash (List.mem_append_left _ member)
      rw [← List.append_assoc, lastSchemaHash_snoc, ih fronts]
      cases note with
      | recorded name schemaHash =>
          have other : name ≠ toolName := by
            rintro rfl
            exact silent schemaHash (List.mem_append_right _ List.mem_cons_self)
          exact if_neg other
      | began call => rfl
      | audited event => rfl

/-! ### What every world without crossings keeps -/

omit [Runtime] in
/-- The observation is of the tool and from a source that is counted. -/
def ObserveToolInput.counts (input : ObserveToolInput) (toolName : String) : Bool :=
  decide (input.toolName = toolName) &&
    decide (input.source = .runtime ∨ input.source = .local_demo)

/-- A counted observation of the tool that has written its record. -/
def RunningCall.wrote (toolName : String) : RunningCall → Bool
  | .observed input _ _ => input.counts toolName
  | .answered (.observed input _) => input.counts toolName
  | .answered (.dismissed _) => false
  | .answered (.notFound _) => false
  | .answered .refreshed => false
  | .observing _ _ _ => false
  | .getting _ _ _ _ => false
  | .dismissing _ _ => false
  | .dismissed _ => false
  | .refreshing _ _ => false

section

variable (workspaceId : String) (tools : Set String)

/-- Every record is of one of the tools, under the id made of its name. -/
def TidyTools (table : ObservedToolTable) : Prop :=
  ∀ key record, table.get? key = some record →
    key = observedToolId workspaceId record.toolName ∧ record.id = key ∧
      record.workspaceId = workspaceId ∧ record.toolName ∈ tools

/-- The record is held under the id of its tool, and a review that the call may end is not due. -/
def HeldFor (reviews : Prop) (notes : List DetectorNote) (record : ObservedToolRecord) : Prop :=
  record.id = observedToolId workspaceId record.toolName ∧
    (reviews → ¬ ReviewDue workspaceId record.toolName notes)

def RunningCall.Fits (notes : List DetectorNote) : RunningCall → Prop
  | .observing _ input _ => input.toolName ∈ tools
  | .getting _ _ _ record => HeldFor workspaceId True notes record
  | .dismissing record updated => SameTool record updated ∧ HeldFor workspaceId True notes record
  | .refreshing policy records => ∀ record ∈ records,
      HeldFor workspaceId ((coverageForPolicy policy record.toolName).status = .covered) notes record
  | .observed _ _ _ => True
  | .dismissed _ => True
  | .answered _ => True

/-- What the record of a tool has of its observations. -/
structure ToolAgrees (world : DetectorWorld) (toolName : String) : Prop where
  counted :
    ((world.table.get? (observedToolId workspaceId toolName)).map ObservedToolRecord.callCount).getD 0 =
      world.calls.countP (RunningCall.wrote toolName)
  hashes : (world.table.get? (observedToolId workspaceId toolName)).bind
      ObservedToolRecord.schemaHash = lastSchemaHash toolName world.log
  review : ReviewDue workspaceId toolName world.log →
    ∃ record, world.table.get? (observedToolId workspaceId toolName) = some record ∧
      record.NeedsReview

structure DetectorLawful (world : DetectorWorld) : Prop where
  tidy : TidyTools workspaceId tools world.table
  fits : ∀ call ∈ world.calls, call.Fits workspaceId tools world.log
  agrees : ∀ toolName ∈ tools, ToolAgrees workspaceId world toolName

end

section

variable {workspaceId : String} {tools : Set String}

theorem TidyTools.set {table : ObservedToolTable} (tidy : TidyTools workspaceId tools table)
    {key : String} {record : ObservedToolRecord}
    (named : key = observedToolId workspaceId record.toolName) (own : record.id = key)
    (home : record.workspaceId = workspaceId) (member : record.toolName ∈ tools) :
    TidyTools workspaceId tools (table.set key record) := by
  intro other found held
  rw [KeyedTable.get?_set] at held
  split at held
  · rename_i same
    cases held
    exact ⟨same.trans named, own.trans same.symm, home, member⟩
  · exact tidy other found held

theorem TidyTools.byName {table : ObservedToolTable} (tidy : TidyTools workspaceId tools table)
    (apart : Set.InjOn (observedToolId workspaceId) tools) {toolName : String}
    (member : toolName ∈ tools) :
    getObservedToolByName workspaceId toolName table =
      table.get? (observedToolId workspaceId toolName) := by
  unfold getObservedToolByName
  cases search : table.values.find? (fun record =>
      decide (record.workspaceId = workspaceId) && decide (record.toolName = toolName)) with
  | some record =>
      have passes := List.find?_some search
      rw [Bool.and_eq_true, decide_eq_true_eq, decide_eq_true_eq] at passes
      obtain ⟨key, found⟩ := (table.mem_values_iff record).mp (List.mem_of_find?_eq_some search)
      have named := (tidy key record found).1
      rw [passes.2] at named
      rw [← named, found]
  | none =>
      cases found : table.get? (observedToolId workspaceId toolName) with
      | none => rfl
      | some record =>
          obtain ⟨named, _, home, listed⟩ := tidy _ record found
          have absent := List.find?_eq_none.mp search record
            ((table.mem_values_iff record).mpr ⟨_, found⟩)
          have same : record.toolName = toolName := (apart member listed named).symm
          exact absurd (by simp [home, same]) absent

theorem TidyTools.listed {table : ObservedToolTable} (tidy : TidyTools workspaceId tools table)
    {record : ObservedToolRecord} (member : record ∈ listObservedTools workspaceId table) :
    table.get? record.id = some record ∧
      record.id = observedToolId workspaceId record.toolName := by
  have stored := List.mem_of_mem_filter ((List.mem_insertionSort _).mp member)
  obtain ⟨key, found⟩ := (table.mem_values_iff record).mp stored
  obtain ⟨named, own, _, _⟩ := tidy key record found
  exact ⟨own ▸ found, own.trans named⟩

theorem HeldFor.of_silent {reviews : Prop} {notes added : List DetectorNote}
    {record : ObservedToolRecord} (held : HeldFor workspaceId reviews notes record)
    (silent : Silent record.toolName added) :
    HeldFor workspaceId reviews (notes ++ added) record :=
  ⟨held.1, fun isReviewed due => held.2 isReviewed (reviewDue_of_silent silent due)⟩

theorem RunningCall.Fits.of_silent {call : RunningCall} {notes added : List DetectorNote}
    (fits : call.Fits workspaceId tools notes)
    (silent : ∀ toolName, observedToolId workspaceId toolName ∈
      (policyDetector workspaceId).heldKeys call → Silent toolName added) :
    call.Fits workspaceId tools (notes ++ added) := by
  cases call with
  | observing now input existing => exact fits
  | getting now id policy record =>
      exact HeldFor.of_silent fits (silent _ (by rw [← fits.1]; exact List.mem_cons_self))
  | dismissing record updated =>
      exact ⟨fits.1, fits.2.of_silent (silent _ (by rw [← fits.2.1]; exact List.mem_cons_self))⟩
  | refreshing policy records =>
      intro record member
      apply (fits record member).of_silent (silent _ _)
      rw [← (fits record member).1]
      exact List.mem_map_of_mem (List.mem_map_of_mem member)
  | observed input record event => trivial
  | dismissed updated => trivial
  | answered answer => trivial

theorem ToolAgrees.of_unchanged {world : DetectorWorld} {toolName : String} {index : Nat}
    {call : RunningCall} {turn : DetectorTurn} (agrees : ToolAgrees workspaceId world toolName)
    (here : world.calls[index]? = some call)
    (same : (stored world.table turn.written).get? (observedToolId workspaceId toolName) =
      world.table.get? (observedToolId workspaceId toolName))
    (wrote : turn.call.wrote toolName = call.wrote toolName)
    (silent : Silent toolName turn.entries) :
    ToolAgrees workspaceId (world.put index turn) toolName := by
  constructor
  · have count := Machine.countP_put (RunningCall.wrote toolName) turn here
    rw [wrote] at count
    have kept := Nat.add_right_cancel count
    rw [kept, ← agrees.counted, World.put, same]
  · rw [World.put, same, agrees.hashes, lastSchemaHash_of_silent silent]
  · intro due
    rw [World.put, same]
    exact agrees.review (reviewDue_of_silent silent due)

/-! ### One turn -/

variable {world : DetectorWorld} {index : Nat} {call : RunningCall} {turn : DetectorTurn}

theorem DetectorLawful.quiet (lawful : DetectorLawful workspaceId tools world)
    (here : world.calls[index]? = some call) (unwritten : turn.written = none)
    (silent : ∀ toolName, Silent toolName turn.entries)
    (wrote : ∀ toolName, turn.call.wrote toolName = call.wrote toolName)
    (fits : turn.call.Fits workspaceId tools (world.log ++ turn.entries)) :
    DetectorLawful workspaceId tools (world.put index turn) := by
  have same : stored world.table turn.written = world.table := by
    rw [unwritten]
    rfl
  constructor
  · rw [World.put, same]
    exact lawful.tidy
  · intro one member
    rcases Machine.mem_put here member with rfl | ⟨second, _, atSecond⟩
    · exact fits
    · apply (lawful.fits one (List.mem_of_getElem? atSecond)).of_silent
      intro toolName _
      exact silent toolName
  · intro toolName listed
    apply (lawful.agrees toolName listed).of_unchanged here _ (wrote toolName) (silent toolName)
    rw [same]

theorem DetectorLawful.write {record : ObservedToolRecord}
    (lawful : DetectorLawful workspaceId tools world)
    (apart : Set.InjOn (observedToolId workspaceId) tools)
    (here : world.calls[index]? = some call)
    (alone : (policyDetector workspaceId).Alone world index call)
    (written : turn.written = some (record.id, record))
    (held : record.id ∈ (policyDetector workspaceId).heldKeys call)
    (named : record.id = observedToolId workspaceId record.toolName)
    (home : record.workspaceId = workspaceId) (member : record.toolName ∈ tools)
    (silent : ∀ toolName, toolName ≠ record.toolName → Silent toolName turn.entries)
    (wrote : ∀ toolName, toolName ≠ record.toolName →
      turn.call.wrote toolName = call.wrote toolName)
    (fits : turn.call.Fits workspaceId tools (world.log ++ turn.entries))
    (agrees : ToolAgrees workspaceId (world.put index turn) record.toolName) :
    DetectorLawful workspaceId tools (world.put index turn) := by
  have same : stored world.table turn.written = world.table.set record.id record := by
    rw [written]
    rfl
  constructor
  · rw [World.put, same]
    exact lawful.tidy.set named rfl home member
  · intro one isCall
    rcases Machine.mem_put here isCall with rfl | ⟨second, different, atSecond⟩
    · exact fits
    · apply (lawful.fits one (List.mem_of_getElem? atSecond)).of_silent
      intro toolName heldToo
      apply silent
      rintro rfl
      rw [← named] at heldToo
      exact alone second one atSecond different record.id held heldToo
  · intro toolName listed
    by_cases own : toolName = record.toolName
    · rw [own]
      exact agrees
    · apply (lawful.agrees toolName listed).of_unchanged here _ (wrote toolName own)
        (silent toolName own)
      rw [same, KeyedTable.get?_set_other]
      rw [named]
      exact fun equal => own (apart listed member equal)

omit [Runtime] in
theorem counts_other {input : ObserveToolInput} {toolName : String}
    (other : toolName ≠ input.toolName) : input.counts toolName = false := by
  unfold ObserveToolInput.counts
  rw [decide_eq_false (Ne.symm other), Bool.false_and]

theorem observedRecord_id {table : ObservedToolTable} (tidy : TidyTools workspaceId tools table)
    (now : String) (input : ObserveToolInput) :
    (observedRecord workspaceId now input
        (table.get? (observedToolId workspaceId input.toolName))).id =
      observedToolId workspaceId input.toolName := by
  unfold observedRecord
  dsimp only
  cases found : table.get? (observedToolId workspaceId input.toolName) with
  | none => rfl
  | some record => exact (tidy _ record found).2.1

theorem agrees_observed (lawful : DetectorLawful workspaceId tools world) {now : String}
    {input : ObserveToolInput} {existing : Option ObservedToolRecord}
    (here : world.calls[index]? = some (.observing now input existing))
    (member : input.toolName ∈ tools)
    (current : world.table.get? (observedToolId workspaceId input.toolName) = existing) :
    ToolAgrees workspaceId
      (world.put index (turnDetector workspaceId (.observing now input existing) world.table))
      input.toolName := by
  obtain ⟨counted, hashes, review⟩ := lawful.agrees input.toolName member
  rw [current] at counted hashes review
  let record := observedRecord workspaceId now input existing
  let turn := turnDetector workspaceId (.observing now input existing) world.table
  have held : (world.put index turn).table.get? (observedToolId workspaceId input.toolName) =
      some record := by
    have own := observedRecord_id lawful.tidy now input
    rw [current] at own
    change (world.table.set record.id record).get? _ = _
    rw [← own]
    exact KeyedTable.get?_set_self _ _ _
  constructor
  · have count := Machine.countP_put (RunningCall.wrote input.toolName) turn here
    have before : RunningCall.wrote input.toolName (.observing now input existing) = false := rfl
    have after : turn.call.wrote input.toolName =
        decide (input.source = .runtime ∨ input.source = .local_demo) := by
      change input.counts input.toolName = _
      unfold ObserveToolInput.counts
      rw [decide_eq_true rfl, Bool.true_and]
    have added : record.callCount = (existing.map ObservedToolRecord.callCount).getD 0 +
        (if input.source = .runtime ∨ input.source = .local_demo then 1 else 0) := rfl
    rw [before, after, ← counted] at count
    rw [held]
    change record.callCount = _
    rw [added]
    simpa using count.symm
  · rw [held]
    change record.schemaHash = lastSchemaHash _ (world.log ++ [.recorded _ _])
    rw [lastSchemaHash_recorded, ← hashes]
    rfl
  · intro due
    refine ⟨record, held, ?_⟩
    apply observedRecord_needsReview
    rcases reviewDue_snoc due with ⟨_, before⟩ | ⟨schemaHash, recorded, changed⟩
    · obtain ⟨earlier, found, _, needs⟩ := review before
      rw [found]
      exact .inr needs
    · cases recorded
      rw [hashes]
      exact .inl changed

theorem agrees_kept (lawful : DetectorLawful workspaceId tools world)
    {record updated : ObservedToolRecord} (here : world.calls[index]? = some call)
    (current : world.table.get? (observedToolId workspaceId record.toolName) = some record)
    (member : record.toolName ∈ tools) (same : SameTool record updated)
    (named : record.id = observedToolId workspaceId record.toolName)
    (written : turn.written = some (updated.id, updated)) (noted : turn.entries = [])
    (wrote : turn.call.wrote record.toolName = call.wrote record.toolName)
    (review : ReviewDue workspaceId record.toolName world.log → record.NeedsReview →
      updated.NeedsReview) :
    ToolAgrees workspaceId (world.put index turn) record.toolName := by
  have agrees := lawful.agrees record.toolName member
  have held : (world.put index turn).table.get? (observedToolId workspaceId record.toolName) =
      some updated := by
    rw [World.put, written, ← named, ← same.id]
    exact KeyedTable.get?_set_self _ _ _
  have log : (world.put index turn).log = world.log := by
    rw [World.put, noted, List.append_nil]
  constructor
  · have count := Machine.countP_put (RunningCall.wrote record.toolName) turn here
    have counted := agrees.counted
    rw [wrote] at count
    rw [current] at counted
    rw [Nat.add_right_cancel count, ← counted, held]
    exact same.callCount
  · have hashes := agrees.hashes
    rw [current] at hashes
    rw [held, log, ← hashes]
    exact same.schemaHash
  · rw [log]
    intro due
    obtain ⟨stored, found, needs⟩ := agrees.review due
    rw [current] at found
    cases found
    exact ⟨updated, held, review due needs⟩

theorem DetectorLawful.turned (lawful : DetectorLawful workspaceId tools world)
    (apart : Set.InjOn (observedToolId workspaceId) tools)
    (here : world.calls[index]? = some call)
    (current : (policyDetector workspaceId).Current world.table call)
    (distinct : ((policyDetector workspaceId).heldKeys call).Nodup)
    (alone : (policyDetector workspaceId).Alone world index call) :
    (policyDetector workspaceId).Releases call (turnDetector workspaceId call world.table) ∧
      DetectorLawful workspaceId tools
        (world.put index (turnDetector workspaceId call world.table)) := by
  have fits := lawful.fits call (List.mem_of_getElem? here)
  have silent : ∀ toolName, Silent toolName [] := fun toolName schemaHash => List.not_mem_nil
  cases call with
  | observing now input existing =>
      have read : world.table.get? (observedToolId workspaceId input.toolName) = existing :=
        current (_, existing) List.mem_cons_self
      have own := observedRecord_id lawful.tidy now input
      rw [read] at own
      have held : (observedRecord workspaceId now input existing).id ∈
          (policyDetector workspaceId).heldKeys (.observing now input existing) := by
        rw [own]
        exact List.mem_cons_self
      constructor
      · exact Machine.Releases.of_written rfl (List.forall_mem_nil _) held List.not_mem_nil
      · apply lawful.write apart here alone rfl held own rfl fits
        · intro toolName other schemaHash noted
          cases List.mem_singleton.mp noted
          exact other rfl
        · intro toolName other
          exact counts_other other
        · trivial
        · exact agrees_observed lawful here fits read
  | observed input record event =>
      constructor
      · exact Machine.Releases.of_unwritten rfl (List.forall_mem_nil _)
      · apply lawful.quiet here rfl
        · intro toolName schemaHash noted
          obtain ⟨other, _, same⟩ := List.mem_map.mp noted
          cases same
        · intro toolName
          rfl
        · trivial
  | getting now id policy record =>
      unfold turnDetector
      dsimp only
      split
      · exact ⟨Machine.Releases.of_unwritten rfl (List.forall_mem_nil _),
          lawful.quiet here rfl silent (fun _ => rfl) trivial⟩
      · rename_i enriched found
        constructor
        · exact Machine.Releases.of_unwritten rfl (fun hold holds => holds)
        · apply lawful.quiet here rfl silent (fun _ => rfl)
          exact ⟨sameTool_dismissed now found, HeldFor.of_silent fits (silent _)⟩
  | dismissing record updated =>
      obtain ⟨same, named, notDue⟩ := fits
      have read : world.table.get? record.id = some record :=
        current (_, some record) List.mem_cons_self
      obtain ⟨_, _, home, member⟩ := lawful.tidy _ record read
      have held : updated.id ∈
          (policyDetector workspaceId).heldKeys (.dismissing record updated) := by
        rw [same.id]
        exact List.mem_cons_self
      rw [named] at read
      constructor
      · exact Machine.Releases.of_written rfl (List.forall_mem_nil _) held List.not_mem_nil
      · apply lawful.write apart here alone rfl held
        · rw [same.id, same.toolName, named]
        · exact same.workspaceId.trans home
        · rw [same.toolName]
          exact member
        · intro toolName _
          exact silent toolName
        · intro toolName _
          rfl
        · trivial
        · rw [same.toolName]
          apply agrees_kept lawful here read member same named rfl rfl rfl
          intro due _
          exact absurd due (notDue trivial)
  | dismissed updated =>
      constructor
      · exact Machine.Releases.of_unwritten rfl (List.forall_mem_nil _)
      · apply lawful.quiet here rfl
        · intro toolName schemaHash noted
          cases List.mem_singleton.mp noted
        · intro toolName
          rfl
        · trivial
  | refreshing policy records =>
      cases records with
      | nil =>
          exact ⟨Machine.Releases.of_unwritten rfl (List.forall_mem_nil _),
            lawful.quiet here rfl silent (fun _ => rfl) trivial⟩
      | cons record rest =>
          obtain ⟨named, notDue⟩ := fits record List.mem_cons_self
          have read : world.table.get? record.id = some record :=
            current (_, some record) List.mem_cons_self
          obtain ⟨_, _, home, member⟩ := lawful.tidy _ record read
          have same := sameTool_refresh true record policy
          let updated := refreshRecordView true record policy
          have written : (turnDetector workspaceId (.refreshing policy (record :: rest))
              world.table).written = some (updated.id, updated) := rfl
          rw [named] at read
          constructor
          · apply Machine.Releases.of_written written
            · exact fun hold holds => List.mem_cons_of_mem _ holds
            · exact List.mem_cons_self
            · exact (List.nodup_cons.mp distinct).1
          · apply lawful.write apart here alone written List.mem_cons_self named home member
            · intro toolName _
              exact silent toolName
            · intro toolName _
              rfl
            · intro other listed
              exact (fits other (List.mem_cons_of_mem _ listed)).of_silent (silent _)
            · apply agrees_kept lawful here read member same named rfl rfl rfl
              intro due needs
              exact refresh_needsReview needs (fun covered => notDue covered due)
  | answered answer =>
      exact ⟨Machine.Releases.of_unwritten rfl (List.forall_mem_nil _),
        lawful.quiet here rfl silent (fun _ => rfl) trivial⟩

/-! ### Runs without crossings -/

/-- Only these tools are observed. -/
def DetectorCall.ObservesOnly (tools : Set String) : DetectorCall → Prop
  | .observeTool _ input => input.toolName ∈ tools
  | .dismiss _ _ _ => True
  | .refreshPolicyCoverage _ => True

theorem DetectorLawful.entered (lawful : DetectorLawful workspaceId tools world)
    (apart : Set.InjOn (observedToolId workspaceId) tools) {request : DetectorCall}
    (offered : request.ObservesOnly tools) :
    (policyDetector workspaceId).Current world.table
        (enterDetector workspaceId request world.table) ∧
      (enterDetector workspaceId request world.table).Fits workspaceId tools
        (world.log ++ [.began request]) := by
  cases request with
  | observeTool now input =>
      refine ⟨?_, offered⟩
      intro hold held
      rw [List.mem_singleton.mp held]
      exact (lawful.tidy.byName apart offered).symm
  | dismiss now id policy =>
      unfold enterDetector
      dsimp only
      split
      · exact ⟨List.forall_mem_nil _, trivial⟩
      · rename_i record found
        split
        · exact ⟨List.forall_mem_nil _, trivial⟩
        · obtain ⟨named, own, _, _⟩ := lawful.tidy id record found
          constructor
          · intro hold held
            rw [List.mem_singleton.mp held, own]
            exact found
          · exact ⟨own.trans named, fun _ => not_reviewDue_of_began named⟩
  | refreshPolicyCoverage policy =>
      constructor
      · intro hold held
        obtain ⟨record, listed, rfl⟩ := List.mem_map.mp held
        exact (lawful.tidy.listed listed).1
      · intro record listed
        exact ⟨(lawful.tidy.listed listed).2, fun covered => not_reviewDue_of_began covered⟩

theorem enterDetector_wrote (request : DetectorCall) (table : ObservedToolTable)
    (toolName : String) : (enterDetector workspaceId request table).wrote toolName = false := by
  cases request with
  | observeTool now input => rfl
  | refreshPolicyCoverage policy => rfl
  | dismiss now id policy =>
      unfold enterDetector
      dsimp only
      split
      · rfl
      · split
        · rfl
        · rfl

theorem DetectorLawful.opened (lawful : DetectorLawful workspaceId tools world)
    {request : DetectorCall}
    (fits : (enterDetector workspaceId request world.table).Fits workspaceId tools
      (world.log ++ [.began request])) :
    DetectorLawful workspaceId tools ((policyDetector workspaceId).opened world request) := by
  have silent : ∀ toolName, Silent toolName [.began request] := by
    intro toolName schemaHash noted
    cases List.mem_singleton.mp noted
  constructor
  · exact lawful.tidy
  · intro call member
    rcases List.mem_append.mp member with old | new
    · exact (lawful.fits call old).of_silent (fun toolName _ => silent toolName)
    · rw [List.mem_singleton.mp new]
      exact fits
  · intro toolName listed
    obtain ⟨counted, hashes, review⟩ := lawful.agrees toolName listed
    constructor
    · have wrote : (enterDetector workspaceId request world.table).wrote toolName = false :=
        enterDetector_wrote request world.table toolName
      change _ = (world.calls ++ [enterDetector workspaceId request world.table]).countP _
      rw [List.countP_append, List.countP_singleton, wrote, if_neg Bool.false_ne_true]
      exact counted
    · exact hashes.trans (lastSchemaHash_of_silent (silent toolName)).symm
    · exact fun due => review (reviewDue_of_silent (silent toolName) due)

theorem detector_keeps (apart : Set.InjOn (observedToolId workspaceId) tools) :
    (policyDetector workspaceId).Keeps (DetectorCall.ObservesOnly tools)
      (DetectorLawful workspaceId tools) := by
  constructor
  · constructor
    · intro key record found
      cases found
    · exact List.forall_mem_nil _
    · intro toolName _
      constructor
      · rfl
      · rfl
      · rintro ⟨earlier, later, schemaHash, split', _⟩
        cases earlier <;> cases split'
  · intro world request offered lawful
    obtain ⟨current, fits⟩ := lawful.entered apart offered
    exact ⟨current, lawful.opened fits⟩
  · intro world index call lawful here current distinct alone
    exact lawful.turned apart here current distinct alone

end

end

/-- No call is running. -/
def DetectorQuiet (world : DetectorWorld) : Prop :=
  ∀ call ∈ world.calls, ∃ answer, call = .answered answer

/-- An observation of the tool from a counted source that is completed. -/
def RunningCall.completed (toolName : String) : RunningCall → Bool
  | .answered (.observed input _) => input.counts toolName
  | .answered (.dismissed _) => false
  | .answered (.notFound _) => false
  | .answered .refreshed => false
  | .observing _ _ _ => false
  | .observed _ _ _ => false
  | .getting _ _ _ _ => false
  | .dismissing _ _ => false
  | .dismissed _ => false
  | .refreshing _ _ => false

def completedObservations (toolName : String) (world : DetectorWorld) : Nat :=
  world.calls.countP (RunningCall.completed toolName)

def callCountOf (workspaceId toolName : String) (world : DetectorWorld) : Nat :=
  ((getObservedToolByName workspaceId toolName world.table).map
    ObservedToolRecord.callCount).getD 0

theorem wrote_of_quiet {world : DetectorWorld} (quiet : DetectorQuiet world) (toolName : String) :
    world.calls.countP (RunningCall.wrote toolName) = completedObservations toolName world := by
  apply List.countP_congr
  intro call member
  obtain ⟨answer, rfl⟩ := quiet call member
  cases answer <;> rfl

/-- While no record is held twice: when no call is running, the count of every tool is that of its
completed observations from counted sources, and a tool with a change of its schema hash since which
no call began that reviews it is unresolved and waits for the review. -/
theorem observed_tools_keep_updates [Runtime] {workspaceId : String} {tools : Set String}
    (apart : Set.InjOn (observedToolId workspaceId) tools) {world : DetectorWorld}
    (reached : (policyDetector workspaceId).Reaches (DetectorCall.ObservesOnly tools)
      (policyDetector workspaceId).Apart world)
    (quiet : DetectorQuiet world) {toolName : String} (member : toolName ∈ tools) :
    callCountOf workspaceId toolName world = completedObservations toolName world ∧
      (ReviewDue workspaceId toolName world.log →
        ∃ record, getObservedToolByName workspaceId toolName world.table = some record ∧
          record.NeedsReview) := by
  obtain ⟨lawful, _, _⟩ := reached.keeps (detector_keeps apart)
  obtain ⟨counted, _, review⟩ := lawful.agrees toolName member
  unfold callCountOf
  rw [lawful.tidy.byName apart member]
  exact ⟨counted.trans (wrote_of_quiet quiet toolName), review⟩

/-! ### Observations of one tool -/

/-- Nothing is covered. -/
def nothingCovered : PolicyFile :=
  { version := JsonNumber.ofDigit 1 Nat.one_ne_zero
    default := PolicyRule.plain .required
    tools := KeyedTable.empty }

def docsObservation (schemaHash : String) : DetectorCall :=
  .observeTool "2026-01-01T00:00:00.000Z"
    { agentId := none, input := none, mcpProfileId := none, mcpServerName := none
      policy := nothingCovered, schemaHash := some schemaHash, source := .runtime
      toolName := "docs.get" }

/-- The choices of a call that takes its turns at once. -/
def alone (request : DetectorCall) (index turns : Nat) : List (Choice DetectorCall) :=
  .enter request :: List.replicate turns (.advance index)

/-- Two observations in turn, each with its own hash. -/
def changedInTurn : List (Choice DetectorCall) :=
  alone (docsObservation "a") 0 2 ++ alone (docsObservation "b") 1 2

/-- The changed tool is dismissed and observed again, with the hash it has. -/
def dismissedInTurn [Runtime] : List (Choice DetectorCall) :=
  changedInTurn ++
    alone (.dismiss "2026-01-02T00:00:00.000Z" (observedToolId "default" "docs.get") nothingCovered)
      2 3 ++
    alone (docsObservation "b") 3 2

/-- Two observations, both read before either writes. -/
def crossed : List (Choice DetectorCall) :=
  [.enter (docsObservation "a"), .enter (docsObservation "a"), .advance 0, .advance 0, .advance 1,
    .advance 1]

/-- The world after the choices. -/
def detectorAfter [Runtime] (choices : List (Choice DetectorCall)) : DetectorWorld :=
  (policyDetector "default").run World.empty choices

def RunningCall.isAnswered : RunningCall → Bool
  | .answered _ => true
  | .observing _ _ _ => false
  | .observed _ _ _ => false
  | .getting _ _ _ _ => false
  | .dismissing _ _ => false
  | .dismissed _ => false
  | .refreshing _ _ => false

theorem quiet_of_answered {world : DetectorWorld}
    (answered : world.calls.all RunningCall.isAnswered = true) : DetectorQuiet world := by
  intro call member
  have done := List.all_eq_true.mp answered call member
  cases call with
  | answered answer => exact ⟨answer, rfl⟩
  | observing now input existing => cases done
  | observed input record event => cases done
  | getting now id policy record => cases done
  | dismissing record updated => cases done
  | dismissed updated => cases done
  | refreshing policy records => cases done

theorem changedInTurn_reached :
    (@policyDetector (sampleRuntime []) "default").Reaches
      (DetectorCall.ObservesOnly {"docs.get"}) (@policyDetector (sampleRuntime []) "default").Apart
      (@detectorAfter (sampleRuntime []) changedInTurn) := by
  apply Machine.Reaches.empty.run
  · intro request listed
    have either : request = docsObservation "a" ∨ request = docsObservation "b" := by
      simpa [changedInTurn, alone] using listed
    rcases either with rfl | rfl
    · rfl
    · rfl
  · decide +kernel

theorem changedInTurn_due :
    @ReviewDue (sampleRuntime []) "default" "docs.get"
      (@detectorAfter (sampleRuntime []) changedInTurn).log := by
  refine ⟨(@detectorAfter (sampleRuntime []) changedInTurn).log.take 4,
    (@detectorAfter (sampleRuntime []) changedInTurn).log.drop 5, some "b", rfl,
    by decide +kernel, ?_⟩
  intro note listed
  cases List.mem_singleton.mp listed
  exact not_false

theorem observed_tools_keep_updates_changed :
    callCountOf "default" "docs.get" (@detectorAfter (sampleRuntime []) changedInTurn) =
        completedObservations "docs.get" (@detectorAfter (sampleRuntime []) changedInTurn) ∧
      ∃ record, getObservedToolByName "default" "docs.get"
          (@detectorAfter (sampleRuntime []) changedInTurn).table = some record ∧
        record.NeedsReview :=
  (@observed_tools_keep_updates (sampleRuntime []) _ _ (Set.injOn_singleton _ _) _
    changedInTurn_reached (quiet_of_answered (by decide +kernel)) _ rfl).imp id
      (fun due => due changedInTurn_due)

/-- The hash of an observation differs from that of an earlier one, and no call that reviews the
tool began since. -/
def OtherHashObserved [Runtime] (workspaceId toolName : String) (notes : List DetectorNote) :
    Prop :=
  ∃ earlier later previous current,
    notes = earlier ++ .recorded toolName (some current) :: later ∧
      .recorded toolName (some previous) ∈ earlier ∧ previous ≠ current ∧
        ∀ note ∈ later, ¬ note.Reviews workspaceId toolName

/-- The tool and the hash, if the note is that of an observation. -/
def DetectorNote.observation : DetectorNote → Option (String × Option String)
  | .recorded toolName schemaHash => some (toolName, schemaHash)
  | .began _ => none
  | .audited _ => none

theorem DetectorNote.eq_recorded {note : DetectorNote} {observed : String × Option String}
    (isObservation : note.observation = some observed) :
    note = .recorded observed.1 observed.2 := by
  cases note <;> cases isObservation
  rfl

theorem otherHashObserved_last [Runtime] {workspaceId toolName previous current : String}
    {notes : List DetectorNote} {first : Nat} (different : previous ≠ current)
    (early : first < notes.length - 1)
    (atFirst : notes[first]?.bind DetectorNote.observation = some (toolName, some previous))
    (atLast : notes[notes.length - 1]?.bind DetectorNote.observation =
      some (toolName, some current)) :
    OtherHashObserved workspaceId toolName notes := by
  obtain ⟨noteFirst, foundFirst, isFirst⟩ := Option.bind_eq_some_iff.mp atFirst
  obtain ⟨noteLast, foundLast, isLast⟩ := Option.bind_eq_some_iff.mp atLast
  obtain ⟨inside, same⟩ := List.getElem?_eq_some_iff.mp foundLast
  rw [noteFirst.eq_recorded isFirst] at foundFirst
  rw [noteLast.eq_recorded isLast] at same
  refine ⟨notes.take (notes.length - 1), [], previous, current, ?_, ?_, different,
    List.forall_mem_nil _⟩
  · have whole := List.take_append_getElem inside
    rw [same, Nat.sub_add_cancel (Nat.one_le_of_lt (by omega)), List.take_length] at whole
    exact whole.symm
  · apply List.mem_of_getElem? _
    · exact first
    · rw [List.getElem?_take_of_lt early]
      exact foundFirst

/-- Two observations that cross are counted once; and a tool that was dismissed stays dismissed when
it is observed with the hash it was dismissed with, which differs from an earlier one. -/
theorem observations_cross_or_stay_dismissed :
    (@Machine.Reaches _ _ _ _ _ _ (@policyDetector (sampleRuntime []) "default") (fun _ => True)
        (fun _ => True) (@detectorAfter (sampleRuntime []) crossed) ∧
      DetectorQuiet (@detectorAfter (sampleRuntime []) crossed) ∧
      callCountOf "default" "docs.get" (@detectorAfter (sampleRuntime []) crossed) = 1 ∧
      completedObservations "docs.get" (@detectorAfter (sampleRuntime []) crossed) = 2) ∧
    (@Machine.Reaches _ _ _ _ _ _ (@policyDetector (sampleRuntime []) "default") (fun _ => True)
        (fun _ => True)
        (@detectorAfter (sampleRuntime []) (@dismissedInTurn (sampleRuntime []))) ∧
      DetectorQuiet (@detectorAfter (sampleRuntime []) (@dismissedInTurn (sampleRuntime []))) ∧
      @OtherHashObserved (sampleRuntime []) "default" "docs.get"
        (@detectorAfter (sampleRuntime []) (@dismissedInTurn (sampleRuntime []))).log ∧
      (getObservedToolByName "default" "docs.get"
        (@detectorAfter (sampleRuntime []) (@dismissedInTurn (sampleRuntime []))).table).map
          ObservedToolRecord.status = some .dismissed) := by
  refine ⟨⟨?_, quiet_of_answered (by decide +kernel), by decide +kernel, by decide +kernel⟩,
    ?_, quiet_of_answered (by decide +kernel), ?_, by decide +kernel⟩
  · exact Machine.Reaches.empty.run (fun _ _ => trivial) (Machine.through_true _ _)
  · exact Machine.Reaches.empty.run (fun _ _ => trivial) (Machine.through_true _ _)
  · have hashes : "a" ≠ "b" := by decide
    apply @otherHashObserved_last (sampleRuntime []) _ _ _ _ _ 1 hashes
    · decide +kernel
    · decide +kernel
    · decide +kernel

end ActionProxy
