import ActionProxy.Integrations.TelegramPresentation

/-!
What a call that edits messages reports, in every order of its steps: one result for each
delivery, `updated` only after the edit of its message succeeded, and one request a message.
An error that has no text takes all of it away.
-/

namespace ActionProxy

open JsonText

/-! ### Keys of messages -/

theorem targetKey_injective {left right : MessageCoordinates}
    (same : targetKey left = targetKey right) : left = right := by
  have texts : textWith insertionOrder
      (.arr [.str left.chatId, .num (JsonNumber.ofInt left.messageId)]) =
      textWith insertionOrder
        (.arr [.str right.chatId, .num (JsonNumber.ofInt right.messageId)]) := by
    have lists := congrArg String.toList same
    rw [targetKey, targetKey, String.toList_ofList, String.toList_ofList] at lists
    exact lists
  have number {left right : JsonNumber} (same : Same (.num left) (.num right)) : left = right := by
    cases same
    rfl
  cases same_of_textWith_eq texts with
  | arr items =>
      cases items with
      | cons chat rest =>
          cases rest with
          | cons message _ =>
              have chats := same_str_iff.mp chat
              have numbers := congrArg JsonNumber.toRat (number message)
              rw [JsonNumber.toRat_ofInt, JsonNumber.toRat_ofInt] at numbers
              have ids : left.messageId = right.messageId := by exact_mod_cast numbers
              cases left
              cases right
              simp only at chats ids
              rw [chats, ids]

/-! ### Tables -/

theorem get?_setTarget (results : PresentationResults) (target : TelegramEditTarget)
    (status : PresentationStatus) (error : Option String) (id : String) :
    (setTargetPresentationResult results target status error).get? id =
      if id ∈ target.deliveries.map (fun delivery => delivery.id) then
        some { deliveryId := id, error := error.filter (· ≠ ""), status := status }
      else results.get? id := by
  unfold setTargetPresentationResult
  induction target.deliveries generalizing results with
  | nil => rfl
  | cons delivery rest inductionHypothesis =>
      rw [List.foldl_cons, inductionHypothesis, List.map_cons, KeyedTable.get?_set]
      by_cases later : id ∈ rest.map (fun delivery => delivery.id)
      · rw [if_pos later, if_pos (List.mem_cons_of_mem _ later)]
      · rw [if_neg later]
        by_cases here : id = delivery.id
        · rw [if_pos here, if_pos (here ▸ List.mem_cons_self), here]
        · rw [if_neg here, if_neg]
          exact fun listed => (List.mem_cons.mp listed).elim here later

/-- Where there was a result there is one, and every delivery of the target has one. -/
theorem isSome_setTarget {results : PresentationResults} {target : TelegramEditTarget}
    {status : PresentationStatus} {error : Option String} {id : String}
    (there : (results.get? id).isSome ∨ ∃ delivery ∈ target.deliveries, delivery.id = id) :
    ((setTargetPresentationResult results target status error).get? id).isSome := by
  rw [get?_setTarget]
  split
  · rfl
  · rename_i absent
    rcases there with before | ⟨delivery, listed, rfl⟩
    · exact before
    · exact absurd (List.mem_map_of_mem listed) absent

/-- What the loop over the deliveries has filed. -/
structure Filed (seen : List PresentedDelivery) (tables : PresentationResults × TelegramTargets) :
    Prop where
  malformed : ∀ delivery ∈ seen, telegramDeliveryCoordinates delivery = none →
    (tables.1.get? delivery.id).isSome
  placed : ∀ delivery ∈ seen, ∀ coordinates,
    telegramDeliveryCoordinates delivery = some coordinates →
    ∃ target, tables.2.get? (targetKey coordinates) = some target ∧ delivery ∈ target.deliveries
  keyed : ∀ key target, tables.2.get? key = some target →
    key = targetKey target.toMessageCoordinates
  members : ∀ key target, tables.2.get? key = some target → ∀ delivery ∈ target.deliveries,
    delivery ∈ seen ∧ telegramDeliveryCoordinates delivery = some target.toMessageCoordinates
  failed : ∀ id result, tables.1.get? id = some result →
    result.deliveryId = id ∧ result.status = .failed

theorem Filed.add {seen : List PresentedDelivery} {tables : PresentationResults × TelegramTargets}
    (filed : Filed seen tables) (delivery : PresentedDelivery) :
    Filed (seen ++ [delivery]) (addDelivery tables delivery) := by
  have among {one : PresentedDelivery} (listed : one ∈ seen ++ [delivery]) :
      one ∈ seen ∨ one = delivery :=
    (List.mem_append.mp listed).imp_right List.mem_singleton.mp
  unfold addDelivery
  cases found : telegramDeliveryCoordinates delivery with
  | none =>
      refine ⟨?_, ?_, filed.keyed, ?_, ?_⟩
      · intro one listed unread
        simp only [KeyedTable.get?_set]
        split
        · rfl
        · rename_i other
          rcases among listed with before | rfl
          · exact filed.malformed one before unread
          · exact absurd rfl other
      · intro one listed coordinates reads
        rcases among listed with before | rfl
        · exact filed.placed one before coordinates reads
        · rw [found] at reads
          cases reads
      · intro key target there one listed
        obtain ⟨before, reads⟩ := filed.members key target there one listed
        exact ⟨List.mem_append_left _ before, reads⟩
      · intro id result there
        simp only [KeyedTable.get?_set] at there
        split at there
        · rename_i same
          cases there
          exact ⟨same.symm, rfl⟩
        · exact filed.failed id result there
  | some coordinates =>
      -- the targets with the delivery at its key, whatever else the target says
      have place (target : TelegramEditTarget)
          (same : target.toMessageCoordinates = coordinates)
          (has : delivery ∈ target.deliveries)
          (keeps : ∀ old, tables.2.get? (targetKey coordinates) = some old →
            ∀ one ∈ old.deliveries, one ∈ target.deliveries)
          (only : ∀ one ∈ target.deliveries, one = delivery ∨
            ∃ old, tables.2.get? (targetKey coordinates) = some old ∧ one ∈ old.deliveries) :
          Filed (seen ++ [delivery]) (tables.1, tables.2.set (targetKey coordinates) target) := by
        refine ⟨?_, ?_, ?_, ?_, filed.failed⟩
        · intro one listed unread
          rcases among listed with before | rfl
          · exact filed.malformed one before unread
          · rw [found] at unread
            cases unread
        · intro one listed other reads
          simp only [KeyedTable.get?_set]
          rcases among listed with before | rfl
          · obtain ⟨old, there, member⟩ := filed.placed one before other reads
            split
            · rename_i sameKey
              rw [sameKey] at there
              exact ⟨target, rfl, keeps old there one member⟩
            · exact ⟨old, there, member⟩
          · rw [found] at reads
            cases reads
            rw [if_pos rfl]
            exact ⟨target, rfl, has⟩
        · intro key other there
          simp only [KeyedTable.get?_set] at there
          split at there
          · rename_i sameKey
            cases there
            rw [sameKey, same]
          · exact filed.keyed key other there
        · intro key other there one listed
          simp only [KeyedTable.get?_set] at there
          split at there
          · cases there
            rcases only one listed with rfl | ⟨old, was, member⟩
            · exact ⟨List.mem_append_right _ List.mem_cons_self, by rw [found, same]⟩
            · obtain ⟨before, reads⟩ := filed.members _ old was one member
              have sameMessage := targetKey_injective (filed.keyed _ old was)
              rw [← sameMessage, ← same] at reads
              exact ⟨List.mem_append_left _ before, reads⟩
          · obtain ⟨before, reads⟩ := filed.members key other there one listed
            exact ⟨List.mem_append_left _ before, reads⟩
      cases existing : tables.2.get? (targetKey coordinates) with
      | some old =>
          simp only [existing]
          refine place _ ?_ ?_ ?_ ?_
          · exact (targetKey_injective (filed.keyed _ old existing)).symm
          · exact List.mem_append_right _ List.mem_cons_self
          · intro other there one listed
            rw [existing] at there
            cases there
            exact List.mem_append_left _ listed
          · intro one listed
            rcases List.mem_append.mp listed with before | last
            · exact Or.inr ⟨old, existing, before⟩
            · exact Or.inl (List.mem_singleton.mp last)
      | none =>
          simp only [existing]
          refine place _ rfl List.mem_cons_self ?_ ?_
          · intro other there
            rw [existing] at there
            cases there
          · intro one listed
            exact Or.inl (List.mem_singleton.mp listed)

theorem filed_foldl (deliveries : List PresentedDelivery) {seen : List PresentedDelivery}
    {tables : PresentationResults × TelegramTargets} (filed : Filed seen tables) :
    Filed (seen ++ deliveries) (deliveries.foldl addDelivery tables) := by
  induction deliveries generalizing seen tables with
  | nil =>
      rw [List.append_nil]
      exact filed
  | cons delivery rest inductionHypothesis =>
      have next := inductionHypothesis (filed.add delivery)
      rw [List.append_assoc] at next
      exact next

theorem TelegramPresentation.filed_tables (call : TelegramPresentation) :
    Filed call.sent call.tables := by
  have none : Filed [] (KeyedTable.empty, KeyedTable.empty) :=
    { malformed := fun _ listed => absurd listed List.not_mem_nil
      placed := fun _ listed => absurd listed List.not_mem_nil
      keyed := fun _ _ there => by cases there
      members := fun _ _ there => by cases there
      failed := fun _ _ there => by cases there }
  exact filed_foldl call.sent none

/-! ### Failed results -/

/-- Nothing but failed results was written, and none was taken away. -/
structure FailsOnly (old new : PresentationResults) : Prop where
  keeps : ∀ id, (old.get? id).isSome → (new.get? id).isSome
  fails : ∀ id result, new.get? id = some result →
    old.get? id = some result ∨ (result.deliveryId = id ∧ result.status = .failed)

theorem FailsOnly.refl (results : PresentationResults) : FailsOnly results results :=
  { keeps := fun _ there => there
    fails := fun _ _ there => Or.inl there }

theorem FailsOnly.trans {first second third : PresentationResults}
    (early : FailsOnly first second) (late : FailsOnly second third) : FailsOnly first third :=
  { keeps := fun id there => late.keeps id (early.keeps id there)
    fails := fun id result there =>
      (late.fails id result there).elim (early.fails id result) Or.inr }

theorem failsOnly_setTarget (results : PresentationResults) (target : TelegramEditTarget)
    (error : Option String) :
    FailsOnly results (setTargetPresentationResult results target .failed error) := by
  refine ⟨fun id there => isSome_setTarget (Or.inl there), ?_⟩
  intro id result there
  rw [get?_setTarget] at there
  split at there
  · cases there
    exact Or.inr ⟨rfl, rfl⟩
  · exact Or.inl there

theorem failsOnly_foldl {Item : Type} {write : PresentationResults → Item → PresentationResults}
    (each : ∀ results item, FailsOnly results (write results item)) (items : List Item)
    (results : PresentationResults) : FailsOnly results (items.foldl write results) := by
  induction items generalizing results with
  | nil => exact FailsOnly.refl results
  | cons item rest inductionHypothesis =>
      exact (each results item).trans (inductionHypothesis (write results item))

theorem isSome_foldl {Item : Type} {write : PresentationResults → Item → PresentationResults}
    (each : ∀ results item, FailsOnly results (write results item)) {items : List Item} {item : Item}
    (listed : item ∈ items) {id : String} (writes : ∀ results, ((write results item).get? id).isSome)
    (results : PresentationResults) : ((items.foldl write results).get? id).isSome := by
  induction items generalizing results with
  | nil => exact absurd listed List.not_mem_nil
  | cons first rest inductionHypothesis =>
      rw [List.foldl_cons]
      rcases List.mem_cons.mp listed with rfl | later
      · exact (failsOnly_foldl each rest _).keeps id (writes results)
      · exact inductionHypothesis later (write results first)

theorem failsOnly_failAll (state : TelegramSync) (error : String) :
    FailsOnly state.results (TelegramPresentation.failAll state error) :=
  failsOnly_foldl (fun results target => failsOnly_setTarget results target (some error))
    state.targets.values state.results

theorem failsOnly_late (completed : List String) (results : PresentationResults)
    (entry : String × TelegramEditTarget) :
    FailsOnly results (if entry.1 ∈ completed then results
      else setTargetPresentationResult results entry.2 .failed
        (some "Telegram editMessageText timed out after 3000ms.")) := by
  split
  · exact FailsOnly.refl results
  · exact failsOnly_setTarget results entry.2 _

theorem failsOnly_failLate (state : TelegramSync) :
    FailsOnly state.results (TelegramPresentation.failLate state) :=
  failsOnly_foldl (failsOnly_late state.completed) state.targets.entries state.results

/-! ### What holds in every state -/

/-- The result of a delivery; an updated one only after the edit of its message succeeded. -/
structure Reports (succeeded : List MessageCoordinates) (delivery : PresentedDelivery)
    (result : ApprovalPresentationResult) : Prop where
  named : result.deliveryId = delivery.id
  honest : result.status = .updated → ∃ coordinates,
    telegramDeliveryCoordinates delivery = some coordinates ∧ coordinates ∈ succeeded

namespace TelegramPresentation

variable (call : TelegramPresentation)

/-- Deliveries with one id are deliveries of one message. -/
def OneMessageEach : Prop :=
  ∀ left ∈ call.sent, ∀ right ∈ call.sent, left.id = right.id →
    telegramDeliveryCoordinates left = telegramDeliveryCoordinates right

/-- The results say `updated` only where an edit succeeded. -/
def Honest (succeeded : List MessageCoordinates) (results : PresentationResults) : Prop :=
  ∀ id result, results.get? id = some result → result.status = .updated →
    ∃ delivery ∈ call.sent, delivery.id = id ∧ ∃ coordinates,
      telegramDeliveryCoordinates delivery = some coordinates ∧ coordinates ∈ succeeded

def PhaseSound (state : TelegramSync) : Prop :=
  match state.phase with
  | .configuring race =>
      state.requests = [] ∧ ∀ error, race = .settled (.failed error) → error.text.isSome
  | .editing race =>
      race ≠ .threw ∧ (race = .completed → ∀ key target,
        state.targets.get? key = some target → key ∈ state.completed)
  | .returned results => List.Forall₂ (Reports state.succeeded) call.sent results
  | .rejected => False

structure Sound (state : TelegramSync) : Prop where
  targets : state.targets = call.tables.2
  named : ∀ id result, state.results.get? id = some result → result.deliveryId = id
  honest : state.phase.ended = false → call.Honest state.succeeded state.results
  malformed : ∀ delivery ∈ call.sent, telegramDeliveryCoordinates delivery = none →
    (state.results.get? delivery.id).isSome
  done : ∀ key ∈ state.completed, ∀ target, state.targets.get? key = some target →
    ∀ delivery ∈ target.deliveries, (state.results.get? delivery.id).isSome
  requested : state.requests = [] ∨ state.requests = state.targets.values.map call.request
  phase : call.PhaseSound state

variable {call}

theorem reports_inOrder (one : call.OneMessageEach) {results : PresentationResults}
    {succeeded : List MessageCoordinates}
    (named : ∀ id result, results.get? id = some result → result.deliveryId = id)
    (honest : call.Honest succeeded results)
    (all : ∀ delivery ∈ call.sent, (results.get? delivery.id).isSome) :
    List.Forall₂ (Reports succeeded) call.sent
      (presentationResultsInDeliveryOrder call.sent results) := by
  have each : ∀ delivery ∈ call.sent, ∃ result, results.get? delivery.id = some result ∧
      Reports succeeded delivery result := by
    intro delivery listed
    obtain ⟨result, found⟩ := Option.isSome_iff_exists.mp (all delivery listed)
    refine ⟨result, found, named _ result found, ?_⟩
    intro updated
    obtain ⟨other, among, sameId, coordinates, reads, edited⟩ :=
      honest delivery.id result found updated
    refine ⟨coordinates, ?_, edited⟩
    rw [one delivery listed other among sameId.symm, reads]
  unfold presentationResultsInDeliveryOrder
  generalize call.sent = deliveries at each
  induction deliveries with
  | nil => exact .nil
  | cons delivery rest inductionHypothesis =>
      rw [List.forall_mem_cons] at each
      obtain ⟨⟨result, found, reports⟩, later⟩ := each
      rw [List.filterMap_cons, found]
      exact .cons reports (inductionHypothesis later)

theorem Sound.returns {state : TelegramSync} (sound : call.Sound state)
    (one : call.OneMessageEach) (waiting : state.phase.ended = false)
    {results : PresentationResults} (fails : FailsOnly state.results results)
    (all : ∀ key target, state.targets.get? key = some target → ∀ delivery ∈ target.deliveries,
      (results.get? delivery.id).isSome) : call.Sound (call.returns state results) := by
  have named : ∀ id result, results.get? id = some result → result.deliveryId = id := by
    intro id result found
    rcases fails.fails id result found with before | ⟨same, -⟩
    · exact sound.named id result before
    · exact same
  have honest : call.Honest state.succeeded results := by
    intro id result found updated
    rcases fails.fails id result found with before | ⟨-, failed⟩
    · exact sound.honest waiting id result before updated
    · rw [failed] at updated
      cases updated
  have complete : ∀ delivery ∈ call.sent, (results.get? delivery.id).isSome := by
    intro delivery listed
    cases reads : telegramDeliveryCoordinates delivery with
    | none => exact fails.keeps _ (sound.malformed delivery listed reads)
    | some coordinates =>
        obtain ⟨target, there, member⟩ :=
          call.filed_tables.placed delivery listed coordinates reads
        rw [← sound.targets] at there
        exact all _ target there delivery member
  exact
    { targets := sound.targets
      named := named
      honest := fun still => absurd still (by simp [TelegramPresentation.returns,
        TelegramPhase.ended])
      malformed := fun delivery listed _ => complete delivery listed
      done := fun key listed target there delivery member =>
        fails.keeps _ (sound.done key listed target there delivery member)
      requested := sound.requested
      phase := reports_inOrder one named honest complete }

theorem Sound.failAll {state : TelegramSync} (sound : call.Sound state)
    (one : call.OneMessageEach) (waiting : state.phase.ended = false) (error : String) :
    call.Sound (call.returns state (failAll state error)) := by
  refine sound.returns one waiting (failsOnly_failAll state error) ?_
  intro key target there delivery member
  have listed : target ∈ state.targets.values :=
    (state.targets.mem_values_iff target).mpr ⟨key, there⟩
  exact isSome_foldl (fun results target => failsOnly_setTarget results target (some error)) listed
    (fun results => isSome_setTarget (Or.inr ⟨delivery, member, rfl⟩)) state.results

theorem Sound.failLate {state : TelegramSync} (sound : call.Sound state)
    (one : call.OneMessageEach) (waiting : state.phase.ended = false) :
    call.Sound (call.returns state (failLate state)) := by
  refine sound.returns one waiting (failsOnly_failLate state) ?_
  intro key target there delivery member
  by_cases ended : key ∈ state.completed
  · exact (failsOnly_failLate state).keeps _ (sound.done key ended target there delivery member)
  · have listed := (state.targets.get?_eq_some_iff key target).mp there
    refine isSome_foldl (failsOnly_late state.completed) listed ?_ state.results
    intro results
    simp only [if_neg ended]
    exact isSome_setTarget (Or.inr ⟨delivery, member, rfl⟩)

/-! ### Steps -/

/-- An error that comes up has a text, so that a result can be made of it. -/
def Renders : TelegramAct → Prop
  | .configured (.failed error) => error.text.isSome
  | .edited _ (.failed error) => error.aborts = true ∨ error.text.isSome
  | _ => True

theorem Sound.resume {state next : TelegramSync} (sound : call.Sound state)
    (one : call.OneMessageEach) (taken : call.resume state = some next) : call.Sound next := by
  have phase := sound.phase
  unfold PhaseSound at phase
  unfold TelegramPresentation.resume at taken
  cases current : state.phase with
  | configuring race =>
      have waiting : state.phase.ended = false := by rw [current]; rfl
      rw [current] at phase taken
      cases race with
      | «open» => cases taken
      | timedOut =>
          cases taken
          exact sound.failAll one waiting _
      | settled outcome =>
          cases outcome with
          | failed error =>
              obtain ⟨text, has⟩ := Option.isSome_iff_exists.mp (phase.2 error rfl)
              simp only [has] at taken
              cases taken
              exact sound.failAll one waiting _
          | resolved config =>
              cases config with
              | none =>
                  cases taken
                  exact sound.failAll one waiting _
              | some config =>
                  cases taken
                  exact
                    { targets := sound.targets
                      named := sound.named
                      honest := fun _ => sound.honest waiting
                      malformed := sound.malformed
                      done := sound.done
                      requested := Or.inr (by rw [phase.1, List.nil_append])
                      phase := by
                        refine ⟨EditRace.noConfusion, ?_⟩
                        intro completed
                        cases completed }
  | editing race =>
      have waiting : state.phase.ended = false := by rw [current]; rfl
      rw [current] at phase taken
      cases race with
      | «open» => cases taken
      | timedOut =>
          cases taken
          exact sound.failLate one waiting
      | completed =>
          cases taken
          refine sound.returns one waiting (FailsOnly.refl _) ?_
          intro key target there
          exact sound.done key (phase.2 rfl key target there) target there
      | threw => exact absurd rfl phase.1
  | returned results =>
      rw [current] at taken
      cases taken
  | rejected =>
      rw [current] at taken
      cases taken

variable [Runtime]

/-- An edit that does not succeed ends with an abort or an error that has a text. -/
theorem editError_renders {nearest : JsonNumber → Option JsonNumber} {key : String}
    {answer : EditAnswer} (renders : Renders (.edited key answer)) {error : Rejection}
    (fails : editApprovalMessage nearest answer = .error error) :
    error.aborts = true ∨ error.text.isSome := by
  cases answer with
  | failed thrown =>
      cases fails
      exact renders
  | response ok status text =>
      right
      simp only [editApprovalMessage] at fails
      split at fails
      · cases fails
      · cases modified : isMessageNotModified
            (parseTelegramSendMessageBody nearest text).description with
        | error thrown =>
            rw [modified] at fails
            cases fails
            unfold isMessageNotModified at modified
            split at modified
            · cases modified
            · cases modified
            · cases modified
            · cases modified
              rfl
        | ok same =>
            rw [modified] at fails
            cases same with
            | true => cases fails
            | false =>
                cases fails
                rfl

omit [Runtime] in
theorem Sound.edit {state : TelegramSync} (sound : call.Sound state) {key : String}
    {target : TelegramEditTarget} (there : state.targets.get? key = some target)
    {succeeded : List MessageCoordinates}
    (grows : ∀ coordinates ∈ state.succeeded, coordinates ∈ succeeded)
    (ended : state.phase.ended = true → succeeded = state.succeeded)
    (status : PresentationStatus) (updated : state.phase.ended = false → status = .updated →
      target.toMessageCoordinates ∈ succeeded) (error : Option String) :
    call.Sound { state with
      completed := key :: state.completed
      results := setTargetPresentationResult state.results target status error
      succeeded := succeeded } := by
  refine
    { targets := sound.targets
      named := ?_
      honest := ?_
      malformed := fun delivery listed reads =>
        isSome_setTarget (Or.inl (sound.malformed delivery listed reads))
      done := ?_
      requested := sound.requested
      phase := ?_ }
  · intro id result found
    rw [get?_setTarget] at found
    split at found
    · cases found
      rfl
    · exact sound.named id result found
  · intro waiting id result found isUpdated
    rw [get?_setTarget] at found
    split at found
    · rename_i listed
      cases found
      obtain ⟨delivery, member, rfl⟩ := List.mem_map.mp listed
      rw [sound.targets] at there
      obtain ⟨among, reads⟩ := call.filed_tables.members key target there delivery member
      exact ⟨delivery, among, rfl, _, reads, updated waiting isUpdated⟩
    · obtain ⟨delivery, among, same, coordinates, reads, edited⟩ :=
        sound.honest waiting id result found isUpdated
      exact ⟨delivery, among, same, coordinates, reads, grows coordinates edited⟩
  · intro other listed others found delivery member
    rcases List.mem_cons.mp listed with rfl | before
    · rw [there] at found
      cases found
      exact isSome_setTarget (Or.inr ⟨delivery, member, rfl⟩)
    · exact isSome_setTarget (Or.inl (sound.done other before others found delivery member))
  · have phase := sound.phase
    unfold PhaseSound at phase ⊢
    cases current : state.phase with
    | configuring race =>
        rw [current] at phase
        exact phase
    | editing race =>
        rw [current] at phase
        refine ⟨phase.1, ?_⟩
        intro completed other others found
        exact List.mem_cons_of_mem _ (phase.2 completed other others found)
    | returned results =>
        rw [current] at phase ended
        rw [ended rfl]
        exact phase
    | rejected =>
        rw [current] at phase
        exact phase

theorem Sound.finishEdit {state : TelegramSync} (sound : call.Sound state) {key : String}
    {target : TelegramEditTarget} (there : state.targets.get? key = some target)
    (config : TelegramServiceConfig) {answer : EditAnswer}
    (renders : Renders (.edited key answer)) :
    call.Sound (call.finishEdit state config key target answer) := by
  have failed (error : Option String) := sound.edit there (fun _ listed => listed)
    (fun _ => rfl) .failed (fun _ isUpdated => by cases isUpdated) error
  unfold TelegramPresentation.finishEdit
  cases comes : editApprovalMessage call.nearest answer with
  | ok done =>
      refine sound.edit there ?_ ?_ .updated ?_ none
      · intro coordinates listed
        split
        · exact listed
        · exact List.mem_cons_of_mem _ listed
      · exact fun ended => if_pos ended
      · intro waiting _
        rw [if_neg (by rw [waiting]; exact Bool.false_ne_true)]
        exact List.mem_cons_self
  | error error =>
      by_cases aborts : error.aborts = true
      · simp only [aborts, if_true]
        exact failed _
      · rcases editError_renders renders comes with abort | text
        · exact absurd abort aborts
        · obtain ⟨text, has⟩ := Option.isSome_iff_exists.mp text
          simp only [aborts, has]
          exact failed _

theorem Sound.step {state next : TelegramSync} (sound : call.Sound state)
    (one : call.OneMessageEach) {act : TelegramAct} (renders : Renders act)
    (taken : call.step state act = some next) : call.Sound next := by
  have phase := sound.phase
  unfold PhaseSound at phase
  cases act with
  | configured outcome =>
      simp only [TelegramPresentation.step] at taken
      split at taken
      · rename_i current
        rw [current] at phase
        cases taken
        exact
          { targets := sound.targets
            named := sound.named
            honest := fun _ => sound.honest (by rw [current]; rfl)
            malformed := sound.malformed
            done := sound.done
            requested := sound.requested
            phase := by
              refine ⟨phase.1, ?_⟩
              intro error same
              cases same
              exact renders }
      · cases taken
  | deadline =>
      simp only [TelegramPresentation.step] at taken
      split at taken
      · rename_i current
        rw [current] at phase
        cases taken
        exact
          { targets := sound.targets
            named := sound.named
            honest := fun _ => sound.honest (by rw [current]; rfl)
            malformed := sound.malformed
            done := sound.done
            requested := sound.requested
            phase := by
              refine ⟨phase.1, ?_⟩
              intro error same
              cases same }
      · rename_i current
        cases taken
        exact
          { targets := sound.targets
            named := sound.named
            honest := fun _ => sound.honest (by rw [current]; rfl)
            malformed := sound.malformed
            done := sound.done
            requested := sound.requested
            phase := by
              refine ⟨EditRace.noConfusion, ?_⟩
              intro same
              cases same }
      · cases taken
  | edited key answer =>
      simp only [TelegramPresentation.step] at taken
      split at taken
      · rename_i config target _ there
        split at taken
        · cases taken
        · cases taken
          exact sound.finishEdit there config renders
      · cases taken
  | allEdited =>
      simp only [TelegramPresentation.step] at taken
      split at taken
      · rename_i current
        split at taken
        · rename_i all
          cases taken
          exact
            { targets := sound.targets
              named := sound.named
              honest := fun _ => sound.honest (by rw [current]; rfl)
              malformed := sound.malformed
              done := sound.done
              requested := sound.requested
              phase := by
                refine ⟨EditRace.noConfusion, ?_⟩
                intro _ key target there
                have listed := (state.targets.get?_eq_some_iff key target).mp there
                exact of_decide_eq_true (List.all_eq_true.mp all (key, target) listed) }
        · cases taken
      · cases taken
  | resume => exact sound.resume one taken

theorem Sound.run {state final : TelegramSync} (sound : call.Sound state)
    (one : call.OneMessageEach) {acts : List TelegramAct} (renders : ∀ act ∈ acts, Renders act)
    (ran : call.run state acts = some final) : call.Sound final := by
  induction acts generalizing state with
  | nil =>
      cases ran
      exact sound
  | cons act rest inductionHypothesis =>
      rw [List.forall_mem_cons] at renders
      obtain ⟨next, taken, later⟩ := Option.bind_eq_some_iff.mp ran
      exact inductionHypothesis (sound.step one renders.1 taken) renders.2 later

omit [Runtime] in
theorem sound_start (terminal : call.approvalStatus ≠ .pending) (one : call.OneMessageEach) :
    call.Sound call.start := by
  have honest (succeeded : List MessageCoordinates) : call.Honest succeeded call.tables.1 := by
    intro id result found updated
    rw [(call.filed_tables.failed id result found).2] at updated
    cases updated
  refine
    { targets := rfl
      named := fun id result found => (call.filed_tables.failed id result found).1
      honest := fun _ => honest []
      malformed := call.filed_tables.malformed
      done := fun _ listed => absurd listed List.not_mem_nil
      requested := Or.inl rfl
      phase := ?_ }
  unfold PhaseSound start
  by_cases none : call.sent = []
  · simp only [none, List.isEmpty_nil, Bool.true_or, if_true]
    exact .nil
  · have undecided : (call.sent.isEmpty || decide (call.approvalStatus = .pending)) = false := by
      rw [Bool.or_eq_false_iff, decide_eq_false_iff_not, List.isEmpty_eq_false_iff]
      exact ⟨none, terminal⟩
    simp only [undecided, Bool.false_eq_true, if_false]
    cases targets : call.tables.2.entries.isEmpty with
    | true =>
        simp only [if_true]
        refine reports_inOrder one
          (fun id result found => (call.filed_tables.failed id result found).1) (honest []) ?_
        intro delivery listed
        cases reads : telegramDeliveryCoordinates delivery with
        | none => exact call.filed_tables.malformed delivery listed reads
        | some coordinates =>
            obtain ⟨target, there, -⟩ :=
              call.filed_tables.placed delivery listed coordinates reads
            have entry := (call.tables.2.get?_eq_some_iff _ _).mp there
            rw [List.isEmpty_iff.mp targets] at entry
            exact absurd entry List.not_mem_nil
    | false =>
        simp only [Bool.false_eq_true, if_false]
        refine ⟨trivial, ?_⟩
        intro error same
        cases same

/-! ### Reports -/

omit [Runtime] in
theorem Sound.once {state : TelegramSync} (sound : call.Sound state) :
    (state.requests.map (fun request => request.toMessageCoordinates)).Nodup := by
  rcases sound.requested with none | all
  · rw [none]
    exact List.nodup_nil
  · have keys := state.targets.distinct
    rw [all, KeyedTable.values, List.map_map, List.map_map]
    have same : state.targets.entries.map Prod.fst =
        (state.targets.entries.map (fun entry => entry.2.toMessageCoordinates)).map targetKey := by
      rw [List.map_map]
      apply List.map_congr_left
      intro entry listed
      have there := (state.targets.get?_eq_some_iff entry.1 entry.2).mpr listed
      rw [sound.targets] at there
      exact call.filed_tables.keyed entry.1 entry.2 there
    rw [same] at keys
    exact keys.of_map

/-- The call ends by itself, at the deadline at the latest. -/
def Ends (call : TelegramPresentation) (state : TelegramSync) : Prop :=
  ∃ later, (∀ act ∈ later, act = .deadline ∨ act = .resume) ∧
    ∃ final results, call.run state later = some final ∧ final.phase = .returned results

theorem ends_returns {state : TelegramSync} {results : PresentationResults}
    (taken : call.resume state = some (call.returns state results)) : call.Ends state := by
  refine ⟨[.resume], fun act listed => Or.inr (List.mem_singleton.mp listed),
    call.returns state results, presentationResultsInDeliveryOrder call.sent results, ?_, rfl⟩
  rw [run, step, taken]
  rfl

theorem Ends.before {state next : TelegramSync} (ends : call.Ends next) {act : TelegramAct}
    (own : act = .deadline ∨ act = .resume) (taken : call.step state act = some next) :
    call.Ends state := by
  obtain ⟨later, all, final, results, ran, returned⟩ := ends
  refine ⟨act :: later, List.forall_mem_cons.mpr ⟨own, all⟩, final, results, ?_, returned⟩
  rw [run, taken]
  exact ran

theorem ends_editing {state : TelegramSync} (current : state.phase = .editing .open) :
    call.Ends state := by
  have taken : call.step state .deadline = some { state with phase := .editing .timedOut } := by
    simp only [step, current]
  have resumed : call.Ends { state with phase := .editing .timedOut } := ends_returns rfl
  exact resumed.before (Or.inl rfl) taken

theorem Sound.ends {state : TelegramSync} (sound : call.Sound state) : call.Ends state := by
  have phase := sound.phase
  unfold PhaseSound at phase
  cases current : state.phase with
  | configuring race =>
      rw [current] at phase
      cases race with
      | «open» =>
          have taken : call.step state .deadline =
              some { state with phase := .configuring .timedOut } := by
            simp only [TelegramPresentation.step, current]
          have resumed : call.Ends { state with phase := .configuring .timedOut } :=
            ends_returns rfl
          exact resumed.before (Or.inl rfl) taken
      | timedOut =>
          have taken : call.resume state = some (call.returns state
              (TelegramPresentation.failAll state
                "Telegram presentation update timed out after 3000ms.")) := by
            simp only [TelegramPresentation.resume, current]
          exact ends_returns taken
      | settled outcome =>
          cases outcome with
          | failed error =>
              obtain ⟨text, has⟩ := Option.isSome_iff_exists.mp (phase.2 error rfl)
              have taken : call.resume state = some (call.returns state
                  (TelegramPresentation.failAll state (call.sanitized text none))) := by
                simp only [TelegramPresentation.resume, current, has]
              exact ends_returns taken
          | resolved config =>
              cases config with
              | none =>
                  have taken : call.resume state = some (call.returns state
                      (TelegramPresentation.failAll state
                        "Telegram is not fully configured.")) := by
                    simp only [TelegramPresentation.resume, current]
                  exact ends_returns taken
              | some config =>
                  have taken : call.step state .resume = some { state with
                      phase := .editing .open
                      config := some config
                      requests := state.requests ++ state.targets.values.map call.request } := by
                    simp only [TelegramPresentation.step, TelegramPresentation.resume, current]
                  exact (ends_editing rfl).before (Or.inr rfl) taken
  | editing race =>
      rw [current] at phase
      cases race with
      | «open» => exact ends_editing current
      | timedOut =>
          have taken : call.resume state =
              some (call.returns state (TelegramPresentation.failLate state)) := by
            simp only [TelegramPresentation.resume, current]
          exact ends_returns taken
      | completed =>
          have taken : call.resume state = some (call.returns state state.results) := by
            simp only [TelegramPresentation.resume, current]
          exact ends_returns taken
      | threw => exact absurd rfl phase.1
  | returned results =>
      exact ⟨[], fun act listed => absurd listed List.not_mem_nil, state, results, rfl, current⟩
  | rejected =>
      rw [current] at phase
      exact phase.elim

end TelegramPresentation

section

variable [Runtime]

/-- In every run in which each error that comes up has a text, a call for a decided approval
returns one result for each of its deliveries in their order, `updated` only where the edit of
the message had succeeded, and asks for at most one edit of each message. -/
theorem telegram_reports_complete {call : TelegramPresentation}
    (terminal : call.approvalStatus ≠ .pending) (one : call.OneMessageEach)
    {acts : List TelegramAct} (renders : ∀ act ∈ acts, TelegramPresentation.Renders act)
    {state : TelegramSync} (reached : call.run call.start acts = some state) :
    (∀ results, state.phase = .returned results →
        List.Forall₂ (Reports state.succeeded) call.sent results) ∧
      call.Ends state ∧
      (state.requests.map (fun request => request.toMessageCoordinates)).Nodup := by
  have sound := (TelegramPresentation.sound_start terminal one).run one renders reached
  refine ⟨?_, sound.ends, sound.once⟩
  intro results returned
  have phase := sound.phase
  unfold TelegramPresentation.PhaseSound at phase
  rw [returned] at phase
  exact phase

end

private def chatDelivery (id messageId : String) : PresentedDelivery :=
  { id := id
    approvalId := "approval_1"
    channelId := "telegram.default"
    destination := some "100"
    messageId := some messageId
    provider := .telegram
    status := .sent
    recipientTelegramChatId := none
    data := [] }

private def chatCall : TelegramPresentation :=
  { approvalStatus := .approved
    deliveries := [chatDelivery "d1" "7", chatDelivery "d2" "7", chatDelivery "d3" "x"]
    text := "Approved"
    nearest := some
    sanitized := fun text _ => text }

private def chatKey : String := targetKey { chatId := "100", messageId := 7 }

private def editedRun : List TelegramAct :=
  [ .configured (.resolved (some { botToken := "token" })), .resume,
    .edited chatKey (.response true 200 "\x7b\"ok\":true\x7d"), .allEdited, .resume ]

/-- Two deliveries share a message that was edited, a third has no message. -/
theorem telegram_reports_complete_chat :
    let _ := sampleRuntime []
    ∃ state results, chatCall.run chatCall.start editedRun = some state ∧
      state.phase = .returned results ∧
      List.Forall₂ (Reports state.succeeded) chatCall.sent results ∧
      results.map (fun result => result.status) = [.updated, .updated, .failed] := by
  intro _
  have terminal : chatCall.approvalStatus ≠ .pending := by decide
  have one : chatCall.OneMessageEach := by
    unfold TelegramPresentation.OneMessageEach
    decide +kernel
  have renders : ∀ act ∈ editedRun, TelegramPresentation.Renders act := by
    intro act listed
    simp only [editedRun, List.mem_cons, List.not_mem_nil, or_false] at listed
    rcases listed with rfl | rfl | rfl | rfl | rfl <;> trivial
  have phase : ((@TelegramPresentation.run chatCall (sampleRuntime []) chatCall.start
      editedRun).map (fun state => state.phase)) = some (.returned
        [ { deliveryId := "d1", error := none, status := .updated },
          { deliveryId := "d2", error := none, status := .updated },
          { deliveryId := "d3"
            error := some ("Telegram presentation update skipped: delivery has missing or " ++
              "malformed message coordinates.")
            status := .failed } ]) := by
    decide +kernel
  obtain ⟨state, reached, returned⟩ := Option.map_eq_some_iff.mp phase
  exact ⟨state, _, reached, returned,
    (@telegram_reports_complete (sampleRuntime []) chatCall terminal one editedRun renders state
      reached).1 _ returned, rfl⟩

private def unreadableRun : List TelegramAct :=
  [ .configured (.resolved (some { botToken := "token" })), .resume,
    .edited chatKey (.failed { aborts := false, text := none }), .resume ]

/-- A request that is rejected with a value that has no text: nothing is reported. -/
theorem unreadable_error_rejects :
    (@TelegramPresentation.run chatCall (sampleRuntime []) chatCall.start unreadableRun).map
        (fun state => state.phase) = some .rejected ∧
      chatCall.approvalStatus ≠ .pending ∧ chatCall.sent.length = 3 := by
  refine ⟨?_, by decide, by decide⟩
  decide +kernel

end ActionProxy
