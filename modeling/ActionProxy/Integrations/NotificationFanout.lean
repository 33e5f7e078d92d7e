import ActionProxy.Integrations.TelegramPresentation

/-!
How an approval is sent to its notification channels. Which channels are asked is found out
first, then each is asked; only the asking is guarded against a channel that fails.
-/

namespace ActionProxy

open JsonText

/-! ### Channels -/

structure NotificationChannel where
  channelId : String
  isDefault : Bool
  provider : ApprovalNotificationProvider
  deriving DecidableEq

/-- What a channel says of one delivery. -/
structure ChannelDelivery where
  data : Option JsonObject
  destination : Option String
  error : Option String
  messageId : Option String
  messageTs : Option String
  recipientEmail : Option String
  recipientSlackUserId : Option String
  recipientTelegramChatId : Option String
  recipientTelegramUserId : Option String
  recipientUserId : Option String
  status : ApprovalDeliveryStatus

structure ApprovalNotificationResult extends ChannelDelivery where
  channelId : String
  provider : ApprovalNotificationProvider

/-- A delivery that failed with an error, and nothing else. -/
def failedDelivery (error : String) : ChannelDelivery :=
  { data := none, destination := none, error := some error, messageId := none, messageTs := none
    recipientEmail := none, recipientSlackUserId := none, recipientTelegramChatId := none
    recipientTelegramUserId := none, recipientUserId := none, status := .failed }

def failedResult (channelId : String) (provider : ApprovalNotificationProvider) (error : String) :
    ApprovalNotificationResult :=
  { failedDelivery error with channelId := channelId, provider := provider }

def providerFromChannelId (channelId : String) : ApprovalNotificationProvider :=
  if TextScan.startsWith channelId "email." then .email
  else if TextScan.startsWith channelId "telegram." then .telegram
  else .slack

/-- The channels and requested names of a call, and what each channel answers when it comes to
its place: the answers of one channel at two places may differ. -/
structure NotificationCall where
  channels : List NotificationChannel
  requested : Option (List String)
  isEnabled : Nat → NotificationChannel → Except Rejection Bool
  notify : Nat → NotificationChannel → Except Rejection (List ChannelDelivery)

inductive NotificationTarget where
  | result (result : ApprovalNotificationResult)
  | channel (place : Nat) (channel : NotificationChannel)

namespace NotificationCall

variable (call : NotificationCall)

/-- The channels by id; of two with one id the later is kept. -/
def table : KeyedTable String NotificationChannel :=
  call.channels.foldl (fun table channel => table.set channel.channelId channel) KeyedTable.empty

def explicitChannels : List String :=
  ((call.requested.getD []).map TextScan.trim).filter (fun name => decide (name ≠ ""))

def defaultTargets : Nat → List NotificationChannel → Except Rejection (List NotificationTarget)
  | _, [] => .ok []
  | place, channel :: rest =>
      if channel.isDefault then do
        let enabled ← call.isEnabled place channel
        let targets ← defaultTargets (place + 1) rest
        .ok (if enabled then .channel place channel :: targets else targets)
      else defaultTargets (place + 1) rest

def explicitTargets : Nat → List String → Except Rejection (List NotificationTarget)
  | _, [] => .ok []
  | place, channelId :: rest =>
      match call.table.get? channelId with
      | none => do
          let targets ← explicitTargets (place + 1) rest
          .ok (.result (failedResult channelId (providerFromChannelId channelId)
            ("Unknown approval notification channel: " ++ channelId)) :: targets)
      | some channel => do
          let enabled ← call.isEnabled place channel
          let targets ← explicitTargets (place + 1) rest
          .ok ((if enabled then .channel place channel
            else .result (failedResult channelId channel.provider
              ("Approval notification channel is disabled or not fully configured: " ++
                channelId))) :: targets)

/-- The ids of the channels that are asked, and the results of all targets. -/
def deliver : List NotificationTarget →
    List String × Except Rejection (List ApprovalNotificationResult)
  | [] => ([], .ok [])
  | .result result :: rest =>
      let later := deliver rest
      (later.1, later.2.map (result :: ·))
  | .channel place channel :: rest =>
      match call.notify place channel with
      | .ok deliveries =>
          let later := deliver rest
          (channel.channelId :: later.1, later.2.map (deliveries.map (fun delivery =>
            { delivery with channelId := channel.channelId, provider := channel.provider }) ++ ·))
      | .error error =>
          match error.text with
          | some text =>
              let later := deliver rest
              (channel.channelId :: later.1,
                later.2.map (failedResult channel.channelId channel.provider text :: ·))
          | none => ([channel.channelId], .error error)

def targets : Except Rejection (List NotificationTarget) :=
  if call.explicitChannels = [] then call.defaultTargets 0 call.table.values
  else call.explicitTargets 0 call.explicitChannels

def notifyApprovalRequired : List String × Except Rejection (List ApprovalNotificationResult) :=
  match call.targets with
  | .error error => ([], .error error)
  | .ok targets => call.deliver targets

end NotificationCall

/-! ### Places -/

/-- A place of the loop over channels or names. -/
structure NotificationPlace where
  place : Nat
  name : String
  channel : Option NotificationChannel
  deriving DecidableEq

namespace NotificationCall

variable (call : NotificationCall)

def defaultPlaces : Nat → List NotificationChannel → List NotificationPlace
  | _, [] => []
  | place, channel :: rest =>
      if channel.isDefault then
        { place := place, name := channel.channelId, channel := some channel } ::
          defaultPlaces (place + 1) rest
      else defaultPlaces (place + 1) rest

def explicitPlaces : Nat → List String → List NotificationPlace
  | _, [] => []
  | place, name :: rest =>
      { place := place, name := name, channel := call.table.get? name } ::
        explicitPlaces (place + 1) rest

def places : List NotificationPlace :=
  if call.explicitChannels = [] then defaultPlaces 0 call.table.values
  else call.explicitPlaces 0 call.explicitChannels

/-- The channel of the place is there and enabled when it is asked. -/
def Enabled (place : NotificationPlace) : Prop :=
  ∃ channel, place.channel = some channel ∧ call.isEnabled place.place channel = .ok true

/-- The channel of the place is unknown, disabled or fails. -/
def Fails (place : NotificationPlace) : Prop :=
  place.channel = none ∨ ∃ channel, place.channel = some channel ∧
    (call.isEnabled place.place channel ≠ .ok true ∨
      ∃ error, call.notify place.place channel = .error error)

/-- A channel that is enabled there answers with no delivery. -/
def Silent (place : NotificationPlace) : Prop :=
  ∃ channel, place.channel = some channel ∧ call.isEnabled place.place channel = .ok true ∧
    call.notify place.place channel = .ok []

/-- The call resolves, every target channel that is enabled is asked once and no other channel
is, and each requested name has a result, a failed one where its channel fails. -/
def Isolated : Prop :=
  ∃ results, call.notifyApprovalRequired.2 = .ok results ∧
    (∀ id, call.notifyApprovalRequired.1.count id ≤ 1 ∧
      (id ∈ call.notifyApprovalRequired.1 ↔
        ∃ place ∈ call.places, place.name = id ∧ call.Enabled place)) ∧
    ∀ name ∈ call.explicitChannels,
      (∃ result ∈ results, result.channelId = name) ∧
        ((∃ place ∈ call.places, place.name = name ∧ call.Fails place) →
          ∃ result ∈ results, result.channelId = name ∧ result.status = .failed)

/-- The channels answer so that nothing gets in the way of another. -/
structure Answers : Prop where
  /-- No question whether a channel is enabled is rejected. -/
  questions : ∀ place ∈ call.places, ∀ channel, place.channel = some channel →
    ∃ enabled, call.isEnabled place.place channel = .ok enabled
  /-- What a channel is rejected with has a text. -/
  errors : ∀ place ∈ call.places, ∀ channel, place.channel = some channel →
    call.isEnabled place.place channel = .ok true → ∀ error,
      call.notify place.place channel = .error error → error.text.isSome
  /-- No channel is enabled at two places. -/
  once : ∀ first ∈ call.places, ∀ second ∈ call.places, first.name = second.name →
    call.Enabled first → call.Enabled second → first.place = second.place
  /-- Each requested name has a place where its channel is not silent. -/
  spoken : ∀ name ∈ call.explicitChannels,
    ∃ place ∈ call.places, place.name = name ∧ ¬ call.Silent place

/-! ### Targets of places -/

/-- The question about the place's channel is answered. -/
def Answered (place : NotificationPlace) : Prop :=
  ∀ channel, place.channel = some channel →
    ∃ enabled, call.isEnabled place.place channel = .ok enabled

/-- The target a place adds, if its question is answered. -/
def targetAt (explicit : Bool) (place : NotificationPlace) : Option NotificationTarget :=
  match place.channel with
  | none => some (.result (failedResult place.name (providerFromChannelId place.name)
      ("Unknown approval notification channel: " ++ place.name)))
  | some channel =>
      match call.isEnabled place.place channel with
      | .ok true => some (.channel place.place channel)
      | .ok false =>
          if explicit then
            some (.result (failedResult place.name channel.provider
              ("Approval notification channel is disabled or not fully configured: " ++
                place.name)))
          else none
      | .error _ => none

theorem explicitTargets_result (place : Nat) (names : List String) :
    ((∀ found ∈ call.explicitPlaces place names, call.Answered found) ∧
        call.explicitTargets place names =
          .ok ((call.explicitPlaces place names).filterMap (call.targetAt true))) ∨
      (¬ ∀ found ∈ call.explicitPlaces place names, call.Answered found) ∧
        ∃ error, call.explicitTargets place names = .error error := by
  induction names generalizing place with
  | nil => exact .inl ⟨by simp [explicitPlaces], rfl⟩
  | cons name rest ih =>
      rw [explicitPlaces, explicitTargets, List.forall_mem_cons]
      cases known : call.table.get? name with
      | none =>
          have answered : call.Answered { place := place, name := name, channel := none } := by
            intro channel found
            cases found
          rcases ih (place + 1) with ⟨rests, result⟩ | ⟨unanswered, error, result⟩
          · refine .inl ⟨⟨answered, rests⟩, ?_⟩
            simp [result, targetAt, bind, Except.bind]
          · refine .inr ⟨fun all => unanswered all.2, error, ?_⟩
            simp [result, bind, Except.bind]
      | some channel =>
          cases question : call.isEnabled place channel with
          | error error =>
              refine .inr ⟨fun all => ?_, error, by simp [question, bind, Except.bind]⟩
              obtain ⟨enabled, answered⟩ := all.1 channel rfl
              rw [question] at answered
              cases answered
          | ok enabled =>
              have answered :
                  call.Answered { place := place, name := name, channel := some channel } := by
                intro other found
                cases found
                exact ⟨enabled, question⟩
              rcases ih (place + 1) with ⟨rests, result⟩ | ⟨unanswered, error, result⟩
              · refine .inl ⟨⟨answered, rests⟩, ?_⟩
                cases enabled <;>
                  simp [question, result, targetAt, bind, Except.bind]
              · refine .inr ⟨fun all => unanswered all.2, error, ?_⟩
                simp [question, result, bind, Except.bind]

theorem defaultTargets_result (place : Nat) (channels : List NotificationChannel) :
    ((∀ found ∈ defaultPlaces place channels, call.Answered found) ∧
        call.defaultTargets place channels =
          .ok ((defaultPlaces place channels).filterMap (call.targetAt false))) ∨
      (¬ ∀ found ∈ defaultPlaces place channels, call.Answered found) ∧
        ∃ error, call.defaultTargets place channels = .error error := by
  induction channels generalizing place with
  | nil => exact .inl ⟨by simp [defaultPlaces], rfl⟩
  | cons channel rest ih =>
      rw [defaultPlaces, defaultTargets]
      by_cases isDefault : channel.isDefault
      · rw [if_pos isDefault, if_pos isDefault, List.forall_mem_cons]
        cases question : call.isEnabled place channel with
        | error error =>
            refine .inr ⟨fun all => ?_, error, by simp [bind, Except.bind]⟩
            obtain ⟨enabled, answered⟩ := all.1 channel rfl
            rw [question] at answered
            cases answered
        | ok enabled =>
            have answered : call.Answered
                { place := place, name := channel.channelId, channel := some channel } := by
              intro other found
              cases found
              exact ⟨enabled, question⟩
            rcases ih (place + 1) with ⟨rests, result⟩ | ⟨unanswered, error, result⟩
            · refine .inl ⟨⟨answered, rests⟩, ?_⟩
              cases enabled <;>
                simp [question, result, targetAt, bind, Except.bind]
            · refine .inr ⟨fun all => unanswered all.2, error, ?_⟩
              simp [result, bind, Except.bind]
      · rw [if_neg isDefault, if_neg isDefault]
        exact ih (place + 1)

/-- Whether channels were asked for by name. -/
def named : Bool := decide (call.explicitChannels ≠ [])

theorem targets_result :
    ((∀ place ∈ call.places, call.Answered place) ∧
        call.targets = .ok (call.places.filterMap (call.targetAt call.named))) ∨
      (¬ ∀ place ∈ call.places, call.Answered place) ∧
        ∃ error, call.targets = .error error := by
  by_cases unnamed : call.explicitChannels = []
  · have named : call.named = false := by simp [named, unnamed]
    rw [targets, places, if_pos unnamed, if_pos unnamed, named]
    exact call.defaultTargets_result 0 _
  · have named : call.named = true := by simp [named, unnamed]
    rw [targets, places, if_neg unnamed, if_neg unnamed, named]
    exact call.explicitTargets_result 0 _

/-! ### Results of targets -/

/-- A rejection of the target's channel has a text. -/
def Told : NotificationTarget → Prop
  | .result _ => True
  | .channel place channel =>
      ∀ error, call.notify place channel = .error error → error.text.isSome

def askedBy : NotificationTarget → Option String
  | .result _ => none
  | .channel _ channel => some channel.channelId

def resultsOf : NotificationTarget → List ApprovalNotificationResult
  | .result result => [result]
  | .channel place channel =>
      match call.notify place channel with
      | .ok deliveries => deliveries.map (fun delivery =>
          { delivery with channelId := channel.channelId, provider := channel.provider })
      | .error error =>
          error.text.toList.map (failedResult channel.channelId channel.provider)

theorem deliver_result (targets : List NotificationTarget) :
    ((∀ target ∈ targets, call.Told target) ∧
        call.deliver targets =
          (targets.filterMap askedBy, .ok (targets.flatMap call.resultsOf))) ∨
      (¬ ∀ target ∈ targets, call.Told target) ∧
        ∃ error, (call.deliver targets).2 = .error error := by
  induction targets with
  | nil => exact .inl ⟨by simp, rfl⟩
  | cons target rest ih =>
      rw [List.forall_mem_cons]
      cases target with
      | result result =>
          rcases ih with ⟨rests, delivered⟩ | ⟨untold, error, delivered⟩
          · refine .inl ⟨⟨trivial, rests⟩, ?_⟩
            rw [List.filterMap_cons_none rfl]
            simp [deliver, delivered, resultsOf, Except.map]
          · refine .inr ⟨fun all => untold all.2, error, ?_⟩
            simp [deliver, delivered, Except.map]
      | channel place channel =>
          cases answer : call.notify place channel with
          | ok deliveries =>
              have told : call.Told (.channel place channel) := by
                intro error rejected
                rw [answer] at rejected
                cases rejected
              rcases ih with ⟨rests, delivered⟩ | ⟨untold, error, delivered⟩
              · refine .inl ⟨⟨told, rests⟩, ?_⟩
                simp [deliver, answer, delivered, askedBy, resultsOf, Except.map]
              · refine .inr ⟨fun all => untold all.2, error, ?_⟩
                simp [deliver, answer, delivered, Except.map]
          | error thrown =>
              cases text : thrown.text with
              | none =>
                  refine .inr ⟨fun all => ?_, thrown, by simp [deliver, answer, text]⟩
                  have told := all.1 thrown answer
                  rw [text] at told
                  cases told
              | some message =>
                  have told : call.Told (.channel place channel) := by
                    intro error rejected
                    rw [answer] at rejected
                    cases rejected
                    rw [text]
                    rfl
                  rcases ih with ⟨rests, delivered⟩ | ⟨untold, error, delivered⟩
                  · refine .inl ⟨⟨told, rests⟩, ?_⟩
                    simp [deliver, answer, text, delivered, askedBy, resultsOf, Except.map]
                  · refine .inr ⟨fun all => untold all.2, error, ?_⟩
                    simp [deliver, answer, text, delivered, Except.map]

/-! ### What the places say -/

theorem table_channelId {name : String} {channel : NotificationChannel}
    (found : call.table.get? name = some channel) : channel.channelId = name := by
  have kept : ∀ (channels : List NotificationChannel)
      (table : KeyedTable String NotificationChannel),
      (∀ name channel, table.get? name = some channel → channel.channelId = name) →
      ∀ name channel, (channels.foldl
        (fun table channel => table.set channel.channelId channel) table).get? name =
          some channel → channel.channelId = name := by
    intro channels
    induction channels with
    | nil => exact fun _ holds => holds
    | cons first rest ih =>
        intro table holds
        apply ih
        intro name channel found
        rw [KeyedTable.get?_set] at found
        split at found
        · rename_i same
          cases found
          exact same.symm
        · exact holds name channel found
  exact kept call.channels .empty (by simp) name channel found

theorem explicitPlaces_names (place : Nat) (names : List String) :
    (call.explicitPlaces place names).map NotificationPlace.name = names := by
  induction names generalizing place with
  | nil => rfl
  | cons name rest ih => rw [explicitPlaces, List.map_cons, ih]

theorem explicitPlaces_channel {place : Nat} {names : List String} {found : NotificationPlace}
    (member : found ∈ call.explicitPlaces place names) :
    found.channel = call.table.get? found.name := by
  induction names generalizing place with
  | nil => cases member
  | cons name rest ih =>
      rcases List.mem_cons.mp member with first | later
      · rw [first]
      · exact ih later

omit call in
theorem defaultPlaces_channel {place : Nat} {channels : List NotificationChannel}
    {found : NotificationPlace} (member : found ∈ defaultPlaces place channels) :
    ∃ channel, found.channel = some channel ∧ channel.channelId = found.name := by
  induction channels generalizing place with
  | nil => cases member
  | cons channel rest ih =>
      rw [defaultPlaces] at member
      split at member
      · rcases List.mem_cons.mp member with first | later
        · exact ⟨channel, by rw [first], by rw [first]⟩
        · exact ih later
      · exact ih member

theorem channelId_of_place {place : NotificationPlace} {channel : NotificationChannel}
    (member : place ∈ call.places) (here : place.channel = some channel) :
    channel.channelId = place.name := by
  rw [places] at member
  split at member
  · obtain ⟨other, found, same⟩ := defaultPlaces_channel member
    rw [here] at found
    cases found
    exact same
  · rw [call.explicitPlaces_channel member] at here
    exact call.table_channelId here

theorem explicitPlaces_ascend (place : Nat) (names : List String) :
    (∀ found ∈ call.explicitPlaces place names, place ≤ found.place) ∧
      (call.explicitPlaces place names).Pairwise (fun first second => first.place < second.place) := by
  induction names generalizing place with
  | nil => exact ⟨by simp [explicitPlaces], .nil⟩
  | cons name rest ih =>
      obtain ⟨later, ascend⟩ := ih (place + 1)
      rw [explicitPlaces, List.forall_mem_cons, List.pairwise_cons]
      refine ⟨⟨Nat.le_refl _, fun found member => ?_⟩, fun found member => ?_, ascend⟩
      · have after := later found member
        omega
      · have after := later found member
        show place < found.place
        omega

omit call in
theorem defaultPlaces_ascend (place : Nat) (channels : List NotificationChannel) :
    (∀ found ∈ defaultPlaces place channels, place ≤ found.place) ∧
      (defaultPlaces place channels).Pairwise (fun first second => first.place < second.place) := by
  induction channels generalizing place with
  | nil => exact ⟨by simp [defaultPlaces], .nil⟩
  | cons channel rest ih =>
      obtain ⟨later, ascend⟩ := ih (place + 1)
      have beyond : ∀ found ∈ defaultPlaces (place + 1) rest, place < found.place := by
        intro found member
        have after := later found member
        omega
      rw [defaultPlaces]
      split
      · rw [List.forall_mem_cons, List.pairwise_cons]
        exact ⟨⟨Nat.le_refl _, fun found member => Nat.le_of_lt (beyond found member)⟩,
          beyond, ascend⟩
      · exact ⟨fun found member => Nat.le_of_lt (beyond found member), ascend⟩

theorem places_ascend :
    call.places.Pairwise (fun first second => first.place < second.place) := by
  rw [places]
  split
  · exact (defaultPlaces_ascend 0 _).2
  · exact (call.explicitPlaces_ascend 0 _).2

theorem places_nodup : call.places.Nodup :=
  call.places_ascend.imp (fun before same => by
    rw [same] at before
    exact Nat.lt_irrefl _ before)

theorem place_injective {first second : NotificationPlace} (mine : first ∈ call.places)
    (yours : second ∈ call.places) (same : first.place = second.place) : first = second := by
  have numbers : (call.places.map NotificationPlace.place).Nodup :=
    List.Pairwise.map _ (fun _ _ before => Nat.ne_of_lt before) call.places_ascend
  exact (List.nodup_map_iff_inj_on call.places_nodup).mp numbers first mine second yours same

theorem exists_place_of_explicit {name : String} (member : name ∈ call.explicitChannels) :
    call.named = true ∧ ∃ place ∈ call.places, place.name = name := by
  have some : call.explicitChannels ≠ [] := List.ne_nil_of_mem member
  refine ⟨by simpa [named] using some, ?_⟩
  rw [places, if_neg some]
  rw [← call.explicitPlaces_names 0 call.explicitChannels] at member
  exact List.mem_map.mp member

/-! ### Isolation -/

def enabledAt (place : NotificationPlace) : Bool :=
  match place.channel with
  | none => false
  | some channel =>
      match call.isEnabled place.place channel with
      | .ok enabled => enabled
      | .error _ => false

theorem enabledAt_iff (place : NotificationPlace) :
    call.enabledAt place = true ↔ call.Enabled place := by
  unfold enabledAt Enabled
  cases place.channel with
  | none => simp
  | some channel => cases answer : call.isEnabled place.place channel <;> simp [answer]

theorem asked_of_places {places : List NotificationPlace} (explicit : Bool)
    (named : ∀ place ∈ places, ∀ channel, place.channel = some channel →
      channel.channelId = place.name) :
    (places.filterMap (call.targetAt explicit)).filterMap askedBy =
      (places.filter call.enabledAt).map NotificationPlace.name := by
  induction places with
  | nil => rfl
  | cons place rest ih =>
      rw [List.forall_mem_cons] at named
      have rests := ih named.2
      obtain ⟨number, name, channel⟩ := place
      cases channel with
      | none =>
          have off : call.enabledAt ⟨number, name, none⟩ = false := rfl
          rw [List.filter_cons_of_neg (by simp [off]), ← rests]
          simp [targetAt, askedBy, List.filterMap_cons]
      | some channel =>
          have same : channel.channelId = name := named.1 channel rfl
          cases answer : call.isEnabled number channel with
          | error error =>
              have off : call.enabledAt ⟨number, name, some channel⟩ = false := by
                simp [enabledAt, answer]
              rw [List.filter_cons_of_neg (by simp [off]), ← rests]
              simp [targetAt, answer]
          | ok enabled =>
              have shown : call.enabledAt ⟨number, name, some channel⟩ = enabled := by
                simp [enabledAt, answer]
              cases enabled with
              | true =>
                  rw [List.filter_cons_of_pos shown, List.map_cons, ← rests]
                  simp [targetAt, answer, askedBy, same]
              | false =>
                  rw [List.filter_cons_of_neg (by simp [shown]), ← rests]
                  cases explicit <;> simp [targetAt, answer, askedBy, List.filterMap_cons]

/-- What a channel is rejected with at a place where it is enabled has a text. -/
def Tells (place : NotificationPlace) : Prop :=
  ∀ channel, place.channel = some channel → call.isEnabled place.place channel = .ok true →
    ∀ error, call.notify place.place channel = .error error → error.text.isSome

theorem targetAt_channel_iff (explicit : Bool) (found : NotificationPlace) (place : Nat)
    (channel : NotificationChannel) :
    call.targetAt explicit found = some (.channel place channel) ↔
      found.place = place ∧ found.channel = some channel ∧
        call.isEnabled place channel = .ok true := by
  obtain ⟨number, name, here⟩ := found
  cases here with
  | none => simp [targetAt]
  | some other =>
      cases answer : call.isEnabled number other with
      | error error =>
          simp only [targetAt, answer]
          constructor
          · intro impossible
            cases impossible
          · rintro ⟨rfl, same, enabled⟩
            cases same
            rw [answer] at enabled
            cases enabled
      | ok enabled =>
          cases enabled with
          | true =>
              simp only [targetAt, answer]
              constructor
              · intro same
                cases same
                exact ⟨rfl, rfl, answer⟩
              · rintro ⟨rfl, same, _⟩
                cases same
                rfl
          | false =>
              have other : call.targetAt explicit ⟨number, name, some other⟩ ≠
                  some (.channel place channel) := by
                cases explicit <;> simp [targetAt, answer]
              refine ⟨fun same => absurd same other, ?_⟩
              rintro ⟨rfl, same, enabled⟩
              cases same
              rw [answer] at enabled
              cases enabled

theorem told_iff_tells (explicit : Bool) (places : List NotificationPlace) :
    (∀ target ∈ places.filterMap (call.targetAt explicit), call.Told target) ↔
      ∀ place ∈ places, call.Tells place := by
  constructor
  · intro told place member channel here enabled
    have target : call.targetAt explicit place = some (.channel place.place channel) :=
      (call.targetAt_channel_iff explicit place place.place channel).mpr ⟨rfl, here, enabled⟩
    exact told _ (List.mem_filterMap.mpr ⟨place, member, target⟩)
  · intro tells target member
    obtain ⟨place, placed, same⟩ := List.mem_filterMap.mp member
    cases target with
    | result => trivial
    | channel number channel =>
        obtain ⟨rfl, here, enabled⟩ :=
          (call.targetAt_channel_iff explicit place number channel).mp same
        exact tells place placed channel here enabled

/-- Either every question is answered and every rejection has a text, and the call resolves, or
it rejects. -/
theorem notifyApprovalRequired_result :
    ((∀ place ∈ call.places, call.Answered place) ∧ (∀ place ∈ call.places, call.Tells place) ∧
        call.notifyApprovalRequired =
          ((call.places.filter call.enabledAt).map NotificationPlace.name,
            .ok ((call.places.filterMap (call.targetAt call.named)).flatMap call.resultsOf))) ∨
      ¬ ((∀ place ∈ call.places, call.Answered place) ∧ ∀ place ∈ call.places, call.Tells place) ∧
        ∃ error, call.notifyApprovalRequired.2 = .error error := by
  rw [notifyApprovalRequired]
  rcases call.targets_result with ⟨answered, targets⟩ | ⟨unanswered, error, rejected⟩
  · rw [targets]
    rcases call.deliver_result (call.places.filterMap (call.targetAt call.named)) with
      ⟨told, delivered⟩ | ⟨untold, error, rejected⟩
    · refine .inl ⟨answered, (call.told_iff_tells call.named call.places).mp told, ?_⟩
      rw [← call.asked_of_places call.named
        (fun place member channel here => call.channelId_of_place member here)]
      exact delivered
    · exact .inr ⟨fun both => untold
        ((call.told_iff_tells call.named call.places).mpr both.2), error, rejected⟩
  · exact .inr ⟨fun both => unanswered both.1, error, by rw [rejected]⟩

theorem result_of_place {explicit : Bool} {place : NotificationPlace} {target : NotificationTarget}
    {result : ApprovalNotificationResult} (member : place ∈ call.places)
    (aimed : call.targetAt explicit place = some target) (shown : result ∈ call.resultsOf target) :
    result.channelId = place.name ∧ ¬ call.Silent place := by
  cases target with
  | channel number channel =>
      obtain ⟨rfl, here, enabled⟩ :=
        (call.targetAt_channel_iff explicit place number channel).mp aimed
      have same := call.channelId_of_place member here
      cases answer : call.notify place.place channel with
      | ok deliveries =>
          simp only [resultsOf, answer] at shown
          obtain ⟨delivery, delivered, rfl⟩ := List.mem_map.mp shown
          refine ⟨same, ?_⟩
          rintro ⟨other, found, _, silent⟩
          rw [here] at found
          cases found
          rw [answer] at silent
          cases silent
          cases delivered
      | error error =>
          simp only [resultsOf, answer] at shown
          obtain ⟨text, _, rfl⟩ := List.mem_map.mp shown
          refine ⟨same, ?_⟩
          rintro ⟨other, found, _, silent⟩
          rw [here] at found
          cases found
          rw [answer] at silent
          cases silent
  | result fixed =>
      obtain rfl := List.mem_singleton.mp shown
      obtain ⟨number, name, here⟩ := place
      cases here with
      | none =>
          simp only [targetAt] at aimed
          cases aimed
          refine ⟨rfl, ?_⟩
          rintro ⟨channel, impossible, _⟩
          cases impossible
      | some channel =>
          cases answer : call.isEnabled number channel with
          | error error => simp [targetAt, answer] at aimed
          | ok enabled =>
              cases enabled with
              | true => simp [targetAt, answer] at aimed
              | false =>
                  cases explicit with
                  | false => simp [targetAt, answer] at aimed
                  | true =>
                      simp only [targetAt, answer] at aimed
                      cases aimed
                      refine ⟨rfl, ?_⟩
                      rintro ⟨other, found, enabled, _⟩
                      cases found
                      rw [answer] at enabled
                      cases enabled

/-- A place whose name was asked for and whose channel is not silent has a result, a failed one
if the channel fails. -/
theorem exists_result_of_place {place : NotificationPlace} (member : place ∈ call.places)
    (answered : call.Answered place) (tells : call.Tells place)
    (heard : ¬ call.Silent place) :
    ∃ target, call.targetAt true place = some target ∧
      ∃ result ∈ call.resultsOf target, result.channelId = place.name ∧
        (call.Fails place → result.status = .failed) := by
  cases here : place.channel with
  | none =>
      exact ⟨_, by simp only [targetAt, here]; rfl, _, List.mem_singleton.mpr rfl, rfl,
        fun _ => rfl⟩
  | some channel =>
      obtain ⟨enabled, answer⟩ := answered channel here
      cases enabled with
      | false =>
          exact ⟨_, by simp only [targetAt, here, answer]; rfl, _, List.mem_singleton.mpr rfl, rfl,
            fun _ => rfl⟩
      | true =>
          have aimed : call.targetAt true place = some (.channel place.place channel) :=
            (call.targetAt_channel_iff true place place.place channel).mpr ⟨rfl, here, answer⟩
          have same := call.channelId_of_place member here
          refine ⟨_, aimed, ?_⟩
          cases delivered : call.notify place.place channel with
          | error error =>
              obtain ⟨text, told⟩ :=
                Option.isSome_iff_exists.mp (tells channel here answer error delivered)
              refine ⟨failedResult channel.channelId channel.provider text, ?_, same, fun _ => rfl⟩
              simp [resultsOf, delivered, told]
          | ok deliveries =>
              cases deliveries with
              | nil => exact absurd ⟨channel, here, answer, delivered⟩ heard
              | cons first rest =>
                  refine ⟨{ first with channelId := channel.channelId, provider := channel.provider },
                    ?_, same, ?_⟩
                  · simp [resultsOf, delivered]
                  · -- an enabled channel that resolves does not fail
                    rintro (absent | ⟨other, found, disabled | ⟨error, rejected⟩⟩)
                    · rw [here] at absent
                      cases absent
                    · rw [here] at found
                      cases found
                      exact absurd answer disabled
                    · rw [here] at found
                      cases found
                      rw [delivered] at rejected
                      cases rejected

theorem not_silent_of_fails {place : NotificationPlace} (fails : call.Fails place) :
    ¬ call.Silent place := by
  rintro ⟨channel, here, enabled, silent⟩
  rcases fails with absent | ⟨other, found, disabled | ⟨error, rejected⟩⟩
  · rw [here] at absent
    cases absent
  · rw [here] at found
    cases found
    exact disabled enabled
  · rw [here] at found
    cases found
    rw [silent] at rejected
    cases rejected

theorem asked_nodup_iff :
    ((call.places.filter call.enabledAt).map NotificationPlace.name).Nodup ↔
      ∀ first ∈ call.places, ∀ second ∈ call.places, first.name = second.name →
        call.Enabled first → call.Enabled second → first.place = second.place := by
  rw [List.nodup_map_iff_inj_on (call.places_nodup.filter _)]
  constructor
  · intro injective first mine second yours same enabled enabled'
    rw [injective first (List.mem_filter.mpr ⟨mine, (call.enabledAt_iff first).mpr enabled⟩)
      second (List.mem_filter.mpr ⟨yours, (call.enabledAt_iff second).mpr enabled'⟩) same]
  · intro once first mine second yours same
    obtain ⟨mine, enabled⟩ := List.mem_filter.mp mine
    obtain ⟨yours, enabled'⟩ := List.mem_filter.mp yours
    exact call.place_injective mine yours (once first mine second yours same
      ((call.enabledAt_iff first).mp enabled) ((call.enabledAt_iff second).mp enabled'))

theorem mem_asked_iff (id : String) :
    id ∈ (call.places.filter call.enabledAt).map NotificationPlace.name ↔
      ∃ place ∈ call.places, place.name = id ∧ call.Enabled place := by
  rw [List.mem_map]
  constructor
  · rintro ⟨place, member, same⟩
    obtain ⟨placed, enabled⟩ := List.mem_filter.mp member
    exact ⟨place, placed, same, (call.enabledAt_iff place).mp enabled⟩
  · rintro ⟨place, placed, same, enabled⟩
    exact ⟨place, List.mem_filter.mpr ⟨placed, (call.enabledAt_iff place).mpr enabled⟩, same⟩

theorem answers_of_isolated (isolated : call.Isolated) : call.Answers := by
  obtain ⟨results, resolved, asked, told⟩ := isolated
  rcases call.notifyApprovalRequired_result with
    ⟨answered, tells, notified⟩ | ⟨_, error, rejected⟩
  · rw [notified] at resolved asked
    cases resolved
    refine ⟨answered, tells, ?_, fun name requested => ?_⟩
    · exact call.asked_nodup_iff.mp (List.nodup_iff_count_le_one.mpr (fun id => (asked id).1))
    · obtain ⟨⟨result, shown, same⟩, _⟩ := told name requested
      obtain ⟨target, aimed, shown⟩ := List.mem_flatMap.mp shown
      obtain ⟨place, placed, aimed⟩ := List.mem_filterMap.mp aimed
      obtain ⟨own, heard⟩ := call.result_of_place placed aimed shown
      exact ⟨place, placed, own.symm.trans same, heard⟩
  · rw [rejected] at resolved
    cases resolved

theorem isolated_of_answers (answers : call.Answers) : call.Isolated := by
  rcases call.notifyApprovalRequired_result with ⟨answered, tells, notified⟩ | ⟨stuck, _⟩
  · refine ⟨_, by rw [notified], fun id => ?_, fun name requested => ?_⟩
    · rw [notified]
      exact ⟨List.nodup_iff_count_le_one.mp (call.asked_nodup_iff.mpr answers.once) id,
        call.mem_asked_iff id⟩
    · have named := (call.exists_place_of_explicit requested).1
      have shown : ∀ place ∈ call.places, ¬ call.Silent place →
          ∃ result ∈ (call.places.filterMap (call.targetAt call.named)).flatMap call.resultsOf,
            result.channelId = place.name ∧ (call.Fails place → result.status = .failed) := by
        intro place placed heard
        obtain ⟨target, aimed, result, shown, same, failed⟩ :=
          call.exists_result_of_place placed (answered place placed) (tells place placed) heard
        rw [named]
        exact ⟨result, List.mem_flatMap.mpr
          ⟨target, List.mem_filterMap.mpr ⟨place, placed, aimed⟩, shown⟩, same, failed⟩
      constructor
      · obtain ⟨place, placed, rfl, heard⟩ := answers.spoken name requested
        obtain ⟨result, member, same, _⟩ := shown place placed heard
        exact ⟨result, member, same⟩
      · rintro ⟨place, placed, rfl, fails⟩
        obtain ⟨result, member, same, failed⟩ :=
          shown place placed (call.not_silent_of_fails fails)
        exact ⟨result, member, same, failed fails⟩
  · exact absurd ⟨answers.questions, answers.errors⟩ stuck

/-- A failure stays with its channel exactly if every question whether a channel is enabled is
answered, every rejection has a text, no channel is enabled twice and no name is left silent. -/
theorem fanout_isolated_iff : call.Isolated ↔ call.Answers :=
  ⟨call.answers_of_isolated, call.isolated_of_answers⟩

/-- Two channels by name; whether the first is enabled cannot be read. -/
def unreadable : NotificationCall :=
  { channels := [⟨"telegram.default", true, .telegram⟩, ⟨"slack.default", true, .slack⟩]
    requested := some ["telegram.default", "slack.default"]
    isEnabled := fun _ channel =>
      if channel.channelId = "telegram.default" then
        .error { aborts := false, text := some "EACCES: permission denied" }
      else .ok true
    notify := fun _ _ => .ok [{ failedDelivery "" with error := none, status := .sent }] }

/-- One channel that cannot say whether it is enabled keeps every other from being asked. -/
theorem question_stops_fanout :
    ¬ unreadable.Isolated ∧ unreadable.notifyApprovalRequired.1 = [] ∧
      ∃ place ∈ unreadable.places, place.name = "slack.default" ∧ unreadable.Enabled place := by
  have placed : unreadable.places =
      [⟨0, "telegram.default", some ⟨"telegram.default", true, .telegram⟩⟩,
        ⟨1, "slack.default", some ⟨"slack.default", true, .slack⟩⟩] := by decide +kernel
  have named : unreadable.explicitChannels = ["telegram.default", "slack.default"] := by
    decide +kernel
  have known : unreadable.table.get? "telegram.default" =
      some ⟨"telegram.default", true, .telegram⟩ := by decide +kernel
  have rejected : unreadable.notifyApprovalRequired =
      ([], .error { aborts := false, text := some "EACCES: permission denied" }) := by
    rw [notifyApprovalRequired, targets, named, if_neg (by simp), explicitTargets, known]
    simp [unreadable, bind, Except.bind]
  refine ⟨?_, by rw [rejected], ?_⟩
  · rintro ⟨results, resolved, _⟩
    rw [rejected] at resolved
    cases resolved
  · exact ⟨⟨1, "slack.default", some ⟨"slack.default", true, .slack⟩⟩, by simp [placed], rfl,
      _, rfl, by simp [unreadable]⟩

end NotificationCall

end ActionProxy
