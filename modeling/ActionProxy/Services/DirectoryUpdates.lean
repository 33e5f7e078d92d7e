import ActionProxy.Foundation.StepLog
import ActionProxy.Services.DirectoryIdentities

/-!
What the log of directory calls shows after a user was disabled or deleted, or a group
deleted. A call writes back a whole record that it read earlier; what was revoked
stays so while no write crosses another update of the same user.
-/

namespace ActionProxy

open Interleaving

/-- What one update of a user can undo of another, beside that the user exists. -/
structure Standing where
  enabled : Bool
  groups : List String
  deriving DecidableEq

def ApproverUserRecord.standing (user : ApproverUserRecord) : Standing :=
  { enabled := user.enabled, groups := user.groups }

namespace ApproverStore

/-- The standing of a user, if the user exists. -/
def standing (workspaceId id : String) (store : ApproverStore) : Option Standing :=
  (store.getApproverUser workspaceId id).map ApproverUserRecord.standing

def Enabled (workspaceId id : String) (store : ApproverStore) : Prop :=
  ∃ standing, store.standing workspaceId id = some standing ∧ standing.enabled = true

def Belongs (workspaceId id groupId : String) (store : ApproverStore) : Prop :=
  ∃ standing, store.standing workspaceId id = some standing ∧ groupId ∈ standing.groups

end ApproverStore

def DirectoryCall.workspaceId : DirectoryCall → String
  | .createUser _ workspaceId _ => workspaceId
  | .upsertUser _ workspaceId _ _ => workspaceId
  | .connectTelegramUser _ workspaceId _ _ => workspaceId
  | .disconnectTelegramUser _ workspaceId _ => workspaceId
  | .disableUser _ workspaceId _ => workspaceId
  | .deleteUser workspaceId _ => workspaceId
  | .createGroup _ workspaceId _ => workspaceId
  | .upsertGroup _ workspaceId _ _ => workspaceId
  | .disableGroup _ workspaceId _ => workspaceId
  | .deleteGroup _ workspaceId _ => workspaceId

/-- The call names the user it is about, where it is about one. -/
def DirectoryCall.namesUser : DirectoryCall → Bool
  | .createUser _ _ _ => false
  | _ => true

abbrev DirectoryMoment := Moment ApproverStore DirectoryCall

abbrev LoggedDirectory := Logged ApproverStore DirectoryCall

/-- The calls on one workspace, with the log of their steps. -/
def directoryUpdates [Runtime] (workspaceId : String) :
    System LoggedDirectory DirectoryError DirectoryAnswer :=
  callingLogged DirectoryCall.prog
    (fun call => call.workspaceId = workspaceId ∧ call.namesUser = true)

/-- The empty directory and the empty log. -/
def loggedDirectoryStart : World LoggedDirectory DirectoryError DirectoryAnswer :=
  { state := { state := ApproverStore.empty, log := [] }, threads := [] }

/-! ### The steps that end a revocation -/

section

variable (workspaceId : String)

def DisabledUser (id : String) (moment : DirectoryMoment) : Prop :=
  moment.ended = true ∧ ∃ now, moment.call = .disableUser now workspaceId id

def DeletedUser (id : String) (moment : DirectoryMoment) : Prop :=
  moment.ended = true ∧ moment.call = .deleteUser workspaceId id

def DeletedGroup (groupId : String) (moment : DirectoryMoment) : Prop :=
  moment.ended = true ∧ ∃ now, moment.call = .deleteGroup now workspaceId groupId

/-- The call of the step began after every earlier step of a kind. -/
def BeganAfter (earlier : List DirectoryMoment) (kind : DirectoryMoment → Prop)
    (moment : DirectoryMoment) : Prop :=
  ∀ index other, earlier[index]? = some other → kind other → index < moment.began

/-- The groups that an update passes. -/
def UpsertApproverUserInput.Puts (input : UpsertApproverUserInput) (groupId : String) : Prop :=
  ∃ listed, input.groups = some listed ∧ groupId ∈ listed.filterMap TextScan.content

/-- What a revocation leaves when it ends. -/
structure EndKept (moment : DirectoryMoment) : Prop where
  disabled : ∀ id, DisabledUser workspaceId id moment → ¬ moment.after.Enabled workspaceId id
  deleted : ∀ id, DeletedUser workspaceId id moment →
    moment.after.standing workspaceId id = none
  left : ∀ groupId, DeletedGroup workspaceId groupId moment →
    ∀ id, ¬ moment.after.Belongs workspaceId id groupId

/-- What a step after a revocation may bring back, and by which call. -/
structure StepKept (earlier : List DirectoryMoment) (moment : DirectoryMoment) : Prop where
  enabled : ∀ id, (∃ other ∈ earlier, DisabledUser workspaceId id other) →
    ¬ moment.before.Enabled workspaceId id → moment.after.Enabled workspaceId id →
      ∃ now input, moment.call = .upsertUser now workspaceId id input ∧
        input.enabled = some true
  present : ∀ id, (∃ other ∈ earlier, DeletedUser workspaceId id other) →
    moment.before.standing workspaceId id = none →
      moment.after.standing workspaceId id ≠ none →
        ((∃ now input, moment.call = .upsertUser now workspaceId id input) ∨
            ∃ now, moment.call = .disableUser now workspaceId id) ∧
          BeganAfter earlier (DeletedUser workspaceId id) moment
  member : ∀ groupId id, (∃ other ∈ earlier, DeletedGroup workspaceId groupId other) →
    ¬ moment.before.Belongs workspaceId id groupId →
      moment.after.Belongs workspaceId id groupId →
        (∃ now input, moment.call = .upsertUser now workspaceId id input ∧
            input.Puts groupId) ∧
          BeganAfter earlier (DeletedGroup workspaceId groupId) moment

/-- No revocation in the log is undone but by a call that means to. -/
def RevocationsKept (log : List DirectoryMoment) : Prop :=
  ∀ earlier moment later, log = earlier ++ moment :: later →
    EndKept workspaceId moment ∧ StepKept workspaceId earlier moment

/-! ### Writes that cross no other update -/

/-- The step stores a record of the user that was not there before. -/
def Stores (id : String) (moment : DirectoryMoment) : Prop :=
  ∃ user, moment.after.getApproverUser workspaceId id = some user ∧
    moment.before.getApproverUser workspaceId id ≠ some user

/-- Since the call of the step began, no other update touched what the step writes. -/
structure Undisturbed (earlier : List DirectoryMoment) (moment : DirectoryMoment) : Prop where
  /-- No step changed whether the user exists, is enabled, or its groups. -/
  steady : ∀ id, Stores workspaceId id moment → ∀ other ∈ earlier.drop moment.began,
    other.before.standing workspaceId id = other.after.standing workspaceId id
  /-- The user was not deleted. -/
  present : ∀ id, Stores workspaceId id moment → ∀ other ∈ earlier.drop moment.began,
    ¬ DeletedUser workspaceId id other
  /-- No group that an update passes was deleted. -/
  groups : ∀ now id input groupId, moment.call = .upsertUser now workspaceId id input →
    input.Puts groupId → Stores workspaceId id moment →
      ∀ other ∈ earlier.drop moment.began, ¬ DeletedGroup workspaceId groupId other
  /-- While a group is deleted, no step puts a user into it. -/
  joined : ∀ groupId, DeletedGroup workspaceId groupId moment →
    ∀ id, ∀ other ∈ earlier.drop moment.began,
      other.after.Belongs workspaceId id groupId → other.before.Belongs workspaceId id groupId
  /-- An update that does not say whether the user is enabled creates no user that was
  disabled before. -/
  revived : ∀ now id input, moment.call = .upsertUser now workspaceId id input →
    input.enabled = none → Stores workspaceId id moment →
      moment.before.standing workspaceId id = none →
        ∀ other ∈ earlier, ¬ DisabledUser workspaceId id other

/-- The steps that the log gained were undisturbed. -/
def UndisturbedStep (before after : LoggedDirectory) : Prop :=
  ∀ moment, after.log = before.log ++ [moment] → Undisturbed workspaceId before.log moment

/-! ### What the store keeps -/

/-- Every user is one of the workspace, stored under its own key, with groups without
surrounding white space. -/
structure ApproverStore.Tidy (store : ApproverStore) : Prop where
  home : ∀ key user, store.approverUsers.get? key = some user → user.workspaceId = workspaceId
  keyed : ∀ key user, store.approverUsers.get? key = some user → key = user.key
  groups : ∀ key user, store.approverUsers.get? key = some user →
    ∀ groupId ∈ user.groups, TextScan.content groupId = some groupId

structure DirectoryLawful (logged : LoggedDirectory) : Prop where
  tidy : logged.state.Tidy workspaceId
  kept : RevocationsKept workspaceId logged.log

end

namespace ApproverStore

section

variable {workspaceId : String}

theorem Tidy.set {store : ApproverStore} (tidy : store.Tidy workspaceId)
    {record : ApproverUserRecord} (home : record.workspaceId = workspaceId)
    (groups : ∀ groupId ∈ record.groups, TextScan.content groupId = some groupId) :
    (upsertApproverUser record store).2.Tidy workspaceId := by
  have stored : ∀ key user, (store.setApproverUser record).approverUsers.get? key = some user →
      (key = record.key ∧ user = record) ∨ store.approverUsers.get? key = some user := by
    intro key user found
    unfold setApproverUser at found
    rw [KeyedTable.get?_set] at found
    split at found
    · rename_i here
      cases found
      exact Or.inl ⟨here, rfl⟩
    · exact Or.inr found
  unfold upsertApproverUser
  split
  · exact tidy
  · constructor
    · intro key user found
      rcases stored key user found with ⟨-, rfl⟩ | old
      · exact home
      · exact tidy.home key user old
    · intro key user found
      rcases stored key user found with ⟨here, rfl⟩ | old
      · exact here
      · exact tidy.keyed key user old
    · intro key user found
      rcases stored key user found with ⟨-, rfl⟩ | old
      · exact groups
      · exact tidy.groups key user old

theorem Tidy.delete {store : ApproverStore} (tidy : store.Tidy workspaceId) (id : String) :
    (deleteApproverUser workspaceId id store).2.Tidy workspaceId :=
  { home := fun key user found => tidy.home key user (get?_delete found)
    keyed := fun key user found => tidy.keyed key user (get?_delete found)
    groups := fun key user found => tidy.groups key user (get?_delete found) }

theorem workspaceKey_injective {workspaceId id other : String}
    (same : workspaceKey workspaceId id = workspaceKey workspaceId other) : id = other :=
  (String.append_right_inj _).mp same

theorem getApproverUser_set {store : ApproverStore} {record : ApproverUserRecord}
    (home : record.workspaceId = workspaceId) (id : String) :
    (store.setApproverUser record).getApproverUser workspaceId id =
      if id = record.id then some record else store.getApproverUser workspaceId id := by
  unfold getApproverUser setApproverUser
  rw [KeyedTable.get?_set]
  by_cases here : id = record.id
  · rw [if_pos here, if_pos]
    rw [here, ← home]
    rfl
  · rw [if_neg here, if_neg]
    intro same
    apply here
    unfold ApproverUserRecord.key at same
    rw [home] at same
    exact workspaceKey_injective same

theorem standing_set_self {store : ApproverStore} {record : ApproverUserRecord}
    (home : record.workspaceId = workspaceId) :
    (store.setApproverUser record).standing workspaceId record.id = some record.standing := by
  unfold standing
  rw [getApproverUser_set home, if_pos rfl]
  rfl

theorem standing_set_other {store : ApproverStore} {record : ApproverUserRecord}
    (home : record.workspaceId = workspaceId) {id : String} (different : id ≠ record.id) :
    (store.setApproverUser record).standing workspaceId id = store.standing workspaceId id := by
  unfold standing
  rw [getApproverUser_set home, if_neg different]

theorem standing_delete_self (store : ApproverStore) (workspaceId id : String) :
    (deleteApproverUser workspaceId id store).2.standing workspaceId id = none := by
  unfold standing getApproverUser deleteApproverUser
  rw [KeyedTable.get?_erase, if_pos rfl]
  rfl

theorem standing_delete_other (store : ApproverStore) (workspaceId : String) {id other : String}
    (different : other ≠ id) :
    (deleteApproverUser workspaceId id store).2.standing workspaceId other =
      store.standing workspaceId other := by
  unfold standing getApproverUser deleteApproverUser
  rw [KeyedTable.get?_erase, if_neg (fun same => different (workspaceKey_injective same))]

theorem stored_of_ok {record user : ApproverUserRecord} {store : ApproverStore}
    (ok : (upsertApproverUser record store).1 = .ok user) :
    (upsertApproverUser record store).2 = store.setApproverUser record := by
  unfold upsertApproverUser at ok ⊢
  split at ok
  · cases ok
  · rename_i free
    rw [if_neg free]

theorem Tidy.found {store : ApproverStore} (tidy : store.Tidy workspaceId) {id : String}
    {user : ApproverUserRecord} (found : store.getApproverUser workspaceId id = some user) :
    user.workspaceId = workspaceId ∧ user.id = id := by
  have home := tidy.home _ user found
  have key := tidy.keyed _ user found
  unfold ApproverUserRecord.key at key
  rw [home] at key
  exact ⟨home, (workspaceKey_injective key).symm⟩

theorem Tidy.listed [Runtime] {store : ApproverStore} (tidy : store.Tidy workspaceId)
    {user : ApproverUserRecord} (listed : user ∈ store.listApproverUsers workspaceId) :
    store.getApproverUser workspaceId user.id = some user := by
  obtain ⟨member, -⟩ := List.mem_filter.mp ((List.mem_insertionSort _).mp listed)
  obtain ⟨key, found⟩ := (store.approverUsers.mem_values_iff user).mp member
  have keyed := tidy.keyed key user found
  unfold ApproverUserRecord.key at keyed
  rw [tidy.home key user found] at keyed
  rw [keyed] at found
  exact found

theorem listed_of_found [Runtime] {store : ApproverStore} (tidy : store.Tidy workspaceId)
    {id : String} {user : ApproverUserRecord}
    (found : store.getApproverUser workspaceId id = some user) :
    user ∈ store.listApproverUsers workspaceId := by
  apply (List.mem_insertionSort _).mpr
  apply List.mem_filter.mpr
  exact ⟨(store.approverUsers.mem_values_iff user).mpr ⟨_, found⟩,
    beq_iff_eq.mpr (tidy.found found).1⟩

end

end ApproverStore

/-! ### What the log gains by a step -/

section

variable {workspaceId : String} {earlier : List DirectoryMoment} {moment : DirectoryMoment}

theorem BeganAfter.of_absent {kind : DirectoryMoment → Prop}
    (absent : ∀ other ∈ earlier.drop moment.began, ¬ kind other) :
    BeganAfter earlier kind moment := by
  intro index other found isKind
  by_contra late
  apply absent other _ isKind
  have offset : (earlier.drop moment.began)[index - moment.began]? = some other := by
    rw [List.getElem?_drop, ← found]
    congr 1
    omega
  exact List.mem_of_getElem? offset

theorem StepKept.of_steady
    (steady : ∀ id, moment.after.standing workspaceId id = moment.before.standing workspaceId id) :
    StepKept workspaceId earlier moment := by
  constructor
  · intro id _ before after
    unfold ApproverStore.Enabled at before after
    rw [steady] at after
    exact absurd after before
  · intro id _ before after
    rw [steady] at after
    exact absurd before after
  · intro groupId id _ before after
    unfold ApproverStore.Belongs at before after
    rw [steady] at after
    exact absurd after before

theorem EndKept.of_open (running : moment.ended = false) : EndKept workspaceId moment := by
  constructor
  · intro id ends
    exact absurd ends.1 (by simp [running])
  · intro id ends
    exact absurd ends.1 (by simp [running])
  · intro groupId ends
    exact absurd ends.1 (by simp [running])

theorem EndKept.of_call (disable : ∀ now id, moment.call ≠ .disableUser now workspaceId id)
    (delete : ∀ id, moment.call ≠ .deleteUser workspaceId id)
    (group : ∀ now groupId, moment.call ≠ .deleteGroup now workspaceId groupId) :
    EndKept workspaceId moment := by
  constructor
  · rintro id ⟨-, now, isCall⟩
    exact absurd isCall (disable now id)
  · rintro id ⟨-, isCall⟩
    exact absurd isCall (delete id)
  · rintro groupId ⟨-, now, isCall⟩
    exact absurd isCall (group now groupId)

/-- What a write of a user has to answer for when it stores a record that was not
there. -/
structure Answered (workspaceId : String) (earlier : List DirectoryMoment) (moment : DirectoryMoment)
    (record : ApproverUserRecord) : Prop where
  enabled : (∃ other ∈ earlier, DisabledUser workspaceId record.id other) →
    ¬ moment.before.Enabled workspaceId record.id → record.enabled = true →
      ∃ now input, moment.call = .upsertUser now workspaceId record.id input ∧
        input.enabled = some true
  present : moment.before.standing workspaceId record.id = none →
    ((∃ now input, moment.call = .upsertUser now workspaceId record.id input) ∨
        ∃ now, moment.call = .disableUser now workspaceId record.id) ∧
      BeganAfter earlier (DeletedUser workspaceId record.id) moment
  member : ∀ groupId ∈ record.groups, ¬ moment.before.Belongs workspaceId record.id groupId →
    (∃ now input, moment.call = .upsertUser now workspaceId record.id input ∧
        input.Puts groupId) ∧
      BeganAfter earlier (DeletedGroup workspaceId groupId) moment

theorem StepKept.of_upsert {record : ApproverUserRecord} (home : record.workspaceId = workspaceId)
    (written : moment.after = (ApproverStore.upsertApproverUser record moment.before).2)
    (answered : Stores workspaceId record.id moment →
      Answered workspaceId earlier moment record) :
    StepKept workspaceId earlier moment := by
  unfold ApproverStore.upsertApproverUser at written
  split at written
  · apply StepKept.of_steady
    intro id
    rw [written]
  · dsimp only at written
    by_cases stored : moment.before.getApproverUser workspaceId record.id = some record
    · apply StepKept.of_steady
      intro id
      rw [written]
      by_cases here : id = record.id
      · rw [here, ApproverStore.standing_set_self home, ApproverStore.standing, stored]
        rfl
      · rw [ApproverStore.standing_set_other home here]
    · have answers := answered ⟨record, by
        rw [written, ApproverStore.getApproverUser_set home, if_pos rfl], stored⟩
      have self : moment.after.standing workspaceId record.id = some record.standing := by
        rw [written, ApproverStore.standing_set_self home]
      have other : ∀ id, id ≠ record.id →
          moment.after.standing workspaceId id = moment.before.standing workspaceId id := by
        intro id different
        rw [written, ApproverStore.standing_set_other home different]
      constructor
      · rintro id disabled before ⟨standing, found, enabled⟩
        by_cases here : id = record.id
        · subst here
          rw [self] at found
          cases found
          exact answers.enabled disabled before enabled
        · rw [other id here] at found
          exact absurd ⟨standing, found, enabled⟩ before
      · intro id _ before after
        by_cases here : id = record.id
        · subst here
          exact answers.present before
        · rw [other id here] at after
          exact absurd before after
      · rintro groupId id _ before ⟨standing, found, belongs⟩
        by_cases here : id = record.id
        · subst here
          rw [self] at found
          cases found
          exact answers.member groupId belongs before
        · rw [other id here] at found
          exact absurd ⟨standing, found, belongs⟩ before

theorem Answered.of_carried {record user : ApproverUserRecord}
    (stored : moment.before.standing workspaceId record.id = some user.standing)
    (enabled : record.enabled = true → user.enabled = true)
    (groups : ∀ groupId ∈ record.groups, groupId ∈ user.groups) :
    Answered workspaceId earlier moment record := by
  constructor
  · intro _ before isEnabled
    exact absurd ⟨_, stored, enabled isEnabled⟩ before
  · intro absent
    rw [stored] at absent
    cases absent
  · intro groupId listed before
    exact absurd ⟨_, stored, groups groupId listed⟩ before

end

/-! ### Each call, however others come between its steps -/

section

variable {workspaceId : String}

/-- A step of a lawful log after which the store is tidy and no revocation is undone. -/
theorem DirectoryLawful.take {now : LoggedDirectory} (lawful : DirectoryLawful workspaceId now)
    {call : DirectoryCall} {began : Nat} {write : ApproverStore → ApproverStore} {ended : Bool}
    (tidy : (write now.state).Tidy workspaceId)
    (ends : EndKept workspaceId (now.moment call began write ended))
    (kept : StepKept workspaceId now.log (now.moment call began write ended)) :
    DirectoryLawful workspaceId (now.take call began write ended) := by
  refine ⟨tidy, ?_⟩
  intro earlier moment later split
  rcases List.eq_nil_or_concat later with rfl | ⟨front, last, rfl⟩
  · obtain ⟨same, rest⟩ := List.append_inj' split rfl
    cases rest
    rw [← same]
    exact ⟨ends, kept⟩
  · apply lawful.kept earlier moment front
    rw [List.concat_eq_append, ← List.cons_append, ← List.append_assoc] at split
    exact (List.append_inj' split rfl).1

theorem DirectoryLawful.read {now : LoggedDirectory} (lawful : DirectoryLawful workspaceId now)
    (call : DirectoryCall) (began : Nat) :
    DirectoryLawful workspaceId (now.take call began (fun state => state) false) :=
  lawful.take lawful.tidy (EndKept.of_open rfl) (StepKept.of_steady (fun _ => rfl))

abbrev SafeUpdate (workspaceId : String)
    (prog : Prog LoggedDirectory DirectoryError DirectoryAnswer) (logged : LoggedDirectory) :
    Prop :=
  Safe (recording (DirectoryLawful workspaceId)) (UndisturbedStep workspaceId) (fun _ _ => True)
    (fun _ _ => True) prog logged

variable {β : Type} {call : DirectoryCall} {began : Nat} {before : LoggedDirectory}
  {next : β → DirectoryProg DirectoryAnswer}

theorem safe_first_read {view : ApproverStore → β}
    (running : ∀ value, (next value).answered = false)
    (after : ∀ began start, began ≤ start.log.length → DirectoryLawful workspaceId start →
      SafeUpdate workspaceId ((next (view start.state)).loggedFrom call began) start) :
    SafeUpdate workspaceId (((Prog.read view).bind next).logged call) before := by
  apply Safe.begin
  intro now _ lawful step _
  have same : step = now.take call now.log.length (fun state => state) false :=
    congrArg (now.take call now.log.length (fun state => state)) (running (view now.state))
  have read := lawful.read call now.log.length
  rw [same]
  exact ⟨read, after _ _ (now.take_extends call _ _ _).length_le read⟩

theorem safe_read {view : ApproverStore → β} (running : ∀ value, (next value).answered = false)
    (after : ∀ start, before.Extends start → DirectoryLawful workspaceId start →
      SafeUpdate workspaceId ((next (view start.state)).loggedFrom call began) start) :
    SafeUpdate workspaceId (((Prog.read view).bind next).loggedFrom call began) before := by
  apply Safe.proceed
  intro now moved lawful step _
  have same : step = now.take call began (fun state => state) false :=
    congrArg (now.take call began (fun state => state)) (running (view now.state))
  have read := lawful.read call began
  rw [same]
  exact ⟨read, after _ (moved.trans (now.take_extends call began _ _)) read⟩

theorem safe_done (answer : Except DirectoryError DirectoryAnswer) :
    SafeUpdate workspaceId
      ((Prog.ofExcept answer : DirectoryProg DirectoryAnswer).loggedFrom call began) before := by
  cases answer with
  | ok value => exact fun _ _ _ => trivial
  | error error => exact fun _ _ _ => trivial

theorem safe_write {record : ApproverUserRecord}
    {next : Except DirectoryError ApproverUserRecord → DirectoryProg DirectoryAnswer}
    (home : record.workspaceId = workspaceId)
    (groups : ∀ groupId ∈ record.groups, TextScan.content groupId = some groupId)
    (answers : ∀ now, before.Extends now → DirectoryLawful workspaceId now →
      let moment := now.moment call began
        (fun state => (ApproverStore.upsertApproverUser record state).2)
        (next (ApproverStore.upsertApproverUser record now.state).1).answered
      Undisturbed workspaceId now.log moment →
        (Stores workspaceId record.id moment →
          Answered workspaceId now.log moment record) ∧
        EndKept workspaceId moment)
    (after : ∀ now answer, before.Extends now → DirectoryLawful workspaceId now →
      ((∃ user, answer = .ok user) →
        now.state.standing workspaceId record.id = some record.standing) →
      SafeUpdate workspaceId ((next answer).loggedFrom call began) now) :
    SafeUpdate workspaceId
      (((Prog.call (ApproverStore.upsertApproverUser record)).bind next).loggedFrom call began)
      before := by
  apply Safe.proceed
  intro now moved lawful step allowed
  obtain ⟨answered, ends⟩ := answers now moved lawful (allowed _ rfl)
  have kept : DirectoryLawful workspaceId step :=
    lawful.take (lawful.tidy.set home groups) ends (StepKept.of_upsert home rfl answered)
  refine ⟨kept, after step _ (moved.trans (now.take_extends call began _ _)) kept ?_⟩
  rintro ⟨user, ok⟩
  rw [show step.state = _ from ApproverStore.stored_of_ok ok]
  exact ApproverStore.standing_set_self home

/-- What a call carries over from a user it read is still there when it stores it. -/
theorem carried_standing {now start : LoggedDirectory} {id : String} {moment : DirectoryMoment}
    (moved : start.Extends now) (since : moment.began ≤ start.log.length)
    (undisturbed : Undisturbed workspaceId now.log moment)
    (stores : Stores workspaceId id moment) :
    start.state.standing workspaceId id = now.state.standing workspaceId id :=
  moved.steady since (undisturbed.steady id stores)

theorem standing_of_found {store : ApproverStore} {id : String} {user : ApproverUserRecord}
    (found : store.getApproverUser workspaceId id = some user) :
    store.standing workspaceId id = some user.standing := by
  unfold ApproverStore.standing
  rw [found]
  rfl

theorem safe_carried {record user : ApproverUserRecord} {start : LoggedDirectory}
    {next : Except DirectoryError ApproverUserRecord → DirectoryProg DirectoryAnswer}
    (lawful : DirectoryLawful workspaceId start) (moved : start.Extends before)
    (since : began ≤ start.log.length)
    (found : start.state.getApproverUser workspaceId record.id = some user)
    (home : record.workspaceId = workspaceId)
    (enabled : record.enabled = true → user.enabled = true)
    (groups : ∀ groupId ∈ record.groups, groupId ∈ user.groups)
    (ends : ∀ now : LoggedDirectory, EndKept workspaceId (now.moment call began
      (fun state => (ApproverStore.upsertApproverUser record state).2)
      (next (ApproverStore.upsertApproverUser record now.state).1).answered))
    (after : ∀ now answer, before.Extends now → DirectoryLawful workspaceId now →
      ((∃ user, answer = .ok user) →
        now.state.standing workspaceId record.id = some record.standing) →
      SafeUpdate workspaceId ((next answer).loggedFrom call began) now) :
    SafeUpdate workspaceId
      (((Prog.call (ApproverStore.upsertApproverUser record)).bind next).loggedFrom call began)
      before := by
  apply safe_write home
  · intro groupId listed
    exact lawful.tidy.groups _ user found groupId (groups groupId listed)
  · intro now moved' _ moment undisturbed
    refine ⟨?_, ends now⟩
    intro stores
    have same := carried_standing (moved.trans moved') since undisturbed stores
    rw [standing_of_found found] at same
    exact Answered.of_carried same.symm enabled groups
  · exact after

/-- The call ends with the answer of the store. -/
abbrev answering (answer : Except DirectoryError ApproverUserRecord) :
    DirectoryProg DirectoryAnswer :=
  Prog.ofExcept (answer.map DirectoryAnswer.user)

namespace ApproverDirectory

theorem answering_eq (answer : Except DirectoryError ApproverUserRecord) :
    (Prog.ofExcept answer).bind (fun user => .pure (DirectoryAnswer.user user)) =
      answering answer := by
  cases answer with
  | ok user => rfl
  | error error => rfl

theorem answered_iff {answer : Except DirectoryError ApproverUserRecord}
    (ended : (answering answer).answered = true) : ∃ user, answer = .ok user := by
  cases answer with
  | ok user => exact ⟨user, rfl⟩
  | error error => cases ended

theorem changeUser_eq (workspaceId id : String)
    (change : ApproverUserRecord → ApproverUserRecord) :
    DirectoryAnswer.user <$> changeUser workspaceId id change =
      (Prog.read (ApproverStore.getApproverUser workspaceId id)).bind fun found =>
        match found with
        | none => .throw (.notFound ("Approver user not found: " ++ id))
        | some existing =>
            (Prog.call (ApproverStore.upsertApproverUser (change existing))).bind answering := by
  refine (Prog.bind_assoc _ _ _).trans (congrArg _ (funext fun found => ?_))
  cases found with
  | none => rfl
  | some existing =>
      exact (Prog.bind_assoc _ _ _).trans (congrArg _ (funext answering_eq))

theorem safe_changeUser {id : String} {change : ApproverUserRecord → ApproverUserRecord}
    (kept : ∀ user, (change user).workspaceId = user.workspaceId ∧ (change user).id = user.id ∧
      (change user).standing = user.standing)
    (ends : ∀ moment : DirectoryMoment, moment.call = call → EndKept workspaceId moment) :
    SafeUpdate workspaceId
      ((DirectoryAnswer.user <$> changeUser workspaceId id change).logged call) before := by
  rw [changeUser_eq]
  apply safe_first_read
  · intro found
    cases found with
    | none => rfl
    | some existing => rfl
  · intro began start since lawful
    cases found : start.state.getApproverUser workspaceId id with
    | none => exact fun _ _ _ => trivial
    | some existing =>
        obtain ⟨home, sameId⟩ := lawful.tidy.found found
        obtain ⟨keepsHome, keepsId, keepsStanding⟩ := kept existing
        obtain ⟨sameEnabled, sameGroups⟩ := Standing.mk.inj keepsStanding
        apply safe_carried lawful (Logged.Extends.refl start) since
          (by rw [keepsId, sameId, found]) (keepsHome.trans home)
        · rw [sameEnabled]
          exact fun enabled => enabled
        · intro groupId listed
          rw [sameGroups] at listed
          exact listed
        · intro now
          exact ends _ rfl
        · intro now answer _ _ _
          exact safe_done _

section

variable [Runtime]

/-- What `upsertUser` does once it has read the user. -/
def upsertFound (now workspaceId id : String) (input : UpsertApproverUserInput)
    (existing : Option ApproverUserRecord) : DirectoryProg DirectoryAnswer :=
  let record := updatedUser workspaceId id now existing input
  (Prog.read (ApproverStore.listApproverUsers workspaceId)).bind fun users =>
    match identityConflict users id record.principalId with
    | some conflict => .throw (.conflict
        ("Approver authorization identity conflicts with existing directory user: " ++
          conflict.id))
    | none => (Prog.call (ApproverStore.upsertApproverUser record)).bind fun answer =>
        answering (safeConflict answer)

theorem upsertUser_eq (now workspaceId id : String) (input : UpsertApproverUserInput) :
    DirectoryAnswer.user <$> upsertUser now workspaceId id input =
      (Prog.read (ApproverStore.getApproverUser workspaceId id)).bind
        (upsertFound now workspaceId id input) := by
  refine (Prog.bind_assoc _ _ _).trans (congrArg _ (funext fun existing => ?_))
  refine (Prog.bind_assoc _ _ _).trans ?_
  refine (Prog.bind_assoc _ _ _).trans (congrArg _ (funext fun users => ?_))
  generalize identityConflict users id _ = conflict
  cases conflict with
  | some user => rfl
  | none =>
      exact (Prog.bind_assoc _ _ _).trans
        (congrArg _ (funext fun answer => answering_eq (safeConflict answer)))

omit [Runtime] in
theorem safeConflict_eq_ok {answer : Except DirectoryError ApproverUserRecord}
    {user : ApproverUserRecord} (ok : safeConflict answer = .ok user) : answer = .ok user := by
  cases answer with
  | ok other => exact ok
  | error error => cases error <;> cases ok

theorem updatedUser_groups {workspaceId id now groupId : String}
    {existing : Option ApproverUserRecord} {input : UpsertApproverUserInput}
    (listed : groupId ∈ (updatedUser workspaceId id now existing input).groups) :
    input.Puts groupId ∨ (input.groups = none ∧ ∃ user, existing = some user ∧
      groupId ∈ user.groups.filterMap TextScan.content) := by
  unfold updatedUser sortedUnique at listed
  have member := List.mem_dedup.mp ((List.mem_insertionSort _).mp listed)
  cases passed : input.groups with
  | some groups =>
      rw [passed] at member
      exact Or.inl ⟨groups, passed, member⟩
  | none =>
      rw [passed] at member
      cases existing with
      | none => cases member
      | some user => exact Or.inr ⟨rfl, user, rfl, member⟩

theorem updatedUser_groups_tidy {workspaceId id now groupId : String}
    {existing : Option ApproverUserRecord} {input : UpsertApproverUserInput}
    (listed : groupId ∈ (updatedUser workspaceId id now existing input).groups) :
    TextScan.content groupId = some groupId := by
  unfold updatedUser sortedUnique at listed
  have member := List.mem_dedup.mp ((List.mem_insertionSort _).mp listed)
  obtain ⟨text, -, content⟩ := List.mem_filterMap.mp member
  exact (TextScan.content_eq_some content).1

/-- The call that writes an updated user: an update, or one that disables a user who was
not there. -/
def WritesUpdate (workspaceId id : String) (input : UpsertApproverUserInput)
    (call : DirectoryCall) : Prop :=
  (∃ now, call = .upsertUser now workspaceId id input) ∨
    (input = blankUpdate id false ∧ ∃ now, call = .disableUser now workspaceId id)

theorem answered_updatedUser {now id : String} {input : UpsertApproverUserInput}
    {start current : LoggedDirectory} {moment : DirectoryMoment}
    (lawful : DirectoryLawful workspaceId start) (moved : start.Extends current)
    (since : moment.began ≤ start.log.length) (here : moment.before = current.state)
    (writes : WritesUpdate workspaceId id input moment.call)
    (undisturbed : Undisturbed workspaceId current.log moment)
    (stores : Stores workspaceId id moment) :
    Answered workspaceId current.log moment
      (updatedUser workspaceId id now (start.state.getApproverUser workspaceId id) input) := by
  have carried := carried_standing moved since undisturbed stores
  rw [← here] at carried
  constructor
  · rintro ⟨other, member, disabled⟩ before enabled
    rcases writes with ⟨now, isCall⟩ | ⟨rfl, -⟩
    · refine ⟨now, input, isCall, ?_⟩
      unfold updatedUser at enabled
      cases passed : input.enabled with
      | some value =>
          rw [passed] at enabled
          exact congrArg some enabled
      | none =>
          rw [passed] at enabled
          cases found : start.state.getApproverUser workspaceId id with
          | some user =>
              rw [standing_of_found found] at carried
              rw [found] at enabled
              exact absurd ⟨_, carried.symm, enabled⟩ before
          | none =>
              have absent : moment.before.standing workspaceId id = none := by
                rw [← carried, ApproverStore.standing, found]
                rfl
              exact absurd disabled
                (undisturbed.revived now id input isCall passed stores absent other member)
    · cases enabled
  · intro _
    refine ⟨?_, BeganAfter.of_absent (undisturbed.present id stores)⟩
    rcases writes with ⟨now, isCall⟩ | ⟨-, now, isCall⟩
    · exact Or.inl ⟨now, input, isCall⟩
    · exact Or.inr ⟨now, isCall⟩
  · intro groupId listed before
    rcases updatedUser_groups listed with puts | ⟨-, user, found, kept⟩
    · rcases writes with ⟨now, isCall⟩ | ⟨rfl, -⟩
      · exact ⟨⟨now, input, isCall, puts⟩,
          BeganAfter.of_absent (undisturbed.groups now id input groupId isCall puts stores)⟩
      · obtain ⟨groups, passed, -⟩ := puts
        cases passed
    · obtain ⟨text, member, content⟩ := List.mem_filterMap.mp kept
      rw [lawful.tidy.groups _ user found text member] at content
      cases content
      rw [standing_of_found found] at carried
      exact absurd ⟨_, carried.symm, member⟩ before

omit [Runtime] in
theorem endKept_disabled {id : String} {record : ApproverUserRecord} {moment : DirectoryMoment}
    {now : String}
    (stored : moment.ended = true → moment.after = moment.before.setApproverUser record)
    (isCall : moment.call = .disableUser now workspaceId id)
    (home : record.workspaceId = workspaceId) (sameId : record.id = id)
    (disabled : record.enabled = false) :
    EndKept workspaceId moment := by
  constructor
  · rintro other ⟨ended, now', isOther⟩ ⟨standing, found, enabled⟩
    cases isCall.symm.trans isOther
    rw [stored ended, ← sameId, ApproverStore.standing_set_self home] at found
    cases found
    rw [ApproverUserRecord.standing, disabled] at enabled
    cases enabled
  · rintro other ⟨-, isOther⟩
    cases isCall.symm.trans isOther
  · rintro groupId ⟨-, now', isOther⟩
    cases isCall.symm.trans isOther

theorem safe_upsertFound {now id : String} {input : UpsertApproverUserInput}
    {start : LoggedDirectory} (lawful : DirectoryLawful workspaceId start)
    (moved : start.Extends before) (since : began ≤ start.log.length)
    (writes : WritesUpdate workspaceId id input call) :
    SafeUpdate workspaceId
      ((upsertFound now workspaceId id input
        (start.state.getApproverUser workspaceId id)).loggedFrom call began) before := by
  apply safe_read
  · intro users
    split
    · rfl
    · rfl
  · intro listed movedList _
    split
    · exact fun _ _ _ => trivial
    · apply safe_write rfl (fun groupId => updatedUser_groups_tidy)
      · intro current movedWrite _ moment undisturbed
        constructor
        · intro stores
          exact answered_updatedUser lawful ((moved.trans movedList).trans movedWrite) since rfl
            writes undisturbed stores
        · rcases writes with ⟨clock, rfl⟩ | ⟨rfl, clock, rfl⟩
          · exact EndKept.of_call (by simp [moment, Logged.moment]) (by simp [moment, Logged.moment])
              (by simp [moment, Logged.moment])
          · have stored : moment.ended = true → moment.after = moment.before.setApproverUser
                (updatedUser workspaceId id now (start.state.getApproverUser workspaceId id)
                  (blankUpdate id false)) := by
              intro ended
              obtain ⟨user, ok⟩ := answered_iff ended
              exact ApproverStore.stored_of_ok (safeConflict_eq_ok ok)
            exact endKept_disabled stored rfl rfl rfl rfl
      · intro current answer _ _ _
        exact safe_done _

theorem safe_upsertUser (now id : String) (input : UpsertApproverUserInput) :
    SafeUpdate workspaceId ((DirectoryAnswer.user <$> upsertUser now workspaceId id input).logged
      (.upsertUser now workspaceId id input)) before := by
  rw [upsertUser_eq]
  apply safe_first_read
  · intro existing
    rfl
  · intro began start since lawful
    exact safe_upsertFound lawful (Logged.Extends.refl start) since (Or.inl ⟨now, rfl⟩)

theorem disableUser_eq (now workspaceId id : String) :
    DirectoryAnswer.user <$> disableUser now workspaceId id =
      (Prog.read (ApproverStore.getApproverUser workspaceId id)).bind fun found =>
        match found with
        | none =>
            (Prog.read (ApproverStore.getApproverUser workspaceId id)).bind
              (upsertFound now workspaceId id (blankUpdate id false))
        | some existing =>
            (Prog.call (ApproverStore.upsertApproverUser
              { existing with enabled := false, updatedAt := now })).bind answering := by
  refine (Prog.bind_assoc _ _ _).trans (congrArg _ (funext fun found => ?_))
  cases found with
  | none => exact upsertUser_eq now workspaceId id (blankUpdate id false)
  | some existing => exact (Prog.bind_assoc _ _ _).trans (congrArg _ (funext answering_eq))

theorem safe_disableUser (now id : String) :
    SafeUpdate workspaceId ((DirectoryAnswer.user <$> disableUser now workspaceId id).logged
      (.disableUser now workspaceId id)) before := by
  rw [disableUser_eq]
  apply safe_first_read
  · intro found
    cases found with
    | none => rfl
    | some existing => rfl
  · intro began start since lawful
    cases found : start.state.getApproverUser workspaceId id with
    | none =>
        apply safe_read
        · intro existing
          rfl
        · intro again moved stillLawful
          exact safe_upsertFound stillLawful (Logged.Extends.refl again)
            (since.trans moved.length_le) (Or.inr ⟨rfl, now, rfl⟩)
    | some existing =>
        obtain ⟨home, sameId⟩ := lawful.tidy.found found
        let record : ApproverUserRecord := { existing with enabled := false, updatedAt := now }
        have recordFound : start.state.getApproverUser workspaceId record.id = some existing := by
          rw [show record.id = id from sameId, found]
        have recordHome : record.workspaceId = workspaceId := home
        apply safe_carried lawful (Logged.Extends.refl start) since recordFound recordHome
        · intro enabled
          cases enabled
        · exact fun groupId listed => listed
        · intro current
          have stored : (answering (ApproverStore.upsertApproverUser record current.state).1).answered
              = true → (ApproverStore.upsertApproverUser record current.state).2 =
                current.state.setApproverUser record := by
            intro ended
            obtain ⟨user, ok⟩ := answered_iff ended
            exact ApproverStore.stored_of_ok ok
          exact endKept_disabled stored rfl recordHome sameId rfl
        · intro current answer _ _ _
          exact safe_done _

omit [Runtime] in
theorem deleteUser_eq (workspaceId id : String) :
    DirectoryAnswer.user <$> deleteUser workspaceId id =
      (Prog.read (ApproverStore.getApproverUser workspaceId id)).bind fun found =>
        match found with
        | none => .throw (.notFound ("Approver user not found: " ++ id))
        | some existing =>
            (Prog.call (ApproverStore.deleteApproverUser workspaceId id)).bind fun _ =>
              .pure (.user existing) := by
  refine (Prog.bind_assoc _ _ _).trans (congrArg _ (funext fun found => ?_))
  cases found with
  | none => rfl
  | some existing => rfl

omit [Runtime] in
theorem stepKept_of_delete {id : String}
    (deleted : moment.after =
      (ApproverStore.deleteApproverUser workspaceId id moment.before).2) :
    StepKept workspaceId earlier moment := by
  have gone : ∀ other, moment.after.standing workspaceId other ≠ none →
      moment.after.standing workspaceId other = moment.before.standing workspaceId other := by
    intro other found
    rw [deleted] at found ⊢
    by_cases here : other = id
    · subst here
      exact absurd (ApproverStore.standing_delete_self _ workspaceId other) found
    · exact ApproverStore.standing_delete_other _ workspaceId here
  constructor
  · rintro other _ before ⟨standing, found, enabled⟩
    rw [gone other (by simp [found])] at found
    exact absurd ⟨standing, found, enabled⟩ before
  · intro other _ before after
    rw [gone other after] at after
    exact absurd before after
  · rintro groupId other _ before ⟨standing, found, belongs⟩
    rw [gone other (by simp [found])] at found
    exact absurd ⟨standing, found, belongs⟩ before

omit [Runtime] in
theorem safe_deleteUser (id : String) :
    SafeUpdate workspaceId ((DirectoryAnswer.user <$> deleteUser workspaceId id).logged
      (.deleteUser workspaceId id)) before := by
  rw [deleteUser_eq]
  apply safe_first_read
  · intro found
    cases found with
    | none => rfl
    | some existing => rfl
  · intro began start since lawful
    cases found : start.state.getApproverUser workspaceId id with
    | none => exact fun _ _ _ => trivial
    | some existing =>
        apply Safe.proceed
        intro now _ current _ _
        refine ⟨current.take (current.tidy.delete id) ?_ (stepKept_of_delete rfl),
          fun _ _ _ => trivial⟩
        constructor
        · rintro other ⟨-, clock, isOther⟩
          cases isOther
        · rintro other ⟨-, isOther⟩
          cases isOther
          exact ApproverStore.standing_delete_self _ workspaceId id
        · rintro groupId ⟨-, clock, isOther⟩
          cases isOther

/-! Calls on groups -/

/-- The users stay as they are. -/
def SameUsers (store later : ApproverStore) : Prop := later.approverUsers = store.approverUsers

omit [Runtime] in
theorem SameUsers.tidy {store later : ApproverStore} (same : SameUsers store later)
    (tidy : store.Tidy workspaceId) : later.Tidy workspaceId := by
  unfold SameUsers at same
  constructor
  · rw [same]
    exact tidy.home
  · rw [same]
    exact tidy.keyed
  · rw [same]
    exact tidy.groups

omit [Runtime] in
theorem SameUsers.standing {store later : ApproverStore} (same : SameUsers store later)
    (workspaceId id : String) :
    later.standing workspaceId id = store.standing workspaceId id := by
  unfold ApproverStore.standing ApproverStore.getApproverUser
  rw [same]

omit [Runtime] in
theorem safe_sameUsers {prog : DirectoryProg DirectoryAnswer} (only : prog.Only SameUsers)
    (ends : ∀ moment : DirectoryMoment, moment.call = call → EndKept workspaceId moment) :
    SafeUpdate workspaceId (prog.loggedFrom call began) before := by
  induction prog generalizing before with
  | pure value => exact fun _ _ _ => trivial
  | throw error => exact fun _ _ _ => trivial
  | step write next ih =>
      intro now _ lawful _
      obtain ⟨same, rest⟩ := only now.state
      have kept := lawful.take (same.tidy lawful.tidy)
        (ends (now.moment call began write (next now.state).answered) rfl)
        (StepKept.of_steady (same.standing workspaceId))
      exact ⟨kept, now.take_extends call began _ _, ih now.state rest⟩

omit [Runtime] in
theorem safe_sameUsers_call {prog : DirectoryProg DirectoryAnswer} (only : prog.Only SameUsers)
    (ends : ∀ moment : DirectoryMoment, moment.call = call → EndKept workspaceId moment) :
    SafeUpdate workspaceId (prog.logged call) before := by
  cases prog with
  | pure value => exact fun _ _ _ => trivial
  | throw error => exact fun _ _ _ => trivial
  | step write next =>
      intro now _ lawful _
      obtain ⟨same, rest⟩ := only now.state
      have kept := lawful.take (same.tidy lawful.tidy)
        (ends (now.moment call now.log.length write (next now.state).answered) rfl)
        (StepKept.of_steady (same.standing workspaceId))
      exact ⟨kept, now.take_extends call _ _ _, safe_sameUsers rest ends⟩

omit [Runtime] in
theorem only_read {β α : Type} {view : ApproverStore → β} {next : β → DirectoryProg α}
    (later : ∀ value, (next value).Only SameUsers) :
    (Prog.read view >>= next : DirectoryProg α).Only SameUsers :=
  fun state => ⟨rfl, later (view state)⟩

omit [Runtime] in
theorem only_upsertGroup (now workspaceId id : String) (input : UpsertApproverGroupInput) :
    (upsertGroup now workspaceId id input).Only SameUsers := by
  apply only_read
  intro existing
  exact fun state => ⟨rfl, trivial⟩

theorem only_createGroup (now workspaceId : String) (input : UpsertApproverGroupInput) :
    (createGroup now workspaceId input).Only SameUsers := by
  apply Prog.Only.bind
  · apply only_read
    intro users
    apply only_read
    intro groups
    dsimp only
    split
    · trivial
    · trivial
  · intro id
    exact only_upsertGroup now workspaceId id input

omit [Runtime] in
theorem only_disableGroup (now workspaceId id : String) :
    (disableGroup now workspaceId id).Only SameUsers := by
  apply only_read
  intro existing
  cases existing with
  | none => exact only_upsertGroup now workspaceId id _
  | some group => exact fun state => ⟨rfl, trivial⟩

omit [Runtime] in
theorem only_answer {α : Type} {prog : DirectoryProg α} {wrap : α → DirectoryAnswer}
    (only : prog.Only SameUsers) : (wrap <$> prog).Only SameUsers :=
  Prog.Only.bind only (fun _ => trivial)

/-- Since the call began, the user was without the group at some moment. -/
def WasOut (workspaceId id groupId : String) (began : Nat) (now : LoggedDirectory) : Prop :=
  ∃ left : LoggedDirectory, left.Extends now ∧ began ≤ left.log.length ∧
    ¬ left.state.Belongs workspaceId id groupId

omit [Runtime] in
theorem WasOut.later {id groupId : String} {now later : LoggedDirectory}
    (out : WasOut workspaceId id groupId began now) (moved : now.Extends later) :
    WasOut workspaceId id groupId began later := by
  obtain ⟨left, extends', since, absent⟩ := out
  exact ⟨left, extends'.trans moved, since, absent⟩

/-- The first error of the writes. -/
def firstError (answer : Except DirectoryError ApproverUserRecord)
    (later : Option DirectoryError) : Option DirectoryError :=
  match answer with
  | .error error => some error
  | .ok _ => later

omit [Runtime] in
theorem leaveGroup_cons (now groupId : String) (user : ApproverUserRecord)
    (users : List ApproverUserRecord) (rest : Option DirectoryError → DirectoryProg DirectoryAnswer) :
    (leaveGroup now groupId (user :: users)).bind rest =
      (Prog.call (ApproverStore.upsertApproverUser
        { user with groups := user.groups.filter (· != groupId), updatedAt := now })).bind
        fun answer => (leaveGroup now groupId users).bind fun later =>
          rest (firstError answer later) := by
  refine (Prog.bind_assoc _ _ _).trans (congrArg _ (funext fun answer => ?_))
  refine (Prog.bind_assoc _ _ _).trans (congrArg _ (funext fun later => ?_))
  cases answer with
  | error error => rfl
  | ok record => rfl

omit [Runtime] in
theorem leaveGroup_running {now groupId : String} {users : List ApproverUserRecord}
    {rest : Option DirectoryError → DirectoryProg DirectoryAnswer}
    (running : ∀ failed, (rest failed).answered = false) :
    ((leaveGroup now groupId users).bind rest).answered = false := by
  cases users with
  | nil => exact running none
  | cons user users =>
      rw [leaveGroup_cons]
      rfl

omit [Runtime] in
/-- After the writes without an error, each listed user was without the group once. -/
theorem safe_leaveGroup {now groupId : String} {users : List ApproverUserRecord}
    {rest : Option DirectoryError → DirectoryProg DirectoryAnswer} {listing : LoggedDirectory}
    (lawful : DirectoryLawful workspaceId listing) (moved : listing.Extends before)
    (since : began ≤ listing.log.length)
    (listed : ∀ user ∈ users,
      listing.state.getApproverUser workspaceId user.id = some user)
    (running : ∀ failed, (rest failed).answered = false)
    (after : ∀ current failed, before.Extends current → DirectoryLawful workspaceId current →
      (failed = none → ∀ user ∈ users, WasOut workspaceId user.id groupId began current) →
        SafeUpdate workspaceId ((rest failed).loggedFrom call began) current)
    (current : DirectoryLawful workspaceId before) :
    SafeUpdate workspaceId (((leaveGroup now groupId users).bind rest).loggedFrom call began)
      before := by
  induction users generalizing before rest with
  | nil =>
      apply after before none (Logged.Extends.refl before) current
      intro _ user member
      cases member
  | cons user users ih =>
      rw [leaveGroup_cons]
      have found := listed user List.mem_cons_self
      let record : ApproverUserRecord :=
        { user with groups := user.groups.filter (· != groupId), updatedAt := now }
      have recordFound : listing.state.getApproverUser workspaceId record.id = some user := found
      have recordHome : record.workspaceId = workspaceId := (lawful.tidy.found found).1
      apply safe_carried lawful moved since recordFound recordHome
      · exact fun enabled => enabled
      · exact fun groupId member => (List.mem_filter.mp member).1
      · intro state
        apply EndKept.of_open
        exact leaveGroup_running (fun failed => running _)
      · intro written answer step writtenLawful stored
        apply ih (moved.trans step) (fun other member => listed other (List.mem_cons_of_mem _ member))
          (fun failed => running _) _ writtenLawful
        intro last failed movedOn lastLawful others
        apply after last _ (step.trans movedOn) lastLawful
        intro none_failed other member
        cases answer with
        | error error => cases none_failed
        | ok kept =>
            rcases List.mem_cons.mp member with rfl | later
            · refine ⟨written, movedOn, since.trans (moved.trans step).length_le, ?_⟩
              rintro ⟨standing, found, belongs⟩
              rw [stored ⟨kept, rfl⟩] at found
              cases found
              have different := (List.mem_filter.mp belongs).2
              simp at different
            · exact others none_failed other later

theorem deleteGroup_eq (now workspaceId groupId : String) :
    DirectoryAnswer.group <$> deleteGroup now workspaceId groupId =
      (Prog.read (ApproverStore.getApproverGroup workspaceId groupId)).bind fun found =>
        match found with
        | none => .throw (.notFound ("Approver group not found: " ++ groupId))
        | some existing =>
            (Prog.read (ApproverStore.listApproverUsers workspaceId)).bind fun users =>
              (leaveGroup now groupId (users.filter (·.groups.contains groupId))).bind fun failed =>
                match failed with
                | some error => .throw error
                | none =>
                    (Prog.call (ApproverStore.deleteApproverGroup workspaceId groupId)).bind fun _ =>
                      .pure (.group existing) := by
  refine (Prog.bind_assoc _ _ _).trans (congrArg _ (funext fun found => ?_))
  cases found with
  | none => rfl
  | some existing =>
      refine (Prog.bind_assoc _ _ _).trans (congrArg _ (funext fun users => ?_))
      refine (Prog.bind_assoc _ _ _).trans (congrArg _ (funext fun failed => ?_))
      cases failed with
      | none => rfl
      | some error => rfl

theorem endKept_deleteGroup {now groupId : String} {listing current : LoggedDirectory}
    {moment : DirectoryMoment} (tidy : listing.state.Tidy workspaceId)
    (moved : listing.Extends current) (since : moment.began ≤ listing.log.length)
    (out : ∀ user ∈ (listing.state.listApproverUsers workspaceId).filter
      (·.groups.contains groupId), WasOut workspaceId user.id groupId moment.began current)
    (isCall : moment.call = .deleteGroup now workspaceId groupId)
    (here : moment.before = current.state) (same : SameUsers moment.before moment.after)
    (undisturbed : Undisturbed workspaceId current.log moment) : EndKept workspaceId moment := by
  constructor
  · rintro id ⟨-, clock, isOther⟩
    cases isCall.symm.trans isOther
  · rintro id ⟨-, isOther⟩
    cases isCall.symm.trans isOther
  · rintro group ended id belongs
    obtain ⟨clock, isOther⟩ := ended.2
    cases isCall.symm.trans isOther
    have kept := undisturbed.joined groupId ended id
    have belongsNow : current.state.Belongs workspaceId id groupId := by
      unfold ApproverStore.Belongs at belongs ⊢
      rw [same.standing, here] at belongs
      exact belongs
    obtain ⟨standing, found, member⟩ := moved.absent since kept belongsNow
    obtain ⟨user, isUser, rfl⟩ := Option.map_eq_some_iff.mp found
    have sameId := (tidy.found isUser).2
    obtain ⟨left, moved', since', absent⟩ := out user (List.mem_filter.mpr
      ⟨ApproverStore.listed_of_found tidy isUser, List.contains_iff_mem.mpr member⟩)
    apply absent
    rw [sameId]
    exact moved'.absent since' kept belongsNow

theorem safe_deleteGroup (now groupId : String) :
    SafeUpdate workspaceId ((DirectoryAnswer.group <$> deleteGroup now workspaceId groupId).logged
      (.deleteGroup now workspaceId groupId)) before := by
  rw [deleteGroup_eq]
  apply safe_first_read
  · intro found
    cases found with
    | none => rfl
    | some existing => rfl
  · intro began start since _
    cases start.state.getApproverGroup workspaceId groupId with
    | none => exact fun _ _ _ => trivial
    | some existing =>
        have running : ∀ failed : Option DirectoryError, Prog.answered (match failed with
            | some error => .throw error
            | none =>
                (Prog.call (ApproverStore.deleteApproverGroup workspaceId groupId)).bind fun _ =>
                  (.pure (.group existing) : DirectoryProg DirectoryAnswer)) = false := by
          intro failed
          cases failed with
          | none => rfl
          | some error => rfl
        apply safe_read
        · intro users
          exact leaveGroup_running running
        · intro listing moved lawful
          have sinceListing := since.trans moved.length_le
          apply safe_leaveGroup lawful (Logged.Extends.refl listing) sinceListing
          · intro user member
            exact lawful.tidy.listed (List.mem_filter.mp member).1
          · exact running
          · intro current failed movedOn currentLawful out
            cases failed with
            | some error => exact fun _ _ _ => trivial
            | none =>
                apply Safe.proceed
                intro last movedLast lastLawful step allowed
                have same : SameUsers last.state step.state := rfl
                have ends := endKept_deleteGroup lawful.tidy (movedOn.trans movedLast) sinceListing
                  (fun user member => (out rfl user member).later movedLast) rfl rfl same
                  (allowed _ rfl)
                exact ⟨lastLawful.take (same.tidy lastLawful.tidy) ends
                  (StepKept.of_steady (same.standing workspaceId)), fun _ _ _ => trivial⟩
          · exact lawful

end

end ApproverDirectory

/-! ### Any interleaving -/

open ApproverDirectory in
theorem DirectoryCall.safe [Runtime] (call : DirectoryCall)
    (home : call.workspaceId = workspaceId) (names : call.namesUser = true) :
    SafeUpdate workspaceId (call.prog.logged call) before := by
  cases call with
  | createUser now workspace input => cases names
  | upsertUser now workspace id input =>
      cases home
      exact safe_upsertUser now id input
  | connectTelegramUser now workspace id input =>
      cases home
      refine safe_changeUser ?_ ?_
      · exact fun user => ⟨rfl, rfl, rfl⟩
      · intro moment isCall
        exact EndKept.of_call (by simp [isCall]) (by simp [isCall]) (by simp [isCall])
  | disconnectTelegramUser now workspace id =>
      cases home
      refine safe_changeUser ?_ ?_
      · exact fun user => ⟨rfl, rfl, rfl⟩
      · intro moment isCall
        exact EndKept.of_call (by simp [isCall]) (by simp [isCall]) (by simp [isCall])
  | disableUser now workspace id =>
      cases home
      exact safe_disableUser now id
  | deleteUser workspace id =>
      cases home
      exact safe_deleteUser id
  | createGroup now workspace input =>
      apply safe_sameUsers_call (only_answer (only_createGroup now workspace input))
      intro moment isCall
      exact EndKept.of_call (by simp [isCall]) (by simp [isCall]) (by simp [isCall])
  | upsertGroup now workspace id input =>
      apply safe_sameUsers_call (only_answer (only_upsertGroup now workspace id input))
      intro moment isCall
      exact EndKept.of_call (by simp [isCall]) (by simp [isCall]) (by simp [isCall])
  | disableGroup now workspace id =>
      apply safe_sameUsers_call (only_answer (only_disableGroup now workspace id))
      intro moment isCall
      exact EndKept.of_call (by simp [isCall]) (by simp [isCall]) (by simp [isCall])
  | deleteGroup now workspace groupId =>
      cases home
      exact safe_deleteGroup now groupId

/-- In every run in which no write of a user crosses another update of what it writes,
no revocation is undone but by a call that means to. -/
theorem directory_revocations_kept [Runtime]
    {world : World LoggedDirectory DirectoryError DirectoryAnswer}
    (reached : Reaches (directoryUpdates workspaceId) (UndisturbedStep workspaceId)
      loggedDirectoryStart world) : RevocationsKept workspaceId world.state.log := by
  have lawful : DirectoryLawful workspaceId loggedDirectoryStart.state := by
    refine ⟨⟨?_, ?_, ?_⟩, ?_⟩
    · intro key user found
      cases found
    · intro key user found
      cases found
    · intro key user found
      cases found
    · intro earlier moment later split
      exact absurd (congrArg List.length split) (by simp [loggedDirectoryStart])
  have safe : (recording (DirectoryLawful workspaceId)).inv world.state ∧
      ∀ prog ∈ world.threads, SafeUpdate workspaceId prog world.state := by
    apply Reaches.safe reached
    · rintro prog ⟨call, ⟨home, names⟩, rfl⟩ state _
      exact call.safe home names
    · intro change offered
      cases offered
    · exact lawful
    · intro prog member
      cases member
  exact safe.1.kept

end

theorem directoryUpdates_logged [Runtime] {workspaceId : String} {world : DirectoryWorld}
    (reached : Reaches (calling DirectoryCall.prog
      (fun call => call.workspaceId = workspaceId ∧ call.namesUser = true))
      Unrestricted directoryStart world) :
    ∃ logged, Reaches (directoryUpdates workspaceId) Unrestricted loggedDirectoryStart logged ∧
      logged.LoggedAs world := by
  apply reached.withLog
  refine ⟨rfl, rfl, ?_⟩
  intro thread recorded prog found
  cases found

/-! ### An update that crosses a revocation -/

private abbrev updatesRuntime : Runtime := sampleRuntime []

private def loggedStart (call : DirectoryCall) :
    Choice LoggedDirectory DirectoryError DirectoryAnswer :=
  .start ((@DirectoryCall.prog updatesRuntime call).logged call)

private def createAlice : DirectoryCall :=
  .upsertUser "1" "default" "alice" (ApproverDirectory.blankUpdate "Alice" true)

private def disableAlice : DirectoryCall := .disableUser "2" "default" "alice"

private def connectAlice : DirectoryCall :=
  .connectTelegramUser "3" "default" "alice"
    { telegramChatId := "chat", telegramUsername := none, telegramUserId := "user" }

/-- The user is disabled between the read and the write of the Telegram connection. -/
private def disabledMeanwhile : List (Choice LoggedDirectory DirectoryError DirectoryAnswer) :=
  [loggedStart createAlice, .advance 0, .advance 0, .advance 0,
    loggedStart disableAlice, loggedStart connectAlice, .advance 1, .advance 2,
    .advance 1, .advance 2]

private theorem offered_call {call : DirectoryCall} (home : call.workspaceId = "default")
    (names : call.namesUser = true) :
    (@directoryUpdates updatesRuntime "default").Offers (loggedStart call) :=
  ⟨call, ⟨home, names⟩, rfl⟩

/-- The connection writes the user back as it was read, enabled. -/
theorem directory_revocation_undone :
    ∃ world : World LoggedDirectory DirectoryError DirectoryAnswer,
      Reaches (@directoryUpdates updatesRuntime "default") Unrestricted loggedDirectoryStart
        world ∧ ¬ RevocationsKept "default" world.state.log := by
  have offered : disabledMeanwhile.Forall (@directoryUpdates updatesRuntime "default").Offers :=
    ⟨offered_call rfl rfl, trivial, trivial, trivial, offered_call rfl rfl, offered_call rfl rfl,
      trivial, trivial, trivial, trivial⟩
  refine ⟨loggedDirectoryStart.run disabledMeanwhile, reaches_run Reaches.refl
    (List.forall_iff_forall_mem.mp offered) (World.meets_unrestricted _ _), ?_⟩
  intro kept
  have last : ∃ earlier moment other, (loggedDirectoryStart.run disabledMeanwhile).state.log =
      earlier ++ [moment] ∧ earlier[5]? = some other ∧
        DisabledUser "default" "alice" other ∧
        moment.before.standing "default" "alice" = some ⟨false, []⟩ ∧
        moment.after.standing "default" "alice" = some ⟨true, []⟩ ∧
        moment.call = connectAlice :=
    ⟨(loggedDirectoryStart.run disabledMeanwhile).state.log.take 6, _, _, rfl, rfl,
      ⟨rfl, "2", rfl⟩, rfl, rfl, rfl⟩
  obtain ⟨earlier, moment, other, split, found, disables, before, after, isCall⟩ := last
  have disabled : ∃ other ∈ earlier, DisabledUser "default" "alice" other :=
    ⟨other, List.mem_of_getElem? found, disables⟩
  have enabled := (kept earlier moment [] split).2.enabled "alice" disabled
  obtain ⟨now, input, isUpdate, -⟩ := enabled
    (by
      rintro ⟨standing, found, isEnabled⟩
      rw [before] at found
      cases found
      cases isEnabled)
    ⟨_, after, rfl⟩
  cases isCall.symm.trans isUpdate

private def oneAfterTheOther : List (Choice LoggedDirectory DirectoryError DirectoryAnswer) :=
  [loggedStart createAlice, .advance 0, .advance 0, .advance 0,
    loggedStart disableAlice, .advance 1, .advance 1]

/-- The step of a call that alone took steps since it began, none of which changed the
store. -/
private theorem undisturbed_alone {earlier : List DirectoryMoment} {moment : DirectoryMoment}
    (alone : (earlier.drop moment.began).Forall
      (fun other => other.ended = false ∧ other.before = other.after))
    (fresh : earlier.Forall (fun other => other.ended = false) ∨
      ∀ now id input, moment.call ≠ .upsertUser now "default" id input) :
    Undisturbed "default" earlier moment := by
  have quiet := List.forall_iff_forall_mem.mp alone
  constructor
  · intro id _ other member
    rw [(quiet other member).2]
  · intro id _ other member deleted
    exact absurd deleted.1 (by simp [(quiet other member).1])
  · intro now id input groupId _ _ _ other member deleted
    exact absurd deleted.1 (by simp [(quiet other member).1])
  · intro groupId _ id other member belongs
    rw [(quiet other member).2]
    exact belongs
  · intro now id input isCall _ _ _ other member disabled
    rcases fresh with running | different
    · have open' := List.forall_iff_forall_mem.mp running other member
      exact absurd disabled.1 (by simp [open'])
    · exact different now id input isCall

private theorem undisturbedStep_of {before after : LoggedDirectory} {moment : DirectoryMoment}
    (log : after.log = before.log ++ [moment])
    (undisturbed : Undisturbed "default" before.log moment) :
    UndisturbedStep "default" before after := by
  intro other same
  rw [log] at same
  cases (List.append_inj' same rfl).2
  exact undisturbed

private theorem undisturbedStep_start {before after : LoggedDirectory}
    (same : after.log = before.log) : UndisturbedStep "default" before after := by
  intro other longer
  rw [same] at longer
  exact absurd (congrArg List.length longer) (by simp)

private theorem oneAfterTheOther_meets :
    loggedDirectoryStart.Meets (UndisturbedStep "default") oneAfterTheOther := by
  refine ⟨undisturbedStep_start rfl,
    undisturbedStep_of rfl (undisturbed_alone trivial (Or.inl trivial)),
    undisturbedStep_of rfl (undisturbed_alone ⟨rfl, rfl⟩ (Or.inl rfl)),
    undisturbedStep_of rfl (undisturbed_alone ⟨⟨rfl, rfl⟩, rfl, rfl⟩ (Or.inl ⟨rfl, rfl⟩)),
    undisturbedStep_start rfl,
    undisturbedStep_of rfl (undisturbed_alone trivial (Or.inr ?_)),
    undisturbedStep_of rfl (undisturbed_alone ⟨rfl, rfl⟩ (Or.inr ?_)), trivial⟩
  · intro now id input isCall
    cases isCall
  · intro now id input isCall
    cases isCall

theorem directory_revocations_kept_inTurn :
    RevocationsKept "default" (loggedDirectoryStart.run oneAfterTheOther).state.log := by
  have offered : oneAfterTheOther.Forall (@directoryUpdates updatesRuntime "default").Offers :=
    ⟨offered_call rfl rfl, trivial, trivial, trivial, offered_call rfl rfl, trivial, trivial⟩
  exact @directory_revocations_kept "default" updatesRuntime _
    (reaches_run Reaches.refl (List.forall_iff_forall_mem.mp offered) oneAfterTheOther_meets)

end ActionProxy
