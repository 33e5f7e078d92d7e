import ActionProxy.Services.ApproverDirectory

/-!
The identities of the approver directory under any interleaving of its calls. The
store keeps the effective identities of a workspace apart; ids and principals are
kept apart only while no write lands between the check of a call and its own
write.
-/

namespace ActionProxy

open Interleaving

/-! ### Identities -/

/-- A stored principal is given and without surrounding white space. -/
def ApproverUserRecord.Trimmed (user : ApproverUserRecord) : Prop :=
  ∀ principal, user.principalId = some principal → TextScan.content principal = some principal

/-- What a lookup found has a trimmed principal. -/
def FoundTrimmed (found : Option ApproverUserRecord) : Prop :=
  ∀ user, found = some user → user.Trimmed

def AllTrimmed (users : List ApproverUserRecord) : Prop := ∀ user ∈ users, user.Trimmed

theorem blankToUndefined_trimmed {value : Option String} {principal : String}
    (given : blankToUndefined value = some principal) :
    TextScan.content principal = some principal := by
  obtain ⟨text, -, trimmed⟩ := Option.bind_eq_some_iff.mp given
  exact (TextScan.content_eq_some trimmed).1

theorem authorizationPrincipalId_of_trimmed {user : ApproverUserRecord} (trimmed : user.Trimmed) :
    authorizationPrincipalId user = user.principalId.getD user.id := by
  unfold authorizationPrincipalId blankToUndefined
  cases given : user.principalId with
  | none => rfl
  | some principal => rw [Option.bind_some, trimmed principal given]

/-- Two users have no identifier in common. -/
structure Apart (left right : ApproverUserRecord) : Prop where
  ids : left.id ≠ right.id
  principals : authorizationPrincipalId left ≠ authorizationPrincipalId right
  id_principal : left.id ≠ authorizationPrincipalId right
  principal_id : authorizationPrincipalId left ≠ right.id

theorem Apart.symm {left right : ApproverUserRecord} (apart : Apart left right) :
    Apart right left :=
  { ids := apart.ids.symm
    principals := apart.principals.symm
    id_principal := apart.principal_id.symm
    principal_id := apart.id_principal.symm }

/-- The users of one workspace have no identifier in common. -/
def IdentitiesDisjoint (store : ApproverStore) : Prop :=
  ∀ key other left right, store.approverUsers.get? key = some left →
    store.approverUsers.get? other = some right → key ≠ other →
      left.workspaceId = right.workspaceId → Apart left right

/-- What the store itself keeps: every user under its own key, principals trimmed,
and one user for each effective identity of a workspace. -/
structure ApproverStore.WellFormed (store : ApproverStore) : Prop where
  keyed : ∀ key user, store.approverUsers.get? key = some user → key = user.key
  trimmed : ∀ key user, store.approverUsers.get? key = some user → user.Trimmed
  effective : ∀ key other left right, store.approverUsers.get? key = some left →
    store.approverUsers.get? other = some right → key ≠ other →
      left.workspaceId = right.workspaceId →
        approverEffectiveIdentity left ≠ approverEffectiveIdentity right

theorem ApproverStore.wellFormed_empty : ApproverStore.empty.WellFormed := by
  constructor
  · intro key user found
    cases found
  · intro key user found
    cases found
  · intro key other left right found
    cases found

namespace ApproverStore

/-- A relation of the users of one workspace that holds between the old ones and
between each of them and a new one holds when that is written. -/
theorem setApproverUser_apart {store : ApproverStore} {record : ApproverUserRecord}
    {related : ApproverUserRecord → ApproverUserRecord → Prop}
    (old : ∀ key other left right, store.approverUsers.get? key = some left →
      store.approverUsers.get? other = some right → key ≠ other →
        left.workspaceId = right.workspaceId → related left right)
    (written : ∀ key user, store.approverUsers.get? key = some user → key ≠ record.key →
      user.workspaceId = record.workspaceId → related user record ∧ related record user) :
    ∀ key other left right, (store.setApproverUser record).approverUsers.get? key = some left →
      (store.setApproverUser record).approverUsers.get? other = some right → key ≠ other →
        left.workspaceId = right.workspaceId → related left right := by
  intro key other left right foundLeft foundRight different workspace
  unfold setApproverUser at foundLeft foundRight
  rw [KeyedTable.get?_set] at foundLeft foundRight
  split at foundLeft
  · rename_i here
    cases foundLeft
    rw [if_neg (fun there => different (here.trans there.symm))] at foundRight
    exact (written other right foundRight (fun there => different (here.trans there.symm))
      workspace.symm).2
  · rename_i elsewhere
    split at foundRight
    · cases foundRight
      exact (written key left foundLeft elsewhere workspace).1
    · exact old key other left right foundLeft foundRight different workspace

theorem WellFormed.upsert {store : ApproverStore} (formed : store.WellFormed)
    {record : ApproverUserRecord} (trimmed : record.Trimmed) :
    (upsertApproverUser record store).2.WellFormed := by
  unfold upsertApproverUser
  split
  · exact formed
  · rename_i free
    have available : ∀ key user, store.approverUsers.get? key = some user →
        user.workspaceId = record.workspaceId → user.id ≠ record.id →
          approverEffectiveIdentity user ≠ approverEffectiveIdentity record := by
      intro key user found workspace different same
      apply free
      unfold principalTaken
      rw [List.any_eq_true]
      refine ⟨user, (store.approverUsers.mem_values_iff user).mpr ⟨key, found⟩, ?_⟩
      simp [workspace, different, same]
    constructor
    · intro key user found
      unfold setApproverUser at found
      rw [KeyedTable.get?_set] at found
      split at found
      · rename_i here
        cases found
        exact here
      · exact formed.keyed key user found
    · intro key user found
      unfold setApproverUser at found
      rw [KeyedTable.get?_set] at found
      split at found
      · cases found
        exact trimmed
      · exact formed.trimmed key user found
    · apply setApproverUser_apart formed.effective
      intro key user found different workspace
      have otherId : user.id ≠ record.id := by
        intro same
        apply different
        rw [formed.keyed key user found]
        unfold ApproverUserRecord.key
        rw [workspace, same]
      have apart := available key user found workspace otherId
      exact ⟨apart, apart.symm⟩

theorem get?_delete {store : ApproverStore} {workspaceId id key : String}
    {user : ApproverUserRecord}
    (found : (deleteApproverUser workspaceId id store).2.approverUsers.get? key = some user) :
    store.approverUsers.get? key = some user := by
  unfold deleteApproverUser at found
  rw [KeyedTable.get?_erase] at found
  split at found
  · cases found
  · exact found

theorem WellFormed.delete {store : ApproverStore} (formed : store.WellFormed)
    (workspaceId id : String) : (deleteApproverUser workspaceId id store).2.WellFormed :=
  { keyed := fun key user found => formed.keyed key user (get?_delete found)
    trimmed := fun key user found => formed.trimmed key user (get?_delete found)
    effective := fun key other left right foundLeft foundRight =>
      formed.effective key other left right (get?_delete foundLeft) (get?_delete foundRight) }

end ApproverStore

/-! ### What the calls keep -/

namespace ApproverDirectory

/-- What a property of the store needs so that every call keeps it. -/
structure Kept (permitted : ApproverStore → ApproverStore → Prop) (inv : ApproverStore → Prop) :
    Prop where
  formed : ∀ store, inv store → store.WellFormed
  upsert : ∀ store record, inv store → record.Trimmed →
    permitted store (ApproverStore.upsertApproverUser record store).2 →
      inv (ApproverStore.upsertApproverUser record store).2
  delete : ∀ store workspaceId id, inv store →
    inv (ApproverStore.deleteApproverUser workspaceId id store).2
  groups : ∀ store approverGroups, inv store → inv { store with approverGroups := approverGroups }

section

variable [Runtime] {permitted : ApproverStore → ApproverStore → Prop} {inv : ApproverStore → Prop}

omit [Runtime] in
theorem Kept.upsert_then (kept : Kept permitted inv) {record : ApproverUserRecord}
    {β : Type} {next : Except DirectoryError ApproverUserRecord → DirectoryProg β}
    {ends : β → Prop} (trimmed : record.Trimmed)
    (after : ∀ answer, KeepsWith permitted inv ends (next answer)) :
    KeepsWith permitted inv ends
      (Prog.call (ApproverStore.upsertApproverUser record) >>= next) :=
  KeepsWith.call (fun store holds allowed => kept.upsert store record holds trimmed allowed) after

omit [Runtime] in
theorem Kept.stored_trimmed (kept : Kept permitted inv) (workspaceId id : String)
    (store : ApproverStore) (holds : inv store) :
    FoundTrimmed (ApproverStore.getApproverUser workspaceId id store) :=
  fun user found => (kept.formed store holds).trimmed _ user found

theorem updatedUser_trimmed {workspaceId id now : String} {existing : Option ApproverUserRecord}
    {input : UpsertApproverUserInput} (trimmed : FoundTrimmed existing) :
    (updatedUser workspaceId id now existing input).Trimmed := by
  intro principal given
  rcases Option.or_eq_some_iff.mp (Option.orElse_eq_or.symm.trans given) with supplied | ⟨-, kept⟩
  · exact blankToUndefined_trimmed supplied
  · obtain ⟨user, found, stored⟩ := Option.bind_eq_some_iff.mp kept
    exact trimmed user found principal stored

theorem keeps_assertUnique (workspaceId id : String) (principalId : Option String) :
    Keeps permitted inv (assertUniqueAuthorizationIdentity workspaceId id principalId) := by
  apply KeepsWith.read_any
  intro users
  split
  · exact KeepsWith.throw _
  · exact KeepsWith.pure trivial

theorem keeps_upsertUser (kept : Kept permitted inv) (now workspaceId id : String)
    (input : UpsertApproverUserInput) :
    Keeps permitted inv (upsertUser now workspaceId id input) := by
  apply KeepsWith.read (kept.stored_trimmed workspaceId id)
  intro existing trimmed
  apply KeepsWith.bind (keeps_assertUnique workspaceId id _)
  intro _ _
  apply kept.upsert_then (updatedUser_trimmed trimmed)
  intro answer
  exact KeepsWith.ofExcept _

theorem keeps_nextGeneratedDirectoryId (workspaceId start : String) (displayName : Option String)
    (fallback : String) :
    Keeps permitted inv (nextGeneratedDirectoryId workspaceId start displayName fallback) := by
  apply KeepsWith.read_any
  intro users
  apply KeepsWith.read_any
  intro groups
  dsimp only
  split
  · exact KeepsWith.pure trivial
  · exact KeepsWith.throw _

theorem keeps_createUser (kept : Kept permitted inv) (now workspaceId : String)
    (input : UpsertApproverUserInput) : Keeps permitted inv (createUser now workspaceId input) := by
  apply KeepsWith.bind (keeps_nextGeneratedDirectoryId workspaceId "u" _ _)
  intro id _
  exact keeps_upsertUser kept now workspaceId id input

omit [Runtime] in
theorem keeps_changeUser (kept : Kept permitted inv) (workspaceId id : String)
    {change : ApproverUserRecord → ApproverUserRecord}
    (principal : ∀ user, (change user).principalId = user.principalId) :
    Keeps permitted inv (changeUser workspaceId id change) := by
  apply KeepsWith.read (kept.stored_trimmed workspaceId id)
  intro existing trimmed
  cases existing with
  | none => exact KeepsWith.throw _
  | some user =>
      apply kept.upsert_then
      · unfold ApproverUserRecord.Trimmed
        rw [principal]
        exact trimmed user rfl
      · intro answer
        exact KeepsWith.ofExcept _

theorem keeps_disableUser (kept : Kept permitted inv) (now workspaceId id : String) :
    Keeps permitted inv (disableUser now workspaceId id) := by
  apply KeepsWith.read (kept.stored_trimmed workspaceId id)
  intro existing trimmed
  cases existing with
  | none => exact keeps_upsertUser kept now workspaceId id _
  | some user =>
      apply kept.upsert_then
      · exact trimmed user rfl
      · intro answer
        exact KeepsWith.ofExcept _

omit [Runtime] in
theorem keeps_deleteUser (kept : Kept permitted inv) (workspaceId id : String) :
    Keeps permitted inv (deleteUser workspaceId id) := by
  apply KeepsWith.read_any
  intro existing
  cases existing with
  | none => exact KeepsWith.throw _
  | some user =>
      apply KeepsWith.call
      · intro store holds _
        exact kept.delete store workspaceId id holds
      · intro _
        exact KeepsWith.pure trivial

omit [Runtime] in
theorem keeps_upsertGroup (kept : Kept permitted inv) (now workspaceId id : String)
    (input : UpsertApproverGroupInput) :
    Keeps permitted inv (upsertGroup now workspaceId id input) := by
  apply KeepsWith.read_any
  intro existing
  apply KeepsWith.last
  intro store holds _
  exact kept.groups store _ holds

theorem keeps_createGroup (kept : Kept permitted inv) (now workspaceId : String)
    (input : UpsertApproverGroupInput) :
    Keeps permitted inv (createGroup now workspaceId input) := by
  apply KeepsWith.bind (keeps_nextGeneratedDirectoryId workspaceId "g" _ _)
  intro id _
  exact keeps_upsertGroup kept now workspaceId id input

omit [Runtime] in
theorem keeps_disableGroup (kept : Kept permitted inv) (now workspaceId id : String) :
    Keeps permitted inv (disableGroup now workspaceId id) := by
  apply KeepsWith.read_any
  intro existing
  cases existing with
  | none => exact keeps_upsertGroup kept now workspaceId id _
  | some group =>
      apply KeepsWith.last
      intro store holds _
      exact kept.groups store _ holds

omit [Runtime] in
theorem keeps_leaveGroup (kept : Kept permitted inv) (now groupId : String)
    {users : List ApproverUserRecord} (trimmed : AllTrimmed users) :
    Keeps permitted inv (leaveGroup now groupId users) := by
  induction users with
  | nil => exact KeepsWith.pure trivial
  | cons user rest ih =>
      apply kept.upsert_then
      · exact trimmed user List.mem_cons_self
      · intro answer
        apply KeepsWith.bind (ih (fun other member => trimmed other (List.mem_cons_of_mem _ member)))
        intro later _
        cases answer with
        | ok _ => exact KeepsWith.pure trivial
        | error _ => exact KeepsWith.pure trivial

theorem keeps_deleteGroup (kept : Kept permitted inv) (now workspaceId id : String) :
    Keeps permitted inv (deleteGroup now workspaceId id) := by
  apply KeepsWith.read_any
  intro existing
  cases existing with
  | none => exact KeepsWith.throw _
  | some group =>
      have listed : ∀ store, inv store →
          AllTrimmed (ApproverStore.listApproverUsers workspaceId store) := by
        intro store holds user member
        have stored := List.mem_of_mem_filter ((List.mem_insertionSort _).mp member)
        obtain ⟨key, found⟩ := (store.approverUsers.mem_values_iff user).mp stored
        exact (kept.formed store holds).trimmed key user found
      apply KeepsWith.read listed
      intro users trimmed
      apply KeepsWith.bind (keeps_leaveGroup kept now id
        (fun user member => trimmed user (List.mem_of_mem_filter member)))
      intro failure _
      cases failure with
      | some error => exact KeepsWith.throw error
      | none =>
          apply KeepsWith.call
          · intro store holds _
            exact kept.groups store _ holds
          · intro _
            exact KeepsWith.pure trivial

end

end ApproverDirectory

/-! ### Any interleaving of calls -/

inductive DirectoryAnswer where
  | user (record : ApproverUserRecord)
  | group (record : ApproverGroupRecord)

/-- A call of the service; `now` is what it reads of the clock. -/
inductive DirectoryCall where
  | createUser (now workspaceId : String) (input : UpsertApproverUserInput)
  | upsertUser (now workspaceId id : String) (input : UpsertApproverUserInput)
  | connectTelegramUser (now workspaceId id : String) (input : ConnectTelegramInput)
  | disconnectTelegramUser (now workspaceId id : String)
  | disableUser (now workspaceId id : String)
  | deleteUser (workspaceId id : String)
  | createGroup (now workspaceId : String) (input : UpsertApproverGroupInput)
  | upsertGroup (now workspaceId id : String) (input : UpsertApproverGroupInput)
  | disableGroup (now workspaceId id : String)
  | deleteGroup (now workspaceId id : String)

section

variable [Runtime]

def DirectoryCall.prog : DirectoryCall → DirectoryProg DirectoryAnswer
  | .createUser now workspaceId input => .user <$> ApproverDirectory.createUser now workspaceId input
  | .upsertUser now workspaceId id input => .user <$> ApproverDirectory.upsertUser now workspaceId id input
  | .connectTelegramUser now workspaceId id input =>
      .user <$> ApproverDirectory.connectTelegramUser now workspaceId id input
  | .disconnectTelegramUser now workspaceId id =>
      .user <$> ApproverDirectory.disconnectTelegramUser now workspaceId id
  | .disableUser now workspaceId id => .user <$> ApproverDirectory.disableUser now workspaceId id
  | .deleteUser workspaceId id => .user <$> ApproverDirectory.deleteUser workspaceId id
  | .createGroup now workspaceId input => .group <$> ApproverDirectory.createGroup now workspaceId input
  | .upsertGroup now workspaceId id input => .group <$> ApproverDirectory.upsertGroup now workspaceId id input
  | .disableGroup now workspaceId id => .group <$> ApproverDirectory.disableGroup now workspaceId id
  | .deleteGroup now workspaceId id => .group <$> ApproverDirectory.deleteGroup now workspaceId id

def directorySystem : System ApproverStore DirectoryError DirectoryAnswer :=
  { starts := fun prog => ∃ call : DirectoryCall, prog = call.prog
    environment := fun _ => False }

abbrev DirectoryWorld := World ApproverStore DirectoryError DirectoryAnswer

/-- The empty directory, before any call. -/
def directoryStart : DirectoryWorld := { state := ApproverStore.empty, threads := [] }

open ApproverDirectory in
theorem DirectoryCall.keeps {permitted : ApproverStore → ApproverStore → Prop}
    {inv : ApproverStore → Prop} (kept : Kept permitted inv) (call : DirectoryCall) :
    Keeps permitted inv call.prog := by
  have answer : ∀ {α : Type} {prog : DirectoryProg α} {wrap : α → DirectoryAnswer},
      Keeps permitted inv prog → Keeps permitted inv (wrap <$> prog) := by
    intro α prog wrap keeps
    apply KeepsWith.bind keeps
    intro value _
    exact KeepsWith.pure trivial
  cases call with
  | createUser now workspaceId input => exact answer (keeps_createUser kept now workspaceId input)
  | upsertUser now workspaceId id input =>
      exact answer (keeps_upsertUser kept now workspaceId id input)
  | connectTelegramUser now workspaceId id input =>
      exact answer (keeps_changeUser kept workspaceId id (fun _ => rfl))
  | disconnectTelegramUser now workspaceId id =>
      exact answer (keeps_changeUser kept workspaceId id (fun _ => rfl))
  | disableUser now workspaceId id => exact answer (keeps_disableUser kept now workspaceId id)
  | deleteUser workspaceId id => exact answer (keeps_deleteUser kept workspaceId id)
  | createGroup now workspaceId input => exact answer (keeps_createGroup kept now workspaceId input)
  | upsertGroup now workspaceId id input =>
      exact answer (keeps_upsertGroup kept now workspaceId id input)
  | disableGroup now workspaceId id => exact answer (keeps_disableGroup kept now workspaceId id)
  | deleteGroup now workspaceId id => exact answer (keeps_deleteGroup kept now workspaceId id)

theorem directory_keeps {permitted : ApproverStore → ApproverStore → Prop}
    {inv : ApproverStore → Prop} (kept : ApproverDirectory.Kept permitted inv)
    (initial : inv ApproverStore.empty) {world : DirectoryWorld}
    (reached : Reaches directorySystem permitted directoryStart world) : inv world.state := by
  apply Reaches.keeps reached
  · rintro prog ⟨call, rfl⟩
    exact call.keeps kept
  · intro change offered
    cases offered
  · exact initial
  · rfl

omit [Runtime] in
theorem kept_wellFormed : ApproverDirectory.Kept Unrestricted ApproverStore.WellFormed :=
  { formed := fun _ formed => formed
    upsert := fun _ _ formed trimmed _ => formed.upsert trimmed
    delete := fun _ workspaceId id formed => formed.delete workspaceId id
    groups := fun _ _ formed => ⟨formed.keyed, formed.trimmed, formed.effective⟩ }

/-- However the calls interleave, no two users of a workspace have one effective
identity. -/
theorem directory_wellFormed {world : DirectoryWorld}
    (reached : Reaches directorySystem Unrestricted directoryStart world) :
    world.state.WellFormed :=
  directory_keeps kept_wellFormed ApproverStore.wellFormed_empty reached

/-- The condition is exact at each write: where a record fails the check of the
directory it is written to, it shares an identifier there. -/
theorem unconflicted_of_disjoint {store : ApproverStore} {record : ApproverUserRecord}
    (formed : store.WellFormed) (trimmed : record.Trimmed)
    (free : store.principalTaken record = false)
    (disjoint : IdentitiesDisjoint (ApproverStore.upsertApproverUser record store).2) :
    identityConflict (store.listApproverUsers record.workspaceId) record.id
      record.principalId = none := by
  unfold ApproverStore.upsertApproverUser at disjoint
  rw [if_neg (by simp [free])] at disjoint
  unfold identityConflict
  dsimp only
  rw [List.find?_eq_none]
  intro user listed shares
  have stored := (List.mem_insertionSort _).mp listed
  obtain ⟨member, workspace⟩ := List.mem_filter.mp stored
  obtain ⟨key, found⟩ := (store.approverUsers.mem_values_iff user).mp member
  have sameWorkspace : user.workspaceId = record.workspaceId := beq_iff_eq.mp workspace
  simp only [Bool.and_eq_true, bne_iff_ne, ne_eq, List.any_cons, List.any_nil, Bool.or_false,
    Bool.or_eq_true, List.contains_cons, List.contains_nil, beq_iff_eq] at shares
  obtain ⟨different, shared⟩ := shares
  have otherKey : key ≠ record.key := by
    rw [formed.keyed key user found]
    unfold ApproverUserRecord.key workspaceKey
    rw [sameWorkspace]
    intro same
    exact different ((String.append_right_inj _).mp same)
  have apart := disjoint key record.key user record
    (by rw [ApproverStore.setApproverUser, KeyedTable.get?_set_other _ otherKey, found])
    (KeyedTable.get?_set_self _ _ _) otherKey sameWorkspace
  rw [← authorizationPrincipalId_of_trimmed trimmed] at shared
  rcases shared with (sameId | idPrincipal) | (principalId | principals)
  · exact different sameId
  · exact apart.id_principal idPrincipal
  · exact apart.principal_id principalId
  · exact apart.principals principals

end

/-! ### Two updates that cross, and one after the other -/

private def principalUpdate (displayName principalId : String) : UpsertApproverUserInput :=
  { ApproverDirectory.blankUpdate displayName true with principalId := some principalId }

private abbrev directoryRuntime : Runtime := sampleRuntime []

private def aliceUpdate (principalId : String) : DirectoryCall :=
  .upsertUser "1" "default" "alice" (principalUpdate "Alice" principalId)

private def bobUpdate : DirectoryCall :=
  .upsertUser "1" "default" "bob" (principalUpdate "Bob" "carol")

private def starting (call : DirectoryCall) :
    Choice ApproverStore DirectoryError DirectoryAnswer :=
  .start (@DirectoryCall.prog directoryRuntime call)

/-- Both updates read the empty directory before either of them writes. -/
private def crossing : List (Choice ApproverStore DirectoryError DirectoryAnswer) :=
  [starting (aliceUpdate "bob"), starting bobUpdate,
    .advance 0, .advance 1, .advance 0, .advance 1, .advance 0, .advance 1]

private theorem offered_updates {choices : List (Choice ApproverStore DirectoryError
    DirectoryAnswer)} (updates : ∀ choice ∈ choices, (∃ call, choice = starting call) ∨
      ∃ thread, choice = .advance thread) :
    ∀ choice ∈ choices, (@directorySystem directoryRuntime).Offers choice := by
  intro choice member
  rcases updates choice member with ⟨call, rfl⟩ | ⟨thread, rfl⟩
  · exact ⟨call, rfl⟩
  · trivial

theorem directory_wellFormed_crossing :
    (directoryStart.run crossing).state.WellFormed :=
  @directory_wellFormed directoryRuntime _
    (reaches_run Reaches.refl (offered_updates (by simp [crossing, starting]))
      (World.meets_unrestricted _ _))

end ActionProxy
