import ActionProxy.Services.ApprovalPublication
import ActionProxy.Services.ApproverDirectory
import Mathlib.Data.Fintype.EquivFin

/-!
Who may decide an approval: the recipients that the directory resolves for a rule, the users
and groups an approval is published with, and the check of a principal that decides it.
-/

namespace ActionProxy

open Interleaving

structure ApprovalNotificationRecipient where
  displayName : String
  email : Option String
  groups : List String
  principalId : String
  slackUserId : Option String
  telegramChatId : Option String
  telegramUsername : Option String
  telegramUserId : Option String
  userId : String

def userToRecipient (user : ApproverUserRecord) : ApprovalNotificationRecipient :=
  { displayName := user.displayName
    email := user.email
    groups := user.groups
    principalId := authorizationPrincipalId user
    slackUserId := user.slackUserId
    telegramChatId := user.telegramChatId
    telegramUsername := user.telegramUsername
    telegramUserId := user.telegramUserId
    userId := user.id }

/-- `rule.approvers?.users ?? []`. -/
def PolicyRule.requestedUsers (rule : PolicyRule) : List String :=
  (rule.approvers.bind PolicyApprovers.users).getD []

/-- `rule.approvers?.groups ?? []`. -/
def PolicyRule.requestedGroups (rule : PolicyRule) : List String :=
  (rule.approvers.bind PolicyApprovers.groups).getD []

def PolicyRule.hasExplicitRecipients (rule : PolicyRule) : Bool :=
  !rule.requestedUsers.isEmpty || !rule.requestedGroups.isEmpty

namespace ApproverDirectory

/-- An enabled user is asked for by the rule, given the ids of the enabled groups. -/
def isRecipient (rule : PolicyRule) (enabledGroups : List String) (user : ApproverUserRecord) :
    Bool :=
  if !rule.hasExplicitRecipients then user.defaultApprover
  else rule.requestedUsers.contains user.id ||
    user.groups.any (fun group =>
      rule.requestedGroups.contains group && enabledGroups.contains group)

variable [Runtime]

def resolveRecipients (rule : PolicyRule) (workspaceId : String) (store : ApproverStore) :
    List ApprovalNotificationRecipient :=
  let enabledUsers := (store.listApproverUsers workspaceId).filter (·.enabled)
  let enabledGroups := ((store.listApproverGroups workspaceId).filter (·.enabled)).map (·.id)
  ((enabledUsers.filter (isRecipient rule enabledGroups)).map userToRecipient).insertionSort
    (fun left right => (Runtime.localeCompare left.displayName right.displayName).isLE = true)

/-- `resolvedRecipients.map((recipient) => recipient.principalId)`. -/
def resolvedUserIds (rule : PolicyRule) (workspaceId : String) (store : ApproverStore) :
    List String :=
  (resolveRecipients rule workspaceId store).map (·.principalId)

end ApproverDirectory

/-- The input of a candidate with the recipients that the directory resolves for it. -/
def PendingApprovalInput.resolvedIn [Runtime] (input : PendingApprovalInput)
    (directory : ApproverStore) : PendingApprovalInput :=
  { input with
    resolvedRecipients :=
      some (ApproverDirectory.resolvedUserIds input.rule input.workspaceId directory) }

/-! ### The check of a principal -/

def hasAnyGroup (auth : AuthContext) (groups : List String) : Bool :=
  groups.isEmpty || groups.any auth.groups.contains

/-- `principalMatchesActor`; an actor without a name is nobody. -/
def principalMatchesActor (auth : AuthContext) (actor : Option String) : Bool :=
  (nonEmpty actor).any fun actor =>
    auth.principalId == actor || auth.email == some actor || auth.displayName == actor

/-- The message of the `ForbiddenError`, if one is thrown. -/
def assertWorkspace (workspaceId : Option String) (auth : Option AuthContext) :
    Except String Unit :=
  match auth with
  | none => .ok ()
  | some auth =>
      if auth.authProvider = .none then .ok ()
      else if workspaceId.getD "default" != auth.workspaceId then
        .error "Requested object is not in this workspace."
      else .ok ()

def assertCanDecideApproval (approval : ApprovalRecord) (auth : Option AuthContext) :
    Except String Unit :=
  match auth with
  | none => .ok ()
  | some auth =>
      if auth.authProvider = .none then .ok ()
      else (assertWorkspace approval.workspaceId (some auth)).bind fun _ =>
        if approval.approverUsers.any (fun users => !users.contains auth.principalId) then
          .error "Principal is not an allowed approver for this approval."
        else if approval.approverUsers.isNone &&
            !hasAnyGroup auth (approval.approverGroups.getD []) then
          .error "Principal is not in an allowed approver group for this approval."
        else if approval.separationOfDuties = some true &&
            principalMatchesActor auth (some approval.requestedBy) then
          .error "The submitter cannot approve or reject this request."
        else if approval.separationOfDuties = some true &&
            approval.requestedByAuth.any (fun requester =>
              requester.principalId == auth.principalId) then
          .error "The submitter cannot approve or reject this request."
        else .ok ()

/-! ### Electorates -/

/-- Whose decisions are taken: those of named principals, or of whoever claims one of the
groups, where no group means everyone. -/
inductive Electorate where
  | principals (ids : List String)
  | claims (groups : List String)

def Electorate.admits : Electorate → AuthContext → Bool
  | .principals ids, auth => ids.contains auth.principalId
  | .claims groups, auth => hasAnyGroup auth groups

def ApprovalRecord.electorate (approval : ApprovalRecord) : Electorate :=
  match approval.approverUsers with
  | some users => .principals users
  | none => .claims (approval.approverGroups.getD [])

/-- Duties are separated, and the principal submitted the request. -/
def ApprovalRecord.barsSubmitter (approval : ApprovalRecord) (auth : AuthContext) : Bool :=
  approval.separationOfDuties = some true &&
    (principalMatchesActor auth (some approval.requestedBy) ||
      approval.requestedByAuth.any (fun requester => requester.principalId == auth.principalId))

theorem assertCanDecideApproval_ok {approval : ApprovalRecord} {auth : AuthContext} :
    assertCanDecideApproval approval (some auth) = .ok () ↔
      auth.authProvider = .none ∨
        (approval.workspace = auth.workspaceId ∧ approval.electorate.admits auth = true ∧
          approval.barsSubmitter auth = false) := by
  unfold assertCanDecideApproval
  dsimp only
  by_cases anyone : auth.authProvider = .none
  · rw [if_pos anyone]
    exact iff_of_true rfl (Or.inl anyone)
  · rw [if_neg anyone, assertWorkspace, if_neg anyone]
    simp only [anyone, false_or]
    by_cases home : approval.workspace = auth.workspaceId
    · have here : (approval.workspaceId.getD "default" != auth.workspaceId) = false := by
        simpa [ApprovalRecord.workspace] using home
      rw [here, if_neg Bool.false_ne_true, Except.bind]
      have barred : approval.barsSubmitter auth =
          (approval.separationOfDuties = some true &&
              principalMatchesActor auth (some approval.requestedBy) ||
            approval.separationOfDuties = some true &&
              approval.requestedByAuth.any (fun requester =>
                requester.principalId == auth.principalId)) := by
        rw [ApprovalRecord.barsSubmitter, Bool.and_or_distrib_left]
      have admitted : approval.electorate.admits auth =
          (!approval.approverUsers.any (fun users => !users.contains auth.principalId) &&
            !(approval.approverUsers.isNone &&
              !hasAnyGroup auth (approval.approverGroups.getD []))) := by
        rw [ApprovalRecord.electorate]
        cases approval.approverUsers <;> simp [Electorate.admits]
      rw [barred, admitted]
      generalize approval.approverUsers.any (fun users => !users.contains auth.principalId) =
        unnamed
      generalize (approval.approverUsers.isNone &&
        !hasAnyGroup auth (approval.approverGroups.getD [])) = unclaimed
      generalize (decide (approval.separationOfDuties = some true) &&
        principalMatchesActor auth (some approval.requestedBy)) = actor
      generalize (decide (approval.separationOfDuties = some true) &&
        approval.requestedByAuth.any (fun requester =>
          requester.principalId == auth.principalId)) = principal
      cases unnamed <;> cases unclaimed <;> cases actor <;> cases principal <;> simp [home]
    · have elsewhere : (approval.workspaceId.getD "default" != auth.workspaceId) = true := by
        simpa [ApprovalRecord.workspace] using home
      rw [elsewhere, if_pos rfl]
      exact iff_of_false (by simp [Except.bind]) (fun all => home all.1)

theorem assertCanDecideApproval_unnamed {approval : ApprovalRecord} {auth : AuthContext}
    {users : List String} (authenticated : auth.authProvider ≠ .none)
    (home : approval.workspace = auth.workspaceId) (named : approval.approverUsers = some users)
    (outside : users.contains auth.principalId = false) :
    assertCanDecideApproval approval (some auth) =
      .error "Principal is not an allowed approver for this approval." := by
  have here : approval.workspaceId.getD "default" = auth.workspaceId := home
  rw [assertCanDecideApproval, assertWorkspace]
  simp only [authenticated, here, named, outside, if_false, bne_self_eq_false, Bool.false_eq_true,
    Except.bind, Option.any_some, Bool.not_false, if_true]

/-! ### Disabling -/

/-- A user or a group of the directory, by its id. -/
inductive ApproverTarget where
  | user (id : String)
  | group (id : String)

namespace ApproverTarget

def disable [Runtime] (now workspaceId : String) : ApproverTarget → DirectoryProg Unit
  | .user id => do
      let _ ← ApproverDirectory.disableUser now workspaceId id
      pure ()
  | .group id => do
      let _ ← ApproverDirectory.disableGroup now workspaceId id
      pure ()

/-- The directory holds the user or group. -/
def Listed (workspaceId : String) (store : ApproverStore) : ApproverTarget → Prop
  | .user id => ∃ user, store.getApproverUser workspaceId id = some user ∧
      user.workspaceId = workspaceId ∧ user.id = id
  | .group id => ∃ group, store.getApproverGroup workspaceId id = some group ∧
      group.workspaceId = workspaceId ∧ group.id = id

/-- The user under the key is the target. -/
def IsUser (workspaceId key : String) : ApproverTarget → Prop
  | .user id => key = workspaceKey workspaceId id
  | .group _ => False

def IsGroup (workspaceId key : String) : ApproverTarget → Prop
  | .user _ => False
  | .group id => key = workspaceKey workspaceId id

end ApproverTarget

section

variable (workspaceId : String)

def EnabledUser (store : ApproverStore) (key : String) (user : ApproverUserRecord) : Prop :=
  store.approverUsers.get? key = some user ∧ user.workspaceId = workspaceId ∧ user.enabled = true

def EnabledGroup (store : ApproverStore) (key : String) (group : ApproverGroupRecord) : Prop :=
  store.approverGroups.get? key = some group ∧ group.workspaceId = workspaceId ∧
    group.enabled = true

/-- The enabled users and groups are those before, without the target. -/
structure Without (target : ApproverTarget) (store after : ApproverStore) : Prop where
  users : ∀ key user, EnabledUser workspaceId after key user ↔
    EnabledUser workspaceId store key user ∧ ¬ target.IsUser workspaceId key
  groups : ∀ key group, EnabledGroup workspaceId after key group ↔
    EnabledGroup workspaceId store key group ∧ ¬ target.IsGroup workspaceId key

end

theorem without_user {workspaceId id now : String} {store : ApproverStore}
    {existing : ApproverUserRecord} (home : existing.workspaceId = workspaceId)
    (named : existing.id = id) :
    Without workspaceId (.user id) store
      (store.setApproverUser { existing with enabled := false, updatedAt := now }) := by
  have filed : ApproverUserRecord.key { existing with enabled := false, updatedAt := now } =
      workspaceKey workspaceId id := by
    rw [ApproverUserRecord.key, home, named]
  constructor
  · intro key user
    rw [EnabledUser, EnabledUser, ApproverStore.setApproverUser, filed, KeyedTable.get?_set]
    by_cases same : key = workspaceKey workspaceId id
    · rw [if_pos same]
      constructor
      · rintro ⟨given, _, on⟩
        cases given
        cases on
      · rintro ⟨_, other⟩
        exact absurd same other
    · rw [if_neg same]
      exact (and_iff_left same).symm
  · intro key group
    exact (and_iff_left not_false).symm

theorem without_group {workspaceId id now : String} {store : ApproverStore}
    {existing : ApproverGroupRecord} (home : existing.workspaceId = workspaceId)
    (named : existing.id = id) :
    Without workspaceId (.group id) store
      (ApproverStore.upsertApproverGroup
        { existing with enabled := false, updatedAt := now } store).2 := by
  constructor
  · intro key user
    exact (and_iff_left not_false).symm
  · intro key group
    rw [EnabledGroup, EnabledGroup, ApproverStore.upsertApproverGroup, KeyedTable.get?_set]
    dsimp only
    rw [home, named]
    by_cases same : key = workspaceKey workspaceId id
    · rw [if_pos same]
      constructor
      · rintro ⟨given, _, on⟩
        cases given
        cases on
      · rintro ⟨_, other⟩
        exact absurd same other
    · rw [if_neg same]
      exact (and_iff_left same).symm

private theorem yields_read {Store Error Value : Type} {read : Store → Value}
    {post : Value → Store → Prop} {store : Store} (reads : post (read store) store) :
    Yields post (Prog.read read : Prog Store Error Value) store := reads

theorem disable_without [Runtime] {now workspaceId : String} {target : ApproverTarget}
    {store after : ApproverStore} (listed : target.Listed workspaceId store)
    (disabled : (target.disable now workspaceId).alone store = (.ok (), after)) :
    Without workspaceId target store after := by
  have yields : Yields (fun _ after => Without workspaceId target store after)
      (target.disable now workspaceId) store := by
    cases target with
    | user id =>
        obtain ⟨existing, found, home, named⟩ := listed
        apply Yields.bind
        unfold ApproverDirectory.disableUser
        apply Yields.bind
        apply yields_read
        rw [found]
        apply Yields.bind
        show Yields _ (Prog.ofExcept (ApproverStore.upsertApproverUser
          { existing with enabled := false, updatedAt := now } store).1)
          (ApproverStore.upsertApproverUser
            { existing with enabled := false, updatedAt := now } store).2
        unfold ApproverStore.upsertApproverUser
        split
        · exact trivial
        · exact without_user home named
    | group id =>
        obtain ⟨existing, found, home, named⟩ := listed
        apply Yields.bind
        unfold ApproverDirectory.disableGroup
        apply Yields.bind
        apply yields_read
        rw [found]
        exact without_group home named
  exact yields.alone disabled

/-! ### Who is resolved -/

/-- An enabled user whom the rule asks for through an enabled group, by the keys of both. -/
structure Seat (rule : PolicyRule) (workspaceId : String) (store : ApproverStore)
    (userKey groupKey : String) (user : ApproverUserRecord) (group : ApproverGroupRecord) :
    Prop where
  person : EnabledUser workspaceId store userKey user
  active : EnabledGroup workspaceId store groupKey group
  member : group.id ∈ user.groups
  requested : group.id ∈ rule.requestedGroups

section

variable [Runtime] {rule : PolicyRule} {workspaceId : String} {store after : ApproverStore}

theorem mem_enabledUsers {user : ApproverUserRecord} :
    user ∈ (store.listApproverUsers workspaceId).filter (·.enabled) ↔
      ∃ key, EnabledUser workspaceId store key user := by
  rw [List.mem_filter, ApproverStore.listApproverUsers, List.mem_insertionSort, List.mem_filter,
    KeyedTable.mem_values_iff, beq_iff_eq]
  constructor
  · rintro ⟨⟨⟨key, found⟩, home⟩, enabled⟩
    exact ⟨key, found, home, enabled⟩
  · rintro ⟨key, found, home, enabled⟩
    exact ⟨⟨⟨key, found⟩, home⟩, enabled⟩

theorem mem_enabledGroups {id : String} :
    id ∈ ((store.listApproverGroups workspaceId).filter (·.enabled)).map (·.id) ↔
      ∃ key group, EnabledGroup workspaceId store key group ∧ group.id = id := by
  rw [List.mem_map]
  constructor
  · rintro ⟨group, listed, named⟩
    obtain ⟨inside, enabled⟩ := List.mem_filter.mp listed
    rw [ApproverStore.listApproverGroups, List.mem_insertionSort] at inside
    obtain ⟨present, home⟩ := List.mem_filter.mp inside
    obtain ⟨key, found⟩ := (store.approverGroups.mem_values_iff group).mp present
    exact ⟨key, group, ⟨found, beq_iff_eq.mp home, enabled⟩, named⟩
  · rintro ⟨key, group, ⟨found, home, enabled⟩, named⟩
    refine ⟨group, List.mem_filter.mpr ⟨?_, enabled⟩, named⟩
    rw [ApproverStore.listApproverGroups, List.mem_insertionSort]
    exact List.mem_filter.mpr
      ⟨(store.approverGroups.mem_values_iff group).mpr ⟨key, found⟩, beq_iff_eq.mpr home⟩

theorem mem_resolvedUserIds {principal : String} :
    principal ∈ ApproverDirectory.resolvedUserIds rule workspaceId store ↔
      ∃ key user, EnabledUser workspaceId store key user ∧
        authorizationPrincipalId user = principal ∧
        if rule.hasExplicitRecipients then
          user.id ∈ rule.requestedUsers ∨
            ∃ groupKey group, Seat rule workspaceId store key groupKey user group
        else user.defaultApprover = true := by
  have asked : ∀ {key : String} {user : ApproverUserRecord},
      EnabledUser workspaceId store key user →
      (ApproverDirectory.isRecipient rule
          (((store.listApproverGroups workspaceId).filter (·.enabled)).map (·.id)) user = true ↔
        if rule.hasExplicitRecipients then
          user.id ∈ rule.requestedUsers ∨
            ∃ groupKey group, Seat rule workspaceId store key groupKey user group
        else user.defaultApprover = true) := by
    intro key user person
    rw [ApproverDirectory.isRecipient]
    cases rule.hasExplicitRecipients with
    | false => exact Iff.rfl
    | true =>
        rw [Bool.not_true, if_neg Bool.false_ne_true, if_pos rfl, Bool.or_eq_true,
          List.contains_iff_mem]
        refine or_congr Iff.rfl ?_
        rw [List.any_eq_true]
        simp only [Bool.and_eq_true, List.contains_iff_mem]
        constructor
        · rintro ⟨id, member, requested, enabled⟩
          obtain ⟨groupKey, group, active, rfl⟩ := mem_enabledGroups.mp enabled
          exact ⟨groupKey, group, person, active, member, requested⟩
        · rintro ⟨groupKey, group, seat⟩
          exact ⟨group.id, seat.member, seat.requested,
            mem_enabledGroups.mpr ⟨groupKey, group, seat.active, rfl⟩⟩
  rw [ApproverDirectory.resolvedUserIds, List.mem_map]
  constructor
  · rintro ⟨recipient, listed, named⟩
    rw [ApproverDirectory.resolveRecipients, List.mem_insertionSort, List.mem_map] at listed
    obtain ⟨user, inside, rfl⟩ := listed
    obtain ⟨enabled, chosen⟩ := List.mem_filter.mp inside
    obtain ⟨key, person⟩ := mem_enabledUsers.mp enabled
    exact ⟨key, user, person, named, (asked person).mp chosen⟩
  · rintro ⟨key, user, person, named, chosen⟩
    refine ⟨userToRecipient user, ?_, named⟩
    rw [ApproverDirectory.resolveRecipients, List.mem_insertionSort, List.mem_map]
    exact ⟨user, List.mem_filter.mpr ⟨mem_enabledUsers.mpr ⟨key, person⟩, (asked person).mpr chosen⟩,
      rfl⟩

omit [Runtime] in
/-- A seat that is left after the target is gone is one of those before that was not its. -/
theorem Without.seat {target : ApproverTarget} (without : Without workspaceId target store after)
    {userKey groupKey : String} {user : ApproverUserRecord} {group : ApproverGroupRecord} :
    Seat rule workspaceId after userKey groupKey user group ↔
      Seat rule workspaceId store userKey groupKey user group ∧
        ¬ target.IsUser workspaceId userKey ∧ ¬ target.IsGroup workspaceId groupKey := by
  constructor
  · rintro ⟨person, active, member, requested⟩
    obtain ⟨before, otherUser⟩ := (without.users userKey user).mp person
    obtain ⟨open', otherGroup⟩ := (without.groups groupKey group).mp active
    exact ⟨⟨before, open', member, requested⟩, otherUser, otherGroup⟩
  · rintro ⟨seat, otherUser, otherGroup⟩
    exact
      { person := (without.users userKey user).mpr ⟨seat.person, otherUser⟩
        active := (without.groups groupKey group).mpr ⟨seat.active, otherGroup⟩
        member := seat.member
        requested := seat.requested }

theorem Without.resolved_subset {target : ApproverTarget}
    (without : Without workspaceId target store after) {principal : String}
    (resolved : principal ∈ ApproverDirectory.resolvedUserIds rule workspaceId after) :
    principal ∈ ApproverDirectory.resolvedUserIds rule workspaceId store := by
  obtain ⟨key, user, person, named, chosen⟩ := mem_resolvedUserIds.mp resolved
  refine mem_resolvedUserIds.mpr
    ⟨key, user, ((without.users key user).mp person).1, named, ?_⟩
  split at chosen
  · rename_i explicit
    rw [if_pos explicit]
    rcases chosen with byName | ⟨groupKey, group, seat⟩
    · exact Or.inl byName
    · exact Or.inr ⟨groupKey, group, (without.seat.mp seat).1⟩
  · rename_i byDefault
    rw [if_neg byDefault]
    exact chosen

/-! ### The electorate of a rule -/

omit [Runtime] in
/-- The rule asks for groups, and for no user. -/
def PolicyRule.GroupsOnly (rule : PolicyRule) : Prop :=
  rule.requestedUsers = [] ∧ rule.requestedGroups ≠ []

theorem resolved_of_groupsOnly (groupsOnly : rule.GroupsOnly) :
    ApproverDirectory.resolvedUserIds rule workspaceId store ≠ [] ↔
      ∃ userKey groupKey user group, Seat rule workspaceId store userKey groupKey user group := by
  have explicit : rule.hasExplicitRecipients = true := by
    rw [PolicyRule.hasExplicitRecipients, groupsOnly.1]
    simpa using groupsOnly.2
  constructor
  · intro resolved
    obtain ⟨principal, listed⟩ := List.exists_mem_of_ne_nil _ resolved
    obtain ⟨key, user, _, _, chosen⟩ := mem_resolvedUserIds.mp listed
    rw [if_pos explicit, groupsOnly.1] at chosen
    obtain ⟨groupKey, group, seat⟩ := chosen.resolve_left List.not_mem_nil
    exact ⟨key, groupKey, user, group, seat⟩
  · rintro ⟨key, groupKey, user, group, seat⟩
    apply List.ne_nil_of_mem
    refine mem_resolvedUserIds.mpr ⟨key, user, seat.person, rfl, ?_⟩
    rw [if_pos explicit]
    exact Or.inr ⟨groupKey, group, seat⟩

/-- Whom a rule lets decide, by the principals resolved for it. -/
def PolicyRule.electorate (rule : PolicyRule) (resolved : List String) : Electorate :=
  match approvalApproverUsersFor rule (some resolved) with
  | some users => .principals users
  | none => .claims rule.requestedGroups

omit [Runtime] in
theorem electorate_of_claims (groupsOnly : rule.GroupsOnly) :
    rule.electorate [] = .claims rule.requestedGroups := by
  obtain ⟨users, groups⟩ := groupsOnly
  rw [PolicyRule.requestedUsers] at users
  rw [PolicyRule.requestedGroups] at groups
  simp [PolicyRule.electorate, approvalApproverUsersFor, users, groups]

omit [Runtime] in
theorem electorate_of_principals {resolved : List String}
    (named : ¬ (rule.GroupsOnly ∧ resolved = [])) :
    rule.electorate resolved = .principals resolved := by
  have taken : approvalApproverUsersFor rule (some resolved) = some resolved := by
    rw [approvalApproverUsersFor]
    apply if_pos
    by_contra refused
    apply named
    rw [PolicyRule.GroupsOnly, PolicyRule.requestedUsers, PolicyRule.requestedGroups]
    simp only [Bool.or_eq_true, Bool.not_eq_true', List.isEmpty_eq_false_iff, Bool.and_eq_true,
      List.isEmpty_iff] at refused
    tauto
  rw [PolicyRule.electorate, taken]

/-- The target holds every seat of a rule that asks for groups alone. -/
structure LastSeats (rule : PolicyRule) (workspaceId : String) (store : ApproverStore)
    (target : ApproverTarget) : Prop where
  groupsOnly : rule.GroupsOnly
  seated : ∃ userKey groupKey user group,
    Seat rule workspaceId store userKey groupKey user group
  last : ∀ userKey groupKey user group, Seat rule workspaceId store userKey groupKey user group →
    target.IsUser workspaceId userKey ∨ target.IsGroup workspaceId groupKey

theorem Without.emptied_iff {target : ApproverTarget}
    (without : Without workspaceId target store after) :
    LastSeats rule workspaceId store target ↔
      rule.GroupsOnly ∧ ApproverDirectory.resolvedUserIds rule workspaceId store ≠ [] ∧
        ApproverDirectory.resolvedUserIds rule workspaceId after = [] := by
  constructor
  · rintro ⟨groupsOnly, seated, last⟩
    refine ⟨groupsOnly, (resolved_of_groupsOnly groupsOnly).mpr seated, ?_⟩
    by_contra left
    obtain ⟨userKey, groupKey, user, group, seat⟩ := (resolved_of_groupsOnly groupsOnly).mp left
    obtain ⟨before, otherUser, otherGroup⟩ := without.seat.mp seat
    rcases last userKey groupKey user group before with isUser | isGroup
    · exact otherUser isUser
    · exact otherGroup isGroup
  · rintro ⟨groupsOnly, resolved, emptied⟩
    refine ⟨groupsOnly, (resolved_of_groupsOnly groupsOnly).mp resolved, ?_⟩
    intro userKey groupKey user group seat
    by_contra other
    obtain ⟨otherUser, otherGroup⟩ := not_or.mp other
    refine (resolved_of_groupsOnly groupsOnly).mpr ?_ emptied
    exact ⟨userKey, groupKey, user, group, without.seat.mpr ⟨seat, otherUser, otherGroup⟩⟩

/-- Whoever may decide without the target may decide with it, but where the last seat goes. -/
theorem Without.admits {target : ApproverTarget}
    (without : Without workspaceId target store after)
    (kept : ¬ LastSeats rule workspaceId store target) {auth : AuthContext}
    (admitted : (rule.electorate
      (ApproverDirectory.resolvedUserIds rule workspaceId after)).admits auth = true) :
    (rule.electorate
      (ApproverDirectory.resolvedUserIds rule workspaceId store)).admits auth = true := by
  by_cases claimed : rule.GroupsOnly ∧
      ApproverDirectory.resolvedUserIds rule workspaceId after = []
  · obtain ⟨groupsOnly, emptied⟩ := claimed
    have unseated : ApproverDirectory.resolvedUserIds rule workspaceId store = [] := by
      by_contra resolved
      exact kept (without.emptied_iff.mpr ⟨groupsOnly, resolved, emptied⟩)
    rw [unseated]
    rw [emptied] at admitted
    exact admitted
  · rw [electorate_of_principals claimed] at admitted
    have named := without.resolved_subset (List.contains_iff_mem.mp admitted)
    rw [electorate_of_principals (fun both => List.ne_nil_of_mem named both.2)]
    exact List.contains_iff_mem.mpr named

/-! ### Candidates -/

omit [Runtime] in
/-- Two candidates of one request, at different times perhaps. -/
structure SameRequest (input later : PendingApprovalInput) : Prop where
  rule : later.rule = input.rule
  actor : later.actor = input.actor
  auth : later.auth = input.auth
  workspaceId : later.workspaceId = input.workspaceId

/-- What an approval takes over of the request that decides who may decide it. -/
structure DecidedAs (input : PendingApprovalInput) (electorate : Electorate)
    (approval : ApprovalRecord) : Prop where
  workspace : approval.workspace = input.workspaceId
  electorate : approval.electorate = electorate
  separation : approval.separationOfDuties = some input.separationOfDuties
  requestedBy : approval.requestedBy = input.actor
  requestedByAuth : approval.requestedByAuth = input.auth

theorem candidate_decidedAs {config : GateConfig} {input : PendingApprovalInput}
    {candidate : PendingApprovalCandidate}
    (built : buildPendingApprovalCandidate config (input.resolvedIn store) = .ok candidate) :
    DecidedAs input (input.rule.electorate
      (ApproverDirectory.resolvedUserIds input.rule input.workspaceId store))
      candidate.approval := by
  obtain ⟨authorization, _, rfl⟩ := candidate_shape built
  exact
    { workspace := rfl
      electorate := rfl
      separation := rfl
      requestedBy := rfl
      requestedByAuth := rfl }

omit [Runtime] in
theorem DecidedAs.barsSubmitter {input : PendingApprovalInput} {left right : Electorate}
    {approval other : ApprovalRecord} (decided : DecidedAs input left approval)
    (otherDecided : DecidedAs input right other) (auth : AuthContext) :
    other.barsSubmitter auth = approval.barsSubmitter auth := by
  rw [ApprovalRecord.barsSubmitter, ApprovalRecord.barsSubmitter, decided.separation,
    otherDecided.separation, decided.requestedBy, otherDecided.requestedBy,
    decided.requestedByAuth, otherDecided.requestedByAuth]

omit [Runtime] in
theorem DecidedAs.of_sameRequest {input later : PendingApprovalInput} {electorate : Electorate}
    {approval : ApprovalRecord} (same : SameRequest input later)
    (decided : DecidedAs later electorate approval) : DecidedAs input electorate approval :=
  { workspace := decided.workspace.trans same.workspaceId
    electorate := decided.electorate
    separation := by
      rw [decided.separation, PendingApprovalInput.separationOfDuties, same.rule]
      rfl
    requestedBy := decided.requestedBy.trans same.actor
    requestedByAuth := decided.requestedByAuth.trans same.auth }

omit [Runtime] in
theorem exists_claimant (input : PendingApprovalInput) {electorate : Electorate}
    {approval : ApprovalRecord} (decided : DecidedAs input electorate approval)
    (known : List String) {groups : List String} (claimed : groups ≠ []) :
    ∃ auth : AuthContext, auth.authProvider ≠ .none ∧ auth.workspaceId = input.workspaceId ∧
      auth.principalId ∉ known ∧ hasAnyGroup auth groups = true ∧
      approval.barsSubmitter auth = false := by
  obtain ⟨name, fresh⟩ := Infinite.exists_notMem_finset
    (known ++ input.actor :: (input.auth.map AuthContext.principalId).toList).toFinset
  simp only [List.mem_toFinset, List.mem_append, List.mem_cons, not_or] at fresh
  obtain ⟨unknown, actor, requester⟩ := fresh
  let auth : AuthContext :=
    { principalId := name
      principalType := .user
      displayName := name
      email := none
      groups := groups
      scopes := []
      authProvider := .oidcJwt
      clientId := none
      workspaceId := input.workspaceId }
  have notActor : principalMatchesActor auth (some approval.requestedBy) = false := by
    rw [decided.requestedBy, principalMatchesActor, Option.any_eq_false]
    intro given named
    obtain rfl := Option.some_inj.mp (Option.filter_eq_some_iff.mp named).1
    simp [auth, actor]
  have notRequester : approval.requestedByAuth.any (fun requester =>
      requester.principalId == auth.principalId) = false := by
    rw [decided.requestedByAuth, Option.any_eq_false]
    intro given present
    rw [present, Option.map_some, Option.toList_some, List.mem_singleton] at requester
    simpa [auth] using Ne.symm requester
  refine ⟨auth, ?_, rfl, unknown, ?_, ?_⟩
  · intro unauthenticated
    cases unauthenticated
  · obtain ⟨group, listed⟩ := List.exists_mem_of_ne_nil groups claimed
    rw [hasAnyGroup, Bool.or_eq_true]
    exact Or.inr (List.any_eq_true.mpr ⟨group, listed, List.contains_iff_mem.mpr listed⟩)
  · rw [ApprovalRecord.barsSubmitter, notActor, notRequester, Bool.or_false, Bool.and_false]

end

/-- Disabling a user or a group of the directory narrows who may decide the approvals of a
request, unless the rule asks for groups alone and their last seat goes: then whoever claims
one of the groups may decide. -/
theorem disabling_narrows [Runtime] {config : GateConfig} {now : String}
    {target : ApproverTarget} {store after : ApproverStore} {input later : PendingApprovalInput}
    {published republished : PendingApprovalCandidate}
    (listed : target.Listed input.workspaceId store)
    (disabled : (target.disable now input.workspaceId).alone store = (.ok (), after))
    (same : SameRequest input later)
    (built : buildPendingApprovalCandidate config (input.resolvedIn store) = .ok published)
    (rebuilt : buildPendingApprovalCandidate config (later.resolvedIn after) = .ok republished) :
    (∀ auth : AuthContext, assertCanDecideApproval republished.approval (some auth) = .ok () →
        assertCanDecideApproval published.approval (some auth) = .ok ()) ↔
      ¬ LastSeats input.rule input.workspaceId store target := by
  have without := disable_without listed disabled
  have before := candidate_decidedAs built
  have afterwards := (candidate_decidedAs rebuilt).of_sameRequest same
  rw [same.rule, same.workspaceId] at afterwards
  constructor
  · intro narrows lastSeats
    obtain ⟨groupsOnly, resolved, emptied⟩ := without.emptied_iff.mp lastSeats
    obtain ⟨auth, authenticated, home, unknown, claims, barred⟩ :=
      exists_claimant input afterwards
        (ApproverDirectory.resolvedUserIds input.rule input.workspaceId store) groupsOnly.2
    rw [emptied, electorate_of_claims groupsOnly] at afterwards
    have decides : assertCanDecideApproval republished.approval (some auth) = .ok () := by
      refine assertCanDecideApproval_ok.mpr (Or.inr ⟨?_, ?_, barred⟩)
      · rw [afterwards.workspace, home]
      · rw [afterwards.electorate]
        exact claims
    rcases assertCanDecideApproval_ok.mp (narrows auth decides) with anyone | ⟨_, admitted, _⟩
    · exact authenticated anyone
    · rw [before.electorate, electorate_of_principals (fun both => resolved both.2)] at admitted
      exact unknown (List.contains_iff_mem.mp admitted)
  · intro kept auth decides
    rw [assertCanDecideApproval_ok] at decides ⊢
    rcases decides with anyone | ⟨home, admitted, barred⟩
    · exact Or.inl anyone
    · refine Or.inr ⟨?_, ?_, ?_⟩
      · rw [before.workspace, ← afterwards.workspace, home]
      · rw [afterwards.electorate] at admitted
        rw [before.electorate]
        exact without.admits kept admitted
      · rw [before.barsSubmitter afterwards auth] at barred
        exact barred

/-! ### A directory of one group -/

private def payrollUser (id : String) : ApproverUserRecord :=
  { id := id, workspaceId := "default", displayName := id, email := none, principalId := none
    slackUserId := none, telegramChatId := none, telegramUsername := none, telegramUserId := none
    groups := ["payroll-admins"], defaultApprover := false, enabled := true, createdAt := "1"
    updatedAt := "1" }

private def payrollGroup : ApproverGroupRecord :=
  { id := "payroll-admins", workspaceId := "default", displayName := "Payroll admins"
    description := none, enabled := true, createdAt := "1", updatedAt := "1" }

/-- The users of these ids, all of one group. -/
private def payrollDirectory (ids : List String) : ApproverStore :=
  { approverUsers := ids.foldl
      (fun table id => table.set (workspaceKey "default" id) (payrollUser id)) KeyedTable.empty
    approverGroups := KeyedTable.empty.set (workspaceKey "default" "payroll-admins") payrollGroup }

private def payrollRule : PolicyRule :=
  { PolicyRule.plain .required with
    approvers := some
      { groups := some ["payroll-admins"], users := none, requiredApprovals := none
        separationOfDuties := some true } }

private def payrollCall : ToolCallRecord :=
  { id := "call_1", workspaceId := some "default", toolName := "payroll.update", input := []
    inputHash := some "input_1", actionEnvelope := none, actionEnvelopeHash := some "envelope_1"
    canonicalActionRequestHash := none, canonicalActionRequestVersion := none
    canonicalDecisionInputHash := none, canonicalPolicyContext := none, contentInfluence := none
    influenceScopeId := none, requestedBy := "agent", requestedByAuth := none, agentId := "agent"
    reason := "", metadata := [], status := .pendingApproval, decision := some .requireApproval
    authorizationDecision := none, authorizationReason := none, decisionTrace := none
    policyReason := none, policyVersionId := none, policyVersionHash := some "policy_1"
    resultDelivery := none, resultSource := none, resultWithheld := none, risk := none
    result := none, error := none, createdAt := "1", updatedAt := "1" }

private def payrollRequest : PendingApprovalInput :=
  { actionEnvelope :=
      { envelopeHash := "envelope_1", executionMode := .externalGrant, input := []
        inputHash := "input_1", preparedAction := none, body := [] }
    actor := "agent"
    auth := none
    input := []
    now := { millis := 0, shown := epoch_shown }
    rule := payrollRule
    toolCall := payrollCall
    workspaceId := "default"
    resolvedRecipients := none
    approvalId := "approval_1"
    nonce := "nonce_1" }

private def payrollConfig : GateConfig :=
  { policyProvider := none
    workspaceId := none
    receiptSigningSecret := none
    localExecutionDisabled := false
    tools := fun _ => none
    approvalAuthorizationTtlMs := none }

private theorem payroll_built (store : ApproverStore) :
    ∃ candidate, @buildPendingApprovalCandidate (sampleRuntime []) payrollConfig
      (@PendingApprovalInput.resolvedIn (sampleRuntime []) payrollRequest store) =
        .ok candidate := by
  have expires : (IsoTime.toISOString (24 * 60 * 60 * 1000)).isSome = true := by decide
  obtain ⟨expiresAt, shown⟩ := Option.isSome_iff_exists.mp expires
  exact @candidate_built (sampleRuntime []) payrollConfig _ expiresAt shown "policy_1" rfl

private theorem alice_seated (ids : List String) (listed : EnabledUser "default"
    (payrollDirectory ids) (workspaceKey "default" "u_alice") (payrollUser "u_alice")) :
    Seat payrollRule "default" (payrollDirectory ids) (workspaceKey "default" "u_alice")
      (workspaceKey "default" "payroll-admins") (payrollUser "u_alice") payrollGroup :=
  { person := listed
    active := ⟨rfl, rfl, rfl⟩
    member := List.mem_singleton_self _
    requested := List.mem_singleton_self _ }

theorem disabling_narrows_colleague :
    ∃ after published republished,
      (@ApproverTarget.disable (sampleRuntime []) "2" "default" (.user "u_bob")).alone
          (payrollDirectory ["u_alice", "u_bob"]) = (.ok (), after) ∧
        ∀ auth : AuthContext, assertCanDecideApproval republished (some auth) = .ok () →
          assertCanDecideApproval published (some auth) = .ok () := by
  let _ := sampleRuntime []
  have ended : (((ApproverTarget.user "u_bob").disable "2" "default").alone
      (payrollDirectory ["u_alice", "u_bob"])).1.isOk = true := by
    decide +kernel
  obtain ⟨_, after, disabled⟩ := Prog.alone_ok ended
  obtain ⟨published, built⟩ := payroll_built (payrollDirectory ["u_alice", "u_bob"])
  obtain ⟨republished, rebuilt⟩ := payroll_built after
  refine ⟨after, published.approval, republished.approval, disabled, ?_⟩
  refine (disabling_narrows ?_ disabled ⟨rfl, rfl, rfl, rfl⟩ built rebuilt).mpr ?_
  · exact ⟨payrollUser "u_bob", rfl, rfl, rfl⟩
  · intro lastSeats
    rcases lastSeats.last _ _ _ _ (alice_seated _ ⟨rfl, rfl, rfl⟩) with isBob | isGroup
    · revert isBob
      show ¬ workspaceKey "default" "u_alice" = workspaceKey "default" "u_bob"
      decide
    · exact isGroup

private theorem alice_last :
    LastSeats payrollRule "default" (payrollDirectory ["u_alice"]) (.user "u_alice") :=
  { groupsOnly := ⟨rfl, List.cons_ne_nil _ _⟩
    seated := ⟨_, _, _, _, alice_seated _ ⟨rfl, rfl, rfl⟩⟩
    last := by
      intro userKey groupKey user group seat
      have found : (KeyedTable.empty.set (workspaceKey "default" "u_alice")
          (payrollUser "u_alice")).get? userKey = some user := seat.person.1
      rw [KeyedTable.get?_set] at found
      split at found
      · rename_i same
        exact Or.inl same
      · cases found }

/-- A principal that the directory does not know, and whose token claims the group. -/
private def groupClaimant : AuthContext :=
  { principalId := "mallory", principalType := .user, displayName := "mallory", email := none
    groups := ["payroll-admins"], scopes := [], authProvider := .oidcJwt, clientId := none
    workspaceId := "default" }

/-- With the only member of the group disabled, whoever claims the group may decide. -/
theorem disabling_last_member_widens :
    ∃ after published republished,
      (@ApproverTarget.disable (sampleRuntime []) "2" "default" (.user "u_alice")).alone
          (payrollDirectory ["u_alice"]) = (.ok (), after) ∧
        @buildPendingApprovalCandidate (sampleRuntime []) payrollConfig
          (@PendingApprovalInput.resolvedIn (sampleRuntime []) payrollRequest
            (payrollDirectory ["u_alice"])) = .ok published ∧
        @buildPendingApprovalCandidate (sampleRuntime []) payrollConfig
          (@PendingApprovalInput.resolvedIn (sampleRuntime []) payrollRequest after) =
            .ok republished ∧
        assertCanDecideApproval republished.approval (some groupClaimant) = .ok () ∧
        assertCanDecideApproval published.approval (some groupClaimant) =
          .error "Principal is not an allowed approver for this approval." := by
  let _ := sampleRuntime []
  have ended : (((ApproverTarget.user "u_alice").disable "2" "default").alone
      (payrollDirectory ["u_alice"])).1.isOk = true := by
    decide +kernel
  obtain ⟨_, after, disabled⟩ := Prog.alone_ok ended
  obtain ⟨published, built⟩ := payroll_built (payrollDirectory ["u_alice"])
  obtain ⟨republished, rebuilt⟩ := payroll_built after
  have listed : (ApproverTarget.user "u_alice").Listed "default" (payrollDirectory ["u_alice"]) :=
    ⟨payrollUser "u_alice", rfl, rfl, rfl⟩
  have without := disable_without listed disabled
  obtain ⟨groupsOnly, _, emptied⟩ := without.emptied_iff.mp alice_last
  have open' : DecidedAs payrollRequest (.claims ["payroll-admins"]) republished.approval := by
    have decided : DecidedAs payrollRequest (payrollRule.electorate
        (ApproverDirectory.resolvedUserIds payrollRule "default" after)) republished.approval :=
      candidate_decidedAs rebuilt
    rw [emptied, electorate_of_claims groupsOnly] at decided
    exact decided
  refine ⟨after, published, republished, disabled, built, rebuilt, ?_, ?_⟩
  · refine assertCanDecideApproval_ok.mpr (Or.inr ⟨open'.workspace, ?_, ?_⟩)
    · rw [open'.electorate]
      decide
    · rw [ApprovalRecord.barsSubmitter, open'.requestedBy, open'.requestedByAuth]
      have other : principalMatchesActor groupClaimant (some "agent") = false := by decide
      exact (congrArg _ (congrArg (· || false) other)).trans (Bool.and_false _)
  · obtain ⟨authorization, _, rfl⟩ := candidate_shape built
    have named : (payrollRequest.resolvedIn (payrollDirectory ["u_alice"])).approverUsers =
        some ["u_alice"] := by
      decide +kernel
    exact assertCanDecideApproval_unnamed (by decide) rfl named (by decide)

end ActionProxy
