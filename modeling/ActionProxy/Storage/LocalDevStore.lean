import ActionProxy.Foundation.LooseValue
import ActionProxy.Services.ApproverDirectory

/-!
The local store keeps the approver directory in memory and in a file. A mutation changes
the directory first and then writes the file, which may fail.
-/

namespace ActionProxy

open JsonText

/-! ### The file -/

structure ApproverDirectoryFile where
  groups : List ApproverGroupRecord
  updatedAt : String
  users : List ApproverUserRecord
  version : Nat

/-- What the file system answers to the steps of a write that can make it throw; changing
modes and removing the temporary file never does. -/
structure WriteAnswers where
  mkdirSync : Option Thrown
  writeFileSync : Option Thrown
  renameSync : Option Thrown

/-- The error of the first step that throws. -/
def WriteAnswers.failure (answers : WriteAnswers) : Option Thrown :=
  answers.mkdirSync <|> answers.writeFileSync <|> answers.renameSync

/-- The file takes its new content with the rename. -/
def writeJsonFileAtomic (answers : WriteAnswers) (value : ApproverDirectoryFile)
    (file : Option ApproverDirectoryFile) : Except Thrown Unit × Option ApproverDirectoryFile :=
  match answers.mkdirSync with
  | some error => (.error error, file)
  | none =>
      match answers.writeFileSync with
      | some error => (.error error, file)
      | none =>
          match answers.renameSync with
          | some error => (.error error, file)
          | none => (.ok (), some value)

theorem writeJsonFileAtomic_eq (answers : WriteAnswers) (value : ApproverDirectoryFile)
    (file : Option ApproverDirectoryFile) :
    writeJsonFileAtomic answers value file =
      match answers.failure with
      | some error => (.error error, file)
      | none => (.ok (), some value) := by
  unfold writeJsonFileAtomic WriteAnswers.failure
  cases answers.mkdirSync with
  | some error => rfl
  | none =>
      cases answers.writeFileSync with
      | some error => rfl
      | none =>
          cases answers.renameSync with
          | some error => rfl
          | none => rfl

/-! ### The store -/

structure LocalDevStore where
  directory : ApproverStore
  file : Option ApproverDirectoryFile

inductive LocalDevError where
  | directory (error : DirectoryError)
  | persist (error : Thrown)

def ApproverGroupRecord.key (group : ApproverGroupRecord) : String :=
  workspaceKey group.workspaceId group.id

/-- The clock and the file system, as one write meets them. -/
structure PersistContext where
  now : String
  answers : WriteAnswers

section

variable [Runtime]

/-- `directoryRecordSort`. -/
def directoryRecordSort (left right : String) : Bool := (Runtime.localeCompare left right).isLE

def ApproverStore.toFile (directory : ApproverStore) (now : String) : ApproverDirectoryFile :=
  { groups := directory.approverGroups.values.insertionSort
      (fun left right => directoryRecordSort left.key right.key = true)
    updatedAt := now
    users := directory.approverUsers.values.insertionSort
      (fun left right => directoryRecordSort left.key right.key = true)
    version := 1 }

namespace LocalDevStore

variable (context : PersistContext)

def persistApproverDirectory (store : LocalDevStore) : Except LocalDevError Unit × LocalDevStore :=
  match writeJsonFileAtomic context.answers (store.directory.toFile context.now) store.file with
  | (.error error, file) => (.error (.persist error), { store with file := file })
  | (.ok (), file) => (.ok (), { store with file := file })

/-- Go on with a changed directory once it is written. -/
def persisted {α : Type} (store : LocalDevStore) (value : α) :
    Except LocalDevError α × LocalDevStore :=
  match store.persistApproverDirectory context with
  | (.error error, after) => (.error error, after)
  | (.ok (), after) => (.ok value, after)

def upsertApproverUser (record : ApproverUserRecord) (store : LocalDevStore) :
    Except LocalDevError ApproverUserRecord × LocalDevStore :=
  if store.directory.principalTaken record then
    (.error (.directory .approverPrincipalConflict), store)
  else
    ({ store with directory := store.directory.setApproverUser record }).persisted context record

def deleteApproverUser (workspaceId id : String) (store : LocalDevStore) :
    Except LocalDevError Bool × LocalDevStore :=
  if (store.directory.approverUsers.get? (workspaceKey workspaceId id)).isSome then
    ({ store with directory := (store.directory.deleteApproverUser workspaceId id).2 }).persisted
      context true
  else (.ok false, store)

def upsertApproverGroup (record : ApproverGroupRecord) (store : LocalDevStore) :
    Except LocalDevError ApproverGroupRecord × LocalDevStore :=
  ({ store with directory := (store.directory.upsertApproverGroup record).2 }).persisted context
    record

def deleteApproverGroup (workspaceId id : String) (store : LocalDevStore) :
    Except LocalDevError Bool × LocalDevStore :=
  if (store.directory.approverGroups.get? (workspaceKey workspaceId id)).isSome then
    ({ store with directory := (store.directory.deleteApproverGroup workspaceId id).2 }).persisted
      context true
  else (.ok false, store)

/-- The record of a user that connects a Telegram account. -/
def connected (now : String) (input : ConnectTelegramInput) (existing : ApproverUserRecord) :
    ApproverUserRecord :=
  { existing with
    telegramChatId := some input.telegramChatId
    telegramUsername :=
      normalizeTelegramUsername input.telegramUsername <|> existing.telegramUsername
    telegramUserId := some input.telegramUserId
    updatedAt := now }

/-- `connectTelegramUser` of the directory service over this store, at one time. -/
def connectTelegramUser (now workspaceId id : String) (input : ConnectTelegramInput)
    (store : LocalDevStore) : Except LocalDevError ApproverUserRecord × LocalDevStore :=
  match store.directory.getApproverUser workspaceId id with
  | none => (.error (.directory (.notFound ("Approver user not found: " ++ id))), store)
  | some existing => store.upsertApproverUser context (connected now input existing)

end LocalDevStore

end

/-! ### Mutations -/

inductive DirectoryMutation where
  | upsertUser (record : ApproverUserRecord)
  | deleteUser (workspaceId userId : String)
  | upsertGroup (record : ApproverGroupRecord)
  | deleteGroup (workspaceId groupId : String)
  | connectUser (now workspaceId userId : String) (input : ConnectTelegramInput)

inductive MutationAnswer where
  | user (record : ApproverUserRecord)
  | group (record : ApproverGroupRecord)
  | deleted (value : Bool)

namespace DirectoryMutation

section

variable [Runtime]

def run (context : PersistContext) (store : LocalDevStore) :
    DirectoryMutation → Except LocalDevError MutationAnswer × LocalDevStore
  | .upsertUser record => (store.upsertApproverUser context record).map (·.map .user) id
  | .deleteUser workspaceId userId =>
      (store.deleteApproverUser context workspaceId userId).map (·.map .deleted) id
  | .upsertGroup record => (store.upsertApproverGroup context record).map (·.map .group) id
  | .deleteGroup workspaceId groupId =>
      (store.deleteApproverGroup context workspaceId groupId).map (·.map .deleted) id
  | .connectUser now workspaceId userId input =>
      (store.connectTelegramUser context now workspaceId userId input).map (·.map .user) id

/-- The directory the mutation goes on to write, if it comes so far. -/
def writes (directory : ApproverStore) : DirectoryMutation → Option ApproverStore
  | .upsertUser record =>
      if directory.principalTaken record then none else some (directory.setApproverUser record)
  | .deleteUser workspaceId userId =>
      if (directory.approverUsers.get? (workspaceKey workspaceId userId)).isSome then
        some (directory.deleteApproverUser workspaceId userId).2
      else none
  | .upsertGroup record => some (directory.upsertApproverGroup record).2
  | .deleteGroup workspaceId groupId =>
      if (directory.approverGroups.get? (workspaceKey workspaceId groupId)).isSome then
        some (directory.deleteApproverGroup workspaceId groupId).2
      else none
  | .connectUser now workspaceId userId input =>
      (directory.getApproverUser workspaceId userId).bind fun existing =>
        let record := LocalDevStore.connected now input existing
        if directory.principalTaken record then none else some (directory.setApproverUser record)

/-- The mutation writes a record that the directory has already. -/
def Rewrites (directory : ApproverStore) : DirectoryMutation → Prop
  | .upsertUser record => directory.approverUsers.get? record.key = some record
  | .deleteUser _ _ => False
  | .upsertGroup record => directory.approverGroups.get? record.key = some record
  | .deleteGroup _ _ => False
  | .connectUser now workspaceId userId input =>
      ∃ existing, directory.getApproverUser workspaceId userId = some existing ∧
        directory.approverUsers.get? existing.key =
          some (LocalDevStore.connected now input existing)

end

end DirectoryMutation

section

variable [Runtime] {context : PersistContext} {store : LocalDevStore}
  {mutation : DirectoryMutation}

theorem persisted_eq {α : Type} (context : PersistContext) (store : LocalDevStore) (value : α) :
    store.persisted context value =
      match context.answers.failure with
      | some error => (.error (.persist error), store)
      | none =>
          (.ok value, { store with file := some (store.directory.toFile context.now) }) := by
  unfold LocalDevStore.persisted LocalDevStore.persistApproverDirectory
  rw [writeJsonFileAtomic_eq]
  cases context.answers.failure with
  | some error => rfl
  | none => rfl

/-- The outcome of a mutation that came to write this directory. -/
structure Written (context : PersistContext) (store : LocalDevStore) (directory : ApproverStore)
    (outcome : Except LocalDevError MutationAnswer × LocalDevStore) : Prop where
  failed : ∀ error, context.answers.failure = some error →
    outcome = (.error (.persist error), { store with directory := directory })
  done : context.answers.failure = none → ∃ answer,
    outcome = (.ok answer,
      { directory := directory, file := some (directory.toFile context.now) })

theorem written_persisted {α : Type} (context : PersistContext) (store : LocalDevStore)
    (directory : ApproverStore) (value : α) (shape : α → MutationAnswer) :
    Written context store directory
      ((LocalDevStore.persisted context { store with directory := directory } value).map
        (·.map shape) id) := by
  rw [persisted_eq]
  constructor
  · intro error failed
    rw [failed]
    rfl
  · intro done
    rw [done]
    exact ⟨shape value, rfl⟩

/-- The store is left as it is, or the changed directory is written. -/
inductive Ran (context : PersistContext) (store : LocalDevStore) (written : Option ApproverStore)
    (outcome : Except LocalDevError MutationAnswer × LocalDevStore) : Prop where
  | left (unwritten : written = none) (same : outcome.2 = store)
  | wrote (directory : ApproverStore) (come : written = some directory)
      (shown : Written context store directory outcome)

theorem ran_upsertApproverUser (context : PersistContext) (store : LocalDevStore)
    (record : ApproverUserRecord) :
    Ran context store
      (if store.directory.principalTaken record then none
        else some (store.directory.setApproverUser record))
      ((store.upsertApproverUser context record).map (·.map .user) id) := by
  unfold LocalDevStore.upsertApproverUser
  split
  · exact .left rfl rfl
  · exact .wrote _ rfl (written_persisted context store _ record .user)

theorem ran_deleteApproverUser (context : PersistContext) (store : LocalDevStore)
    (workspaceId userId : String) :
    Ran context store (DirectoryMutation.writes store.directory (.deleteUser workspaceId userId))
      ((store.deleteApproverUser context workspaceId userId).map (·.map .deleted) id) := by
  dsimp only [DirectoryMutation.writes]
  unfold LocalDevStore.deleteApproverUser
  split
  · exact .wrote _ rfl (written_persisted context store _ true .deleted)
  · exact .left rfl rfl

theorem ran_deleteApproverGroup (context : PersistContext) (store : LocalDevStore)
    (workspaceId groupId : String) :
    Ran context store (DirectoryMutation.writes store.directory (.deleteGroup workspaceId groupId))
      ((store.deleteApproverGroup context workspaceId groupId).map (·.map .deleted) id) := by
  dsimp only [DirectoryMutation.writes]
  unfold LocalDevStore.deleteApproverGroup
  split
  · exact .wrote _ rfl (written_persisted context store _ true .deleted)
  · exact .left rfl rfl

theorem ran_connectTelegramUser (context : PersistContext) (store : LocalDevStore)
    (now workspaceId userId : String) (input : ConnectTelegramInput) :
    Ran context store
      (DirectoryMutation.writes store.directory (.connectUser now workspaceId userId input))
      ((store.connectTelegramUser context now workspaceId userId input).map (·.map .user) id) := by
  dsimp only [DirectoryMutation.writes]
  unfold LocalDevStore.connectTelegramUser
  cases store.directory.getApproverUser workspaceId userId with
  | none => exact .left rfl rfl
  | some existing => exact ran_upsertApproverUser context store _

theorem ran (context : PersistContext) (store : LocalDevStore) (mutation : DirectoryMutation) :
    Ran context store (mutation.writes store.directory) (mutation.run context store) := by
  cases mutation with
  | upsertUser record => exact ran_upsertApproverUser context store record
  | deleteUser workspaceId userId => exact ran_deleteApproverUser context store workspaceId userId
  | upsertGroup record => exact .wrote _ rfl (written_persisted context store _ record .group)
  | deleteGroup workspaceId groupId =>
      exact ran_deleteApproverGroup context store workspaceId groupId
  | connectUser now workspaceId userId input =>
      exact ran_connectTelegramUser context store now workspaceId userId input

omit [Runtime] in
theorem setApproverUser_eq_self_iff (directory : ApproverStore) (record : ApproverUserRecord) :
    directory.setApproverUser record = directory ↔
      directory.approverUsers.get? record.key = some record := by
  rw [← KeyedTable.set_eq_self_iff]
  cases directory with
  | mk users groups => simp [ApproverStore.setApproverUser]

/-- What a mutation writes is what was there exactly when it rewrites a record. -/
theorem writes_same_iff {directory written : ApproverStore} {mutation : DirectoryMutation}
    (writes : mutation.writes directory = some written) :
    written = directory ↔ mutation.Rewrites directory := by
  cases mutation with
  | upsertUser record =>
      dsimp only [DirectoryMutation.writes] at writes
      split at writes
      · cases writes
      · cases writes
        exact setApproverUser_eq_self_iff directory record
  | deleteUser workspaceId userId =>
      dsimp only [DirectoryMutation.writes] at writes
      split at writes
      · rename_i there
        cases writes
        refine iff_of_false ?_ id
        intro same
        exact KeyedTable.erase_ne_self there (congrArg ApproverStore.approverUsers same)
      · cases writes
  | upsertGroup record =>
      cases writes
      dsimp only [DirectoryMutation.Rewrites]
      rw [← KeyedTable.set_eq_self_iff]
      cases directory with
      | mk users groups => simp [ApproverStore.upsertApproverGroup, ApproverGroupRecord.key]
  | deleteGroup workspaceId groupId =>
      dsimp only [DirectoryMutation.writes] at writes
      split at writes
      · rename_i there
        cases writes
        refine iff_of_false ?_ id
        intro same
        exact KeyedTable.erase_ne_self there (congrArg ApproverStore.approverGroups same)
      · cases writes
  | connectUser now workspaceId userId input =>
      dsimp only [DirectoryMutation.writes, DirectoryMutation.Rewrites] at writes ⊢
      cases found : directory.getApproverUser workspaceId userId with
      | none =>
          rw [found] at writes
          cases writes
      | some existing =>
          rw [found] at writes
          dsimp only [Option.bind_some] at writes
          split at writes
          · cases writes
          · cases writes
            rw [setApproverUser_eq_self_iff]
            constructor
            · intro same
              exact ⟨existing, rfl, same⟩
            · rintro ⟨other, same, rewritten⟩
              cases same
              exact rewritten

/-- The mutation comes to write the file, and the write throws. -/
structure PersistFails (context : PersistContext) (store : LocalDevStore)
    (mutation : DirectoryMutation) : Prop where
  reached : (mutation.writes store.directory).isSome = true
  throws : context.answers.failure.isSome = true

/-- The mutation throws, and the directory and its file are as before. -/
structure Restored (store : LocalDevStore)
    (outcome : Except LocalDevError MutationAnswer × LocalDevStore) : Prop where
  thrown : ∃ error, outcome.1 = .error error
  directory : outcome.2.directory = store.directory
  file : outcome.2.file = store.file

/-- A mutation whose write throws leaves the directory as it was exactly when it rewrites
a record that is there already. -/
theorem failed_persist_restores_iff (failed : PersistFails context store mutation) :
    Restored store (mutation.run context store) ↔ mutation.Rewrites store.directory := by
  obtain ⟨error, failure⟩ := Option.isSome_iff_exists.mp failed.throws
  cases ran context store mutation with
  | left unwritten =>
      have reached := failed.reached
      rw [unwritten] at reached
      cases reached
  | wrote directory come shown =>
      rw [← writes_same_iff come, shown.failed error failure]
      constructor
      · exact fun restored => restored.directory
      · intro same
        exact ⟨⟨_, rfl⟩, same, rfl⟩

end

section

/-- A disk on which the temporary file cannot take the place of the directory file. -/
def fullDisk : PersistContext :=
  { now := "2026-08-09T10:00:00.000Z"
    answers :=
      { mkdirSync := none
        writeFileSync := none
        renameSync := some (.error "Error" "EPERM: operation not permitted, rename") } }

def supportGroup : ApproverGroupRecord :=
  { id := "support"
    workspaceId := "default"
    displayName := "Support"
    description := none
    enabled := true
    createdAt := "2026-08-09T10:00:00.000Z"
    updatedAt := "2026-08-09T10:00:00.000Z" }

def blankStore : LocalDevStore := { directory := ApproverStore.empty, file := none }

/-- The store that serves the group already. -/
def supportStore : LocalDevStore :=
  { blankStore with directory := (ApproverStore.empty.upsertApproverGroup supportGroup).2 }

theorem supportGroup_fails (store : LocalDevStore) :
    @PersistFails (sampleRuntime []) fullDisk store (.upsertGroup supportGroup) :=
  @PersistFails.mk (sampleRuntime []) fullDisk store _ rfl rfl

/-- The group is served although it could not be written. -/
theorem failed_persist_keeps_change :
    ¬ ∀ (runtime : Runtime) (context : PersistContext) (store : LocalDevStore)
      (mutation : DirectoryMutation), @PersistFails runtime context store mutation →
        Restored store (@DirectoryMutation.run runtime context store mutation) := by
  intro claimed
  have restored := claimed (sampleRuntime []) fullDisk blankStore (.upsertGroup supportGroup)
    (supportGroup_fails blankStore)
  have served := congrArg (fun directory => directory.approverGroups.values.length)
    restored.directory
  cases served

theorem failed_rewrite_restores :
    Restored supportStore
      (@DirectoryMutation.run (sampleRuntime []) fullDisk supportStore
        (.upsertGroup supportGroup)) :=
  (@failed_persist_restores_iff (sampleRuntime []) fullDisk supportStore
    (.upsertGroup supportGroup) (supportGroup_fails supportStore)).mpr rfl

end

section

variable [Runtime] {context : PersistContext} {store : LocalDevStore}
  {mutation : DirectoryMutation}

/-! ### What is served and what is written -/

/-- The file holds the directory; before the first write neither holds anything. -/
def Synced (store : LocalDevStore) : Prop :=
  (store.file = none ∧ store.directory = ApproverStore.empty) ∨
    ∃ now, store.file = some (store.directory.toFile now)

theorem synced_run (synced : Synced store) (context : PersistContext)
    (mutation : DirectoryMutation)
    (allowed : PersistFails context store mutation → mutation.Rewrites store.directory) :
    Synced (mutation.run context store).2 := by
  cases ran context store mutation with
  | left unwritten same => exact same.symm ▸ synced
  | wrote directory come shown =>
      cases failure : context.answers.failure with
      | some error =>
          have failed : PersistFails context store mutation :=
            ⟨by rw [come]; rfl, by rw [failure]; rfl⟩
          have same := (writes_same_iff come).mpr (allowed failed)
          rw [shown.failed error failure, same]
          exact synced
      | none =>
          obtain ⟨answer, outcome⟩ := shown.done failure
          rw [outcome]
          exact Or.inr ⟨context.now, rfl⟩

/-- The states that mutations lead to, one after another, each as it is allowed. -/
inductive MutationRun (allowed : PersistContext → LocalDevStore → DirectoryMutation → Prop)
    (first : LocalDevStore) : LocalDevStore → Prop where
  | start : MutationRun allowed first first
  | next {store : LocalDevStore} (run : MutationRun allowed first store)
      (context : PersistContext) (mutation : DirectoryMutation)
      (permitted : allowed context store mutation) :
      MutationRun allowed first (mutation.run context store).2

/-- Served and written stay one in every run where each failing write was of a record
that was there. -/
theorem synced_of_run {first : LocalDevStore} (begun : Synced first)
    (run : MutationRun
      (fun context store mutation =>
        PersistFails context store mutation → mutation.Rewrites store.directory) first store) :
    Synced store := by
  induction run with
  | start => exact begun
  | next _ context mutation permitted ih => exact synced_run ih context mutation permitted

end

/-- A disk that answers every call. -/
def roomyDisk : PersistContext :=
  { fullDisk with
    answers := { mkdirSync := none, writeFileSync := none, renameSync := none } }

/-- The group is written, and a full disk then refuses to write it again. -/
theorem synced_of_run_support :
    @Synced (sampleRuntime [])
      (@DirectoryMutation.run (sampleRuntime []) fullDisk
        (@DirectoryMutation.run (sampleRuntime []) roomyDisk blankStore
          (.upsertGroup supportGroup)).2 (.upsertGroup supportGroup)).2 := by
  let _ := sampleRuntime []
  have written (failed : PersistFails roomyDisk blankStore (.upsertGroup supportGroup)) :
      (DirectoryMutation.upsertGroup supportGroup).Rewrites blankStore.directory :=
    absurd failed.throws (by decide)
  exact synced_of_run (Or.inl ⟨rfl, rfl⟩)
    (.next (.next .start roomyDisk _ written) fullDisk _ fun _ => rfl)

end ActionProxy
