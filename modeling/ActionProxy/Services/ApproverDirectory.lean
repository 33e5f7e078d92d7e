import ActionProxy.Contracts.ActionRequest
import ActionProxy.Foundation.Interleaving
import ActionProxy.Foundation.KeyedTable
import ActionProxy.Foundation.TextScan

/-!
The approver directory: its records in the store, and the calls of the service as
computations that take one step for each store call.
-/

namespace ActionProxy

open Interleaving

structure ApproverUserRecord where
  id : String
  workspaceId : String
  displayName : String
  email : Option String
  principalId : Option String
  slackUserId : Option String
  telegramChatId : Option String
  telegramUsername : Option String
  telegramUserId : Option String
  groups : List String
  defaultApprover : Bool
  enabled : Bool
  createdAt : String
  updatedAt : String
  deriving DecidableEq

structure ApproverGroupRecord where
  id : String
  workspaceId : String
  displayName : String
  description : Option String
  enabled : Bool
  createdAt : String
  updatedAt : String
  deriving DecidableEq

/-- The approver records of the store, under the keys `workspaceKey` makes. -/
structure ApproverStore where
  approverUsers : KeyedTable String ApproverUserRecord
  approverGroups : KeyedTable String ApproverGroupRecord

inductive DirectoryError where
  | approverPrincipalConflict
  | conflict (message : String)
  | notFound (message : String)
  deriving DecidableEq

def approverPrincipalConflictMessage : String :=
  "Approver authorization identity conflicts with an existing directory user."

def workspaceKey (workspaceId id : String) : String := workspaceId ++ ":" ++ id

def ApproverUserRecord.key (user : ApproverUserRecord) : String :=
  workspaceKey user.workspaceId user.id

def approverEffectiveIdentity (record : ApproverUserRecord) : String :=
  (nonEmpty record.principalId).getD record.id

def blankToUndefined (value : Option String) : Option String := value.bind TextScan.content

def authorizationPrincipalId (user : ApproverUserRecord) : String :=
  (blankToUndefined user.principalId).getD user.id

/-! ### Texts -/

/-- Every run of characters in a class as one mark. -/
def replaceRuns (inRun : Char → Bool) (mark : Char) : Bool → List Char → List Char
  | _, [] => []
  | within, char :: rest =>
      if inRun char then
        if within then replaceRuns inRun mark true rest
        else mark :: replaceRuns inRun mark true rest
      else char :: replaceRuns inRun mark false rest

def slugChar (char : Char) : Bool :=
  ('a' ≤ char && char ≤ 'z') || ('0' ≤ char && char ≤ '9')

/-- The text without one underscore at its start and one at its end. -/
def trimUnderscore (chars : List Char) : List Char :=
  let started := if chars.head? = some '_' then chars.tail else chars
  if started.getLast? = some '_' then started.dropLast else started

def slugForId [Runtime] (value : Option String) (fallback : String) : String :=
  let slug := (blankToUndefined value).map fun value =>
    let marked := replaceRuns (fun char => !slugChar char) '_' false
      (Runtime.toLowerCase value).toList
    String.ofList (trimUnderscore (replaceRuns (· == '_') '_' false marked))
  (nonEmpty slug).getD fallback

def normalizeTelegramUsername [Runtime] (value : Option String) : Option String :=
  nonEmpty ((blankToUndefined value).map fun trimmed =>
    Runtime.toLowerCase (TextScan.trim (String.ofList (trimmed.toList.dropWhile (· == '@')))))

/-! ### The store -/

namespace ApproverStore

def empty : ApproverStore :=
  { approverUsers := KeyedTable.empty, approverGroups := KeyedTable.empty }

/-- Another user of the workspace has the effective identity of the record. -/
def principalTaken (store : ApproverStore) (record : ApproverUserRecord) : Bool :=
  store.approverUsers.values.any fun existing =>
    existing.workspaceId == record.workspaceId && existing.id != record.id &&
      approverEffectiveIdentity existing == approverEffectiveIdentity record

def setApproverUser (store : ApproverStore) (record : ApproverUserRecord) : ApproverStore :=
  { store with approverUsers := store.approverUsers.set record.key record }

def upsertApproverUser (record : ApproverUserRecord) (store : ApproverStore) :
    Except DirectoryError ApproverUserRecord × ApproverStore :=
  if store.principalTaken record then (.error .approverPrincipalConflict, store)
  else (.ok record, store.setApproverUser record)

def getApproverUser (workspaceId id : String) (store : ApproverStore) :
    Option ApproverUserRecord :=
  store.approverUsers.get? (workspaceKey workspaceId id)

def deleteApproverUser (workspaceId id : String) (store : ApproverStore) : Unit × ApproverStore :=
  ((), { store with approverUsers := store.approverUsers.erase (workspaceKey workspaceId id) })

def upsertApproverGroup (record : ApproverGroupRecord) (store : ApproverStore) :
    ApproverGroupRecord × ApproverStore :=
  (record, { store with
    approverGroups := store.approverGroups.set (workspaceKey record.workspaceId record.id) record })

def getApproverGroup (workspaceId id : String) (store : ApproverStore) :
    Option ApproverGroupRecord :=
  store.approverGroups.get? (workspaceKey workspaceId id)

def deleteApproverGroup (workspaceId id : String) (store : ApproverStore) : Unit × ApproverStore :=
  ((), { store with approverGroups := store.approverGroups.erase (workspaceKey workspaceId id) })

section

variable [Runtime]

def listApproverUsers (workspaceId : String) (store : ApproverStore) : List ApproverUserRecord :=
  (store.approverUsers.values.filter (·.workspaceId == workspaceId)).insertionSort
    (fun left right => (Runtime.localeCompare left.displayName right.displayName).isLE = true)

def listApproverGroups (workspaceId : String) (store : ApproverStore) :
    List ApproverGroupRecord :=
  (store.approverGroups.values.filter (·.workspaceId == workspaceId)).insertionSort
    (fun left right => (Runtime.localeCompare left.displayName right.displayName).isLE = true)

end

end ApproverStore

/-! ### The service -/

abbrev DirectoryProg (α : Type) := Prog ApproverStore DirectoryError α

structure UpsertApproverUserInput where
  defaultApprover : Option Bool
  displayName : Option String
  email : Option String
  enabled : Option Bool
  groups : Option (List String)
  principalId : Option String
  slackUserId : Option String
  telegramChatId : Option String
  telegramUsername : Option String
  telegramUserId : Option String

structure UpsertApproverGroupInput where
  description : Option String
  displayName : Option String
  enabled : Option Bool

structure ConnectTelegramInput where
  telegramChatId : String
  telegramUsername : Option String
  telegramUserId : String

/-- The first listed user, other than the one with the id, that has the id or the
proposed principal among its identifiers. -/
def identityConflict (users : List ApproverUserRecord) (id : String)
    (principalId : Option String) : Option ApproverUserRecord :=
  let proposed := [id, principalId.getD id]
  users.find? fun user =>
    user.id != id &&
      [user.id, authorizationPrincipalId user].any (fun identifier => proposed.contains identifier)

namespace ApproverDirectory

section

variable [Runtime]

def assertUniqueAuthorizationIdentity (workspaceId id : String) (principalId : Option String) :
    DirectoryProg Unit := do
  let users ← Prog.read (ApproverStore.listApproverUsers workspaceId)
  match identityConflict users id principalId with
  | some conflict => .throw (.conflict
      ("Approver authorization identity conflicts with existing directory user: " ++ conflict.id))
  | none => pure ()

/-- The record of an update: what the input gives, else what is there. -/
def updatedUser (workspaceId id now : String) (existing : Option ApproverUserRecord)
    (input : UpsertApproverUserInput) : ApproverUserRecord :=
  { createdAt := (existing.map ApproverUserRecord.createdAt).getD now
    defaultApprover :=
      (input.defaultApprover <|> existing.map ApproverUserRecord.defaultApprover).getD false
    displayName :=
      (blankToUndefined input.displayName <|> existing.map ApproverUserRecord.displayName).getD id
    email := blankToUndefined input.email <|> existing.bind ApproverUserRecord.email
    enabled := (input.enabled <|> existing.map ApproverUserRecord.enabled).getD true
    groups := sortedUnique (((input.groups <|> existing.map ApproverUserRecord.groups).getD
      []).filterMap TextScan.content)
    id := id
    principalId :=
      blankToUndefined input.principalId <|> existing.bind ApproverUserRecord.principalId
    slackUserId :=
      blankToUndefined input.slackUserId <|> existing.bind ApproverUserRecord.slackUserId
    telegramChatId :=
      blankToUndefined input.telegramChatId <|> existing.bind ApproverUserRecord.telegramChatId
    telegramUsername := normalizeTelegramUsername input.telegramUsername <|>
      existing.bind ApproverUserRecord.telegramUsername
    telegramUserId :=
      blankToUndefined input.telegramUserId <|> existing.bind ApproverUserRecord.telegramUserId
    updatedAt := now
    workspaceId := workspaceId }

/-- The store's answer as the service gives it. -/
def safeConflict {α : Type} : Except DirectoryError α → Except DirectoryError α
  | .error .approverPrincipalConflict => .error (.conflict approverPrincipalConflictMessage)
  | answer => answer

def upsertUser (now workspaceId id : String) (input : UpsertApproverUserInput) :
    DirectoryProg ApproverUserRecord := do
  let existing ← Prog.read (ApproverStore.getApproverUser workspaceId id)
  let record := updatedUser workspaceId id now existing input
  assertUniqueAuthorizationIdentity workspaceId id record.principalId
  let answer ← Prog.call (ApproverStore.upsertApproverUser record)
  Prog.ofExcept (safeConflict answer)

/-- The ids tried in turn. -/
def directoryIdCandidates (base : String) : List String :=
  base :: (List.range' 2 9998).map (fun suffix => base ++ "_" ++ toString suffix)

def nextGeneratedDirectoryId (workspaceId start : String) (displayName : Option String)
    (fallback : String) : DirectoryProg String := do
  let users ← Prog.read (ApproverStore.listApproverUsers workspaceId)
  let groups ← Prog.read (ApproverStore.listApproverGroups workspaceId)
  let existingIds := users.flatMap (fun user => [user.id, authorizationPrincipalId user]) ++
    groups.map ApproverGroupRecord.id
  let base := start ++ "_" ++ slugForId displayName fallback
  match (directoryIdCandidates base).find? (fun candidate => !existingIds.contains candidate) with
  | some candidate => pure candidate
  | none => .throw (.conflict
      ("Could not allocate a unique approver directory id for " ++ base ++ "."))

def createUser (now workspaceId : String) (input : UpsertApproverUserInput) :
    DirectoryProg ApproverUserRecord := do
  let id ← nextGeneratedDirectoryId workspaceId "u" input.displayName "approver"
  upsertUser now workspaceId id input

/-- A change of a user that has to be there. -/
def changeUser (workspaceId id : String) (change : ApproverUserRecord → ApproverUserRecord) :
    DirectoryProg ApproverUserRecord := do
  match ← Prog.read (ApproverStore.getApproverUser workspaceId id) with
  | none => .throw (.notFound ("Approver user not found: " ++ id))
  | some existing =>
      let answer ← Prog.call (ApproverStore.upsertApproverUser (change existing))
      Prog.ofExcept answer

def connectTelegramUser (now workspaceId id : String) (input : ConnectTelegramInput) :
    DirectoryProg ApproverUserRecord :=
  changeUser workspaceId id fun existing =>
    { existing with
      telegramChatId := some input.telegramChatId
      telegramUsername :=
        normalizeTelegramUsername input.telegramUsername <|> existing.telegramUsername
      telegramUserId := some input.telegramUserId
      updatedAt := now }

def disconnectTelegramUser (now workspaceId id : String) : DirectoryProg ApproverUserRecord :=
  changeUser workspaceId id fun existing =>
    { existing with telegramChatId := none, telegramUserId := none, updatedAt := now }

def blankUpdate (displayName : String) (enabled : Bool) : UpsertApproverUserInput :=
  { defaultApprover := none, displayName := some displayName, email := none
    enabled := some enabled, groups := none, principalId := none, slackUserId := none
    telegramChatId := none, telegramUsername := none, telegramUserId := none }

def disableUser (now workspaceId id : String) : DirectoryProg ApproverUserRecord := do
  match ← Prog.read (ApproverStore.getApproverUser workspaceId id) with
  | none => upsertUser now workspaceId id (blankUpdate id false)
  | some existing =>
      let answer ← Prog.call (ApproverStore.upsertApproverUser
        { existing with enabled := false, updatedAt := now })
      Prog.ofExcept answer

def deleteUser (workspaceId id : String) : DirectoryProg ApproverUserRecord := do
  match ← Prog.read (ApproverStore.getApproverUser workspaceId id) with
  | none => .throw (.notFound ("Approver user not found: " ++ id))
  | some existing =>
      Prog.call (ApproverStore.deleteApproverUser workspaceId id)
      pure existing

def upsertGroup (now workspaceId id : String) (input : UpsertApproverGroupInput) :
    DirectoryProg ApproverGroupRecord := do
  let existing ← Prog.read (ApproverStore.getApproverGroup workspaceId id)
  Prog.call (ApproverStore.upsertApproverGroup
    { createdAt := (existing.map ApproverGroupRecord.createdAt).getD now
      description := blankToUndefined input.description <|>
        existing.bind ApproverGroupRecord.description
      displayName := (blankToUndefined input.displayName <|>
        existing.map ApproverGroupRecord.displayName).getD id
      enabled := (input.enabled <|> existing.map ApproverGroupRecord.enabled).getD true
      id := id
      updatedAt := now
      workspaceId := workspaceId })

def createGroup (now workspaceId : String) (input : UpsertApproverGroupInput) :
    DirectoryProg ApproverGroupRecord := do
  let id ← nextGeneratedDirectoryId workspaceId "g" input.displayName "group"
  upsertGroup now workspaceId id input

def disableGroup (now workspaceId id : String) : DirectoryProg ApproverGroupRecord := do
  match ← Prog.read (ApproverStore.getApproverGroup workspaceId id) with
  | none =>
      upsertGroup now workspaceId id
        { description := none, displayName := some id, enabled := some false }
  | some existing =>
      Prog.call (ApproverStore.upsertApproverGroup
        { existing with enabled := false, updatedAt := now })

/-- Every listed user is written without the group; the first error, when all were
tried. -/
def leaveGroup (now groupId : String) : List ApproverUserRecord →
    DirectoryProg (Option DirectoryError)
  | [] => pure none
  | user :: rest => do
      let answer ← Prog.call (ApproverStore.upsertApproverUser
        { user with groups := user.groups.filter (· != groupId), updatedAt := now })
      let later ← leaveGroup now groupId rest
      match answer with
      | .error error => pure (some error)
      | .ok _ => pure later

def deleteGroup (now workspaceId id : String) : DirectoryProg ApproverGroupRecord := do
  match ← Prog.read (ApproverStore.getApproverGroup workspaceId id) with
  | none => .throw (.notFound ("Approver group not found: " ++ id))
  | some existing =>
      let users ← Prog.read (ApproverStore.listApproverUsers workspaceId)
      match ← leaveGroup now id (users.filter (fun user => user.groups.contains id)) with
      | some error => .throw error
      | none =>
          Prog.call (ApproverStore.deleteApproverGroup workspaceId id)
          pure existing

end

end ApproverDirectory

end ActionProxy
