import ActionProxy.Foundation.JsonPrefix

/-!
The migration lock of a SQLite database: a file beside it that holds the process id of its
creator, and what a caller does with a file that another process left there.
-/

namespace ActionProxy

open JsonText

/-! ### The lock file -/

/-- What a caller writes into the file it has created. -/
def migrationLockText (createdAt : String) (pid : Int) : List Char :=
  textWith insertionOrder
    (.obj [("createdAt", some (.str createdAt)), ("pid", some (.num (.ofInt pid)))])

/-- What the content of a file says of its creator. -/
inductive LockOwner where
  /-- Reading the content, or its member `pid`, throws. -/
  | unreadable
  /-- There is no process id. -/
  | unknown
  | process (pid : Int)
  deriving DecidableEq

def usablePid : Json → Option Int
  | .num number =>
      if 0 ≤ number.exponent ∧ 0 < number.scaled 0 then some (number.scaled 0) else none
  | _ => none

def lockOwner (nearest : JsonNumber → Option JsonNumber) (content : List UInt8) : LockOwner :=
  match jsonParse nearest (String.ofList (Utf8Stream.decode content)) with
  | none => .unreadable
  | some .null => .unreadable
  | some owner =>
      match (field? owner "pid").bind usablePid with
      | none => .unknown
      | some pid => .process pid

section

variable {nearest : JsonNumber → Option JsonNumber} {createdAt : String} {pid : Int}

theorem migrationLock_distinct : distinctKeys
    (.obj [("createdAt", some (.str createdAt)), ("pid", some (.num (.ofInt pid)))]) = true := by
  unfold distinctKeys everyObject
  simp [onMembers, everyPart, everyMember]

theorem migrationLock_exact (held : nearest (.ofInt pid) = some (.ofInt pid)) :
    exactNumbers nearest
      (.obj [("createdAt", some (.str createdAt)), ("pid", some (.num (.ofInt pid)))]) = true := by
  unfold exactNumbers
  simp [everyPart, everyMember, held]

theorem lockOwner_torn (held : nearest (.ofInt pid) = some (.ofInt pid)) {content : List UInt8}
    (cut : content <+: Utf8Stream.utf8 (migrationLockText createdAt pid))
    (proper : content ≠ Utf8Stream.utf8 (migrationLockText createdAt pid)) :
    lockOwner nearest content = .unreadable := by
  rw [lockOwner, (isObjectText_textWith insertionOrder migrationLock_distinct
    (migrationLock_exact held)).torn_unparsed cut proper]

theorem lockOwner_whole (held : nearest (.ofInt pid) = some (.ofInt pid)) (positive : 0 < pid) :
    lockOwner nearest (Utf8Stream.utf8 (migrationLockText createdAt pid)) = .process pid := by
  obtain ⟨whole, value⟩ := JsonNumber.ofInt_scaled pid
  have read := jsonParse_printed insertionOrder
    (@migrationLock_distinct createdAt pid) (migrationLock_exact held)
  have usable : usablePid (.num (.ofInt pid)) = some pid := by
    rw [usablePid, value, if_pos ⟨whole, positive⟩]
  rw [lockOwner, Utf8Stream.decode_utf8, migrationLockText, read, printed_obj]
  change (match usablePid (.num (.ofInt pid)) with
    | none => LockOwner.unknown
    | some pid => .process pid) = .process pid
  rw [usable]

end

/-! ### A caller on its own -/

def sqliteMigrationLockTimeoutMs : ℚ := 10000

def sqliteMalformedLockStaleMs : ℚ := sqliteMigrationLockTimeoutMs

structure LockFile where
  content : List UInt8
  mtimeMs : ℚ

inductive LockWait where
  /-- The lock is held and the callback runs. -/
  | entered
  | timedOut
  deriving DecidableEq

section

variable (nearest : JsonNumber → Option JsonNumber) (processExists : Int → Bool)

/-- Whether the caller should try again at once, and the file afterwards. -/
def reclaimStaleSqliteMigrationLock (now : ℚ) : Option LockFile → Bool × Option LockFile
  | none => (true, none)
  | some lock =>
      match lockOwner nearest lock.content with
      | .unreadable => (false, some lock)
      | .unknown =>
          if now - lock.mtimeMs < sqliteMalformedLockStaleMs then (false, some lock)
          else (true, none)
      | .process pid => if processExists pid then (false, some lock) else (true, none)

/-- The loop of a caller with no other one about, from a reading of its clock on; nothing
when it is still waiting after that many turns. -/
def waitForLock (clock : Nat → ℚ) (deadline : ℚ) :
    Nat → Nat → Option LockFile → Option LockWait
  | 0, _, _ => none
  | _ + 1, _, none => some .entered
  | turns + 1, reading, some lock =>
      let (reclaimed, left) :=
        reclaimStaleSqliteMigrationLock nearest processExists (clock reading) (some lock)
      if reclaimed then waitForLock clock deadline turns (reading + 1) left
      else if deadline ≤ clock (reading + 1) then some .timedOut
      else waitForLock clock deadline turns (reading + 2) left

def withSqliteMigrationLock (clock : Nat → ℚ) (turns : Nat) (lock : Option LockFile) :
    Option LockWait :=
  waitForLock nearest processExists clock (clock 0 + sqliteMigrationLockTimeoutMs) turns 1 lock

end

section

variable {nearest : JsonNumber → Option JsonNumber} {processExists : Int → Bool}
  {clock : Nat → ℚ} {lock : LockFile}

/-- A file that cannot be read is waited for until the deadline, however old it is. -/
theorem waitForLock_unreadable (unreadable : lockOwner nearest lock.content = .unreadable)
    (deadline : ℚ) (turns reading : Nat) :
    waitForLock nearest processExists clock deadline turns reading (some lock) ≠
      some .entered := by
  induction turns generalizing reading with
  | zero =>
      intro same
      cases same
  | succ turns inductionHypothesis =>
      have stays : reclaimStaleSqliteMigrationLock nearest processExists (clock reading)
          (some lock) = (false, some lock) := by
        rw [reclaimStaleSqliteMigrationLock, unreadable]
      rw [waitForLock, stays]
      simp only [Bool.false_eq_true, if_false]
      split
      · intro same
        cases same
      · exact inductionHypothesis (reading + 2)

theorem waitForLock_dead {pid : Int} (owned : lockOwner nearest lock.content = .process pid)
    (dead : processExists pid = false) (deadline : ℚ) (reading : Nat) :
    waitForLock nearest processExists clock deadline 2 reading (some lock) = some .entered := by
  have reclaims : reclaimStaleSqliteMigrationLock nearest processExists (clock reading)
      (some lock) = (true, none) := by
    rw [reclaimStaleSqliteMigrationLock, owned]
    simp only [dead, Bool.false_eq_true, if_false]
  rw [waitForLock, reclaims]
  rfl

/-- Of the files that a crashed process can leave, those are reclaimed that were written
whole. -/
theorem crashed_lock_reclaimed_iff {createdAt : String} {pid : Int}
    (held : nearest (.ofInt pid) = some (.ofInt pid)) (positive : 0 < pid)
    (dead : processExists pid = false)
    (cut : lock.content <+: Utf8Stream.utf8 (migrationLockText createdAt pid)) :
    (∃ turns, withSqliteMigrationLock nearest processExists clock turns (some lock) =
        some .entered) ↔
      lock.content = Utf8Stream.utf8 (migrationLockText createdAt pid) := by
  constructor
  · intro entered
    obtain ⟨turns, runs⟩ := entered
    by_contra proper
    exact waitForLock_unreadable (lockOwner_torn held cut proper) _ turns 1 runs
  · intro whole
    have owned : lockOwner nearest lock.content = .process pid := by
      rw [whole]
      exact lockOwner_whole held positive
    exact ⟨2, waitForLock_dead owned dead _ 1⟩

end

/-- The lock of a process that crashed inside its callback is reclaimed. -/
theorem crashed_lock_reclaimed_whole : ∃ turns,
    withSqliteMigrationLock some (fun _ => false) (fun _ => 20000) turns
      (some { content := Utf8Stream.utf8 (migrationLockText "2026-07-10T10:00:00.000Z" 41)
              mtimeMs := 0 }) = some .entered :=
  (@crashed_lock_reclaimed_iff some (fun _ => false) (fun _ => 20000)
    { content := Utf8Stream.utf8 (migrationLockText "2026-07-10T10:00:00.000Z" 41)
      mtimeMs := 0 }
    "2026-07-10T10:00:00.000Z" 41 rfl (by decide) rfl (List.prefix_refl _)).mpr rfl

/-- A file that was created and never written blocks every later caller. -/
theorem empty_lock_blocks : ¬ ∀ (processExists : Int → Bool) (clock : Nat → ℚ)
    (createdAt : String) (pid : Int) (lock : LockFile), 0 < pid → processExists pid = false →
      lock.content <+: Utf8Stream.utf8 (migrationLockText createdAt pid) →
      (∀ reading, sqliteMalformedLockStaleMs ≤ clock reading - lock.mtimeMs) →
      ∃ turns, withSqliteMigrationLock some processExists clock turns (some lock) =
        some .entered := by
  intro general
  obtain ⟨turns, entered⟩ := general (fun _ => false) (fun _ => 10000)
    "2026-07-10T10:00:00.000Z" 41 { content := [], mtimeMs := 0 } (by decide) rfl
    (List.nil_prefix) (fun _ => by decide +kernel)
  have unreadable : lockOwner some [] = .unreadable := rfl
  exact waitForLock_unreadable unreadable _ turns 1 entered

end ActionProxy
