import ActionProxy.Storage.MigrationLock

/-!
The migration lock among processes that run side by side: each file operation of a caller is a
step of its own, any process may be killed between two steps, and a caller that finds a lock
whose creator is gone removes whatever file has the lock's name by then.
-/

namespace ActionProxy

open JsonText

/-! ### Processes and the lock file -/

/-- Where a process is. A file is known by its inode: its name may pass to another file. -/
inductive CallPhase where
  | gone
  | outside
  | trying
  | writing (inode : Nat) (rest : List UInt8)
  /-- Inside the callback. -/
  | inside (inode : Nat)
  /-- The callback has ended and the descriptor is closed. -/
  | closed (inode : Nat)
  /-- The lock file exists. -/
  | refused
  | reading (inode : Nat)
  | judging (inode : Nat) (owner : LockOwner)
  /-- The creator of the file that was read is gone. -/
  | reclaiming (inode : Nat)
  | waiting
  deriving DecidableEq

namespace CallPhase

def alive : CallPhase → Bool
  | .gone => false
  | _ => true

/-- The file a process has created for the call it is in. -/
def lock : CallPhase → Option Nat
  | .writing inode _ => some inode
  | .inside inode => some inode
  | .closed inode => some inode
  | _ => none

def unwritten : CallPhase → List UInt8
  | .writing _ rest => rest
  | _ => []

/-- The file of another that a process has opened. -/
def looked : CallPhase → Option Nat
  | .reading inode => some inode
  | .judging inode _ => some inode
  | .reclaiming inode => some inode
  | _ => none

/-- After an operation that fails: an error of the call itself ends it, one while a lock is
reclaimed only makes the caller wait. -/
def failed : CallPhase → Option CallPhase
  | .trying => some .outside
  | .writing _ _ => some .outside
  | .closed _ => some .outside
  | .refused => some .waiting
  | .reading _ => some .waiting
  | .judging _ _ => some .waiting
  | .reclaiming _ => some .waiting
  | _ => none

end CallPhase

structure LockWorld where
  /-- The file that the lock's name stands for. -/
  path : Option Nat
  contents : Nat → List UInt8
  /-- How many files there have been. -/
  created : Nat
  phase : Int → CallPhase

inductive LockAction where
  | start
  | call
  | create (createdAt : String)
  | write (count : Nat)
  | leave
  | release
  | look
  | read
  | judge (young : Bool)
  | unlink
  | retry
  | giveUp
  | fail
  | crash

namespace LockWorld

def goes (world : LockWorld) (pid : Int) (next : CallPhase) : LockWorld :=
  { world with phase := Function.update world.phase pid next }

/-- A number that JSON keeps. -/
def IsProcessId (nearest : JsonNumber → Option JsonNumber) (pid : Int) : Prop :=
  0 < pid ∧ nearest (.ofInt pid) = some (.ofInt pid)

instance (nearest : JsonNumber → Option JsonNumber) (pid : Int) :
    Decidable (IsProcessId nearest pid) :=
  inferInstanceAs (Decidable (_ ∧ _))

/-- What a caller does after it has read a lock. -/
def judged (world : LockWorld) (young : Bool) (inode : Nat) : LockOwner → CallPhase
  | .unreadable => .waiting
  | .unknown =>
      if world.path = none then .trying else if young then .waiting else .reclaiming inode
  | .process owner => if (world.phase owner).alive then .waiting else .reclaiming inode

/-- One operation of a process; nothing when it is not at it. -/
def act (nearest : JsonNumber → Option JsonNumber) (pid : Int) (action : LockAction)
    (world : LockWorld) : Option LockWorld :=
  match action, world.phase pid with
  | .start, .gone => if IsProcessId nearest pid then some (world.goes pid .outside) else none
  | .call, .outside => some (world.goes pid .trying)
  | .create createdAt, .trying =>
      match world.path with
      | none =>
          some
            { path := some world.created
              contents := Function.update world.contents world.created []
              created := world.created + 1
              phase := Function.update world.phase pid
                (.writing world.created (Utf8Stream.utf8 (migrationLockText createdAt pid))) }
      | some _ => some (world.goes pid .refused)
  | .write count, .writing inode rest =>
      some
        { world with
          contents :=
            Function.update world.contents inode (world.contents inode ++ rest.take count)
          phase := Function.update world.phase pid
            (if rest.length ≤ count then .inside inode else .writing inode (rest.drop count)) }
  | .leave, .inside inode => some (world.goes pid (.closed inode))
  | .release, .closed _ => some { world.goes pid .outside with path := none }
  | .look, .refused =>
      match world.path with
      | none => some (world.goes pid .trying)
      | some inode => some (world.goes pid (.reading inode))
  | .read, .reading inode =>
      some (world.goes pid (.judging inode (lockOwner nearest (world.contents inode))))
  | .judge young, .judging inode owner => some (world.goes pid (world.judged young inode owner))
  | .unlink, .reclaiming _ => some { world.goes pid .trying with path := none }
  | .retry, .waiting => some (world.goes pid .trying)
  | .giveUp, .waiting => some (world.goes pid .outside)
  | .fail, phase => phase.failed.map (world.goes pid)
  | .crash, _ => some (world.goes pid .gone)
  | _, _ => none

/-- No process has started; the name may stand for a file that was left there. -/
structure Initial (world : LockWorld) : Prop where
  gone : ∀ pid, world.phase pid = .gone
  known : ∀ inode ∈ world.path, inode < world.created

/-- A reclaim removes the file it has read, if any. -/
def Honest (world : LockWorld) (pid : Int) (action : LockAction) : Prop :=
  action = .unlink → ∀ inode, world.phase pid = .reclaiming inode →
    ∀ named ∈ world.path, named = inode

/-- The worlds reached by operations that all meet a condition. -/
inductive Reaches (nearest : JsonNumber → Option JsonNumber)
    (condition : LockWorld → Int → LockAction → Prop) : LockWorld → Prop where
  | initial {world : LockWorld} (first : Initial world) : Reaches nearest condition world
  | act {world next : LockWorld} (earlier : Reaches nearest condition world) (pid : Int)
      (action : LockAction) (taken : world.act nearest pid action = some next)
      (meets : condition world pid action) : Reaches nearest condition next

section

variable {nearest : JsonNumber → Option JsonNumber}

structure Guarded (nearest : JsonNumber → Option JsonNumber) (world : LockWorld) : Prop where
  ids : ∀ pid, (world.phase pid).alive = true → IsProcessId nearest pid
  known : ∀ inode ∈ world.path, inode < world.created
  held : ∀ pid, ∀ inode ∈ (world.phase pid).lock, world.path = some inode
  sole : ∀ first second, ∀ inode ∈ (world.phase first).lock,
    inode ∈ (world.phase second).lock → first = second
  text : ∀ pid, ∀ inode ∈ (world.phase pid).lock, ∃ createdAt,
    world.contents inode ++ (world.phase pid).unwritten =
      Utf8Stream.utf8 (migrationLockText createdAt pid)
  seen : ∀ pid, ∀ inode ∈ (world.phase pid).looked, inode < world.created
  read : ∀ pid inode owner, world.phase pid = .judging inode owner →
    ∀ holder, inode ∈ (world.phase holder).lock → owner = .unreadable ∨ owner = .process holder
  orphaned : ∀ pid inode, world.phase pid = .reclaiming inode →
    ∀ holder, inode ∉ (world.phase holder).lock

variable {world : LockWorld}

theorem Initial.guarded (first : Initial world) : Guarded nearest world :=
  { ids := by
      intro pid alive
      rw [first.gone pid] at alive
      cases alive
    known := first.known
    held := by
      intro pid inode locked
      rw [first.gone pid] at locked
      cases locked
    sole := by
      intro pid second inode locked
      rw [first.gone pid] at locked
      cases locked
    text := by
      intro pid inode locked
      rw [first.gone pid] at locked
      cases locked
    seen := by
      intro pid inode looked
      rw [first.gone pid] at looked
      cases looked
    read := by
      intro pid inode owner isJudging
      rw [first.gone pid] at isJudging
      cases isJudging
    orphaned := by
      intro pid inode isReclaiming
      rw [first.gone pid] at isReclaiming
      cases isReclaiming }

/-- A move of one process that leaves the files alone: it keeps its lock or lets go of it,
and what it holds against another's lock is true. -/
structure Moves (nearest : JsonNumber → Option JsonNumber) (world : LockWorld) (pid : Int)
    (next : CallPhase) : Prop where
  ids : next.alive = true → IsProcessId nearest pid
  lock : ∀ inode ∈ next.lock, inode ∈ (world.phase pid).lock ∧
    next.unwritten = (world.phase pid).unwritten
  seen : ∀ inode ∈ next.looked, inode < world.created
  read : ∀ inode owner, next = .judging inode owner → ∀ holder,
    inode ∈ (world.phase holder).lock → owner = .unreadable ∨ owner = .process holder
  orphaned : ∀ inode, next = .reclaiming inode → ∀ holder, inode ∉ (world.phase holder).lock

theorem phase_goes (world : LockWorld) (pid other : Int) (next : CallPhase) :
    (world.goes pid next).phase other = if other = pid then next else world.phase other :=
  Function.update_apply _ _ _ _

theorem Moves.locked {pid : Int} {next : CallPhase} (moves : Moves nearest world pid next)
    {other : Int} {inode : Nat} (locked : inode ∈ ((world.goes pid next).phase other).lock) :
    inode ∈ (world.phase other).lock ∧
      ((world.goes pid next).phase other).unwritten = (world.phase other).unwritten := by
  rw [phase_goes] at locked ⊢
  by_cases same : other = pid
  · rw [if_pos same] at locked ⊢
    rw [same]
    exact moves.lock inode locked
  · rw [if_neg same] at locked ⊢
    exact ⟨locked, rfl⟩

theorem Guarded.goes (guarded : Guarded nearest world) {pid : Int} {next : CallPhase}
    (moves : Moves nearest world pid next) : Guarded nearest (world.goes pid next) :=
  { ids := by
      intro other alive
      rw [phase_goes] at alive
      by_cases same : other = pid
      · rw [if_pos same] at alive
        rw [same]
        exact moves.ids alive
      · rw [if_neg same] at alive
        exact guarded.ids other alive
    known := guarded.known
    held := fun other inode locked => guarded.held other inode (moves.locked locked).1
    sole := fun first second inode locked lockedToo =>
      guarded.sole first second inode (moves.locked locked).1 (moves.locked lockedToo).1
    text := by
      intro other inode locked
      obtain ⟨before, same⟩ := moves.locked locked
      rw [same]
      exact guarded.text other inode before
    seen := by
      intro other inode looked
      rw [phase_goes] at looked
      by_cases same : other = pid
      · rw [if_pos same] at looked
        exact moves.seen inode looked
      · rw [if_neg same] at looked
        exact guarded.seen other inode looked
    read := by
      intro other inode owner isJudging holder locked
      rw [phase_goes] at isJudging
      by_cases same : other = pid
      · rw [if_pos same] at isJudging
        exact moves.read inode owner isJudging holder (moves.locked locked).1
      · rw [if_neg same] at isJudging
        exact guarded.read other inode owner isJudging holder (moves.locked locked).1
    orphaned := by
      intro other inode isReclaiming holder locked
      rw [phase_goes] at isReclaiming
      by_cases same : other = pid
      · rw [if_pos same] at isReclaiming
        exact moves.orphaned inode isReclaiming holder (moves.locked locked).1
      · rw [if_neg same] at isReclaiming
        exact guarded.orphaned other inode isReclaiming holder (moves.locked locked).1 }

theorem Moves.plain {pid : Int} {next : CallPhase}
    (ids : next.alive = true → IsProcessId nearest pid) (noLock : next.lock = none)
    (noLook : next.looked = none) : Moves nearest world pid next :=
  { ids := ids
    lock := by
      intro inode locked
      rw [noLock] at locked
      cases locked
    seen := by
      intro inode looked
      rw [noLook] at looked
      cases looked
    read := by
      rintro inode owner rfl
      cases noLook
    orphaned := by
      rintro inode rfl
      cases noLook }

theorem Guarded.cleared (guarded : Guarded nearest world)
    (free : ∀ pid inode, inode ∉ (world.phase pid).lock) :
    Guarded nearest { world with path := none } :=
  { guarded with
    known := by
      intro inode named
      cases named
    held := fun pid inode locked => absurd locked (free pid inode) }

theorem Guarded.free_of_absent (guarded : Guarded nearest world) (absent : world.path = none)
    (pid : Int) (inode : Nat) : inode ∉ (world.phase pid).lock := by
  intro locked
  have named := guarded.held pid inode locked
  rw [absent] at named
  cases named

theorem Guarded.create (guarded : Guarded nearest world) {pid : Int} {createdAt : String}
    (trying : world.phase pid = .trying) (absent : world.path = none) :
    Guarded nearest
      { path := some world.created
        contents := Function.update world.contents world.created []
        created := world.created + 1
        phase := Function.update world.phase pid
          (.writing world.created (Utf8Stream.utf8 (migrationLockText createdAt pid))) } := by
  have free := guarded.free_of_absent absent
  have onlyNew : ∀ other inode, inode ∈ (Function.update world.phase pid (.writing world.created
      (Utf8Stream.utf8 (migrationLockText createdAt pid))) other).lock →
        other = pid ∧ inode = world.created := by
    intro other inode locked
    rw [Function.update_apply] at locked
    by_cases same : other = pid
    · rw [if_pos same] at locked
      exact ⟨same, (Option.some.inj locked).symm⟩
    · rw [if_neg same] at locked
      exact absurd locked (free other inode)
  have others : ∀ other inode, inode ∈ (Function.update world.phase pid (.writing world.created
      (Utf8Stream.utf8 (migrationLockText createdAt pid))) other).looked →
        inode < world.created := by
    intro other inode looked
    rw [Function.update_apply] at looked
    by_cases same : other = pid
    · rw [if_pos same] at looked
      cases looked
    · rw [if_neg same] at looked
      exact guarded.seen other inode looked
  exact
    { ids := by
        intro other alive
        by_cases same : other = pid
        · rw [same]
          apply guarded.ids
          rw [trying]
          rfl
        · simp only [Function.update_of_ne same] at alive
          exact guarded.ids other alive
      known := by
        intro inode named
        obtain rfl := Option.some.inj named
        exact Nat.lt_succ_self _
      held := fun other inode locked => congrArg some (onlyNew other inode locked).2.symm
      sole := fun first second inode locked lockedToo =>
        (onlyNew first inode locked).1.trans (onlyNew second inode lockedToo).1.symm
      text := by
        intro other inode locked
        obtain ⟨rfl, rfl⟩ := onlyNew other inode locked
        refine ⟨createdAt, ?_⟩
        simp only [Function.update_self, CallPhase.unwritten, List.nil_append]
      seen := fun other inode looked => (others other inode looked).trans (Nat.lt_succ_self _)
      read := by
        intro other inode owner isJudging holder locked
        have older := others other inode (congrArg CallPhase.looked isJudging)
        rw [(onlyNew holder inode locked).2] at older
        exact absurd older (Nat.lt_irrefl _)
      orphaned := by
        intro other inode isReclaiming holder locked
        have older := others other inode (congrArg CallPhase.looked isReclaiming)
        rw [(onlyNew holder inode locked).2] at older
        exact absurd older (Nat.lt_irrefl _) }

theorem write_phase (inode count : Nat) (rest : List UInt8) :
    (if rest.length ≤ count then CallPhase.inside inode
      else .writing inode (rest.drop count)).lock = some inode ∧
    rest.take count ++ (if rest.length ≤ count then CallPhase.inside inode
      else .writing inode (rest.drop count)).unwritten = rest ∧
    (if rest.length ≤ count then CallPhase.inside inode
      else .writing inode (rest.drop count)).looked = none := by
  by_cases ends : rest.length ≤ count
  · simp only [if_pos ends]
    exact ⟨rfl, (List.append_nil _).trans (List.take_of_length_le ends), rfl⟩
  · simp only [if_neg ends]
    exact ⟨rfl, List.take_append_drop _ _, rfl⟩

theorem Guarded.write (guarded : Guarded nearest world) {pid : Int} {inode : Nat}
    {rest : List UInt8} (writing : world.phase pid = .writing inode rest) {more : List UInt8}
    {next : CallPhase} (lock : next.lock = some inode) (kept : more ++ next.unwritten = rest)
    (noLook : next.looked = none) :
    Guarded nearest
      { world with
        contents := Function.update world.contents inode (world.contents inode ++ more)
        phase := Function.update world.phase pid next } := by
  have pidLocked : inode ∈ (world.phase pid).lock := by
    rw [writing]
    rfl
  have locked : ∀ other found, found ∈ (Function.update world.phase pid next other).lock →
      found ∈ (world.phase other).lock := by
    intro other found given
    by_cases same : other = pid
    · rw [same, Function.update_self, lock] at given
      obtain rfl := Option.some.inj given
      rw [same]
      exact pidLocked
    · rwa [Function.update_of_ne same] at given
  have looked : ∀ other found, found ∈ (Function.update world.phase pid next other).looked →
      Function.update world.phase pid next other = world.phase other := by
    intro other found given
    by_cases same : other = pid
    · rw [same, Function.update_self, noLook] at given
      cases given
    · exact Function.update_of_ne same _ _
  exact
    { ids := by
        intro other alive
        by_cases same : other = pid
        · rw [same]
          apply guarded.ids
          rw [writing]
          rfl
        · simp only [Function.update_of_ne same] at alive
          exact guarded.ids other alive
      known := guarded.known
      held := fun other found given => guarded.held other found (locked other found given)
      sole := fun first second found given givenToo =>
        guarded.sole first second found (locked first found given) (locked second found givenToo)
      text := by
        intro other found given
        have before := locked other found given
        by_cases same : other = pid
        · rw [same, writing] at before
          obtain rfl := Option.some.inj before
          obtain ⟨createdAt, whole⟩ := guarded.text pid inode pidLocked
          refine ⟨createdAt, ?_⟩
          rw [writing, CallPhase.unwritten] at whole
          simp only [same, Function.update_self]
          rw [List.append_assoc, kept, whole]
        · have different : found ≠ inode := by
            rintro rfl
            exact same (guarded.sole other pid found before pidLocked)
          simp only [Function.update_of_ne same, Function.update_of_ne different]
          exact guarded.text other found before
      seen := by
        intro other found given
        have unchanged := looked other found given
        simp only [unchanged] at given
        exact guarded.seen other found given
      read := by
        intro other found owner isJudging holder given
        have unchanged := looked other found (congrArg CallPhase.looked isJudging)
        exact guarded.read other found owner (unchanged.symm.trans isJudging) holder
          (locked holder found given)
      orphaned := by
        intro other found isReclaiming holder given
        have unchanged := looked other found (congrArg CallPhase.looked isReclaiming)
        exact guarded.orphaned other found (unchanged.symm.trans isReclaiming) holder
          (locked holder found given) }

theorem Guarded.goes_plain (guarded : Guarded nearest world) {pid : Int} {next : CallPhase}
    (alive : (world.phase pid).alive = true) (noLock : next.lock = none)
    (noLook : next.looked = none) : Guarded nearest (world.goes pid next) :=
  guarded.goes (Moves.plain (fun _ => guarded.ids pid alive) noLock noLook)

theorem Guarded.leave (guarded : Guarded nearest world) {pid : Int} {inode : Nat}
    (phase : world.phase pid = .inside inode) :
    Guarded nearest (world.goes pid (.closed inode)) := by
  apply guarded.goes
  have alive : (world.phase pid).alive = true := by
    rw [phase]
    rfl
  exact
    { ids := fun _ => guarded.ids pid alive
      lock := by
        intro found locked
        rw [phase]
        exact ⟨locked, rfl⟩
      seen := by
        intro found looked
        cases looked
      read := by
        intro found owner same
        cases same
      orphaned := by
        intro found same
        cases same }

theorem Guarded.release (guarded : Guarded nearest world) {pid : Int} {inode : Nat}
    (phase : world.phase pid = .closed inode) :
    Guarded nearest { world.goes pid .outside with path := none } := by
  have alive : (world.phase pid).alive = true := by
    rw [phase]
    rfl
  have locked : inode ∈ (world.phase pid).lock := by
    rw [phase]
    rfl
  have moves : Moves nearest world pid .outside :=
    Moves.plain (fun _ => guarded.ids pid alive) rfl rfl
  apply (guarded.goes moves).cleared
  intro other found given
  have before := (moves.locked given).1
  have sameFile := (guarded.held other found before).symm.trans (guarded.held pid inode locked)
  obtain rfl := Option.some.inj sameFile
  have same := guarded.sole other pid found before locked
  rw [phase_goes, if_pos same] at given
  cases given

theorem Guarded.look (guarded : Guarded nearest world) {pid : Int} {inode : Nat}
    (phase : world.phase pid = .refused) (named : world.path = some inode) :
    Guarded nearest (world.goes pid (.reading inode)) := by
  apply guarded.goes
  have alive : (world.phase pid).alive = true := by
    rw [phase]
    rfl
  exact
    { ids := fun _ => guarded.ids pid alive
      lock := by
        intro found locked
        cases locked
      seen := by
        intro found looked
        obtain rfl := Option.some.inj looked
        exact guarded.known inode named
      read := by
        intro found owner same
        cases same
      orphaned := by
        intro found same
        cases same }

theorem alive_of_lock {phase : CallPhase} {inode : Nat} (locked : inode ∈ phase.lock) :
    phase.alive = true := by
  cases phase with
  | gone => cases locked
  | _ => rfl

/-- A reader of a lock that is held sees its holder, or cannot read the text that is not
written yet. -/
theorem Guarded.read_held (guarded : Guarded nearest world) {holder : Int} {inode : Nat}
    (locked : inode ∈ (world.phase holder).lock) :
    lockOwner nearest (world.contents inode) = .unreadable ∨
      lockOwner nearest (world.contents inode) = .process holder := by
  obtain ⟨positive, held⟩ := guarded.ids holder (alive_of_lock locked)
  obtain ⟨createdAt, text⟩ := guarded.text holder inode locked
  by_cases whole : world.contents inode = Utf8Stream.utf8 (migrationLockText createdAt holder)
  · right
    rw [whole]
    exact lockOwner_whole held positive
  · left
    exact lockOwner_torn held ⟨_, text⟩ whole

theorem Guarded.readLock (guarded : Guarded nearest world) {pid : Int} {inode : Nat}
    (phase : world.phase pid = .reading inode) :
    Guarded nearest
      (world.goes pid (.judging inode (lockOwner nearest (world.contents inode)))) := by
  apply guarded.goes
  have alive : (world.phase pid).alive = true := by
    rw [phase]
    rfl
  exact
    { ids := fun _ => guarded.ids pid alive
      lock := by
        intro found locked
        cases locked
      seen := by
        intro found looked
        obtain rfl := Option.some.inj looked
        apply guarded.seen pid
        rw [phase]
        rfl
      read := by
        intro found owner same holder locked
        cases same
        exact guarded.read_held locked
      orphaned := by
        intro found same
        cases same }

theorem Guarded.judge (guarded : Guarded nearest world) {pid : Int} {inode : Nat}
    {owner : LockOwner} (phase : world.phase pid = .judging inode owner) (young : Bool) :
    Guarded nearest (world.goes pid (world.judged young inode owner)) := by
  have alive : (world.phase pid).alive = true := by
    rw [phase]
    rfl
  have condemns : (∀ holder, inode ∉ (world.phase holder).lock) →
      Guarded nearest (world.goes pid (.reclaiming inode)) := by
    intro free
    apply guarded.goes
    exact
      { ids := fun _ => guarded.ids pid alive
        lock := by
          intro found locked
          cases locked
        seen := by
          intro found looked
          obtain rfl := Option.some.inj looked
          apply guarded.seen pid
          rw [phase]
          rfl
        read := by
          intro found owner same
          cases same
        orphaned := by
          intro found same
          cases same
          exact free }
  cases owner with
  | unreadable => exact guarded.goes_plain alive rfl rfl
  | unknown =>
      have free : ∀ holder, inode ∉ (world.phase holder).lock := by
        intro holder locked
        rcases guarded.read pid inode .unknown phase holder locked with same | same
        · cases same
        · cases same
      unfold judged
      by_cases absent : world.path = none
      · rw [if_pos absent]
        exact guarded.goes_plain alive rfl rfl
      · rw [if_neg absent]
        cases young with
        | true => exact guarded.goes_plain alive rfl rfl
        | false => exact condemns free
  | process creator =>
      by_cases lives : (world.phase creator).alive = true
      · have waits : world.judged young inode (.process creator) = .waiting := if_pos lives
        rw [waits]
        exact guarded.goes_plain alive rfl rfl
      · have condemned : world.judged young inode (.process creator) = .reclaiming inode :=
          if_neg lives
        rw [condemned]
        apply condemns
        intro holder locked
        rcases guarded.read pid inode _ phase holder locked with same | same
        · cases same
        · cases same
          exact lives (alive_of_lock locked)

theorem Guarded.unlink (guarded : Guarded nearest world) {pid : Int} {inode : Nat}
    (phase : world.phase pid = .reclaiming inode)
    (honest : ∀ named ∈ world.path, named = inode) :
    Guarded nearest { world.goes pid .trying with path := none } := by
  have alive : (world.phase pid).alive = true := by
    rw [phase]
    rfl
  have moves : Moves nearest world pid .trying :=
    Moves.plain (fun _ => guarded.ids pid alive) rfl rfl
  apply (guarded.goes moves).cleared
  intro other found given
  have before := (moves.locked given).1
  have same := honest found (guarded.held other found before)
  rw [same] at before
  exact guarded.orphaned pid inode phase other before

theorem Guarded.fail (guarded : Guarded nearest world) {pid : Int} {next : CallPhase}
    (failed : (world.phase pid).failed = some next) : Guarded nearest (world.goes pid next) := by
  have ends : (world.phase pid).alive = true ∧ next.lock = none ∧ next.looked = none := by
    cases phase : world.phase pid <;> rw [phase] at failed <;> cases failed <;>
      exact ⟨rfl, rfl, rfl⟩
  exact guarded.goes_plain ends.1 ends.2.1 ends.2.2

theorem Guarded.act (guarded : Guarded nearest world) {pid : Int} {action : LockAction}
    {next : LockWorld} (taken : world.act nearest pid action = some next)
    (honest : Honest world pid action) : Guarded nearest next := by
  have plain : ∀ {phase : CallPhase}, world.phase pid = phase → phase.alive = true →
      ∀ {later : CallPhase}, later.lock = none → later.looked = none →
        Guarded nearest (world.goes pid later) := by
    rintro _ rfl alive later noLock noLook
    exact guarded.goes_plain alive noLock noLook
  unfold LockWorld.act at taken
  split at taken
  · split at taken
    · rename_i isId
      cases taken
      exact guarded.goes (Moves.plain (fun _ => isId) rfl rfl)
    · cases taken
  · rename_i phase
    cases taken
    exact plain phase rfl rfl rfl
  · rename_i phase
    split at taken
    · rename_i absent
      cases taken
      exact guarded.create phase absent
    · cases taken
      exact plain phase rfl rfl rfl
  · rename_i count inode rest phase
    cases taken
    obtain ⟨lock, kept, noLook⟩ := write_phase inode count rest
    exact guarded.write phase lock kept noLook
  · rename_i phase
    cases taken
    exact guarded.leave phase
  · rename_i phase
    cases taken
    exact guarded.release phase
  · rename_i phase
    split at taken
    · cases taken
      exact plain phase rfl rfl rfl
    · rename_i named
      cases taken
      exact guarded.look phase named
  · rename_i phase
    cases taken
    exact guarded.readLock phase
  · rename_i phase
    cases taken
    exact guarded.judge phase _
  · rename_i inode phase
    cases taken
    exact guarded.unlink phase (honest rfl inode phase)
  · rename_i phase
    cases taken
    exact plain phase rfl rfl rfl
  · rename_i phase
    cases taken
    exact plain phase rfl rfl rfl
  · obtain ⟨later, failed, rfl⟩ := Option.map_eq_some_iff.mp taken
    exact guarded.fail failed
  · cases taken
    exact guarded.goes (Moves.plain (fun alive => absurd alive Bool.false_ne_true) rfl rfl)
  · cases taken

theorem Reaches.guarded (reached : Reaches nearest Honest world) : Guarded nearest world := by
  induction reached with
  | initial first => exact first.guarded
  | act earlier pid action taken meets inductionHypothesis =>
      exact inductionHypothesis.act taken meets

end

/-- Operations one after the other. -/
def runs (nearest : JsonNumber → Option JsonNumber) (world : LockWorld)
    (steps : List (Int × LockAction)) : Option LockWorld :=
  steps.foldlM (fun world step => world.act nearest step.1 step.2) world

end LockWorld

end ActionProxy
