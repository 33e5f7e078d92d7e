import ActionProxy.Foundation.Interleaving
import ActionProxy.Contracts.ExecutionAuthorization

/-!
The state the services share, and the steps their calls are made of. Each call of
the store, each audit event and each reading of the clock or the policy after an
`await` is one step; what a call does between two of them belongs to the step
before. A field of the state that only records what happened is marked as such.
-/

namespace ActionProxy

open Interleaving

/-! ### Time and random identifiers -/

/-- A time the clock can show. -/
structure Instant where
  millis : Int
  shown : (IsoTime.toISOString millis).isSome = true

theorem epoch_shown : (IsoTime.toISOString 0).isSome = true := by decide

/-- `toISOString`. -/
def Instant.text (instant : Instant) : String := (IsoTime.toISOString instant.millis).get instant.shown

/-- Random identifiers: no text is drawn twice. -/
class RandomSource where
  randomUUID : Nat → String
  distinct : Function.Injective randomUUID

/-! ### Errors -/

/-- What a call of the services throws. -/
inductive GateError where
  | service (error : ServiceError)
  | executionAuthorization (error : ExecutionAuthorizationError)
  | named (name message : String)
  deriving DecidableEq

def ServiceError.message : ServiceError → String
  | .conflict message => message
  | .forbidden message => message
  | .notFound message => message
  | .other message => message

def ServiceError.name : ServiceError → String
  | .conflict _ => "ConflictError"
  | .forbidden _ => "ForbiddenError"
  | .notFound _ => "NotFoundError"
  | .other _ => "Error"

def GateError.message : GateError → String
  | .service error => error.message
  | .executionAuthorization error => error.message
  | .named _ message => message

def GateError.name : GateError → String
  | .service error => error.name
  | .executionAuthorization _ => "ExecutionAuthorizationError"
  | .named name _ => name

/-! ### The state -/

/-- `PolicyManager` replaces the policy in place; the count of replacements tells two
moments with one policy apart. -/
structure PolicyMoment where
  policy : PolicyFile
  replacements : Nat

inductive DispatchKind where
  | grantConsumed | executorInvoked
  deriving DecidableEq

/-- An execution that was let through: the moment its call last compared the policy,
and the policy in force when it happened. -/
structure Dispatch where
  kind : DispatchKind
  attempt : ExecutionAttemptRecordV1
  compared : PolicyMoment
  inForce : PolicyMoment

structure IdempotencyRecord where
  createdAt : String
  key : String
  requestHash : String
  route : String
  toolCallId : String
  workspaceId : String
  deriving DecidableEq

structure Server where
  store : MemoryStore
  idempotency : KeyedTable (String × String × String) IdempotencyRecord
  policy : PolicyMoment
  clock : Instant
  /-- Whether the audit store answers. -/
  auditReady : Bool
  /-- The types of the audit events, the latest first. -/
  audits : List String
  /-- How many random identifiers were drawn. -/
  drawn : Nat
  /-- The executions let through so far, the latest first; nothing reads it. -/
  dispatches : List Dispatch

/-- A dispatch that was let through is listed. -/
def Server.noteDispatch (server : Server) (kind : DispatchKind) (compared : PolicyMoment)
    (attempt : Option ExecutionAttemptRecordV1) : Server :=
  match attempt with
  | none => server
  | some attempt =>
      { server with
        dispatches :=
          { kind := kind, attempt := attempt, compared := compared, inForce := server.policy } ::
            server.dispatches }

abbrev Gate (α : Type) := Prog Server GateError α

namespace Gate

variable {α : Type}

def fail (error : ServiceError) : Gate α := .throw (.service error)

/-- `this.now()` and `Date.now()` after an `await`. -/
def now : Gate Instant := Prog.read Server.clock

def appendAudit (type : String) (server : Server) : Bool × Server :=
  (server.auditReady,
    { server with audits := if server.auditReady then type :: server.audits else server.audits })

/-- `this.audit`, which fails when the audit store does. -/
def audit (type : String) : Gate Unit := do
  let appended ← Prog.call (appendAudit type)
  if appended then pure () else fail (.other "Audit event could not be appended.")

/-- An audit event whose failure changes nothing. -/
def auditBestEffort (type : String) : Gate Unit :=
  (audit type).handle fun _ => pure ()

def randomUUID [RandomSource] : Gate String :=
  Prog.call fun server =>
    (RandomSource.randomUUID server.drawn, { server with drawn := server.drawn + 1 })

end Gate

/-! ### What happens beside the calls -/

/-- `replacePolicy`: the policy file is parsed and written before it is put in force. -/
def Server.replacePolicy (policy : PolicyFile) (server : Server) : Server :=
  { server with policy := { policy := policy, replacements := server.policy.replacements + 1 } }

def Server.setClock (clock : Instant) (server : Server) : Server := { server with clock := clock }

end ActionProxy
