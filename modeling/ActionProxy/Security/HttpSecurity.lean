import ActionProxy.Security.AuthService
import ActionProxy.Foundation.KeyedTable
import ActionProxy.Foundation.UriText

/-!
The request hook and what a route handler acts under. The hook classifies the
raw target; the router, whose reading of a target is its own, picks the handler;
a handler without a context falls back to a local one.
-/

namespace ActionProxy

/-! ### Requests and routes -/

inductive HeaderValue where
  | one (text : String)
  | many (texts : List String)

/-- `headerValue`. -/
def headerValue : Option HeaderValue → Option String
  | none => none
  | some (.one text) => some text
  | some (.many texts) => texts.head?

structure HttpRequest where
  method : String
  url : String
  ip : String
  headers : List (String × HeaderValue)

def HttpRequest.authorization (request : HttpRequest) : Option String :=
  headerValue (request.headers.lookup "authorization")

/-- The part of the raw target the hook classifies. -/
def HttpRequest.pathname (request : HttpRequest) : String := UriText.beforeQuery request.url

structure Route where
  method : String
  path : String
  deriving DecidableEq

/-- The routes of the server with authentication, a fixed segment before a
parameter in its place and the web application last. -/
def registeredRoutes : List Route :=
  [⟨"GET", "/health"⟩,
    ⟨"GET", "/v1/me"⟩,
    ⟨"POST", "/v1/service-accounts"⟩,
    ⟨"POST", "/v1/service-accounts/:id/keys"⟩,
    ⟨"GET", "/v1/tool-calls"⟩,
    ⟨"POST", "/v1/tool-calls"⟩,
    ⟨"POST", "/v1/mcp/tool-calls"⟩,
    ⟨"GET", "/v1/mcp/tool-calls/:id"⟩,
    ⟨"GET", "/v1/tool-calls/:id/execution-attempts"⟩,
    ⟨"GET", "/v1/tool-calls/:id/remediation-plan"⟩,
    ⟨"GET", "/v1/tool-calls/:id/decision-trace"⟩,
    ⟨"POST", "/v1/tool-calls/:id/remediation"⟩,
    ⟨"GET", "/v1/tool-calls/:id"⟩,
    ⟨"GET", "/v1/approvals/pending"⟩,
    ⟨"GET", "/v1/approvals/:id"⟩,
    ⟨"GET", "/v1/approvals/:id/review"⟩,
    ⟨"POST", "/v1/approvals/:id/approve"⟩,
    ⟨"POST", "/v1/approvals/:id/reject"⟩,
    ⟨"POST", "/v1/approvals/:id/cancel"⟩,
    ⟨"POST", "/v1/approvals/:id/notifications/resend"⟩,
    ⟨"GET", "/v1/audit"⟩,
    ⟨"GET", "/v1/audit/export"⟩,
    ⟨"GET", "/v1/audit/verify"⟩,
    ⟨"GET", "/v1/authorized-actions"⟩,
    ⟨"GET", "/v1/policy"⟩,
    ⟨"GET", "/v1/policy/summary"⟩,
    ⟨"GET", "/v1/policy/presets"⟩,
    ⟨"POST", "/v1/policy/simulate"⟩,
    ⟨"PUT", "/v1/policy"⟩,
    ⟨"GET", "/v1/policy/detector"⟩,
    ⟨"POST", "/v1/policy/detector/:id/apply"⟩,
    ⟨"POST", "/v1/policy/detector/:id/dismiss"⟩,
    ⟨"GET", "/v1/integrations"⟩,
    ⟨"PUT", "/v1/integrations/slack"⟩,
    ⟨"PUT", "/v1/integrations/telegram"⟩,
    ⟨"PUT", "/v1/integrations/email"⟩,
    ⟨"PUT", "/v1/integrations/tools/:id"⟩,
    ⟨"PUT", "/v1/integrations/mcp-wrapper/profiles/:id"⟩,
    ⟨"GET", "/v1/integrations/mcp-wrapper/profiles/:id/yaml"⟩,
    ⟨"POST", "/v1/integrations/mcp-wrapper/profiles/:id/sync-tools"⟩,
    ⟨"GET", "/v1/dashboard/overview"⟩,
    ⟨"POST", "/v1/execution-grants/:id/consume"⟩,
    ⟨"POST", "/v1/execution-grants/:id/outcome"⟩,
    ⟨"GET", "/v1/receipts/:id"⟩,
    ⟨"GET", "/.well-known/oauth-protected-resource"⟩,
    ⟨"GET", "/.well-known/oauth-protected-resource/mcp"⟩,
    ⟨"GET", "/mcp"⟩,
    ⟨"DELETE", "/mcp"⟩,
    ⟨"POST", "/mcp"⟩,
    ⟨"GET", "/v1/approvers"⟩,
    ⟨"POST", "/v1/approvers/users"⟩,
    ⟨"PUT", "/v1/approvers/users/:id"⟩,
    ⟨"POST", "/v1/approvers/users/:id/telegram-connect"⟩,
    ⟨"POST", "/v1/approvers/users/:id/telegram-connect/poll"⟩,
    ⟨"DELETE", "/v1/approvers/users/:id/telegram-connection"⟩,
    ⟨"DELETE", "/v1/approvers/users/:id"⟩,
    ⟨"POST", "/v1/approvers/groups"⟩,
    ⟨"PUT", "/v1/approvers/groups/:id"⟩,
    ⟨"DELETE", "/v1/approvers/groups/:id"⟩,
    ⟨"POST", "/v1/slack/interactions"⟩,
    ⟨"POST", "/v1/telegram/webhook"⟩,
    ⟨"GET", "/*"⟩]

/-- A route of `GET` also answers `HEAD`. -/
def Route.serves (route : Route) (method : String) : Bool :=
  route.method == method || (method == "HEAD" && route.method == "GET")

def matchSegments : List (List Char) → List (List Char) → Bool
  | [['*']], _ => true
  | [], [] => true
  | pattern :: patterns, segment :: segments =>
      (pattern.head? == some ':' || pattern == segment) && matchSegments patterns segments
  | _, _ => false

/-- The path has the segments of the template, with any text for a parameter. -/
def Route.covers (route : Route) (path : String) : Bool :=
  matchSegments (route.path.toList.splitOn '/') (path.toList.splitOn '/')

/-- The router: it reads a path off a raw target, a plain one as it stands, and
selects a registered route that serves the method and covers the path. -/
structure Router where
  read : String → Option String
  select : String → String → Option Route
  plain : ∀ target, UriText.isPlain (UriText.beforeQuery target) = true →
    read target = some (UriText.beforeQuery target)
  sound : ∀ method path route, select method path = some route →
    route ∈ registeredRoutes ∧ route.serves method = true ∧ route.covers path = true

/-- The handler a request is dispatched to. -/
def Router.dispatch (router : Router) (request : HttpRequest) : Option Route :=
  (router.read request.url).bind (router.select request.method)

/-! ### Bounded principals -/

section

variable [Runtime] (server : SecurityConfig)

end

end ActionProxy
