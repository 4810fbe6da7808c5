import RailOneCore.Api.RateLimits

/-!
# The guard of authenticated requests

`AuthenticatedRequestGuard.execute` verifies the bearer token, counts the request against the rate limit
of its principal and route, runs the operation, and appends a signed audit of whatever came of it.  The
identifier of an audit is derived from its content, where the time is held in whole seconds, and the
audit store refuses an identifier that it has already.

An operation is code that is not modelled: it returns a value or raises an exception, of which the guard
sees the class.
-/

namespace RailOne

open Ordered

/-! ## Requests and audits -/

inductive ApiAuditOutcome
  | allowed | denied | rateLimited | error
  deriving DecidableEq, Repr

/-- The text of an outcome. -/
def ApiAuditOutcome.value : ApiAuditOutcome → String
  | .allowed => "ALLOWED"
  | .denied => "DENIED"
  | .rateLimited => "RATE_LIMITED"
  | .error => "ERROR"

theorem ApiAuditOutcome.value_injective : Function.Injective ApiAuditOutcome.value := by
  intro a b
  cases a <;> cases b <;> decide

/-- `ApiRequest`. -/
structure ApiRequest where
  requestId : String
  method : String
  routeTemplate : String
  accessReason : Option String := none
  deriving DecidableEq, Repr

/-- `ApiRequestAudit`. -/
structure ApiRequestAudit where
  auditId : String
  requestId : String
  principalId : String
  tokenId : Option String
  method : String
  routeTemplate : String
  outcome : ApiAuditOutcome
  statusCode : Int
  reasonCode : String
  occurredAt : Instant
  signedAudit : SignatureEnvelope
  deriving DecidableEq, Repr

/-- The content that the identifier of an audit is derived from. -/
def auditFields (requestId principalId : String) (tokenId : Option String) (method routeTemplate : String)
    (outcome : ApiAuditOutcome) (statusCode : Int) (reasonCode : String) (occurredAt : Int) : Fields :=
  [("request_id", .str requestId), ("principal_id", .str principalId), ("token_id", .ofOption tokenId),
    ("method", .str method), ("route_template", .str routeTemplate), ("outcome", .str outcome.value),
    ("status_code", .int statusCode), ("reason_code", .str reasonCode), ("occurred_at", .int occurredAt)]

/-- `InMemoryApiAuditStore`. -/
abbrev ApiAudits := Dict String ApiRequestAudit

/-- `append`. -/
def ApiAudits.append (audits : ApiAudits) (audit : ApiRequestAudit) : Except Exn ApiAudits := do
  require (audits.get? audit.auditId = none) ⟨.runtimeError, "API audit identifier collision"⟩
  return audits.set audit.auditId audit

/-- `_validate_request`. -/
def validateRequest (rt : Runtime) (request : ApiRequest) : Except Exn Unit := do
  require (strip request.requestId ≠ "" ∧ request.requestId.length ≤ 128)
    ⟨.valueError, "request_id must contain 1 to 128 characters"⟩
  require (rt.upper request.method ∈ ["GET", "POST", "PUT", "PATCH", "DELETE"])
    ⟨.valueError, "unsupported HTTP method"⟩
  require (startsWith request.routeTemplate "/" = true ∧ request.routeTemplate.length ≤ 256 ∧
      '?' ∉ request.routeTemplate.toList)
    ⟨.valueError, "route_template must be a normalized route without query data"⟩

/-! ## Operations -/

/-- Which `except` clause an exception of an operation meets. -/
inductive ExceptionFamily
  | permission | lookup | other
  deriving DecidableEq, Repr

/-- An exception that an operation raises. -/
structure Raised where
  family : ExceptionFamily
  className : String
  deriving DecidableEq, Repr

namespace Raised

def outcome (raised : Raised) : ApiAuditOutcome :=
  match raised.family with
  | .permission | .lookup => .denied
  | .other => .error

def statusCode (raised : Raised) : Int :=
  match raised.family with
  | .permission => 403
  | .lookup => 404
  | .other => 500

end Raised

/-- What `execute` raises: an exception of the services it calls, `ApiRateLimitExceededError` with its
decision, or the exception of the operation. -/
inductive GuardError
  | exn (e : Exn)
  | rateLimited (decision : RateLimitDecision)
  | raised (r : Raised)
  deriving DecidableEq, Repr

/-! ## The guard -/

/-- The configuration of `AuthenticatedRequestGuard`, as its constructor accepts it. -/
structure RequestGuard extends RatePolicy where
  tokens : AccessTokenService
  auditSigningKeyId : String

/-- The stores of the guard. -/
structure GuardState where
  windows : RateLimits
  audits : ApiAudits

/-- The stores before the first request. -/
def GuardState.empty : GuardState := ⟨.empty, .empty⟩

/-- A call of `execute`, and what the key providers and the revocations hold when it is handled. -/
structure GuardCall (α : Type) where
  bearerToken : String
  request : ApiRequest
  operation : AuthenticatedPrincipal → Except Raised α
  at_ : Datetime
  tokenKeys : KeyProvider
  revocations : TokenRevocations
  auditKeys : KeyProvider

namespace RequestGuard

variable {α : Type} (rt : Runtime) (loads : ByteArray → Except Exn Json) (g : RequestGuard)

/-- The content of an audit. -/
def auditCore (request : ApiRequest) (principal : Option AuthenticatedPrincipal)
    (outcome : ApiAuditOutcome) (statusCode : Int) (reasonCode : String) (at_ : Instant) : Fields :=
  auditFields request.requestId
    ((principal.map AuthenticatedPrincipal.principalId).getD "UNAUTHENTICATED")
    (principal.map AuthenticatedPrincipal.tokenId) (rt.upper request.method) request.routeTemplate
    outcome statusCode reasonCode (epochSeconds at_)

/-- `_audit`: the audits with the new one. -/
def audit (auditKeys : KeyProvider) (request : ApiRequest) (principal : Option AuthenticatedPrincipal)
    (outcome : ApiAuditOutcome) (statusCode : Int) (reasonCode : String) (at_ : Instant)
    (audits : ApiAudits) : Except Exn ApiAudits := do
  let core := auditCore rt request principal outcome statusCode reasonCode at_
  let auditId ← rt.contentId "APIAUD" (.obj core)
  let signed ← SignatureService.signArtifact rt auditKeys .apiRequestAudit
    (("audit_id", .str auditId) :: core) g.auditSigningKeyId at_
  audits.append
    { auditId
      requestId := request.requestId
      principalId := (principal.map AuthenticatedPrincipal.principalId).getD "UNAUTHENTICATED"
      tokenId := principal.map AuthenticatedPrincipal.tokenId
      method := rt.upper request.method
      routeTemplate := request.routeTemplate
      outcome, statusCode, reasonCode
      occurredAt := at_
      signedAudit := signed }

/-- The scope key of a principal on a route. -/
def scopeKey (principalId routeTemplate : String) : String := principalId ++ ":" ++ routeTemplate

/-- End a call with an audit: what it returns or raises, unless the audit fails. -/
def conclude (audited : Except Exn ApiAudits) (result : Except GuardError (α × RateLimitDecision))
    (st : GuardState) : Except GuardError (α × RateLimitDecision) × GuardState :=
  match audited with
  | .error exn => (.error (.exn exn), st)
  | .ok audits => (result, { st with audits })

/-- The rest of `execute`, once the request has been counted. -/
def perform (call : GuardCall α) (principal : AuthenticatedPrincipal) (decision : RateLimitDecision)
    (instant : Instant) (st : GuardState) : Except GuardError (α × RateLimitDecision) × GuardState :=
  if decision.allowed = false then
    conclude (audit rt g call.auditKeys call.request (some principal) .rateLimited 429
      "API_RATE_LIMIT_EXCEEDED" instant st.audits) (.error (.rateLimited decision)) st
  else match call.operation principal with
    | .error raised => conclude (audit rt g call.auditKeys call.request (some principal) raised.outcome
        raised.statusCode (rt.upper raised.className) instant st.audits) (.error (.raised raised)) st
    | .ok value => conclude (audit rt g call.auditKeys call.request (some principal) .allowed 200
        "REQUEST_ALLOWED" instant st.audits) (.ok (value, decision)) st

/-- `verify` on the token of a call. -/
def authenticate (call : GuardCall α) (instant : Instant) : Except Exn AuthenticatedPrincipal :=
  g.tokens.verify rt loads call.tokenKeys call.revocations call.bearerToken instant

/-- `consume` for a request of a principal: the decision, and the windows after it. -/
def admission (call : GuardCall α) (principal : AuthenticatedPrincipal) (instant : Instant)
    (windows : RateLimits) : Except Exn RateLimitDecision × RateLimits :=
  windows.consume (scopeKey principal.principalId call.request.routeTemplate) g.limit g.windowSeconds
    instant

/-- `execute`: what it returns or raises, and the stores after it. -/
def execute (call : GuardCall α) (st : GuardState) :
    Except GuardError (α × RateLimitDecision) × GuardState :=
  let checked : Except Exn Instant := do
    let instant ← requireAware "API request timestamp" call.at_
    validateRequest rt call.request
    return instant
  match checked with
  | .error exn => (.error (.exn exn), st)
  | .ok instant =>
    match authenticate rt loads g call instant with
    | .error exn =>
      if exn.kind = .accessToken then
        conclude (audit rt g call.auditKeys call.request none .denied 401 exn.message instant st.audits)
          (.error (.exn exn)) st
      else (.error (.exn exn), st)
    | .ok principal =>
      match admission g call principal instant st.windows with
      | (.error exn, windows) => (.error (.exn exn), { st with windows })
      | (.ok decision, windows) => perform rt g call principal decision instant { st with windows }

/-! ## The windows after a call -/

variable {rt loads g} {call : GuardCall α} {st : GuardState} {instant : Instant}

/-- A request as `execute` accepts it. -/
structure Valid (rt : Runtime) (call : GuardCall α) (instant : Instant) : Prop where
  aware : call.at_ = .aware instant
  inYears : InYears instant
  request : validateRequest rt call.request = .ok ()

end RequestGuard

/-- A call that passes the checks of its request, at an instant. -/
structure ValidCall (rt : Runtime) (α : Type) extends GuardCall α where
  instant : Instant
  valid : RequestGuard.Valid rt toGuardCall instant

namespace RequestGuard

variable {α : Type} (rt : Runtime) (loads : ByteArray → Except Exn Json) (g : RequestGuard)

/-- The stores after a call. -/
def step (st : GuardState) (call : ValidCall rt α) : GuardState :=
  (execute rt loads g call.toGuardCall st).2

/-- What a call returns or raises. -/
def answer (st : GuardState) (call : ValidCall rt α) : Except GuardError (α × RateLimitDecision) :=
  (execute rt loads g call.toGuardCall st).1

/-- Who the call is from, if it is authenticated. -/
def caller (call : ValidCall rt α) : Except Exn AuthenticatedPrincipal :=
  authenticate rt loads g call.toGuardCall call.instant

end RequestGuard

end RailOne
