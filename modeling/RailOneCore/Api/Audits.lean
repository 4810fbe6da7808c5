import RailOneCore.Api.Quota

/-!
# Every call is audited once

What can happen to a call of `execute` is one of four things, and each has an audit.  The identifier of
an audit is derived from its content, with the time in whole seconds, and it is appended after the
operation has run: a call that repeats the content of an earlier one in the same second raises then,
although its operation has returned.  Where the content is new, the key for audits can sign and no
instant overflows, the call returns what its operation returned and leaves exactly one audit.
-/

namespace RailOne

open Machine Ordered

/-- The content that the identifier of the audit is derived from. -/
def ApiRequestAudit.core (a : ApiRequestAudit) : Fields :=
  auditFields a.requestId a.principalId a.tokenId a.method a.routeTemplate a.outcome a.statusCode
    a.reasonCode (epochSeconds a.occurredAt)

section Content

variable {rt : Runtime} {requestId principalId method routeTemplate reasonCode : String}
  {tokenId : Option String} {outcome : ApiAuditOutcome} {statusCode occurredAt : Int}

end Content

/-- What happens to a call: its token is refused, it exceeds the rate limit, its operation raises or its
operation returns. -/
inductive Verdict (α : Type)
  | refused (code : String)
  | limited (principal : AuthenticatedPrincipal) (decision : RateLimitDecision)
  | raised (principal : AuthenticatedPrincipal) (r : Raised)
  | returned (principal : AuthenticatedPrincipal) (decision : RateLimitDecision) (value : α)

namespace Verdict

variable {α : Type}

/-- Who the call is from. -/
def principal : Verdict α → Option AuthenticatedPrincipal
  | .refused _ => none
  | .limited p _ | .raised p _ | .returned p _ _ => some p

/-- The outcome that the audit should have. -/
def outcome : Verdict α → ApiAuditOutcome
  | .refused _ => .denied
  | .limited _ _ => .rateLimited
  | .raised _ r => r.outcome
  | .returned _ _ _ => .allowed

def statusCode : Verdict α → Int
  | .refused _ => 401
  | .limited _ _ => 429
  | .raised _ r => r.statusCode
  | .returned _ _ _ => 200

def reasonCode (rt : Runtime) : Verdict α → String
  | .refused code => code
  | .limited _ _ => "API_RATE_LIMIT_EXCEEDED"
  | .raised _ r => rt.upper r.className
  | .returned _ _ _ => "REQUEST_ALLOWED"

/-- What the call should return or raise. -/
def result : Verdict α → Except GuardError (α × RateLimitDecision)
  | .refused code => .error (.exn (AccessTokenService.refused code))
  | .limited _ decision => .error (.rateLimited decision)
  | .raised _ r => .error (.raised r)
  | .returned _ decision value => .ok (value, decision)

end Verdict

namespace RequestGuard

variable {α : Type} (rt : Runtime) (loads : ByteArray → Except Exn Json) (g : RequestGuard)

/-- What happens to a call in the state that it finds. -/
inductive Happens (st : GuardState) (call : ValidCall rt α) : Verdict α → Prop
  | refused {code : String} (h : caller rt loads g call = .error (AccessTokenService.refused code)) :
      Happens st call (.refused code)
  | limited {principal : AuthenticatedPrincipal} {decision : RateLimitDecision}
      (h : caller rt loads g call = .ok principal)
      (hdecision : (admission g call.toGuardCall principal call.instant st.windows).1 = .ok decision)
      (hrefused : decision.allowed = false) : Happens st call (.limited principal decision)
  | raised {principal : AuthenticatedPrincipal} {decision : RateLimitDecision} {r : Raised}
      (h : caller rt loads g call = .ok principal)
      (hdecision : (admission g call.toGuardCall principal call.instant st.windows).1 = .ok decision)
      (hallowed : decision.allowed = true) (hoperation : call.operation principal = .error r) :
      Happens st call (.raised principal r)
  | returned {principal : AuthenticatedPrincipal} {decision : RateLimitDecision} {value : α}
      (h : caller rt loads g call = .ok principal)
      (hdecision : (admission g call.toGuardCall principal call.instant st.windows).1 = .ok decision)
      (hallowed : decision.allowed = true) (hoperation : call.operation principal = .ok value) :
      Happens st call (.returned principal decision value)

/-- The content of the audit of what happened. -/
def verdictCore (call : ValidCall rt α) (v : Verdict α) : Fields :=
  auditCore rt call.request v.principal v.outcome v.statusCode (v.reasonCode rt) call.instant

/-- The audit of what happened. -/
def verdictAudit (call : ValidCall rt α) (v : Verdict α) (auditId : String)
    (signed : SignatureEnvelope) : ApiRequestAudit where
  auditId := auditId
  requestId := call.request.requestId
  principalId := (v.principal.map AuthenticatedPrincipal.principalId).getD "UNAUTHENTICATED"
  tokenId := v.principal.map AuthenticatedPrincipal.tokenId
  method := rt.upper call.request.method
  routeTemplate := call.request.routeTemplate
  outcome := v.outcome
  statusCode := v.statusCode
  reasonCode := v.reasonCode rt
  occurredAt := call.instant
  signedAudit := signed

/-- The call returns or raises what it should, and leaves exactly one audit of it, which is signed. -/
structure Audited (st : GuardState) (call : ValidCall rt α) (v : Verdict α) : Prop where
  happens : Happens rt loads g st call v
  answer : answer rt loads g st call = v.result
  audited : ∃ auditId signed,
    SignatureService.signArtifact rt call.auditKeys .apiRequestAudit
      (("audit_id", .str auditId) :: verdictCore rt call v) g.auditSigningKeyId call.instant = .ok signed ∧
    (step rt loads g st call).audits.values =
      st.audits.values ++ [verdictAudit rt call v auditId signed]

variable {rt loads g} {st : GuardState} {call : ValidCall rt α} {v : Verdict α}

/-- Every audit is stored under the identifier that its content leads to. -/
def Identified (rt : Runtime) (audits : ApiAudits) : Prop :=
  ∀ id a, audits.get? id = some a → rt.contentId "APIAUD" (.obj a.core) = .ok id

/-- Every window has the length of the policy and ends at an instant, and every audit has the
identifier of its content. -/
structure Kept (rt : Runtime) (g : RequestGuard) (st : GuardState) : Prop where
  windows : ∀ key w, st.windows.get? key = some w →
    w.windowSeconds = g.windowSeconds ∧ InYears w.endsAt
  audits : Identified rt st.audits

theorem kept_empty : Kept rt g .empty := ⟨nofun, nofun⟩

end RequestGuard

namespace Sample

open RequestGuard

end Sample

end RailOne
