import RailOneCore.Api.Guard
import RailOneCore.Api.Issuance
import RailOneCore.Library.FixedWindow

/-!
# The quota of a principal on a route

The windows of the rate limit are kept under the text of the principal, a colon and the text of the
route.  Both texts may contain colons, so two pairs can have one key, and then they share their windows.
Where they do not, the calls of a principal on a route are admitted as if there were no others: the
first few in each fixed window of their own instants.
-/

namespace RailOne

open Machine Ordered

namespace RequestGuard

variable {α : Type} (rt : Runtime) (loads : ByteArray → Except Exn Json) (g : RequestGuard)

/-- The key of the pair belongs to no call of another pair. -/
def Apart (principalId routeTemplate : String) (call : ValidCall rt α) : Prop :=
  ∀ principal, caller rt loads g call = .ok principal →
    scopeKey principal.principalId call.request.routeTemplate = scopeKey principalId routeTemplate →
    principal.principalId = principalId ∧ call.request.routeTemplate = routeTemplate

variable {rt loads g} {principalId routeTemplate : String} {st : GuardState} {call : ValidCall rt α}

end RequestGuard

namespace Sample

open RequestGuard

end Sample

end RailOne
