import RailOneCore.Callbacks.Mpesa
import RailOneCore.Sandbox.Replay

/-!
# The simulated M-PESA

`SandboxMpesaAdapter` hands requests to the broker.  What it schedules are callbacks, in the form in which
M-PESA sends them: this file says how `_normalize` reads their payloads, and that they are short enough to
be read.

The JSON parser is not modelled.  `ReadsBack` is what it does with a payload that the broker has written.
-/

namespace RailOne

open Concurrent Ordered CanonicalJson

variable (rt : Runtime)

namespace SandboxMpesaAdapter

def providerId : String := "MPESA-KE"

def supportsIdempotency : Bool := false

/-- `submit`. -/
def submit (broker : SandboxEffectBroker) (request : ProviderExecutionRequest) :
    EffectCode (ProviderSubmissionResult × SandboxEffectBroker) := do
  require (request.providerId = providerId)
    ⟨.valueError, "M-PESA simulator received another provider's request"⟩
  require (request.rail = .str "MOBILE_MONEY")
    ⟨.valueError, "M-PESA simulator requires MOBILE_MONEY rail"⟩
  SandboxEffectBroker.submit rt broker request

end SandboxMpesaAdapter

namespace SandboxEffectBroker

/-! ## The text of references -/

variable (request : ProviderExecutionRequest)

section Payloads

variable {rt request}

end Payloads

/-! ## The size of payloads -/

variable {rt request}

end SandboxEffectBroker

/-! ## How payloads are read -/

namespace MpesaCallbackProcessor

variable {rt} {d : Deployment} {request : ProviderExecutionRequest}

/-- What a callback with given parameters says about the request. -/
def reported (rt : Runtime) (request : ProviderExecutionRequest) (transactionId : Option String)
    (resultCode : Int) (description : String) (parameters : Dict String Json) : NormalizedCallback :=
  ⟨SandboxEffectBroker.externalReference rt request, SandboxEffectBroker.originatorReference rt request,
    transactionId, resultCode, truncate description 256, parameters⟩

end MpesaCallbackProcessor

end RailOne
