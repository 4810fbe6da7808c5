import RailOneCore.Operations.Progress
import RailOneCore.Providers.Mpesa

/-!
# What an M-PESA response is taken for

Once the payment has been posted, a response may be taken for a definite rejection only when its body
carries a code that is not the code of an acceptance: everything else may have moved money.  The
adapter keeps to this but for three kinds of responses.  A code of JSON `null` is read as the text
`None`, which is a rejection; so is the code of an acceptance under a status that is no success; and
an acceptance whose originator, or whose amount, is longer than the coordinator admits in a context
is not stored at all, so that the submission stays `DISPATCHING`.
-/

namespace RailOne

open Concurrent Ordered ProviderSubmissionCoordinator

namespace MpesaB2CAdapter

variable {S : Type} {rt : Runtime} {adapter : MpesaB2CAdapter S} {request : ProviderExecutionRequest}

/-- The adapter as the coordinator sees it. -/
def port : ProviderAdapter := .plain providerId supportsIdempotency

/-- The code behind the port is this adapter in the state `s`. -/
def Answers (rt : Runtime) (adapter : MpesaB2CAdapter S) (s : S) (behaviour : (o : Op) → o.Resp) :
    Prop :=
  ∀ request, behaviour (.adapterAnswer port request) = (adapter.submit rt request s).1

/-! ## What is posted -/

/-- What comes back for a posted payment: a response, or an exception of the transport. -/
abbrev Posted : Type := HttpRequest × Except Exn HttpResponse

/-- The adapter with a record of what its transport has been asked for. -/
def logged (adapter : MpesaB2CAdapter S) : MpesaB2CAdapter (S × List Posted) where
  config := adapter.config
  valid := adapter.valid
  credentials s := ((adapter.credentials s.1).1, (adapter.credentials s.1).2, s.2)
  tokens s := ((adapter.tokens s.1).1, (adapter.tokens s.1).2, s.2)
  transport http s := ((adapter.transport http s.1).1, (adapter.transport http s.1).2,
    s.2 ++ [(http, (adapter.transport http s.1).1)])

/-- The body of what has come back carries a code, which is not empty and not that of an
acceptance. -/
def Refused (rt : Runtime) (outcome : Except Exn HttpResponse) : Prop :=
  ∃ (response : HttpResponse) (result : Fields) (code : Json), outcome = .ok response ∧
    response.jsonObject rt = .ok result ∧ result.get "ResponseCode" = some code ∧ code ≠ .null ∧
    rt.str code ≠ "" ∧ rt.str code ≠ "0"

/-- The body names the conversation and its originator. -/
def Names (result : Fields) (conversationId originatorId : String) : Prop :=
  result.get "ConversationID" = some (.str conversationId) ∧ conversationId ≠ "" ∧
    result.get "OriginatorConversationID" = some (.str originatorId) ∧ originatorId ≠ ""

/-- The answer to an acceptance that names its conversation. -/
def acceptance (amount conversationId originatorId : String) : ProviderSubmissionResult :=
  ⟨.accepted, "MPESA_ACCEPTED_FOR_PROCESSING", some conversationId, none,
    [("amount_minor", amount), ("originator_conversation_id", originatorId)]⟩

/-- The submission has stored a well-formed answer, or is still in flight. -/
structure Stores (t : ProviderSubmissionRecord) (result : ProviderSubmissionResult) : Prop where
  records : result.WellFormed → t.Records result
  inFlight : ¬ result.WellFormed → t.state = .dispatching

theorem Stores.state {t : ProviderSubmissionRecord} {result : ProviderSubmissionResult}
    (h : Stores t result) (hwf : result.WellFormed) : t.state = result.outcome.state :=
  (h.records hwf).state

end MpesaB2CAdapter

/-! ## Later dispatches -/

namespace Operations

variable {d : Deployment} {w w' : World}

/-- The submission has left the prepared state. -/
def Left (rttId : String) (w : World) : Prop := dispatched w.operations rttId = true

theorem Left.ne_prepared {rttId : String} {s : ProviderSubmissionRecord} (h : Left rttId w)
    (hs : w.operations.submissionsByRtt.get? rttId = some s) : s.state ≠ .prepared := by
  rw [Left, dispatched, hs] at h
  simpa using h

end Operations

namespace Sample

end Sample

end RailOne
