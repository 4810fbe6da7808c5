import RailOneCore.Crypto.SignatureService

/-!
# Provider submissions and signed outbox events

The records of the provider-submission coordinator.  The fields of a request that `prepare` copies
out of signed payloads without looking at them keep the type `Json` of those payloads.
-/

namespace RailOne

/-! ## Enumerations -/

inductive ProviderSubmissionState
  | prepared | dispatching | accepted | rejected | unknown
  deriving DecidableEq, Repr

/-- `FINAL_STATES`. -/
def ProviderSubmissionState.isFinal : ProviderSubmissionState → Bool
  | .accepted | .rejected | .unknown => true
  | .prepared | .dispatching => false

inductive ProviderOutcome
  | accepted | rejected | unknown
  deriving DecidableEq, Repr

namespace ProviderOutcome

def value : ProviderOutcome → String
  | .accepted => "ACCEPTED"
  | .rejected => "REJECTED"
  | .unknown => "UNKNOWN"

/-- The state that a submission with this outcome ends in. -/
def state : ProviderOutcome → ProviderSubmissionState
  | .accepted => .accepted
  | .rejected => .rejected
  | .unknown => .unknown

/-- The type of the event that announces this outcome. -/
def eventType : ProviderOutcome → String
  | .accepted => "PROVIDER_SUBMISSION_ACCEPTED"
  | .rejected => "PROVIDER_SUBMISSION_REJECTED"
  | .unknown => "PROVIDER_SUBMISSION_OUTCOME_UNKNOWN"

end ProviderOutcome

inductive RejectionDisposition
  | retryable | terminal
  deriving DecidableEq, Repr

def RejectionDisposition.value : RejectionDisposition → String
  | .retryable => "RETRYABLE"
  | .terminal => "TERMINAL"

inductive OutboxDeliveryState
  | pending | inFlight | published | deadLetter
  deriving DecidableEq, Repr

/-! ## Requests and results -/

/-- What an adapter is asked to execute. -/
structure ProviderExecutionRequest where
  idempotencyKey : String
  requestSha256 : String
  uttId : String
  rttId : String
  attemptNumber : ℕ
  providerId : String
  adapterBindingRef : Json
  rail : Json
  amountMinor : Json
  currencyFrom : Json
  receiveAmountMinor : Json
  currencyTo : Json
  sourceInstitutionId : Json
  destinationInstitutionId : Json
  payerAccountReference : String
  beneficiaryAccountReference : String
  deriving DecidableEq, Repr

/-- The request without its digest: the material that is hashed. -/
def ProviderExecutionRequest.material (r : ProviderExecutionRequest) : Json :=
  .obj [("idempotency_key", .str r.idempotencyKey), ("utt_id", .str r.uttId),
    ("rtt_id", .str r.rttId), ("attempt_number", .int r.attemptNumber),
    ("provider_id", .str r.providerId), ("adapter_binding_ref", r.adapterBindingRef),
    ("rail", r.rail), ("amount_minor", r.amountMinor), ("currency_from", r.currencyFrom),
    ("receive_amount_minor", r.receiveAmountMinor), ("currency_to", r.currencyTo),
    ("source_institution_id", r.sourceInstitutionId),
    ("destination_institution_id", r.destinationInstitutionId),
    ("payer_account_reference", .str r.payerAccountReference),
    ("beneficiary_account_reference", .str r.beneficiaryAccountReference)]

/-- The context that an adapter attaches to a result. -/
abbrev ProviderContext := List (String × String)

/-- What an adapter answers. -/
structure ProviderSubmissionResult where
  outcome : ProviderOutcome
  code : String
  externalReference : Option String
  rejectionDisposition : Option RejectionDisposition
  providerContext : ProviderContext
  deriving DecidableEq, Repr

/-- The characters after the first one in `[a-z][a-z0-9_]*`. -/
def isContextKeyChar (c : Char) : Bool :=
  ('a' ≤ c && c ≤ 'z') || ('0' ≤ c && c ≤ '9') || c == '_'

/-- `re.fullmatch(r"[a-z][a-z0-9_]{0,63}", key)`. -/
def isContextKey (key : String) : Bool :=
  match key.toList with
  | [] => false
  | c :: cs => ('a' ≤ c && c ≤ 'z') && cs.length ≤ 63 && cs.all isContextKeyChar

/-- `_provider_context`: bounded, well-formed, with unique keys, and sorted. -/
def checkProviderContext (values : ProviderContext) : Except Exn ProviderContext :=
  if 20 < values.length then
    .error ⟨.valueError, "provider context exceeds 20 fields"⟩
  else if values.any fun p => ! isContextKey p.1 || p.2.length == 0 || 256 < p.2.length then
    .error ⟨.valueError, "provider context contains an invalid field"⟩
  else if ¬ (values.map Prod.fst).Nodup then
    .error ⟨.valueError, "provider context keys must be unique"⟩
  else .ok (values.insertionSort fun a b => a.1 ≤ b.1)

/-! ## Stored records -/

/-- A submission of one RTT to its provider. -/
structure ProviderSubmissionRecord where
  submissionId : String
  idempotencyKey : String
  requestSha256 : String
  uttId : String
  rttId : String
  providerId : String
  state : ProviderSubmissionState
  dispatchAttempts : ℕ
  normalizedCode : Option String
  externalReference : Option String
  rejectionDisposition : Option RejectionDisposition
  providerContext : ProviderContext
  version : ℕ
  createdAt : Instant
  updatedAt : Instant
  deriving DecidableEq, Repr

/-- A signed event, with the bookkeeping of its delivery. -/
structure OutboxRecord where
  eventId : String
  aggregateType : String
  aggregateId : String
  eventType : String
  signedEvent : SignatureEnvelope
  deliveryState : OutboxDeliveryState
  deliveryAttempts : ℕ
  availableAt : Instant
  leaseOwner : Option String
  leaseUntil : Option Instant
  lastError : Option String
  publishedAt : Option Instant
  version : ℕ
  createdAt : Instant
  updatedAt : Instant
  deriving DecidableEq, Repr

end RailOne
