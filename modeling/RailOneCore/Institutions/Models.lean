import RailOneCore.Operations.Models

/-!
# The institution boundary

The canonical instruction that crosses the RailOne/institution boundary, with the checks its
constructor makes, and the descriptor that binds an adapter to a route.
-/

namespace RailOne

/-- The part of an adapter descriptor that binds it: its identifier, version and provider. -/
structure AdapterDescriptor where
  adapterId : String
  adapterVersion : String
  providerId : String
  deriving DecidableEq, Repr

/-- `AdapterDescriptor.binding_ref`. -/
def AdapterDescriptor.bindingRef (d : AdapterDescriptor) : String :=
  d.adapterId ++ "@" ++ d.adapterVersion

inductive AdapterCertificationStatus
  | draft | conformance | certified | suspended
  deriving DecidableEq, Repr

/-- The part of a capability manifest that the plug-ins and the certification coordinator read.
`payload` is what `to_payload` writes. -/
structure InstitutionCapabilityManifest where
  descriptor : AdapterDescriptor
  certificationStatus : AdapterCertificationStatus
  sourceInstitutionIds : List String
  destinationInstitutionIds : List String
  rails : List String
  sourceCountries : List String
  destinationCountries : List String
  currenciesFrom : List String
  currenciesTo : List String
  supportsIdempotency : Bool
  supportsCallbacks : Bool
  supportsActiveStatus : Bool
  supportsReconciliation : Bool
  minAmountMinor : Int
  maxAmountMinor : Int
  issuedAt : Instant
  expiresAt : Instant
  payload : Fields

inductive InstitutionOutcome
  | acceptedForProcessing | rejectedRetryable | rejectedTerminal | outcomeUnknown | pending
  | confirmedSuccess | confirmedFailure | reconciliationRequired
  deriving DecidableEq, Repr

/-- What a plugin answers to a submission, as far as the bridge reads it. -/
structure InstitutionSubmissionResult where
  outcome : InstitutionOutcome
  code : String
  externalReference : Option String
  deriving DecidableEq, Repr

/-- What a plugin is handed. -/
structure InstitutionExecutionInstruction where
  idempotencyKey : String
  requestSha256 : String
  uttId : String
  rttId : String
  attemptNumber : ℕ
  providerId : String
  adapterBindingRef : String
  rail : String
  amountMinor : Int
  currencyFrom : String
  receiveAmountMinor : Int
  currencyTo : String
  sourceInstitutionId : String
  destinationInstitutionId : String
  payerAccountReference : String
  beneficiaryAccountReference : String
  deriving DecidableEq, Repr

namespace InstitutionExecutionInstruction

/-- A required text: not blank, and at most 512 characters. -/
def boundedText (name : String) : Json → Except Exn String
  | .str value =>
    if strip value = "" ∨ 512 < value.length then
      .error ⟨.valueError, name ++ " must be a non-empty bounded string"⟩
    else .ok value
  | _ => .error ⟨.valueError, name ++ " must be a non-empty bounded string"⟩

/-- `re.fullmatch(r"[a-f0-9]{64}", text)`. -/
def isDigest (s : String) : Bool :=
  s.length == 64 && s.toList.all fun c => ('a' ≤ c && c ≤ 'f') || ('0' ≤ c && c ≤ '9')

/-- A positive integer amount. -/
def positiveAmount (name : String) : Json → Except Exn Int
  | .int value =>
    if value < 1 then .error ⟨.valueError, name ++ " must be a positive integer"⟩ else .ok value
  | _ => .error ⟨.valueError, name ++ " must be a positive integer"⟩

/-- A code that matches `[A-Z]{3}`; matching a value that is no text is a type error. -/
def currencyCode (name : String) : Json → Except Exn String
  | .str value =>
    if value.length = 3 ∧ value.toList.all (fun c => 'A' ≤ c && c ≤ 'Z') then .ok value
    else .error ⟨.valueError, name ++ " must be an uppercase ISO-style currency code"⟩
  | _ => .error ⟨.typeError, "expected string or bytes-like object"⟩

/-- `from_provider_request`, with the checks of the constructor in their order. -/
def fromProviderRequest (r : ProviderExecutionRequest) :
    Except Exn InstitutionExecutionInstruction := do
  let idempotencyKey ← boundedText "idempotency_key" (.str r.idempotencyKey)
  let uttId ← boundedText "utt_id" (.str r.uttId)
  let rttId ← boundedText "rtt_id" (.str r.rttId)
  let providerId ← boundedText "provider_id" (.str r.providerId)
  let adapterBindingRef ← boundedText "adapter_binding_ref" r.adapterBindingRef
  let rail ← boundedText "rail" r.rail
  let sourceInstitutionId ← boundedText "source_institution_id" r.sourceInstitutionId
  let destinationInstitutionId ←
    boundedText "destination_institution_id" r.destinationInstitutionId
  let payerAccountReference ←
    boundedText "payer_account_reference" (.str r.payerAccountReference)
  let beneficiaryAccountReference ←
    boundedText "beneficiary_account_reference" (.str r.beneficiaryAccountReference)
  if ¬ isDigest r.requestSha256 then
    throw ⟨.valueError, "request_sha256 must be a lowercase SHA-256 digest"⟩
  if ¬ adapterBindingRef.toList.contains '@' then
    throw ⟨.valueError, "adapter_binding_ref must pin adapter_id@version"⟩
  if r.attemptNumber < 1 then
    throw ⟨.valueError, "attempt_number must be positive"⟩
  let amountMinor ← positiveAmount "amount_minor" r.amountMinor
  let receiveAmountMinor ← positiveAmount "receive_amount_minor" r.receiveAmountMinor
  let currencyFrom ← currencyCode "currency_from" r.currencyFrom
  let currencyTo ← currencyCode "currency_to" r.currencyTo
  return ⟨idempotencyKey, r.requestSha256, uttId, rttId, r.attemptNumber, providerId,
    adapterBindingRef, rail, amountMinor, currencyFrom, receiveAmountMinor, currencyTo,
    sourceInstitutionId, destinationInstitutionId, payerAccountReference,
    beneficiaryAccountReference⟩

end InstitutionExecutionInstruction

/-- An adapter as the coordinator sees it: some adapter behind the provider protocol, or the bridge
to an institution plugin. -/
inductive ProviderAdapter
  | plain (providerId : String) (supportsIdempotency : Bool)
  | bridge (descriptor : AdapterDescriptor) (supportsIdempotency : Bool)
  deriving DecidableEq, Repr

namespace ProviderAdapter

/-- `adapter.provider_id`. -/
def providerId : ProviderAdapter → String
  | .plain providerId _ => providerId
  | .bridge descriptor _ => descriptor.providerId

/-- `adapter.supports_idempotency`. -/
def supportsIdempotency : ProviderAdapter → Bool
  | .plain _ b => b
  | .bridge _ b => b

end ProviderAdapter

end RailOne
