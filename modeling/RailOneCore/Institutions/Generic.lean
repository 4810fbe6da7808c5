import RailOneCore.Operations.Progress

/-!
# The configured HTTP adapter

The code of `GenericHttpInstitutionAdapter.submit`.  The response of the provider is read as a JSON
object, its outcome field is turned into text, and the text is looked up in the configured codes.  A
response that cannot be read is an unknown outcome; a response whose outcome is the empty text is
read, and its code reaches the coordinator through the bridge.

Dispatches through the bridge are completed except in two cases: the outcome of the provider's
response is blank, or the binding of the adapter is too long for the context of a submission.
-/

namespace RailOne

open Concurrent Ordered ProviderSubmissionCoordinator

/-! ## The adapter -/

/-- The part of the configuration that a submission reads. -/
structure GenericHttpAdapterConfig where
  submitUrl : String
  timeoutSeconds : Int
  outcomeField : String := "status"
  externalReferenceField : String := "reference"
  deriving DecidableEq, Repr

structure InstitutionHttpRequest where
  method : String
  url : String
  headers : List (String × String)
  body : ByteArray
  timeoutSeconds : Int

structure InstitutionHttpResponse where
  statusCode : Int
  headers : List (String × String)
  body : ByteArray

/-- `ExplicitOutcomeNormalizer`, as far as submissions are concerned. -/
structure ExplicitOutcomeNormalizer where
  submissionCodes : List (String × InstitutionOutcome)

namespace ExplicitOutcomeNormalizer

/-- The configured codes in upper case. -/
def table (rt : Runtime) (n : ExplicitOutcomeNormalizer) : Dict String InstitutionOutcome :=
  n.submissionCodes.foldl (fun dict p => dict.set (rt.upper p.1) p.2) .empty

/-- `submission`. -/
def submission (rt : Runtime) (n : ExplicitOutcomeNormalizer) (code : String) : InstitutionOutcome :=
  ((n.table rt).get? (rt.upper code)).getD .outcomeUnknown

end ExplicitOutcomeNormalizer

/-- `GenericHttpInstitutionAdapter`, with the code that it calls: the codec, the authentication and
the transport. -/
structure GenericHttpInstitutionAdapter where
  descriptor : AdapterDescriptor
  manifest : InstitutionCapabilityManifest
  descriptor_eq : descriptor = manifest.descriptor
  config : GenericHttpAdapterConfig
  contentType : String
  encodeSubmission : InstitutionExecutionInstruction → Except Exn ByteArray
  authenticate : InstitutionHttpRequest → Except Exn InstitutionHttpRequest
  send : InstitutionHttpRequest → Except Exn InstitutionHttpResponse
  normalizer : ExplicitOutcomeNormalizer

/-- The exception is an `InstitutionTransportError`. -/
def Exn.isTransportError (e : Exn) : Bool := e.className == "InstitutionTransportError"

/-- `decode_json_object`. -/
def decodeJsonObject (rt : Runtime) (body : ByteArray) : Except Exn Fields :=
  if 1000000 < body.size then .error ⟨.valueError, "provider response exceeds codec limit"⟩
  else do
    match ← rt.jsonLoads body with
    | .obj value => return value
    | _ => .error ⟨.valueError, "provider response must be a JSON object"⟩

namespace GenericHttpInstitutionAdapter

variable (rt : Runtime) (adapter : GenericHttpInstitutionAdapter)

/-- `validate_instruction`. -/
def validateInstruction (i : InstitutionExecutionInstruction) : Except Exn Unit := do
  require (rt.upper i.providerId = rt.upper adapter.descriptor.providerId)
    ⟨.valueError, "instruction provider does not match adapter"⟩
  require (rt.upper i.sourceInstitutionId ∈ adapter.manifest.sourceInstitutionIds)
    ⟨.valueError, "unsupported source institution"⟩
  require (rt.upper i.destinationInstitutionId ∈ adapter.manifest.destinationInstitutionIds)
    ⟨.valueError, "unsupported destination institution"⟩
  require (rt.upper i.rail ∈ adapter.manifest.rails) ⟨.valueError, "unsupported rail"⟩
  require (rt.upper i.currencyFrom ∈ adapter.manifest.currenciesFrom)
    ⟨.valueError, "unsupported source currency"⟩
  require (rt.upper i.currencyTo ∈ adapter.manifest.currenciesTo)
    ⟨.valueError, "unsupported destination currency"⟩
  require (adapter.manifest.minAmountMinor ≤ i.amountMinor ∧
      i.amountMinor ≤ adapter.manifest.maxAmountMinor)
    ⟨.valueError, "amount is outside adapter capability range"⟩

/-- The request of an instruction. -/
def httpRequest (i : InstitutionExecutionInstruction) : Except Exn InstitutionHttpRequest := do
  let body ← adapter.encodeSubmission i
  return {
    method := "POST"
    url := adapter.config.submitUrl
    headers := [("Content-Type", adapter.contentType), ("Accept", "application/json"),
      ("Idempotency-Key", i.idempotencyKey), ("X-RailOne-RTT", i.rttId)]
    body
    timeoutSeconds := adapter.config.timeoutSeconds }

/-- `self._transport.send(self._auth.authenticate(request))`. -/
def exchange (request : InstitutionHttpRequest) : Except Exn InstitutionHttpResponse := do
  adapter.send (← adapter.authenticate request)

/-- The code and the reference of a response. -/
def readResponse (body : ByteArray) : Except Exn (String × Option String) := do
  let payload ← decodeJsonObject rt body
  let value ← payload.item adapter.config.outcomeField
  let reference := match payload.get adapter.config.externalReferenceField with
    | none | some .null => none
    | some value => some (rt.str value)
  return (rt.upper (rt.str value), reference)

/-- `except (ValueError, KeyError, UnicodeError)`. -/
def unparseable (e : Exn) : Bool := e.isValueError || e.kind == .keyError

/-- The result for a code: the finality of a submission is never enough to confirm a success. -/
def resultFor (code : String) (reference : Option String) :
    Except Exn InstitutionSubmissionResult :=
  match adapter.normalizer.submission rt code with
  | .confirmedSuccess =>
    .error ⟨.valueError, "confirmed success requires credit-confirmed or settled finality"⟩
  | outcome => .ok ⟨outcome, code, reference⟩

/-- What the adapter makes of what came back. -/
def interpret : Except Exn InstitutionHttpResponse → Except Exn InstitutionSubmissionResult
  | .error e =>
    if e.isTransportError then .ok ⟨.outcomeUnknown, "TRANSPORT_OUTCOME_UNKNOWN", none⟩ else .error e
  | .ok response =>
    match adapter.readResponse rt response.body with
    | .error e =>
      if unparseable e then .ok ⟨.outcomeUnknown, "UNPARSEABLE_PROVIDER_RESPONSE", none⟩
      else .error e
    | .ok (code, reference) => adapter.resultFor rt code reference

/-- `submit`. -/
def submit (i : InstitutionExecutionInstruction) : Except Exn InstitutionSubmissionResult := do
  adapter.validateInstruction rt i
  let request ← adapter.httpRequest i
  adapter.interpret rt (adapter.exchange request)

/-- The plug-in behind the bridge is this adapter. -/
structure Answers (behaviour : (o : Op) → o.Resp) : Prop where
  validate : ∀ i, behaviour (.validateInstruction adapter.descriptor i) = adapter.validateInstruction rt i
  submit : ∀ i, behaviour (.submitInstruction adapter.descriptor i) = adapter.submit rt i

variable {rt adapter}

theorem bindingRef_ne_empty (descriptor : AdapterDescriptor) : descriptor.bindingRef ≠ "" := by
  intro h
  have hlist := congrArg String.toList h
  simp [AdapterDescriptor.bindingRef] at hlist

end GenericHttpInstitutionAdapter

namespace Sample

/-- The body of a response with an empty outcome. -/
def blankBody : ByteArray := utf8Bytes (CanonicalJson.dumps (.obj [("status", .str "")]))

/-- The configured HTTP adapter of the sample, whose provider responds with an empty outcome. -/
def blankAdapter : GenericHttpInstitutionAdapter where
  descriptor := ⟨"MPESA", "1", "MPESA"⟩
  manifest :=
    { descriptor := ⟨"MPESA", "1", "MPESA"⟩
      certificationStatus := .certified
      sourceInstitutionIds := ["BANK-A"]
      destinationInstitutionIds := ["BANK-B"]
      rails := ["MOBILE"]
      sourceCountries := ["KE"]
      destinationCountries := ["KE"]
      currenciesFrom := ["KES"]
      currenciesTo := ["KES"]
      supportsIdempotency := false
      supportsCallbacks := false
      supportsActiveStatus := false
      supportsReconciliation := false
      minAmountMinor := 1
      maxAmountMinor := 1000000
      issuedAt := 0
      expiresAt := seconds 1000
      payload := [] }
  descriptor_eq := rfl
  config := { submitUrl := "https://bank.example/submit", timeoutSeconds := 15 }
  contentType := "application/json"
  encodeSubmission _ := .ok ByteArray.empty
  authenticate request := .ok request
  send _ := .ok ⟨200, [], blankBody⟩
  normalizer := ⟨[("ACCEPTED", .acceptedForProcessing)]⟩

end Sample

end RailOne
