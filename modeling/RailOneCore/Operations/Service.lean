import RailOneCore.Platform.World

/-!
# Provider submission and the outbox relay

The code of `ProviderSubmissionCoordinator` and of `OutboxRelay`.  A submission is prepared once for
an RTT, moved to `DISPATCHING` before the adapter is called, and completed with the adapter's answer;
every move commits one signed event with it.

The three kinds of events are written out as one function of the record they announce
(`ProviderSubmissionRecord.eventData`): the data of an event depends on nothing else, except for the
remark whether the adapter supports idempotency.
-/

namespace RailOne

open Concurrent

variable (d : Deployment)

/-! ## Events -/

/-- The type of the event that announces a state. -/
def ProviderSubmissionState.eventType : ProviderSubmissionState → String
  | .prepared => "PROVIDER_SUBMISSION_PREPARED"
  | .dispatching => "PROVIDER_DISPATCH_STARTED"
  | .accepted => ProviderOutcome.accepted.eventType
  | .rejected => ProviderOutcome.rejected.eventType
  | .unknown => ProviderOutcome.unknown.eventType

/-- The data of the event that announces a completed submission. -/
def ProviderSubmissionRecord.outcomeData (s : ProviderSubmissionRecord) (outcome : ProviderOutcome) :
    Fields :=
  [("outcome", .str outcome.value), ("code", .ofOption s.normalizedCode),
    ("external_reference", .ofOption s.externalReference),
    ("rejection_disposition", .ofOption (s.rejectionDisposition.map RejectionDisposition.value)),
    ("provider_context", .obj (s.providerContext.map fun p => (p.1, .str p.2)))]

/-- The data of the event that announces the state of a submission. -/
def ProviderSubmissionRecord.eventData (s : ProviderSubmissionRecord) (idempotent : Bool) :
    Fields :=
  match s.state with
  | .prepared => [("request_sha256", .str s.requestSha256)]
  | .dispatching => [("dispatch_attempt", .int s.dispatchAttempts),
      ("provider_idempotency_supported", .bool idempotent)]
  | .accepted => s.outcomeData .accepted
  | .rejected => s.outcomeData .rejected
  | .unknown => s.outcomeData .unknown

/-- The content of the event that announces the state of a submission. -/
def ProviderSubmissionRecord.eventCore (s : ProviderSubmissionRecord) (idempotent : Bool)
    (at_ : Instant) : Fields :=
  [("event_type", .str s.state.eventType), ("aggregate_type", .str "PROVIDER_SUBMISSION"),
    ("aggregate_id", .str s.submissionId), ("utt_id", .str s.uttId), ("rtt_id", .str s.rttId),
    ("provider_id", .str s.providerId), ("submission_version", .int s.version),
    ("data", .obj (s.eventData idempotent)), ("occurred_at", .int (epochSeconds at_))]

namespace ProviderSubmissionCoordinator

/-- The outbox row of a signed event. -/
def outboxRow (s : ProviderSubmissionRecord) (eventId : String) (signed : SignatureEnvelope)
    (at_ : Instant) : OutboxRecord where
  eventId := eventId
  aggregateType := "PROVIDER_SUBMISSION"
  aggregateId := s.submissionId
  eventType := s.state.eventType
  signedEvent := signed
  deliveryState := .pending
  deliveryAttempts := 0
  availableAt := at_
  leaseOwner := none
  leaseUntil := none
  lastError := none
  publishedAt := none
  version := 1
  createdAt := at_
  updatedAt := at_

/-- `_event`, for the state that the record is in. -/
def event (s : ProviderSubmissionRecord) (idempotent : Bool) (at_ : Instant) :
    Code OutboxRecord := do
  let core := s.eventCore idempotent at_
  let eventId ← d.rt.contentId "EVT" (.obj core)
  let signed ← Code.sign .executionEvent (("event_id", .str eventId) :: core)
    d.eventSigningKeyId at_
  return outboxRow s eventId signed at_

/-! ## Preparation -/

/-- A request before the account references are resolved. -/
structure RequestDraft where
  request : ProviderExecutionRequest
  payerBindingId : Json
  beneficiaryBindingId : Json

/-- The request of an RTT, as far as the signed RTT and the signed UTT determine it. -/
def requestDraft (rttId : String) (attempt : RttAttemptRecord) (signedUtt : SignatureEnvelope) :
    Except Exn RequestDraft := do
  let rtt := attempt.signedRtt.payload
  let utt := signedUtt.payload
  let bound ← rtt.item "utt_payload_sha256"
  let uttHash ← signedUtt.header.item "payload_sha256"
  require (bound = uttHash) ⟨.permissionError, "RTT does not bind the persisted UTT payload"⟩
  let route ← rtt.objItem "route"
  let provider ← requireTextValue "provider" (← route.item "provider")
  let providerId := d.rt.upper provider
  let idempotencyKey ← d.rt.contentId "R1IDEM" (.obj
    [("domain", .str "RAILONE-PROVIDER-SUBMISSION-V1"), ("provider_id", .str providerId),
      ("rtt_id", .str rttId)])
  let payer ← utt.objItem "payer"
  let payerEndpoint ← payer.objItem "endpoint"
  let beneficiary ← utt.objItem "beneficiary"
  let beneficiaryEndpoint ← beneficiary.objItem "endpoint"
  let sourceInstitutionId ← payerEndpoint.item "institution_id"
  let payerBindingId ← payerEndpoint.item "account_binding_id"
  let destinationInstitutionId ← beneficiaryEndpoint.item "institution_id"
  let beneficiaryBindingId ← beneficiaryEndpoint.item "account_binding_id"
  let adapterBindingRef ← route.item "adapter"
  let rail ← route.item "rail"
  let amountMinor ← utt.item "amount_minor"
  let currencyFrom ← utt.item "currency_from"
  let receiveAmountMinor ← utt.item "receive_amount_minor"
  let currencyTo ← utt.item "currency_to"
  return {
    request :=
      { idempotencyKey, requestSha256 := "", uttId := attempt.uttId, rttId
        attemptNumber := attempt.attemptNumber, providerId, adapterBindingRef, rail, amountMinor
        currencyFrom, receiveAmountMinor, currencyTo, sourceInstitutionId
        destinationInstitutionId, payerAccountReference := "", beneficiaryAccountReference := "" }
    payerBindingId, beneficiaryBindingId }

/-- What a draft takes over from the attempt and from the UTT. -/
structure RequestDraft.Copies (d : Deployment) (draft : RequestDraft) (rttId : String)
    (attempt : RttAttemptRecord) (signedUtt : SignatureEnvelope) : Prop where
  rttId : draft.request.rttId = rttId
  uttId : draft.request.uttId = attempt.uttId
  attemptNumber : draft.request.attemptNumber = attempt.attemptNumber
  uttHash : ∃ hash, attempt.signedRtt.payload.get "utt_payload_sha256" = some hash ∧
    signedUtt.header.get "payload_sha256" = some hash
  route : ∃ route : Fields, attempt.signedRtt.payload.get "route" = some (.obj route) ∧
    route.get "adapter" = some draft.request.adapterBindingRef ∧
    route.get "rail" = some draft.request.rail ∧
    ∃ provider, route.get "provider" = some (.str provider) ∧
      draft.request.providerId = d.rt.upper (strip provider)
  amountMinor : signedUtt.payload.get "amount_minor" = some draft.request.amountMinor
  currencyFrom : signedUtt.payload.get "currency_from" = some draft.request.currencyFrom
  receiveAmountMinor :
    signedUtt.payload.get "receive_amount_minor" = some draft.request.receiveAmountMinor
  currencyTo : signedUtt.payload.get "currency_to" = some draft.request.currencyTo
  source : ∃ payer endpoint : Fields, signedUtt.payload.get "payer" = some (.obj payer) ∧
    payer.get "endpoint" = some (.obj endpoint) ∧
    endpoint.get "institution_id" = some draft.request.sourceInstitutionId
  destination : ∃ beneficiary endpoint : Fields,
    signedUtt.payload.get "beneficiary" = some (.obj beneficiary) ∧
    beneficiary.get "endpoint" = some (.obj endpoint) ∧
    endpoint.get "institution_id" = some draft.request.destinationInstitutionId

theorem requestDraft_eq_ok {d : Deployment} {rttId : String} {attempt : RttAttemptRecord}
    {signedUtt : SignatureEnvelope} {draft : RequestDraft}
    (h : requestDraft d rttId attempt signedUtt = .ok draft) :
    draft.Copies d rttId attempt signedUtt := by
  simp only [requestDraft, bind_eq_ok, pure_eq_ok, require_eq_ok, Fields.item_eq_ok,
    Fields.objItem_eq_ok] at h
  obtain ⟨bound, hbound, uttHash, huttHash, -, rfl, route, hroute, providerJson, hprovider,
    provider, hprov, idem, hidem, payer, hpayer, payerEndpoint, hpayerEndpoint, beneficiary,
    hbeneficiary, benEndpoint, hbenEndpoint, source, hsource, payerBinding, hpayerBinding,
    destination, hdestination, benBinding, hbenBinding, adapter, hadapter, rail, hrail, amount,
    hamount, currencyFrom, hcurrencyFrom, receive, hreceive, currencyTo, hcurrencyTo, rfl⟩ := h
  refine ⟨rfl, rfl, rfl, ⟨_, hbound, huttHash⟩, ⟨route, hroute, hadapter, hrail, ?_⟩, hamount,
    hcurrencyFrom, hreceive, hcurrencyTo, ⟨payer, payerEndpoint, hpayer, hpayerEndpoint, hsource⟩,
    ⟨beneficiary, benEndpoint, hbeneficiary, hbenEndpoint, hdestination⟩⟩
  cases providerJson with
  | str text =>
    obtain ⟨rfl, -⟩ := requireText_eq_ok.mp hprov
    exact ⟨text, hprovider, rfl⟩
  | _ => cases hprov

/-- The request with its account references and its digest. -/
def RequestDraft.resolved (draft : RequestDraft) (payerReference beneficiaryReference : String) :
    Except Exn ProviderExecutionRequest := do
  let request :=
    { draft.request with
      payerAccountReference := payerReference
      beneficiaryAccountReference := beneficiaryReference }
  let requestSha256 ← d.rt.payloadSha256 request.material
  return { request with requestSha256 }

/-- A resolved request is its draft with the references, under the digest of its material. -/
theorem RequestDraft.resolved_eq_ok {d : Deployment} {draft : RequestDraft}
    {payerReference beneficiaryReference : String} {request : ProviderExecutionRequest}
    (h : draft.resolved d payerReference beneficiaryReference = .ok request) :
    request = { draft.request with
        payerAccountReference := payerReference
        beneficiaryAccountReference := beneficiaryReference
        requestSha256 := request.requestSha256 } ∧
      d.rt.payloadSha256 request.material = .ok request.requestSha256 := by
  simp only [RequestDraft.resolved, bind_eq_ok, pure_eq_ok] at h
  obtain ⟨sha, hsha, rfl⟩ := h
  exact ⟨rfl, hsha⟩

/-- A prepared submission of a request. -/
def newSubmission (submissionId : String) (request : ProviderExecutionRequest)
    (instant : Instant) : ProviderSubmissionRecord where
  submissionId := submissionId
  idempotencyKey := request.idempotencyKey
  requestSha256 := request.requestSha256
  uttId := request.uttId
  rttId := request.rttId
  providerId := request.providerId
  state := .prepared
  dispatchAttempts := 0
  normalizedCode := none
  externalReference := none
  rejectionDisposition := none
  providerContext := []
  version := 1
  createdAt := instant
  updatedAt := instant

/-- The identifier of a submission. -/
def submissionIdOf (rttId requestSha256 : String) : Except Exn String :=
  d.rt.contentId "SUB" (.obj [("rtt_id", .str rttId), ("request_sha256", .str requestSha256)])

/-- `prepare`. -/
def prepare (rttId : String) (at_ : Datetime) :
    Code (ProviderSubmissionRecord × ProviderExecutionRequest) := do
  let instant ← requireAware "provider-operation timestamp" at_
  let key ← requireText "rtt_id" rttId
  let attempt ← Code.requireAttempt key
  require (attempt.state = .created)
    ⟨.submissionNotDispatchable, "only a current CREATED RTT can be prepared"⟩
  let plan ← Code.requirePlan attempt.planId
  require (plan.currentRttId = some rttId)
    ⟨.submissionNotDispatchable, "RTT is not the current plan attempt"⟩
  Code.requireValid attempt.signedRtt .rtt "RTT"
  let signedUtt ← Code.requireUtt attempt.uttId
  Code.requireValid signedUtt .utt "UTT"
  let draft ← requestDraft d rttId attempt signedUtt
  let payerReference ←
    Code.resolveEndpoint draft.request.sourceInstitutionId draft.payerBindingId
  let beneficiaryReference ←
    Code.resolveEndpoint draft.request.destinationInstitutionId draft.beneficiaryBindingId
  let request ← draft.resolved d payerReference beneficiaryReference
  let submissionId ← submissionIdOf d rttId request.requestSha256
  let record := newSubmission submissionId request instant
  let announcement ← event d record false instant
  let stored ← Code.prepareSubmission record announcement
  require (stored.requestSha256 = request.requestSha256)
    ⟨.runtimeError, "prepared provider request does not match stored record"⟩
  return (stored, request)

/-! ## Dispatch -/

/-- `InstitutionAdapterBridge.submit`, once it has been called. -/
def bridgeSubmit (descriptor : AdapterDescriptor) (request : ProviderExecutionRequest) :
    Code ProviderSubmissionResult := do
  require (request.adapterBindingRef = .str descriptor.bindingRef)
    ⟨.valueError, "RTT adapter binding does not match dispatched adapter version"⟩
  let instruction ← InstitutionExecutionInstruction.fromProviderRequest request
  let _ : Unit ← call (.validateInstruction descriptor instruction)
  let result : InstitutionSubmissionResult ← call (.submitInstruction descriptor instruction)
  let context := [("adapter_binding_ref", descriptor.bindingRef)]
  return match result.outcome with
  | .acceptedForProcessing =>
    ⟨.accepted, result.code, result.externalReference, none, context⟩
  | .rejectedRetryable =>
    ⟨.rejected, result.code, result.externalReference, some .retryable, context⟩
  | .rejectedTerminal =>
    ⟨.rejected, result.code, result.externalReference, some .terminal, context⟩
  | _ => ⟨.unknown, result.code, result.externalReference, none, context⟩

/-- `adapter.submit(request)`. -/
def submit (adapter : ProviderAdapter) (request : ProviderExecutionRequest) :
    Code ProviderSubmissionResult := do
  let _ : Unit ← call (.invokeAdapter adapter request)
  match adapter with
  | .plain .. => call (.adapterAnswer adapter request)
  | .bridge descriptor _ => bridgeSubmit descriptor request

/-- What the adapter's answer means: an exception leaves the outcome unknown. -/
def resultOf : Except Exn ProviderSubmissionResult → ProviderSubmissionResult
  | .ok result => result
  | .error _ => ⟨.unknown, "ADAPTER_EXCEPTION_OUTCOME_UNKNOWN", none, none, []⟩

/-- The answer of a recovery that must not call the adapter again. -/
def recoveryBlocked : ProviderSubmissionResult :=
  ⟨.unknown, "NON_IDEMPOTENT_RECOVERY_BLOCKED", none, none, []⟩

/-- A disposition belongs to rejections and to nothing else. -/
def checkDisposition (result : ProviderSubmissionResult) : Except Exn Unit :=
  match result.outcome with
  | .rejected => require (result.rejectionDisposition ≠ none)
      ⟨.valueError, "rejected provider outcome requires a disposition"⟩
  | .accepted => require (result.rejectionDisposition = none)
      ⟨.valueError, "accepted provider outcome cannot have rejection disposition"⟩
  | .unknown => require (result.rejectionDisposition = none)
      ⟨.valueError, "unknown provider outcome cannot have rejection disposition"⟩

/-- The record of a completed submission. -/
def completed (record : ProviderSubmissionRecord) (result : ProviderSubmissionResult)
    (code : String) (context : ProviderContext) (at_ : Instant) : ProviderSubmissionRecord :=
  { record with
    state := result.outcome.state
    normalizedCode := some code
    externalReference := result.externalReference
    rejectionDisposition := result.rejectionDisposition
    providerContext := context
    version := record.version + 1
    updatedAt := at_ }

/-- `_complete`. -/
def complete (record : ProviderSubmissionRecord) (result : ProviderSubmissionResult)
    (at_ : Instant) : Code ProviderSubmissionRecord := do
  let code ← requireText "provider result code" result.code
  let context ← checkProviderContext result.providerContext
  checkDisposition result
  let updated := completed record result (d.rt.upper code) context at_
  let announcement ← event d updated false at_
  Code.transitionSubmission record.version updated announcement
  return updated

/-- The record of a submission that is being dispatched. -/
def dispatching (record : ProviderSubmissionRecord) (at_ : Instant) : ProviderSubmissionRecord :=
  { record with
    state := .dispatching
    dispatchAttempts := record.dispatchAttempts + 1
    version := record.version + 1
    updatedAt := at_ }

/-- The rest of `dispatch`, once the submission may be sent. -/
def send (record : ProviderSubmissionRecord) (request : ProviderExecutionRequest)
    (adapter : ProviderAdapter) (at_ : Instant) : Code ProviderSubmissionRecord := do
  let announcement ← event d (dispatching record at_) adapter.supportsIdempotency at_
  Code.transitionSubmission record.version (dispatching record at_) announcement
  let answer ← (submit adapter request).outcome
  complete d (dispatching record at_) (resultOf answer) at_

/-- `dispatch`. -/
def dispatch (rttId : String) (adapter : ProviderAdapter) (at_ : Datetime) :
    Code ProviderSubmissionRecord := do
  let instant ← requireAware "provider-operation timestamp" at_
  let prepared ← prepare d rttId (.aware instant)
  let record := prepared.1
  require (d.rt.upper adapter.providerId = record.providerId)
    ⟨.submissionNotDispatchable, "adapter provider does not match RTT route"⟩
  if record.state.isFinal then
    return record
  else if record.state = .dispatching ∧ ¬ adapter.supportsIdempotency then
    complete d record recoveryBlocked instant
  else
    send d record prepared.2 adapter instant

-- from here on, these programs are unfolded by name and never by evaluation
attribute [irreducible] prepare complete send dispatch

end ProviderSubmissionCoordinator

/-! ## The relay -/

/-- The constructor arguments of `OutboxRelay`. -/
structure OutboxRelay where
  workerId : String
  leaseSeconds : Int
  maxAttempts : Int

namespace OutboxRelay

variable (relay : OutboxRelay)

/-- Publish one claimed event and record how it went. -/
def publishOne (instant : Instant) (row : OutboxRecord) : Code OutboxRecord := do
  let sent ← (Code.publish row.eventId row.signedEvent.toDict).outcome
  match sent with
  | .ok _ => Code.markPublished row.eventId relay.workerId instant
  | .error exn =>
    let delay := min 300 (2 ^ min row.deliveryAttempts 8)
    Code.reschedule row.eventId relay.workerId instant (instant + seconds delay) exn.className
      relay.maxAttempts

/-- The loop over the claimed events. -/
def publishAll (instant : Instant) : List OutboxRecord → Code (List OutboxRecord)
  | [] => return []
  | row :: rows => do
    let outcome ← publishOne relay instant row
    let rest ← publishAll instant rows
    return outcome :: rest

/-- `publish_batch`. -/
def publishBatch (limit : Int) (at_ : Datetime) : Code (List OutboxRecord) := do
  let instant ← requireAware "provider-operation timestamp" at_
  let claimed ← Code.claimOutbox relay.workerId instant relay.leaseSeconds limit
  publishAll relay instant claimed

end OutboxRelay

end RailOne
