import RailOneCore.Institutions.Models
import RailOneCore.Foundation.Runtime

/-!
# Certification traces

The trace that a certification driver returns for a scenario: events with contiguous sequence numbers,
all of one scenario and one adapter version, under identifiers derived from their content.  A trace or
an event that its constructor would refuse cannot be built.
-/

namespace RailOne

/-- The scenarios of the partner suite. -/
inductive CertificationScenario
  | p2pSettled | merchantSupplierSettled | crossBorderSettled | duplicateSubmission
  | unknownThenReconciled | tamperedCallbackRejected | duplicateCallbackExactlyOnce
  | settlementAmountMismatchRejected | historyAccessControl | smsFinalityGate | adapterVersionPin
  deriving DecidableEq, Repr

/-- The text of a scenario. -/
def CertificationScenario.value : CertificationScenario → String
  | .p2pSettled => "P2P_SETTLED"
  | .merchantSupplierSettled => "MERCHANT_SUPPLIER_SETTLED"
  | .crossBorderSettled => "CROSS_BORDER_SETTLED"
  | .duplicateSubmission => "DUPLICATE_SUBMISSION"
  | .unknownThenReconciled => "UNKNOWN_THEN_RECONCILED"
  | .tamperedCallbackRejected => "TAMPERED_CALLBACK_REJECTED"
  | .duplicateCallbackExactlyOnce => "DUPLICATE_CALLBACK_EXACTLY_ONCE"
  | .settlementAmountMismatchRejected => "SETTLEMENT_AMOUNT_MISMATCH_REJECTED"
  | .historyAccessControl => "HISTORY_ACCESS_CONTROL"
  | .smsFinalityGate => "SMS_FINALITY_GATE"
  | .adapterVersionPin => "ADAPTER_VERSION_PIN"

/-- The kinds of events in a trace. -/
inductive TraceEventType
  | intentAccepted | uttCreated | fxQuoteBound | historyIndexed | planCreated | rttCreated
  | adapterBindingVerified | adapterBindingMismatchRejected | providerDispatched | providerAccepted
  | idempotentReplayReturned | outcomeUnknown | reconciliationRequired | callbackAccepted
  | callbackRejected | externalEvidenceVerified | externalEvidenceRejected | rttSucceeded | rttFailed
  | planFinalized | smsBlockedBeforeFinality | smsPrepared | smsSent | historyReadAllowed
  | historyReadDenied
  deriving DecidableEq, Repr

/-- The text of an event type. -/
def TraceEventType.value : TraceEventType → String
  | .intentAccepted => "INTENT_ACCEPTED"
  | .uttCreated => "UTT_CREATED"
  | .fxQuoteBound => "FX_QUOTE_BOUND"
  | .historyIndexed => "HISTORY_INDEXED"
  | .planCreated => "PLAN_CREATED"
  | .rttCreated => "RTT_CREATED"
  | .adapterBindingVerified => "ADAPTER_BINDING_VERIFIED"
  | .adapterBindingMismatchRejected => "ADAPTER_BINDING_MISMATCH_REJECTED"
  | .providerDispatched => "PROVIDER_DISPATCHED"
  | .providerAccepted => "PROVIDER_ACCEPTED"
  | .idempotentReplayReturned => "IDEMPOTENT_REPLAY_RETURNED"
  | .outcomeUnknown => "OUTCOME_UNKNOWN"
  | .reconciliationRequired => "RECONCILIATION_REQUIRED"
  | .callbackAccepted => "CALLBACK_ACCEPTED"
  | .callbackRejected => "CALLBACK_REJECTED"
  | .externalEvidenceVerified => "EXTERNAL_EVIDENCE_VERIFIED"
  | .externalEvidenceRejected => "EXTERNAL_EVIDENCE_REJECTED"
  | .rttSucceeded => "RTT_SUCCEEDED"
  | .rttFailed => "RTT_FAILED"
  | .planFinalized => "PLAN_FINALIZED"
  | .smsBlockedBeforeFinality => "SMS_BLOCKED_BEFORE_FINALITY"
  | .smsPrepared => "SMS_PREPARED"
  | .smsSent => "SMS_SENT"
  | .historyReadAllowed => "HISTORY_READ_ALLOWED"
  | .historyReadDenied => "HISTORY_READ_DENIED"

/-! ## Checked text -/

/-- `[0-9]+\.[0-9]+\.[0-9]+(?:[-+][0-9A-Za-z.-]+)?`. -/
def isVersion (l : List Char) : Bool :=
  let (major, rest) := l.span Char.isDigit
  let (minor, rest') := (rest.drop 1).span Char.isDigit
  let (patch, suffix) := (rest'.drop 1).span Char.isDigit
  !major.isEmpty && rest.head? == some '.' && !minor.isEmpty && rest'.head? == some '.' &&
    !patch.isEmpty &&
    match suffix with
    | [] => true
    | c :: t => (c == '-' || c == '+') && !t.isEmpty &&
      t.all fun d => d.isAlphanum || d == '.' || d == '-'

/-- `_BINDING_REF.fullmatch(text)`: an identifier, an at sign and a version.  The identifier has no at
sign, so the first one separates the two. -/
def isBindingRef (s : String) : Bool :=
  let (identifier, rest) := s.toList.span fun c => c != '@'
  match identifier, rest with
  | first :: more, _ :: version =>
    first.isAlphanum && 1 ≤ more.length && more.length ≤ 127 &&
      more.all (fun c => c.isAlphanum || c == '.' || c == '_' || c == ':' || c == '-') &&
      isVersion version
  | _, _ => false

/-- `_SAFE_METADATA_KEYS`. -/
def safeMetadataKeys : List String :=
  ["actor_scope", "channel", "corridor", "currency_from", "currency_to", "finality", "outcome",
    "provider_code", "recipient_role", "replayed", "route_id", "transport", "verification"]

/-! ## Events -/

/-- What an event says, with what its constructor checks. -/
structure TraceEventCore where
  scenario : CertificationScenario
  eventType : TraceEventType
  occurredAt : Instant
  sequence : ℕ
  adapterBindingRef : String
  uttId : Option String
  rttId : Option String
  evidenceSha256 : Option String
  metadata : List (String × String)
  sequence_pos : 1 ≤ sequence
  binding : isBindingRef adapterBindingRef = true
  digest : ∀ d ∈ evidenceSha256, InstitutionExecutionInstruction.isDigest d = true
  sorted : metadata.Pairwise fun a b => a.1 < b.1
  safe : ∀ p ∈ metadata, p.1 ∈ safeMetadataKeys
  bounded : ∀ p ∈ metadata, p.2 ≠ "" ∧ p.2.length ≤ 128
  deriving DecidableEq

/-- `_event_material`. -/
def TraceEventCore.material (e : TraceEventCore) : Fields :=
  [("scenario", .str e.scenario.value), ("event_type", .str e.eventType.value),
    ("occurred_at", .int (epochSeconds e.occurredAt)), ("sequence", .int e.sequence),
    ("utt_id", .ofOption e.uttId), ("rtt_id", .ofOption e.rttId),
    ("adapter_binding_ref", .str e.adapterBindingRef),
    ("evidence_sha256", .ofOption e.evidenceSha256),
    ("metadata", .obj (e.metadata.map fun p => (p.1, .str p.2)))]

/-- `CertificationTraceEvent`: its identifier is derived from its content. -/
structure CertificationTraceEvent (rt : Runtime) extends TraceEventCore where
  eventId : String
  id_eq : rt.contentId "CERT-EVT" (.obj toTraceEventCore.material) = .ok eventId
  deriving DecidableEq

/-- `CertificationTraceEvent.to_payload`. -/
def CertificationTraceEvent.toPayload {rt : Runtime} (e : CertificationTraceEvent rt) : Json :=
  .obj (("event_id", .str e.eventId) :: e.material)

theorem TraceEventCore.accepted_material (e : TraceEventCore) :
    CanonicalJson.AcceptedFields e.material := by
  have hoption : ∀ s, CanonicalJson.Accepted (Json.ofOption s) := fun s => by cases s <;> trivial
  have hmetadata : CanonicalJson.AcceptedFields (e.metadata.map fun p => (p.1, Json.str p.2)) := by
    rw [CanonicalJson.acceptedFields_iff]
    intro f hf
    obtain ⟨p, -, rfl⟩ := List.mem_map.mp hf
    trivial
  exact ⟨trivial, trivial, trivial, trivial, hoption _, hoption _, trivial, hoption _, hmetadata,
    trivial⟩

/-- Accepted JSON has a content identifier. -/
theorem Runtime.contentId_of_accepted (rt : Runtime) (tag : String) {payload : Json}
    (h : CanonicalJson.Accepted payload) : rt.contentId tag payload =
      .ok (tag ++ "-" ++ rt.shortDigest (utf8Bytes (CanonicalJson.dumps
        (CanonicalJson.sortKeys payload)))) :=
  rt.contentId_eq_ok.mpr ⟨_, canonicalJsonBytes_eq_ok.mpr ⟨h, rfl⟩, rfl⟩

/-- `CertificationTraceEvent.create`. -/
def CertificationTraceEvent.create (rt : Runtime) (core : TraceEventCore) :
    CertificationTraceEvent rt where
  toTraceEventCore := core
  eventId := _
  id_eq := rt.contentId_of_accepted "CERT-EVT" core.accepted_material

/-! ## Traces -/

/-- What a trace says, with what its constructor checks. -/
structure TraceCore (rt : Runtime) where
  runId : String
  scenario : CertificationScenario
  adapterBindingRef : String
  startedAt : Instant
  completedAt : Instant
  events : List (CertificationTraceEvent rt)
  in_time : startedAt ≤ completedAt
  nonempty : events ≠ []
  contiguous : events.map (fun e => e.sequence) = List.range' 1 events.length
  scenarios : ∀ e ∈ events, e.scenario = scenario
  bindings : ∀ e ∈ events, e.adapterBindingRef = adapterBindingRef
  deriving DecidableEq

/-- The material of the identifier of a trace. -/
def TraceCore.material {rt : Runtime} (t : TraceCore rt) : Fields :=
  [("run_id", .str t.runId), ("scenario", .str t.scenario.value),
    ("adapter_binding_ref", .str t.adapterBindingRef),
    ("started_at", .int (epochSeconds t.startedAt)),
    ("completed_at", .int (epochSeconds t.completedAt)),
    ("events", .arr (t.events.map CertificationTraceEvent.toPayload))]

/-- `CertificationTrace`. -/
structure CertificationTrace (rt : Runtime) extends TraceCore rt where
  traceId : String
  id_eq : rt.contentId "CERT-TRACE" (.obj toTraceCore.material) = .ok traceId
  deriving DecidableEq

theorem TraceCore.accepted_material {rt : Runtime} (t : TraceCore rt) :
    CanonicalJson.AcceptedFields t.material := by
  have hevents : CanonicalJson.AcceptedItems (t.events.map CertificationTraceEvent.toPayload) := by
    induction t.events with
    | nil => trivial
    | cons e l ih => exact ⟨⟨trivial, e.accepted_material⟩, ih⟩
  exact ⟨trivial, trivial, trivial, trivial, trivial, hevents, trivial⟩

/-- `CertificationTrace.create`. -/
def CertificationTrace.create {rt : Runtime} (core : TraceCore rt) : CertificationTrace rt where
  toTraceCore := core
  traceId := _
  id_eq := rt.contentId_of_accepted "CERT-TRACE" core.accepted_material

end RailOne
