import RailOneCore.Foundation.Runtime
import RailOneCore.Projection.Store

/-!
# The projector of provider outcomes

The code of `SignedProviderOutcomeProjector`.  A delivered event counts when its signature verifies and
its identifier is the one of its content; what it says is then handed to the store, which takes every
event once and keeps the projection of the highest version.
-/

namespace RailOne

mutual

/-- The value, frozen inside an envelope, can be looked up in a dictionary: no mapping is in it. -/
def hashable : Json → Bool
  | .obj _ => false
  | .arr items => hashableItems items
  | _ => true

/-- All items can be looked up in a dictionary. -/
def hashableItems : List Json → Bool
  | [] => true
  | a :: t => hashable a && hashableItems t

end

namespace SignedProviderOutcomeProjector

variable (rt : Runtime) (keys : KeyProvider)

/-- The state that an event of this type announces. -/
def stateOf (eventType : Option Json) : Except Exn ProviderProgressState :=
  let value := eventType.getD .null
  if ¬ hashable value then .error ⟨.typeError, "unhashable type: 'dict'"⟩
  else
    let unsupported : Exn := ⟨.valueError, "unsupported provider execution event: " ++ rt.str value⟩
    match value with
    | .str name =>
      match ProviderProgressState.ofEventType name with
      | some state => .ok state
      | none => .error unsupported
    | _ => .error unsupported

/-- `int(payload["submission_version"])`. -/
def versionOf : Json → Except Exn Int
  | .int n => .ok n
  | .bool b => .ok (if b then 1 else 0)
  | .str s => rt.parseInt s
  -- floating-point numbers never get here: the encoder has refused them
  | _ => .error ⟨.typeError, "int() argument must be a string, a bytes-like object or a real number"⟩

/-- The payload without its event identifier. -/
def coreOf (payload : Fields) : Fields := payload.filter fun f => f.1 ≠ "event_id"

/-- What `project` hands to the store: the identifier of the event, the digest of its payload, and the
projection. -/
def read (envelope : SignatureEnvelope) (at_ : Datetime) :
    Except Exn (String × String × ProviderOutcomeProjection) := do
  let verification ← SignatureService.verifyArtifact rt keys envelope (some .executionEvent) false
  require (verification.valid = true)
    ⟨.permissionError, "execution event rejected: " ++ verification.reason⟩
  let payload := envelope.payload
  let eventId : String ← match payload.get "event_id" with
    | some (.str eventId) =>
      if eventId = "" then .error ⟨.valueError, "execution event_id is required"⟩ else .ok eventId
    | _ => .error ⟨.valueError, "execution event_id is required"⟩
  let state ← stateOf rt (payload.get "event_type")
  let expectedEventId ← rt.contentId "EVT" (.obj (coreOf payload))
  require (eventId = expectedEventId)
    ⟨.permissionError, "execution event content identifier mismatch"⟩
  let data : Fields ← match payload.get "data" with
    | some (.obj data) => .ok data
    | _ => .error ⟨.valueError, "execution event data must be an object"⟩
  let occurredEpoch : Int ← match payload.get "occurred_at" with
    | some (.int n) => .ok n
    | _ => .error ⟨.valueError, "execution event occurred_at must be an epoch integer"⟩
  let instant ← requireAware "projection timestamp" at_
  let submissionId := rt.str (← payload.item "aggregate_id")
  let uttId := rt.str (← payload.item "utt_id")
  let rttId := rt.str (← payload.item "rtt_id")
  let providerId := rt.str (← payload.item "provider_id")
  let submissionVersion ← versionOf rt (← payload.item "submission_version")
  let occurredAt ← fromTimestamp occurredEpoch
  let eventPayloadSha256 := rt.str (← envelope.header.item "payload_sha256")
  return (eventId, eventPayloadSha256,
    { submissionId, uttId, rttId, providerId, state
      normalizedCode := (data.get "code").getD .null
      externalReference := (data.get "external_reference").getD .null
      rejectionDisposition := (data.get "rejection_disposition").getD .null
      submissionVersion, sourceEventId := eventId, occurredAt, projectedAt := instant })

/-- `project`. -/
def project (st : ProjectionStore) (envelope : SignatureEnvelope) (at_ : Datetime) :
    Except Exn ((ProviderOutcomeProjection × Bool) × ProjectionStore) := do
  let (eventId, eventPayloadSha256, projection) ← read rt keys envelope at_
  let (applied, st') ← st.apply eventId eventPayloadSha256 projection
  return ((projection, applied), st')

end SignedProviderOutcomeProjector

end RailOne
