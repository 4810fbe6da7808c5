import RailOneCore.Crypto.SignatureService

/-!
# Provider outcome projections

The read model of provider progress: one projection for each submission, and the payload digest of
every consumed event.
-/

namespace RailOne

open Ordered

inductive ProviderProgressState
  | prepared | dispatching | acceptedForProcessing | rejected | outcomeUnknown
  deriving DecidableEq, Repr

/-- `_STATE_BY_EVENT`. -/
def ProviderProgressState.ofEventType : String → Option ProviderProgressState
  | "PROVIDER_SUBMISSION_PREPARED" => some .prepared
  | "PROVIDER_DISPATCH_STARTED" => some .dispatching
  | "PROVIDER_SUBMISSION_ACCEPTED" => some .acceptedForProcessing
  | "PROVIDER_SUBMISSION_REJECTED" => some .rejected
  | "PROVIDER_SUBMISSION_OUTCOME_UNKNOWN" => some .outcomeUnknown
  | _ => none

/-- What the read model says about a submission.  The three fields copied out of the event data keep
the type of the data; `null` is `None`. -/
structure ProviderOutcomeProjection where
  submissionId : String
  uttId : String
  rttId : String
  providerId : String
  state : ProviderProgressState
  normalizedCode : Json
  externalReference : Json
  rejectionDisposition : Json
  submissionVersion : Int
  sourceEventId : String
  occurredAt : Instant
  projectedAt : Instant
  deriving DecidableEq, Repr

/-- `InMemoryProviderOutcomeProjectionStore`. -/
structure ProjectionStore where
  eventHashes : Dict String String
  projections : Dict String ProviderOutcomeProjection

namespace ProjectionStore

/-- The store without projections. -/
def empty : ProjectionStore := ⟨.empty, .empty⟩

/-- `apply`: an event counts once, and the projection of the highest version wins. -/
def apply (st : ProjectionStore) (eventId eventPayloadSha256 : String)
    (projection : ProviderOutcomeProjection) : Except Exn (Bool × ProjectionStore) :=
  match st.eventHashes.get? eventId with
  | some priorHash =>
    if priorHash ≠ eventPayloadSha256 then
      .error ⟨.projectionEventConflict,
        "event identifier was reused with different signed material"⟩
    else .ok (false, st)
  | none =>
    let replaces : Bool :=
      match st.projections.get? projection.submissionId with
      | none => true
      | some current => current.submissionVersion < projection.submissionVersion
    .ok (true,
      { eventHashes := st.eventHashes.set eventId eventPayloadSha256
        projections :=
          if replaces then st.projections.set projection.submissionId projection
          else st.projections })

end ProjectionStore

end RailOne
