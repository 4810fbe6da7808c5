import RailOneCore.Crypto.SignatureService

/-!
# The callback inbox

Every provider callback is recorded once under its provider and event identifier, with the digest of
its normalised payload, and marked when its effects have been applied.
-/

namespace RailOne

open Ordered

inductive CallbackState
  | received | applied
  deriving DecidableEq, Repr

/-- A recorded callback. -/
structure CallbackInboxRecord where
  providerId : String
  providerEventId : String
  payloadSha256 : String
  normalizedPayload : Fields
  signatureValid : Bool
  state : CallbackState
  receivedAt : Instant
  appliedAt : Option Instant
  deriving DecidableEq, Repr

/-- `InMemoryCallbackInboxStore`. -/
structure InboxStore where
  records : Dict (String × String) CallbackInboxRecord

namespace InboxStore

/-- The inbox without callbacks. -/
def empty : InboxStore := ⟨.empty⟩

/-- `ingest`.  The Boolean says whether the callback was known. -/
def ingest (st : InboxStore) (providerId providerEventId payloadSha256 : String)
    (normalizedPayload : Fields) (signatureValid : Bool) (receivedAt : Instant) :
    Except Exn ((CallbackInboxRecord × Bool) × InboxStore) :=
  match st.records.get? (providerId, providerEventId) with
  | some existing =>
    if existing.payloadSha256 ≠ payloadSha256 then
      .error ⟨.callbackPayloadConflict,
        "provider callback identifier was reused with different material"⟩
    else .ok ((existing, true), st)
  | none =>
    let record : CallbackInboxRecord :=
      { providerId, providerEventId, payloadSha256, normalizedPayload, signatureValid
        state := .received, receivedAt, appliedAt := none }
    .ok ((record, false), ⟨st.records.set (providerId, providerEventId) record⟩)

/-- `mark_applied`. -/
def markApplied (st : InboxStore) (providerId providerEventId : String) (at_ : Instant) :
    Except Exn (CallbackInboxRecord × InboxStore) :=
  match st.records.get? (providerId, providerEventId) with
  | none => .error ⟨.lookupError, "provider callback not found"⟩
  | some record =>
    if record.state = .applied then .ok (record, st)
    else
      let updated := { record with state := .applied, appliedAt := some at_ }
      .ok (updated, ⟨st.records.set (providerId, providerEventId) updated⟩)

end InboxStore

end RailOne
