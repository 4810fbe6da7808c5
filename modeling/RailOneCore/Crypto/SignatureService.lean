import RailOneCore.Foundation.Runtime
import RailOneCore.Library.Dict

/-!
# Signing keys and signed artifacts

The key provider holds key records, with their purpose, status and validity window, and the private
keys.  `signArtifact` signs the canonical bytes of a protected header and a payload under a key whose
purpose fits the artifact type; `verifyArtifact` recomputes all of it from an untrusted envelope and
turns value, type and signature errors into an invalid result.
-/

namespace RailOne

open Ordered

/-! ## Key records -/

/-- What a key may sign. -/
inductive KeyPurpose
  | quoteSigning | executionSigning | identitySigning | settlementSigning | replaySigning
  | accessTokenSigning | apiAuditSigning
  deriving DecidableEq, Repr

/-- The text of a purpose in messages. -/
def KeyPurpose.value : KeyPurpose → String
  | .quoteSigning => "QUOTE_SIGNING"
  | .executionSigning => "EXECUTION_SIGNING"
  | .identitySigning => "IDENTITY_SIGNING"
  | .settlementSigning => "SETTLEMENT_SIGNING"
  | .replaySigning => "REPLAY_SIGNING"
  | .accessTokenSigning => "ACCESS_TOKEN_SIGNING"
  | .apiAuditSigning => "API_AUDIT_SIGNING"

inductive KeyStatus
  | active | retired | revoked
  deriving DecidableEq, Repr

/-- The public record of a key.  A record whose window is empty cannot be built. -/
structure KeyRecord where
  keyId : String
  ownerId : String
  purpose : KeyPurpose
  publicKey : ByteArray
  status : KeyStatus
  notBefore : Instant
  notAfter : Instant
  window : notBefore < notAfter

/-- `KeyRecord.permits_signing_at`. -/
def KeyRecord.permitsSigningAt (record : KeyRecord) (instant : Instant) : Bool :=
  record.status == .active && record.notBefore ≤ instant && instant < record.notAfter

/-- `InMemoryEd25519KeyProvider`. -/
structure KeyProvider where
  records : Dict String KeyRecord
  privateKeys : Dict String ByteArray

namespace KeyProvider

/-- `get_key_record`. -/
def getKeyRecord (keys : KeyProvider) (keyId : String) : Option KeyRecord := keys.records.get? keyId

/-- `sign`. -/
def sign (rt : Runtime) (keys : KeyProvider) (keyId : String) (message : ByteArray) :
    Except Exn ByteArray :=
  match keys.privateKeys.get? keyId with
  | some key => .ok (rt.ed25519Sign key message)
  | none => .error ⟨.keyError, "signing key not found: " ++ keyId⟩

/-- The provider without keys. -/
def empty : KeyProvider := ⟨.empty, .empty⟩

/-- `generate`, with the private key that the library draws.  The length check on raw public keys is
left out: the library's are 32 bytes long. -/
def generate (rt : Runtime) (keys : KeyProvider) (privateKey : ByteArray) (keyId ownerId : String)
    (purpose : KeyPurpose) (notBefore notAfter : Instant) : Except Exn KeyProvider :=
  match keys.records.get? keyId with
  | some _ => .error ⟨.valueError, "duplicate key_id: " ++ keyId⟩
  | none =>
    if window : notBefore < notAfter then
      .ok
        { records := keys.records.set keyId
            { keyId, ownerId, purpose, publicKey := rt.publicKey privateKey, status := .active,
              notBefore, notAfter, window }
          privateKeys := keys.privateKeys.set keyId privateKey }
    else .error ⟨.valueError, "not_after must be later than not_before"⟩

/-- `_require_record`. -/
def requireRecord (keys : KeyProvider) (keyId : String) : Except Exn KeyRecord :=
  match keys.getKeyRecord keyId with
  | some record => .ok record
  | none => .error ⟨.keyError, "key record not found: " ++ keyId⟩

/-- The update that `retire` and `revoke` make: the record changes its status and the private key is
dropped. -/
def withStatus (keys : KeyProvider) (keyId : String) (record : KeyRecord) (status : KeyStatus) :
    KeyProvider where
  records := keys.records.set keyId { record with status }
  privateKeys := keys.privateKeys.erase keyId

/-- `retire`. -/
def retire (keys : KeyProvider) (keyId : String) : Except Exn KeyProvider := do
  let record ← keys.requireRecord keyId
  return keys.withStatus keyId record .retired

/-- `revoke`. -/
def revoke (keys : KeyProvider) (keyId reason : String) : Except Exn KeyProvider := do
  require (strip reason ≠ "") ⟨.valueError, "revocation reason is required"⟩
  let record ← keys.requireRecord keyId
  return keys.withStatus keyId record .revoked

end KeyProvider

/-! ## Artifacts -/

/-- The domain of a signed artifact. -/
inductive ArtifactType
  | quote | utt | rtt | etkS | etkR | executionEvent | identityAttestation | settlementEvidence
  | replayCheckpoint | apiRequestAudit | institutionCapabilityManifest
  | partnerCertificationReport
  deriving DecidableEq, Repr

namespace ArtifactType

/-- The `typ` of the protected header. -/
def value : ArtifactType → String
  | .quote => "railone.quote"
  | .utt => "railone.utt"
  | .rtt => "railone.rtt"
  | .etkS => "railone.etk_s"
  | .etkR => "railone.etk_r"
  | .executionEvent => "railone.execution_event"
  | .identityAttestation => "railone.identity_attestation"
  | .settlementEvidence => "railone.settlement_evidence"
  | .replayCheckpoint => "railone.replay_checkpoint"
  | .apiRequestAudit => "railone.api_request_audit"
  | .institutionCapabilityManifest => "railone.institution_capability_manifest"
  | .partnerCertificationReport => "railone.partner_certification_report"

/-- All artifact types. -/
def all : List ArtifactType :=
  [.quote, .utt, .rtt, .etkS, .etkR, .executionEvent, .identityAttestation, .settlementEvidence,
    .replayCheckpoint, .apiRequestAudit, .institutionCapabilityManifest,
    .partnerCertificationReport]

/-- `ArtifactType(value)`: the type with this value, if there is one. -/
def ofValue (s : String) : Option ArtifactType := all.find? fun t => t.value == s

theorem ofValue_value (t : ArtifactType) : ofValue t.value = some t := by
  cases t <;> decide

/-- `_PURPOSE_BY_ARTIFACT`. -/
def purpose : ArtifactType → KeyPurpose
  | .quote => .quoteSigning
  | .utt | .rtt | .etkS | .etkR | .executionEvent => .executionSigning
  | .identityAttestation => .identitySigning
  | .settlementEvidence => .settlementSigning
  | .replayCheckpoint => .replaySigning
  | .apiRequestAudit => .apiAuditSigning
  | .institutionCapabilityManifest | .partnerCertificationReport => .executionSigning

end ArtifactType

/-- A signed artifact.  `header` is the protected header. -/
structure SignatureEnvelope where
  header : Fields
  payload : Fields
  signature : String
  deriving DecidableEq, Repr, Inhabited

/-- `SignatureEnvelope.to_dict`. -/
def SignatureEnvelope.toDict (e : SignatureEnvelope) : Json :=
  .obj [("protected", .obj e.header), ("payload", .obj e.payload), ("signature", .str e.signature)]

/-- The outcome of a verification. -/
structure VerificationResult where
  valid : Bool
  reason : String
  keyId : Option String
  artifactType : Option ArtifactType
  deriving DecidableEq, Repr

namespace SignatureService

variable (rt : Runtime) (keys : KeyProvider)

/-- `_signing_input`. -/
def signingInput (header payload : Fields) : Except Exn ByteArray := do
  let body ← canonicalJsonBytes (.obj [("protected", .obj header), ("payload", .obj payload)])
  return "RAILONE-SIGNED-ARTIFACT-V1\x00".toUTF8 ++ body

/-- The protected header of an artifact signed under `record` at `instant`. -/
def protectedHeader (record : KeyRecord) (artifactType : ArtifactType) (instant : Instant)
    (payloadHash : String) : Fields :=
  [("alg", .str "EdDSA"), ("crv", .str "Ed25519"), ("kid", .str record.keyId),
    ("iss", .str record.ownerId), ("typ", .str artifactType.value), ("v", .int 1),
    ("iat", .int (epochSeconds instant)), ("payload_sha256", .str payloadHash)]

/-- `sign_artifact`. -/
def signArtifact (artifactType : ArtifactType) (payload : Fields) (keyId : String)
    (issuedAt : Instant) : Except Exn SignatureEnvelope :=
  match keys.getKeyRecord keyId with
  | none => .error ⟨.keyError, "unknown signing key: " ++ keyId⟩
  | some record =>
    if record.purpose ≠ artifactType.purpose then
      .error ⟨.permissionError,
        "key purpose " ++ record.purpose.value ++ " cannot sign " ++ artifactType.value⟩
    else if ¬ record.permitsSigningAt issuedAt then
      .error ⟨.permissionError, "key is not active for the requested issue time"⟩
    else do
      let payloadHash ← rt.payloadSha256 (.obj payload)
      let header := protectedHeader record artifactType issuedAt payloadHash
      let message ← signingInput header payload
      let signature ← keys.sign rt keyId message
      return ⟨header, payload, rt.b64urlEncode signature⟩

/-- `value == 1`, which also holds of `True` and of `1.0`. -/
def isOne : Option Json → Bool
  | some (.int n) => n == 1
  | some (.bool b) => b
  | some (.float literal) => rt.floatIsOne literal
  | _ => false

/-- The body of the `try` block of `verify_artifact`. -/
def checkArtifact (e : SignatureEnvelope) (expected : Option ArtifactType)
    (acceptRevoked : Bool) : Except Exn VerificationResult :=
  if e.header.get "alg" ≠ some (.str "EdDSA") ∨ e.header.get "crv" ≠ some (.str "Ed25519") then
    .ok ⟨false, "UNSUPPORTED_ALGORITHM", none, none⟩
  else if ¬ isOne rt (e.header.get "v") then
    .ok ⟨false, "UNSUPPORTED_SIGNATURE_VERSION", none, none⟩
  else match e.header.get "kid" with
  | some (.str keyId) =>
    if keyId = "" then .ok ⟨false, "KEY_ID_MISSING", none, none⟩
    else match (match e.header.get "typ" with
      | some (.str typ) => ArtifactType.ofValue typ
      | _ => none) with
    | none => .ok ⟨false, "ARTIFACT_TYPE_INVALID", some keyId, none⟩
    | some artifactType =>
      if expected ≠ none ∧ expected ≠ some artifactType then
        .ok ⟨false, "ARTIFACT_TYPE_MISMATCH", some keyId, some artifactType⟩
      else match keys.getKeyRecord keyId with
      | none => .ok ⟨false, "KEY_NOT_FOUND", some keyId, some artifactType⟩
      | some record =>
        if e.header.get "iss" ≠ some (.str record.ownerId) then
          .ok ⟨false, "ISSUER_MISMATCH", some keyId, some artifactType⟩
        else if record.purpose ≠ artifactType.purpose then
          .ok ⟨false, "KEY_PURPOSE_MISMATCH", some keyId, some artifactType⟩
        else if record.status = .revoked ∧ ¬ acceptRevoked then
          .ok ⟨false, "KEY_REVOKED", some keyId, some artifactType⟩
        else match (match e.header.get "iat" with
          | some (.int n) => some n
          | some (.bool b) => some (if b then 1 else 0)
          | _ => none) with
        | none => .ok ⟨false, "ISSUED_AT_INVALID", some keyId, some artifactType⟩
        | some issuedAtRaw => do
          let issuedAt ← fromTimestamp issuedAtRaw
          if ¬ (record.notBefore ≤ issuedAt ∧ issuedAt < record.notAfter) then
            return ⟨false, "KEY_NOT_VALID_AT_ISSUANCE", some keyId, some artifactType⟩
          else
            let actualHash ← rt.payloadSha256 (.obj e.payload)
            match e.header.get "payload_sha256" with
            | some (.str expectedHash) =>
              -- `hmac.compare_digest` refuses text that is not ASCII
              if expectedHash.toList.any fun c => 128 ≤ c.toNat then
                .error ⟨.typeError, "comparing strings with non-ASCII characters is not supported"⟩
              else if actualHash ≠ expectedHash then
                return ⟨false, "PAYLOAD_HASH_MISMATCH", some keyId, some artifactType⟩
              else
                let signature ← rt.b64urlDecode e.signature
                let message ← signingInput e.header e.payload
                if rt.ed25519Verify record.publicKey signature message then
                  return ⟨true, "VALID", some keyId, some artifactType⟩
                else return ⟨false, "SIGNATURE_INVALID", none, none⟩
            | _ => return ⟨false, "PAYLOAD_HASH_MISMATCH", some keyId, some artifactType⟩
  | _ => .ok ⟨false, "KEY_ID_MISSING", none, none⟩

/-- `verify_artifact`: value, type and signature errors make the artifact invalid, other exceptions
propagate. -/
def verifyArtifact (e : SignatureEnvelope) (expected : Option ArtifactType)
    (acceptRevoked : Bool) : Except Exn VerificationResult :=
  match checkArtifact rt keys e expected acceptRevoked with
  | .ok result => .ok result
  | .error exn =>
    if exn.isValueError || exn.kind == .typeError then
      .ok ⟨false, "SIGNATURE_INVALID", none, none⟩
    else .error exn

/-! ## What a signed artifact says -/

variable {rt keys}

/-- A signed artifact carries the payload it was made from, and the digest of that payload under
`payload_sha256`. -/
theorem signArtifact_eq_ok {artifactType : ArtifactType} {payload : Fields} {keyId : String}
    {issuedAt : Instant} {e : SignatureEnvelope}
    (h : signArtifact rt keys artifactType payload keyId issuedAt = .ok e) :
    e.payload = payload ∧
      ∃ hash, rt.payloadSha256 (.obj payload) = .ok hash ∧
        e.header.get "payload_sha256" = some (.str hash) := by
  unfold signArtifact at h
  split at h
  · cases h
  · split_ifs at h with h₁ h₂
    cases hhash : rt.payloadSha256 (.obj payload) with
    | error exn => rw [hhash] at h; cases h
    | ok hash =>
      rw [hhash] at h
      simp only [bind, Except.bind] at h
      split at h
      · cases h
      · split at h
        · cases h
        · cases h
          exact ⟨rfl, hash, rfl, rfl⟩

/-- The key can sign artifacts of the type at the instant. -/
def Signs (keys : KeyProvider) (artifactType : ArtifactType) (keyId : String) (at_ : Instant) : Prop :=
  ∃ record key, keys.getKeyRecord keyId = some record ∧ record.purpose = artifactType.purpose ∧
    record.permitsSigningAt at_ = true ∧ keys.privateKeys.get? keyId = some key

end SignatureService

end RailOne
