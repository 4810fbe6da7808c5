import RailOneCore.Crypto.SignatureService
import RailOneCore.Institutions.Models

/-!
# Identity attestations

An institution attests the identity of a subject in a signed artifact.  The verifier checks the signature
and the claims: they name the expected provider, which has signed them, and are valid at the instant.
-/

namespace RailOne

/-- `TrustTier`. -/
inductive TrustTier
  | t0 | t1 | t2 | t3 | t4 | t5
  deriving DecidableEq, Repr

/-- `TrustTier(text)`. -/
def TrustTier.ofValue : String → Except Exn TrustTier
  | "T0" => .ok .t0
  | "T1" => .ok .t1
  | "T2" => .ok .t2
  | "T3" => .ok .t3
  | "T4" => .ok .t4
  | "T5" => .ok .t5
  | text => .error ⟨.valueError, text ++ " is not a valid TrustTier"⟩

/-- `AttestationValidationResult`. -/
structure AttestationValidationResult where
  valid : Bool
  reason : String
  claims : Option Fields
  deriving DecidableEq, Repr

namespace IdentityAttestationVerifier

variable (rt : Runtime) (keys : KeyProvider)

/-- The claims that must be legible texts. -/
def requiredStrings : List String :=
  ["attestation_id", "provider_id", "provider_subject_reference", "verification_reference",
    "country_code", "verification_result", "trust_tier", "evidence_sha256"]

/-- The claim is a text that is not blank. -/
def legible (claims : Fields) (field : String) : Bool :=
  match claims.get field with
  | some (.str s) => strip s ≠ ""
  | _ => false

/-- The integer that a claim is; booleans are integers. -/
def integer : Option Json → Option Int
  | some (.int n) => some n
  | some (.bool b) => some (if b then 1 else 0)
  | _ => none

/-- The checks of the validity window. -/
def checkWindow (claims : Fields) (at_ : Instant) : AttestationValidationResult :=
  match integer (claims.get "issued_at"), integer (claims.get "expires_at") with
  | some issuedAt, some expiresAt =>
    if expiresAt ≤ issuedAt then ⟨false, "ATTESTATION_WINDOW_INVALID", none⟩
    else if epochSeconds at_ < issuedAt then ⟨false, "ATTESTATION_NOT_YET_VALID", none⟩
    else if expiresAt ≤ epochSeconds at_ then ⟨false, "ATTESTATION_EXPIRED", none⟩
    else ⟨true, "VALID", some claims⟩
  | _, _ => ⟨false, "ATTESTATION_TIME_INVALID", none⟩

/-- The checks of the claims, which `issuer` has signed. -/
def checkClaims (issuer : Option Json) (claims : Fields) (expectedProviderId : String) (at_ : Instant) :
    AttestationValidationResult :=
  match requiredStrings.find? fun field => ¬ legible claims field with
  | some field => ⟨false, rt.upper field ++ "_INVALID", none⟩
  | none =>
    if claims.get "provider_id" ≠ some (.str expectedProviderId) then
      ⟨false, "PROVIDER_MISMATCH", none⟩
    else if claims.get "provider_id" ≠ issuer then
      ⟨false, "ATTESTATION_ISSUER_MISMATCH", none⟩
    else if claims.get "verification_result" ≠ some (.str "VERIFIED") then
      ⟨false, "IDENTITY_NOT_VERIFIED", none⟩
    else match (claims.strItem "trust_tier").bind TrustTier.ofValue with
    | .error _ => ⟨false, "TRUST_TIER_INVALID", none⟩
    | .ok _ =>
      match claims.strItem "evidence_sha256" with
      | .ok digest =>
        if InstitutionExecutionInstruction.isDigest digest then checkWindow claims at_
        else ⟨false, "EVIDENCE_HASH_INVALID", none⟩
      | .error _ => ⟨false, "EVIDENCE_HASH_INVALID", none⟩

/-- `verify`. -/
def verify (envelope : SignatureEnvelope) (expectedProviderId : String) (at_ : Instant) :
    Except Exn AttestationValidationResult := do
  let result ← SignatureService.verifyArtifact rt keys envelope (some .identityAttestation) false
  if result.valid then return checkClaims rt (envelope.header.get "iss") envelope.payload expectedProviderId at_
  else return ⟨false, result.reason, none⟩

variable {rt keys} {envelope : SignatureEnvelope} {expectedProviderId : String} {at_ : Instant}
  {result : AttestationValidationResult} {claims : Fields}

theorem checkWindow_claims {claims' : Fields} (h : (checkWindow claims' at_).claims = some claims) :
    claims' = claims := by
  unfold checkWindow at h
  split at h
  · split_ifs at h
    exact Option.some.inj h
  · cases h

/-- Valid claims are the payload of the envelope, and name the expected provider. -/
theorem checkClaims_claims {issuer : Option Json} {claims' : Fields}
    (h : (checkClaims rt issuer claims' expectedProviderId at_).claims = some claims) :
    claims = claims' ∧ claims'.get "provider_id" = some (.str expectedProviderId) := by
  unfold checkClaims at h
  split at h
  · cases h
  · split_ifs at h with hprovider hissuer hverified
    refine ⟨?_, not_not.mp hprovider⟩
    split at h
    · cases h
    · split at h
      · split_ifs at h
        exact (checkWindow_claims h).symm
      · cases h

theorem verify_claims (h : verify rt keys envelope expectedProviderId at_ = .ok result)
    (hclaims : result.claims = some claims) :
    claims = envelope.payload ∧ envelope.payload.get "provider_id" = some (.str expectedProviderId) := by
  obtain ⟨signature, -, h⟩ := bind_eq_ok.mp h
  split_ifs at h
  · cases h
    exact checkClaims_claims hclaims
  · cases h
    cases hclaims

end IdentityAttestationVerifier

end RailOne
