import RailOneCore.Identity.Repository
import RailOneCore.Library.Interleaving

/-!
# The identity continuity service

`onboard` and `revise` check an attestation against the seed of an identity, derive the fingerprint of
the seed under the continuity key, and store the first or the next revision.  Between reading an identity
and storing its next revision a call holds no lock: the repository checks again what the call has
read.

`Backs` says which revisions an attestation can back.  The attestation names the seed, and so the
fingerprint: it can back revisions of one identity only.
-/

namespace RailOne

open Concurrent Ordered

/-! ## Seeds and fingerprints -/

/-- `InMemoryContinuitySecretProvider`. -/
structure ContinuitySecretProvider where
  secrets : Dict String ByteArray

/-- `register`. -/
def ContinuitySecretProvider.register (p : ContinuitySecretProvider) (keyId : String)
    (secret : ByteArray) : Except Exn ContinuitySecretProvider := do
  require (32 ≤ secret.size) ⟨.valueError, "continuity secret must contain at least 32 bytes"⟩
  require (p.secrets.get? keyId = none) ⟨.valueError, "duplicate continuity key: " ++ keyId⟩
  return ⟨p.secrets.set keyId secret⟩

/-- `derive`, in hexadecimal digits. -/
def ContinuitySecretProvider.derive (rt : Runtime) (p : ContinuitySecretProvider) (keyId : String)
    (message : ByteArray) : Except Exn String :=
  match p.secrets.get? keyId with
  | some secret => .ok (rt.hmacSha256 secret message)
  | none => .error ⟨.keyError, "continuity key not found: " ++ keyId⟩

/-- `IdentitySeed`. -/
structure IdentitySeed where
  providerId : String
  providerSubjectReference : String
  countryCode : String
  deriving DecidableEq, Repr

/-- The dictionary of a canonical seed. -/
def IdentitySeed.toJson (seed : IdentitySeed) : Json :=
  .obj [("provider_id", .str seed.providerId),
    ("provider_subject_reference", .str seed.providerSubjectReference),
    ("country_code", .str seed.countryCode)]

/-- Canonical seeds are determined by their bytes. -/
theorem IdentitySeed.eq_of_bytes_eq {seed seed' : IdentitySeed} {bytes : ByteArray}
    (h : canonicalJsonBytes seed.toJson = .ok bytes) (h' : canonicalJsonBytes seed'.toJson = .ok bytes) :
    seed = seed' := by
  have hget := get_of_canonicalJsonBytes_eq (by simp) (by simp) h h'
  have hprovider : seed.providerId = seed'.providerId := by
    simpa [Fields.get, List.lookup, CanonicalJson.sortKeys] using hget "provider_id"
  have hsubject : seed.providerSubjectReference = seed'.providerSubjectReference := by
    simpa [Fields.get, List.lookup, CanonicalJson.sortKeys] using hget "provider_subject_reference"
  have hcountry : seed.countryCode = seed'.countryCode := by
    simpa [Fields.get, List.lookup, CanonicalJson.sortKeys] using hget "country_code"
  obtain ⟨_, _, _⟩ := seed
  obtain ⟨_, _, _⟩ := seed'
  obtain rfl := hprovider
  obtain rfl := hsubject
  obtain rfl := hcountry
  rfl

/-- What the service is constructed with: the continuity key and its secrets, and the library's
`unicodedata.normalize("NFKC", ·)`. -/
structure ContinuityDeployment where
  rt : Runtime
  nfkc : String → String
  continuityKeyId : String
  secrets : ContinuitySecretProvider

/-- The digits of base32. -/
def base32Alphabet : List Char := "ABCDEFGHIJKLMNOPQRSTUVWXYZ234567".toList

/-- `base64.b32encode(digest[:20])`, of a digest in hexadecimal digits.  The 160 bits fill 32 digits, and
no padding is left to strip. -/
def continuitySegment (digest : String) : String :=
  let n := (digest.toList.take 40).foldl (fun n c => 16 * n + CanonicalJson.hexValue c) 0
  String.ofList ((List.range 32).map fun i => base32Alphabet.getD (n / 32 ^ (31 - i) % 32) 'A')

namespace ContinuityDeployment

variable (d : ContinuityDeployment)

/-- `_normalize`. -/
def normalize (value : String) : Except Exn String := do
  let normalized := d.rt.upper (strip (d.nfkc value))
  require (normalized ≠ "") ⟨.valueError, "identity seed value cannot be empty"⟩
  return normalized

/-- `canonical_payload`. -/
def canonicalPayload (seed : IdentitySeed) : Except Exn IdentitySeed := do
  let providerId ← d.normalize seed.providerId
  let providerSubjectReference ← d.normalize seed.providerSubjectReference
  let countryCode ← d.normalize seed.countryCode
  return { providerId, providerSubjectReference, countryCode }

/-- The fingerprint of a canonical seed. -/
def fingerprint (payload : IdentitySeed) : Except Exn String := do
  let body ← canonicalJsonBytes payload.toJson
  d.secrets.derive d.rt d.continuityKeyId ("RAILONE-IDENTITY-CONTINUITY-V1\x00".toUTF8 ++ body)

end ContinuityDeployment

/-! ## The service -/

/-- The operations on the repository that the service issues. -/
inductive IdentityOp
  | getByFingerprint (fingerprint : String)
  | save (bundle : IdentityBundle)
  | appendRevision (expectedRevision : ℕ) (bundle : IdentityBundle)

/-- What an operation returns. -/
abbrev IdentityOp.Ret : IdentityOp → Type
  | .getByFingerprint _ => Option IdentityBundle
  | .save _ | .appendRevision .. => Unit

/-- What an operation answers. -/
abbrev IdentityOp.Resp (o : IdentityOp) : Type := Except Exn o.Ret

/-- An update of the repository; one that raises leaves it as it is. -/
def IdentityRepository.commit (r : IdentityRepository) (x : Except Exn IdentityRepository) :
    Except Exn Unit × IdentityRepository :=
  match x with
  | .ok r' => (.ok (), r')
  | .error e => (.error e, r)

/-- Perform an operation. -/
def IdentityRepository.answer (r : IdentityRepository) : (o : IdentityOp) → o.Resp × IdentityRepository
  | .getByFingerprint fingerprint => (.ok (r.byFingerprint.get? fingerprint), r)
  | .save bundle => r.commit (r.save bundle)
  | .appendRevision expectedRevision bundle => r.commit (r.appendRevision expectedRevision bundle)

/-- A program of the service. -/
abbrev IdentityCode := Prog IdentityOp.Resp Exn

namespace IdentityCode

/-- `get_by_fingerprint`. -/
def getByFingerprint (fingerprint : String) : IdentityCode (Option IdentityBundle) :=
  Prog.call (IdentityOp.getByFingerprint fingerprint)

/-- `save`. -/
def save (bundle : IdentityBundle) : IdentityCode Unit := Prog.call (IdentityOp.save bundle)

/-- `append_revision`. -/
def appendRevision (expectedRevision : ℕ) (bundle : IdentityBundle) : IdentityCode Unit :=
  Prog.call (IdentityOp.appendRevision expectedRevision bundle)

end IdentityCode

/-- `OnboardingResult`. -/
structure OnboardingResult where
  bundle : IdentityBundle
  existing : Bool
  deriving DecidableEq, Repr

/-- What a call goes on with after its checks. -/
structure AttestedSeed where
  payload : IdentitySeed
  claims : Fields

namespace IdentityContinuityService

variable (d : ContinuityDeployment) (keys : KeyProvider)

/-- The checks of the attestation against the seed. -/
def checkAttestation (seed : IdentitySeed) (attestation : SignatureEnvelope) (instant : Instant) :
    Except Exn AttestedSeed := do
  let payload ← d.canonicalPayload seed
  let validation ← IdentityAttestationVerifier.verify d.rt keys attestation payload.providerId instant
  match validation.valid, validation.claims with
  | true, some claims =>
    let subject ← claims.strItem "provider_subject_reference"
    let subject ← d.normalize subject
    require (subject = payload.providerSubjectReference)
      ⟨.permissionError, "identity attestation subject mismatch"⟩
    let country ← claims.strItem "country_code"
    let country ← d.normalize country
    require (country = payload.countryCode)
      ⟨.permissionError, "identity attestation country mismatch"⟩
    return ⟨payload, claims⟩
  | _, _ => .error ⟨.permissionError, "identity attestation rejected: " ++ validation.reason⟩

/-- The bundle of a new identity. -/
def newBundle (attested : AttestedSeed) (fingerprint corridor : String) (instant : Instant) :
    Except Exn IdentityBundle := do
  let segment := continuitySegment fingerprint
  let continuityUid := "CUID-" ++ segment
  let corridor ← d.normalize corridor
  let rigId := "RIG-" ++ segment
  let rioId := "RIO-" ++ segment
  let rivId := "RIV-" ++ segment ++ "-R1"
  let text ← attested.claims.strItem "trust_tier"
  let trustTier ← TrustTier.ofValue text
  let verificationReference ← attested.claims.strItem "verification_reference"
  let evidenceSha256 ← attested.claims.strItem "evidence_sha256"
  let attestationId ← attested.claims.strItem "attestation_id"
  return {
    genesis :=
      { rigId, continuityUid, continuityKeyId := d.continuityKeyId, identityFingerprint := fingerprint,
        verificationProviderId := attested.payload.providerId, verificationReference, evidenceSha256,
        attestationId, createdAt := instant }
    identity :=
      { rioId, railoneId := "R1-" ++ corridor ++ "-" ++ segment, continuityUid, rigId,
        activeRivId := rivId, corridor, status := .active, createdAt := instant }
    activeRevision :=
      { rivId, rioId, continuityUid, revision := 1, trustTier, status := .active,
        reason := "INITIAL_VERIFIED_ONBOARDING", attestationId, createdAt := instant } }

/-- `onboard`, with the signing keys as the call finds them.  Without `at`, the instant is that of the
clock. -/
def onboard (seed : IdentitySeed) (attestation : SignatureEnvelope) (corridor : String)
    (at_ : Datetime) : IdentityCode OnboardingResult := do
  let instant ← requireAware "identity timestamp" at_
  let attested ← checkAttestation d keys seed attestation instant
  let fingerprint ← d.fingerprint attested.payload
  let existing ← IdentityCode.getByFingerprint fingerprint
  match existing with
  | some bundle => return ⟨bundle, true⟩
  | none =>
    let bundle ← newBundle d attested fingerprint corridor instant
    IdentityCode.save bundle
    return ⟨bundle, false⟩

/-- The bundle with the next revision. -/
def revisedBundle (attested : AttestedSeed) (current : IdentityBundle) (status : IdentityStatus)
    (reason : String) (instant : Instant) : Except Exn IdentityBundle := do
  let revision := current.activeRevision.revision + 1
  let rivId := "RIV-" ++ String.ofList (current.identity.continuityUid.toList.drop 5) ++ "-R" ++
    revision.repr
  let text ← attested.claims.strItem "trust_tier"
  let trustTier ← TrustTier.ofValue text
  let attestationId ← attested.claims.strItem "attestation_id"
  return {
    genesis := current.genesis
    identity := { current.identity with activeRivId := rivId, status }
    activeRevision :=
      { rivId, rioId := current.identity.rioId, continuityUid := current.identity.continuityUid,
        revision, trustTier, status, reason, attestationId, createdAt := instant } }

/-- `revise`, with the signing keys as the call finds them. -/
def revise (seed : IdentitySeed) (attestation : SignatureEnvelope) (status : IdentityStatus)
    (reason : String) (at_ : Datetime) : IdentityCode IdentityBundle := do
  let instant ← requireAware "identity timestamp" at_
  let reason ← d.normalize reason
  let attested ← checkAttestation d keys seed attestation instant
  let fingerprint ← d.fingerprint attested.payload
  let current ← IdentityCode.getByFingerprint fingerprint
  match current with
  | none => Prog.raise ⟨.lookupError, "identity must be onboarded before it can be revised"⟩
  | some current =>
    if current.identity.status = .revoked then
      Prog.raise ⟨.permissionError, "revoked identity cannot be revised"⟩
    else
      let updated ← revisedBundle attested current status reason instant
      IdentityCode.appendRevision current.activeRevision.revision updated
      return updated

/-! ### What a call stores -/

/-- The canonical seed that an attestation names. -/
def attestedSeed (attestation : SignatureEnvelope) : Except Exn IdentitySeed := do
  let providerId ← attestation.payload.strItem "provider_id"
  let subject ← attestation.payload.strItem "provider_subject_reference"
  let providerSubjectReference ← d.normalize subject
  let country ← attestation.payload.strItem "country_code"
  let countryCode ← d.normalize country
  return { providerId, providerSubjectReference, countryCode }

/-- The attestation names the seed of the identity and is the one of the active revision. -/
def Backs (attestation : SignatureEnvelope) (bundle : IdentityBundle) : Prop :=
  ∃ payload, attestedSeed d attestation = .ok payload ∧
    d.fingerprint payload = .ok bundle.genesis.identityFingerprint ∧
    attestation.payload.get "attestation_id" = some (.str bundle.activeRevision.attestationId)

variable {d keys} {seed : IdentitySeed} {attestation : SignatureEnvelope} {instant : Instant}
  {attested : AttestedSeed} {bundle bundle' current : IdentityBundle}

/-- Checked attestations name the seed of the call. -/
theorem checkAttestation_eq_ok (h : checkAttestation d keys seed attestation instant = .ok attested) :
    attestedSeed d attestation = .ok attested.payload ∧ attested.claims = attestation.payload := by
  simp only [checkAttestation, bind_eq_ok] at h
  obtain ⟨payload, -, validation, hverify, h⟩ := h
  split at h
  · next claims _ hclaims =>
    simp only [bind_eq_ok, require_eq_ok, exists_const, pure_eq_ok] at h
    obtain ⟨subject, hsubject, subject', hsubject', heq, country, hcountry, country', hcountry', heq',
      rfl⟩ := h
    obtain ⟨rfl, hprovider⟩ := IdentityAttestationVerifier.verify_claims hverify hclaims
    refine ⟨?_, rfl⟩
    simp only [attestedSeed, bind_eq_ok, pure_eq_ok]
    refine ⟨_, Fields.strItem_eq_ok.mpr hprovider, subject, hsubject, _, hsubject', country, hcountry, _,
      hcountry', ?_⟩
    rw [heq, heq']
  · cases h

/-- What two revisions that one attestation backs have in common. -/
theorem Backs.unique (h : Backs d attestation bundle) (h' : Backs d attestation bundle') :
    bundle.genesis.identityFingerprint = bundle'.genesis.identityFingerprint ∧
      bundle.activeRevision.attestationId = bundle'.activeRevision.attestationId := by
  obtain ⟨payload, hseed, hfingerprint, hid⟩ := h
  obtain ⟨payload', hseed', hfingerprint', hid'⟩ := h'
  obtain rfl : payload = payload' := Except.ok.inj (hseed.symm.trans hseed')
  refine ⟨Except.ok.inj (hfingerprint.symm.trans hfingerprint'), ?_⟩
  have heq := hid.symm.trans hid'
  rwa [Option.some.injEq, Json.str.injEq] at heq

/-- The first revision of a new identity. -/
theorem newBundle_eq_ok {fingerprint corridor : String}
    (h : newBundle d attested fingerprint corridor instant = .ok bundle) :
    bundle.genesis.identityFingerprint = fingerprint ∧ bundle.activeRevision.revision = 1 ∧
      bundle.identity.status = bundle.activeRevision.status ∧
      attested.claims.get "attestation_id" = some (.str bundle.activeRevision.attestationId) := by
  simp only [newBundle, bind_eq_ok, pure_eq_ok] at h
  obtain ⟨_, -, _, -, _, -, _, -, _, -, attestationId, hid, rfl⟩ := h
  exact ⟨rfl, rfl, rfl, Fields.strItem_eq_ok.mp hid⟩

/-- The next revision of an identity. -/
theorem revisedBundle_eq_ok {status : IdentityStatus} {reason : String}
    (h : revisedBundle attested current status reason instant = .ok bundle) :
    bundle.genesis = current.genesis ∧
      bundle.identity.continuityUid = current.identity.continuityUid ∧
      attested.claims.get "attestation_id" = some (.str bundle.activeRevision.attestationId) := by
  simp only [revisedBundle, bind_eq_ok, pure_eq_ok] at h
  obtain ⟨_, -, _, -, attestationId, hid, rfl⟩ := h
  exact ⟨rfl, rfl, Fields.strItem_eq_ok.mp hid⟩

end IdentityContinuityService

/-- A call of the service, with the signing keys as it finds them. -/
inductive IdentityCall
  | onboard (keys : KeyProvider) (seed : IdentitySeed) (attestation : SignatureEnvelope)
      (corridor : String) (at_ : Datetime)
  | revise (keys : KeyProvider) (seed : IdentitySeed) (attestation : SignatureEnvelope)
      (status : IdentityStatus) (reason : String) (at_ : Datetime)

/-- The attestation that a call presents. -/
def IdentityCall.attestation : IdentityCall → SignatureEnvelope
  | .onboard _ _ attestation _ _ | .revise _ _ attestation _ _ _ => attestation

/-- The program of a call. -/
def IdentityCall.body (d : ContinuityDeployment) :
    IdentityCall → IdentityCode (OnboardingResult ⊕ IdentityBundle)
  | .onboard keys seed attestation corridor at_ =>
    Sum.inl <$> IdentityContinuityService.onboard d keys seed attestation corridor at_
  | .revise keys seed attestation status reason at_ =>
    Sum.inr <$> IdentityContinuityService.revise d keys seed attestation status reason at_

/-- Any number of calls over one repository. -/
def identitySystem (d : ContinuityDeployment) :
    System IdentityOp.Resp IdentityCall Exn (OnboardingResult ⊕ IdentityBundle) IdentityRepository where
  body := IdentityCall.body d
  sem _ o r x r' := r.answer o = (x, r')

end RailOne
