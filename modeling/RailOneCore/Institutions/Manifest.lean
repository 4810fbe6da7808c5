import RailOneCore.Crypto.Authenticity
import RailOneCore.Foundation.PyEquality
import RailOneCore.Institutions.Models

/-!
# Capability manifests and their signatures

The whole of `AdapterDescriptor` and of `InstitutionCapabilityManifest`, with the checks of their
constructors and what they write, and `CapabilityManifestSigner`.  The signer signs what a manifest
writes; the verifier compares the whole second that the signature keeps with the validity window of the
manifest, which has microseconds.
-/

namespace RailOne

open ArtifactService

/-! ## Timestamps -/

/-- The year, month and day of a number of days from the epoch, in the proleptic Gregorian calendar.
Years begin in March here, so that a leap day is the last day of its year. -/
def civilDate (days : Int) : Int × Int × Int :=
  let z := days + 719468
  let era := z / 146097
  let doe := z % 146097
  let yoe := (doe - doe / 1460 + doe / 36524 - doe / 146096) / 365
  let doy := doe - (365 * yoe + yoe / 4 - yoe / 100)
  let mp := (5 * doy + 2) / 153
  let month := if mp < 10 then mp + 3 else mp - 9
  (yoe + era * 400 + (if month ≤ 2 then 1 else 0), month, doy - (153 * mp + 2) / 5 + 1)

/-- A number with leading zeros. -/
def padded (width : ℕ) (n : Int) : String :=
  String.ofList (List.leftpad width '0' n.toNat.repr.toList)

/-- `isoformat()` of an instant in UTC. -/
def isoformat (t : Instant) : String :=
  let (year, month, day) := civilDate (t / 86400000000)
  let micros := t % 86400000000
  let fraction := micros % 1000000
  padded 4 year ++ "-" ++ padded 2 month ++ "-" ++ padded 2 day ++ "T" ++
    padded 2 (micros / 3600000000) ++ ":" ++ padded 2 (micros / 60000000 % 60) ++ ":" ++
    padded 2 (micros / 1000000 % 60) ++ (if fraction = 0 then "" else "." ++ padded 6 fraction) ++ "+00:00"

example : isoformat 951782400250000 = "2000-02-29T00:00:00.250000+00:00" := by decide +kernel

/-! ## Descriptors -/

inductive AdapterEnvironment
  | sandbox | pilot | production
  deriving DecidableEq, Repr

def AdapterEnvironment.value : AdapterEnvironment → String
  | .sandbox => "SANDBOX"
  | .pilot => "PILOT"
  | .production => "PRODUCTION"

inductive TransportKind
  | https | messageQueue | sftp | isoGateway
  deriving DecidableEq, Repr

def TransportKind.value : TransportKind → String
  | .https => "HTTPS"
  | .messageQueue => "MESSAGE_QUEUE"
  | .sftp => "SFTP"
  | .isoGateway => "ISO_GATEWAY"

inductive MessageStandard
  | json | iso20022 | proprietary
  deriving DecidableEq, Repr

def MessageStandard.value : MessageStandard → String
  | .json => "JSON"
  | .iso20022 => "ISO20022"
  | .proprietary => "PROPRIETARY"

inductive InstitutionAuthProfile
  | simulation | mtls | oauth2Mtls | oauth2ClientCredentials | fapi2Mtls | dpop | hmac
  deriving DecidableEq, Repr

def InstitutionAuthProfile.value : InstitutionAuthProfile → String
  | .simulation => "SIMULATION"
  | .mtls => "MTLS"
  | .oauth2Mtls => "OAUTH2_MTLS"
  | .oauth2ClientCredentials => "OAUTH2_CLIENT_CREDENTIALS"
  | .fapi2Mtls => "FAPI2_MTLS"
  | .dpop => "DPOP"
  | .hmac => "HMAC"

def AdapterCertificationStatus.value : AdapterCertificationStatus → String
  | .draft => "DRAFT"
  | .conformance => "CONFORMANCE"
  | .certified => "CERTIFIED"
  | .suspended => "SUSPENDED"

/-- What `\d` matches and what `str.isalpha` accepts. -/
structure CharacterClasses where
  isDecimal : Char → Bool
  isAlpha : Char → Bool

/-- `_IDENTIFIER`. -/
def isIdentifier (s : String) : Bool :=
  match s.toList with
  | [] => false
  | c :: rest => c.isAlphanum && 1 ≤ rest.length && rest.length ≤ 127 &&
      rest.all fun c => c.isAlphanum || c == '.' || c == '_' || c == ':' || c == '-'

/-- `_identifier`. -/
def requireIdentifier (name value : String) : Except Exn Unit :=
  require (isIdentifier value) ⟨.valueError, name ++ " is not a valid stable identifier"⟩

/-- `0`, or digits that do not start with zero: what is left after them. -/
def dropNumber (cc : CharacterClasses) : List Char → Option (List Char)
  | '0' :: t => some t
  | c :: t => if '1' ≤ c ∧ c ≤ '9' then some (t.dropWhile cc.isDecimal) else none
  | [] => none

/-- What is left after a dot. -/
def dropDot : List Char → Option (List Char)
  | '.' :: t => some t
  | _ => none

/-- `_SEMVER`. -/
def isSemver (cc : CharacterClasses) (s : String) : Bool :=
  let suffix : Option (List Char) := do
    let t ← dropDot (← dropNumber cc s.toList)
    let t ← dropDot (← dropNumber cc t)
    dropNumber cc t
  match suffix with
  | none => false
  | some [] => true
  | some (c :: t) => (c == '-' || c == '+') && ! t.isEmpty &&
      t.all fun c => c.isAlphanum || c == '.' || c == '-'

/-- The whole of `AdapterDescriptor`. -/
structure InstitutionDescriptor extends AdapterDescriptor where
  networkId : String
  environment : AdapterEnvironment
  transport : TransportKind
  messageStandard : MessageStandard
  authProfile : InstitutionAuthProfile
  certificationStatus : AdapterCertificationStatus
  priority : Int := 100
  deriving DecidableEq, Repr

namespace InstitutionDescriptor

/-- The checks of the constructor. -/
def check (cc : CharacterClasses) (d : InstitutionDescriptor) : Except Exn Unit := do
  requireIdentifier "adapter_id" d.adapterId
  requireIdentifier "provider_id" d.providerId
  requireIdentifier "network_id" d.networkId
  require (isSemver cc d.adapterVersion)
    ⟨.valueError, "adapter_version must be semantic version syntax"⟩
  require (0 ≤ d.priority) ⟨.valueError, "priority cannot be negative"⟩
  require (¬ (d.environment ≠ .sandbox ∧ d.authProfile = .simulation))
    ⟨.valueError, "simulation authentication is sandbox-only"⟩

/-- `to_payload`. -/
def toPayload (d : InstitutionDescriptor) : Fields :=
  [("adapter_id", .str d.adapterId), ("adapter_version", .str d.adapterVersion),
    ("provider_id", .str d.providerId), ("network_id", .str d.networkId),
    ("environment", .str d.environment.value), ("transport", .str d.transport.value),
    ("message_standard", .str d.messageStandard.value), ("auth_profile", .str d.authProfile.value),
    ("certification_status", .str d.certificationStatus.value), ("priority", .int d.priority)]

end InstitutionDescriptor

/-! ## Manifests -/

inductive InstitutionOperation
  | submit | statusQuery | reconcile | callback
  deriving DecidableEq, Repr

def InstitutionOperation.value : InstitutionOperation → String
  | .submit => "SUBMIT"
  | .statusQuery => "STATUS_QUERY"
  | .reconcile => "RECONCILE"
  | .callback => "CALLBACK"

inductive FinalityLevel
  | none | processing | debitConfirmed | creditConfirmed | settled
  deriving DecidableEq, Repr

/-- The name of a level. -/
def FinalityLevel.name : FinalityLevel → String
  | .none => "NONE"
  | .processing => "PROCESSING"
  | .debitConfirmed => "DEBIT_CONFIRMED"
  | .creditConfirmed => "CREDIT_CONFIRMED"
  | .settled => "SETTLED"

/-- What an institution declares, apart from the window in which it holds. -/
structure CapabilityDeclaration where
  manifestId : String
  manifestVersion : Int
  descriptor : InstitutionDescriptor
  sourceInstitutionIds : List String
  destinationInstitutionIds : List String
  sourceCountries : List String
  destinationCountries : List String
  rails : List String
  currenciesFrom : List String
  currenciesTo : List String
  operations : List InstitutionOperation
  supportsIdempotency : Bool
  supportsCallbacks : Bool
  supportsActiveStatus : Bool
  supportsReconciliation : Bool
  assertedFinality : FinalityLevel
  minAmountMinor : Int
  maxAmountMinor : Int
  requestTimeoutSeconds : Int
  deriving DecidableEq, Repr

/-- The whole of `InstitutionCapabilityManifest`. -/
structure CapabilityManifest extends CapabilityDeclaration where
  issuedAt : Instant
  expiresAt : Instant
  deriving DecidableEq, Repr

/-- `_codes`: the codes in upper case, sorted and without repetitions. -/
def codes (rt : Runtime) (cc : CharacterClasses) (name : String) (width : Option ℕ)
    (values : List String) : Except Exn (List String) := do
  let normalized := (values.map rt.upper).dedup.insertionSort fun a b => a ≤ b
  require (normalized ≠ []) ⟨.valueError, name ++ " cannot be empty"⟩
  match width with
  | none => return normalized
  | some width =>
    require (∀ value ∈ normalized, value.length = width ∧ value.toList.all cc.isAlpha = true)
      ⟨.valueError, name ++ " must contain " ++ width.repr ++ "-letter codes"⟩
    return normalized

namespace CapabilityManifest

/-- The constructor. -/
def make (rt : Runtime) (cc : CharacterClasses) (d : CapabilityDeclaration)
    (issuedAt expiresAt : Datetime) : Except Exn CapabilityManifest := do
  requireIdentifier "manifest_id" d.manifestId
  require (1 ≤ d.manifestVersion) ⟨.valueError, "manifest_version must be positive"⟩
  let sourceInstitutionIds ← codes rt cc "source_institution_ids" none d.sourceInstitutionIds
  let destinationInstitutionIds ←
    codes rt cc "destination_institution_ids" none d.destinationInstitutionIds
  let sourceCountries ← codes rt cc "source_countries" (some 2) d.sourceCountries
  let destinationCountries ← codes rt cc "destination_countries" (some 2) d.destinationCountries
  let rails ← codes rt cc "rails" none d.rails
  let currenciesFrom ← codes rt cc "currencies_from" (some 3) d.currenciesFrom
  let currenciesTo ← codes rt cc "currencies_to" (some 3) d.currenciesTo
  let operations := d.operations.dedup.insertionSort fun a b => a.value ≤ b.value
  require (.submit ∈ operations) ⟨.valueError, "adapter capabilities must include SUBMIT"⟩
  require (¬ (d.minAmountMinor < 1 ∨ d.maxAmountMinor < d.minAmountMinor))
    ⟨.valueError, "invalid amount range"⟩
  require (1 ≤ d.requestTimeoutSeconds ∧ d.requestTimeoutSeconds ≤ 300)
    ⟨.valueError, "request timeout must be between 1 and 300 seconds"⟩
  let issuedAt ← requireAware "issued_at" issuedAt
  let expiresAt ← requireAware "expires_at" expiresAt
  require (issuedAt < expiresAt) ⟨.valueError, "expires_at must be after issued_at"⟩
  require (d.supportsCallbacks = decide (.callback ∈ operations))
    ⟨.valueError, "callback flag must agree with operations"⟩
  require (d.supportsActiveStatus = decide (.statusQuery ∈ operations))
    ⟨.valueError, "status flag must agree with operations"⟩
  require (d.supportsReconciliation = decide (.reconcile ∈ operations))
    ⟨.valueError, "reconciliation flag must agree with operations"⟩
  require (¬ (d.assertedFinality = .settled ∧
      ¬ (d.supportsCallbacks || d.supportsActiveStatus || d.supportsReconciliation)))
    ⟨.valueError, "settlement finality requires an evidence retrieval operation"⟩
  return {
    toCapabilityDeclaration := { d with
      sourceInstitutionIds, destinationInstitutionIds, sourceCountries, destinationCountries, rails,
      currenciesFrom, currenciesTo, operations }
    issuedAt, expiresAt }

variable (m : CapabilityManifest)

/-- `is_active_at`. -/
def isActiveAt (instant : Instant) : Bool :=
  m.issuedAt ≤ instant && instant < m.expiresAt && m.descriptor.certificationStatus != .suspended

/-- A list of texts in a payload. -/
def texts (values : List String) : Json := .arr (values.map .str)

/-- `to_payload`. -/
def toPayload : Fields :=
  [("manifest_id", .str m.manifestId), ("manifest_version", .int m.manifestVersion),
    ("descriptor", .obj m.descriptor.toPayload),
    ("source_institution_ids", texts m.sourceInstitutionIds),
    ("destination_institution_ids", texts m.destinationInstitutionIds),
    ("source_countries", texts m.sourceCountries),
    ("destination_countries", texts m.destinationCountries), ("rails", texts m.rails),
    ("currencies_from", texts m.currenciesFrom), ("currencies_to", texts m.currenciesTo),
    ("operations", texts (m.operations.map InstitutionOperation.value)),
    ("supports_idempotency", .bool m.supportsIdempotency),
    ("supports_callbacks", .bool m.supportsCallbacks),
    ("supports_active_status", .bool m.supportsActiveStatus),
    ("supports_reconciliation", .bool m.supportsReconciliation),
    ("asserted_finality", .str m.assertedFinality.name), ("min_amount_minor", .int m.minAmountMinor),
    ("max_amount_minor", .int m.maxAmountMinor),
    ("request_timeout_seconds", .int m.requestTimeoutSeconds),
    ("issued_at", .str (isoformat m.issuedAt)), ("expires_at", .str (isoformat m.expiresAt))]

/-- The part of the manifest that plug-ins read. -/
def view : InstitutionCapabilityManifest where
  descriptor := m.descriptor.toAdapterDescriptor
  certificationStatus := m.descriptor.certificationStatus
  sourceInstitutionIds := m.sourceInstitutionIds
  destinationInstitutionIds := m.destinationInstitutionIds
  rails := m.rails
  sourceCountries := m.sourceCountries
  destinationCountries := m.destinationCountries
  currenciesFrom := m.currenciesFrom
  currenciesTo := m.currenciesTo
  supportsIdempotency := m.supportsIdempotency
  supportsCallbacks := m.supportsCallbacks
  supportsActiveStatus := m.supportsActiveStatus
  supportsReconciliation := m.supportsReconciliation
  minAmountMinor := m.minAmountMinor
  maxAmountMinor := m.maxAmountMinor
  issuedAt := m.issuedAt
  expiresAt := m.expiresAt
  payload := m.toPayload

/-! ### What a manifest writes -/

theorem accepted_texts (values : List String) : CanonicalJson.Accepted (texts values) := by
  rw [texts, CanonicalJson.Accepted]
  induction values with
  | nil => trivial
  | cons a t ih => exact ⟨trivial, ih⟩

theorem distinctKeys_texts (values : List String) : (texts values).DistinctKeys := by
  rw [texts, Json.DistinctKeys]
  induction values with
  | nil => trivial
  | cons a t ih => exact ⟨trivial, ih⟩

variable {m}

/-- The encoder accepts what a manifest writes. -/
theorem accepted_toPayload : CanonicalJson.Accepted (.obj m.toPayload) := by
  simp [toPayload, InstitutionDescriptor.toPayload, CanonicalJson.Accepted, CanonicalJson.AcceptedFields,
    accepted_texts]

theorem distinctKeys_toPayload : (Json.obj m.toPayload).DistinctKeys := by
  simp [toPayload, InstitutionDescriptor.toPayload, Json.DistinctKeys, Json.DistinctKeysFields,
    distinctKeys_texts]

/-- What the manifest writes, as a mapping. -/
def mapping (m : CapabilityManifest) : PyMapping := .ofJson m.toPayload distinctKeys_toPayload

end CapabilityManifest

/-! ## Signed manifests -/

/-- `SignedCapabilityManifest`, with the whole manifest. -/
structure SignedManifest where
  manifest : CapabilityManifest
  signature : PyEnvelope

namespace CapabilityManifestSigner

variable (rt : Runtime) (keys : KeyProvider)

/-- `sign`. -/
def sign (signingKeyId : String) (manifest : CapabilityManifest) (issuedAt : Instant) :
    Except Exn SignedManifest := do
  let signature ← signArtifact rt keys
    ⟨.institutionCapabilityManifest, manifest.mapping, signingKeyId, issuedAt⟩
  return ⟨manifest, signature⟩

/-- `verify`. -/
def verify (signed : SignedManifest) : Except Exn Unit := do
  let check ← verifyArtifact rt keys signed.signature (some .institutionCapabilityManifest) false
  require check.valid
    ⟨.permissionError, "capability manifest signature rejected: " ++ check.reason⟩
  require (PyValue.same signed.signature.payload.thaw.value (Json.obj signed.manifest.toPayload).toPy)
    ⟨.permissionError, "capability manifest object does not match signed payload"⟩
  match integer (signed.signature.header.get "iat") with
  -- a valid artifact has an integer there
  | none => .error ⟨.keyError, "iat"⟩
  | some iat =>
    let signedAt ← fromTimestamp iat
    require (signed.manifest.issuedAt ≤ signedAt ∧ signedAt < signed.manifest.expiresAt)
      ⟨.permissionError, "capability manifest signature is outside its validity window"⟩

variable {rt keys} {keyId : String} {m : CapabilityManifest} {issuedAt : Instant}
  {signed : SignedManifest}

/-- A key that can sign at the instant signs every manifest. -/
theorem exists_sign (rt : Runtime) (m : CapabilityManifest)
    (h : SignatureService.Signs keys .institutionCapabilityManifest keyId issuedAt) :
    ∃ signed, sign rt keys keyId m issuedAt = .ok signed := by
  obtain ⟨record, key, hrecord, hpurpose, hpermits, hkey⟩ := h
  obtain ⟨bytes, hbytes⟩ := canonicalJsonBytes_of_accepted (CapabilityManifest.accepted_toPayload (m := m))
  have hhash : payloadSha256 rt m.mapping = .ok (rt.sha256 bytes) := by
    rw [← Json.canonicalJsonBytes_toPy] at hbytes
    exact bind_eq_ok.mpr ⟨bytes, hbytes, rfl⟩
  have haccepted : CanonicalJson.Accepted (.obj
      [("protected", .obj (SignatureService.protectedHeader record .institutionCapabilityManifest issuedAt
        (rt.sha256 bytes))), ("payload", .obj m.toPayload)]) := by
    refine ⟨?_, CapabilityManifest.accepted_toPayload, trivial⟩
    simp [SignatureService.protectedHeader, CanonicalJson.Accepted, CanonicalJson.AcceptedFields]
  obtain ⟨body, hbody⟩ := canonicalJsonBytes_of_accepted haccepted
  rw [← Json.canonicalJsonBytes_toPy] at hbody
  have hmessage : signingInput (protectedHeader record .institutionCapabilityManifest issuedAt
      (rt.sha256 bytes)) m.mapping = .ok ("RAILONE-SIGNED-ARTIFACT-V1\x00".toUTF8 ++ body) :=
    bind_eq_ok.mpr ⟨body, hbody, rfl⟩
  have hsign : keys.sign rt keyId ("RAILONE-SIGNED-ARTIFACT-V1\x00".toUTF8 ++ body) =
      .ok (rt.ed25519Sign key ("RAILONE-SIGNED-ARTIFACT-V1\x00".toUTF8 ++ body)) := by
    rw [KeyProvider.sign, hkey]
  have hsigned : ∃ e, signArtifact rt keys ⟨.institutionCapabilityManifest, m.mapping, keyId, issuedAt⟩ =
      .ok e := by
    simp only [signArtifact, hrecord, if_neg (not_not.mpr hpurpose), if_neg (not_not.mpr hpermits),
      bind_eq_ok]
    exact ⟨_, _, hhash, _, hmessage, _, hsign, rfl⟩
  obtain ⟨e, he⟩ := hsigned
  exact ⟨⟨m, e⟩, bind_eq_ok.mpr ⟨e, he, rfl⟩⟩

theorem sign_eq_ok (h : sign rt keys keyId m issuedAt = .ok signed) : signed.manifest = m ∧
    signArtifact rt keys ⟨.institutionCapabilityManifest, m.mapping, keyId, issuedAt⟩ =
      .ok signed.signature := by
  obtain ⟨e, he, h⟩ := bind_eq_ok.mp h
  cases h
  exact ⟨rfl, he⟩

/-- A signed manifest holds what its manifest writes, and the whole second of its issue. -/
theorem payload_of_sign (h : sign rt keys keyId m issuedAt = .ok signed) :
    PyValue.same signed.signature.payload.thaw.value (Json.obj signed.manifest.toPayload).toPy = true ∧
      integer (signed.signature.header.get "iat") = some (epochSeconds issuedAt) := by
  obtain ⟨rfl, hsigned⟩ := sign_eq_ok h
  obtain ⟨record, hash, key, message, -, -, -, -, -, he⟩ := signArtifact_eq_ok hsigned
  rw [he]
  refine ⟨?_, rfl⟩
  have hpayload := PyValue.thaw_freeze_toPy (.obj signed.manifest.toPayload)
  change PyValue.same ((Json.obj signed.manifest.toPayload).toPy.freeze.thaw) _ = true
  rw [hpayload]
  exact PyValue.same_toPy _ CapabilityManifest.accepted_toPayload CapabilityManifest.distinctKeys_toPayload

/-- The whole second of an issue is inside the window of the key and inside that of the manifest. -/
def SecondInWindows (record : KeyRecord) (m : CapabilityManifest) (issuedAt : Instant) : Prop :=
  ∃ second, fromTimestamp (epochSeconds issuedAt) = .ok second ∧
    (record.notBefore ≤ second ∧ second < record.notAfter) ∧ m.issuedAt ≤ second ∧ second < m.expiresAt

/-- A signed manifest verifies while its key is not revoked exactly when the key has a name and the
whole second of the signature is in the windows of the key and of the manifest. -/
theorem verify_sign_iff (hrt : FaithfulSignatures rt) {before after : List KeyCall} {record : KeyRecord}
    (hsigned : sign rt (run rt before) keyId m issuedAt = .ok signed)
    (hrecord : (run rt before).getKeyRecord keyId = some record)
    (hlive : ∀ later, (run rt (before ++ after)).getKeyRecord keyId = some later →
      later.status ≠ .revoked) :
    verify rt (run rt (before ++ after)) signed = .ok () ↔
      keyId ≠ "" ∧ SecondInWindows record m issuedAt := by
  obtain ⟨hpayload, hiat⟩ := payload_of_sign hsigned
  obtain ⟨rfl, hartifact⟩ := sign_eq_ok hsigned
  constructor
  · intro hverify
    obtain ⟨check, hcheck, hverify⟩ := bind_eq_ok.mp hverify
    simp only [bind_eq_ok, require_eq_ok, hiat] at hverify
    obtain ⟨-, hvalid, -, -, second, hsecond, hwindow⟩ := hverify
    obtain ⟨hname, second', hsecond', hkey⟩ := window_of_accepts hartifact hrecord ⟨check, hcheck, hvalid⟩
    obtain rfl := Except.ok.inj (hsecond.symm.trans hsecond')
    exact ⟨hname, second, hsecond, hkey, hwindow⟩
  · rintro ⟨hname, second, hsecond, hkey, hwindow⟩
    obtain ⟨status, hlater⟩ := getKeyRecord_run hrecord after
    have hcheck := verifyArtifact_of_passes (passes_of_signArtifact hrt hartifact hrecord hlater
      (hlive _ hlater) hname ⟨second, hsecond, hkey⟩)
    refine bind_eq_ok.mpr ⟨_, hcheck, ?_⟩
    simp only [bind_eq_ok, require_eq_ok, hiat]
    exact ⟨(), trivial, (), hpayload, second, hsecond, hwindow⟩

end CapabilityManifestSigner

end RailOne
