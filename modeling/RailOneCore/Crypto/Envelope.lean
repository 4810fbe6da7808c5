import RailOneCore.Crypto.SignatureService
import RailOneCore.Foundation.PyValue

/-!
# Envelopes over the language's own values

`SignatureService` reads envelopes whose parts are JSON.  An envelope can be built from any mapping of
the language, though: its constructor freezes the mapping, `to_dict` thaws it, and the verifier reads
whatever it finds under the keys of the header.  Here signing and verifying are modelled over such
mappings; on JSON parts `verifyArtifact` is the verifier of `SignatureService`
(`verifyArtifact_ofJson`).
-/

namespace RailOne

/-! ## Mappings -/

/-- Looking up a key in a list whose values are mapped. -/
theorem lookup_map_snd {K V W : Type} [DecidableEq K] (g : V → W) (l : List (K × V)) (k : K) :
    (l.map fun f => (f.1, g f.2)).lookup k = (l.lookup k).map g := by
  induction l with
  | nil => rfl
  | cons f t ih =>
    obtain ⟨a, v⟩ := f
    rw [List.map_cons, List.lookup_cons, List.lookup_cons, ih]
    cases k == a <;> rfl

namespace PyValue

theorem freezeFields_eq_map : ∀ l : List (PyKey × PyValue),
    freezeFields l = l.map fun f => (f.1, f.2.freeze)
  | [] => rfl
  | (_, _) :: t => congrArg (_ :: ·) (freezeFields_eq_map t)

theorem thawFields_eq_map : ∀ l : List (PyKey × PyValue),
    thawFields l = l.map fun f => (f.1, f.2.thaw)
  | [] => rfl
  | (_, _) :: t => congrArg (_ :: ·) (thawFields_eq_map t)

mutual

theorem distinctKeys_freeze : ∀ v : PyValue, v.DistinctKeys → v.freeze.DistinctKeys
  | .none, _ | .bool _, _ | .int _, _ | .float _, _ | .str _, _ | .other _, _ => trivial
  | .seq .other _, h => h
  | .seq .list items, h | .seq .tuple items, h => distinctKeysItems_freeze items h
  | .map _ fields, h => by
    refine ⟨?_, distinctKeysFields_freeze fields h.2⟩
    rw [freezeFields_eq_map, List.map_map]
    exact h.1

theorem distinctKeysItems_freeze : ∀ l : List PyValue, DistinctKeysItems l →
    DistinctKeysItems (freezeItems l)
  | [], _ => trivial
  | a :: t, h => ⟨distinctKeys_freeze a h.1, distinctKeysItems_freeze t h.2⟩

theorem distinctKeysFields_freeze : ∀ l : List (PyKey × PyValue), DistinctKeysFields l →
    DistinctKeysFields (freezeFields l)
  | [], _ => trivial
  | (_, a) :: t, h => ⟨distinctKeys_freeze a h.1, distinctKeysFields_freeze t h.2⟩

end

mutual

theorem distinctKeys_thaw : ∀ v : PyValue, v.DistinctKeys → v.thaw.DistinctKeys
  | .none, _ | .bool _, _ | .int _, _ | .float _, _ | .str _, _ | .other _, _ => trivial
  | .seq .other _, h | .seq .list _, h => h
  | .seq .tuple items, h => distinctKeysItems_thaw items h
  | .map _ fields, h => by
    refine ⟨?_, distinctKeysFields_thaw fields h.2⟩
    rw [thawFields_eq_map, List.map_map]
    exact h.1

theorem distinctKeysItems_thaw : ∀ l : List PyValue, DistinctKeysItems l →
    DistinctKeysItems (thawItems l)
  | [], _ => trivial
  | a :: t, h => ⟨distinctKeys_thaw a h.1, distinctKeysItems_thaw t h.2⟩

theorem distinctKeysFields_thaw : ∀ l : List (PyKey × PyValue), DistinctKeysFields l →
    DistinctKeysFields (thawFields l)
  | [], _ => trivial
  | (_, a) :: t, h => ⟨distinctKeys_thaw a h.1, distinctKeysFields_thaw t h.2⟩

end

mutual

/-- Frozen values mean what the values they were made from mean. -/
theorem meaning_freeze : ∀ v : PyValue, v.freeze.meaning = v.meaning
  | .none | .bool _ | .int _ | .float _ | .str _ | .other _ | .seq .other _ => rfl
  | .seq .list items | .seq .tuple items => congrArg Meaning.arr (meaningItems_freeze items)
  | .map _ fields => congrArg Meaning.obj (funext (meaningFields_freeze fields))

theorem meaningItems_freeze : ∀ l : List PyValue, meaningItems (freezeItems l) = meaningItems l
  | [] => rfl
  | a :: t => by rw [freezeItems, meaningItems, meaningItems, meaning_freeze, meaningItems_freeze]

theorem meaningFields_freeze : ∀ (l : List (PyKey × PyValue)) (key : PyKey),
    meaningFields (freezeFields l) key = meaningFields l key
  | [], _ => rfl
  | (k, a) :: t, key => by
    rw [freezeFields, meaningFields, meaningFields, meaning_freeze, meaningFields_freeze]

end

/-- What a mapping means under a key is what the value found there means. -/
theorem meaningFields_eq_lookup (l : List (PyKey × PyValue)) (key : PyKey) :
    meaningFields l key = (l.lookup key).map meaning := by
  induction l with
  | nil => rfl
  | cons f t ih =>
    obtain ⟨k, a⟩ := f
    rw [meaningFields, List.lookup_cons, ih]
    by_cases hk : key = k
    · simp [hk]
    · simp [hk, beq_eq_false_iff_ne.mpr hk]

end PyValue

/-- A mapping.  No mapping in it has a key twice. -/
structure PyMapping where
  kind : MappingKind
  fields : List (PyKey × PyValue)
  distinct : (PyValue.map kind fields).DistinctKeys

namespace PyMapping

/-- The mapping as a value. -/
def value (m : PyMapping) : PyValue := .map m.kind m.fields

/-- `mapping.get(key)`. -/
def get (m : PyMapping) (key : String) : Option PyValue := m.fields.lookup (.str key)

/-- `_freeze` of a mapping. -/
def freeze (m : PyMapping) : PyMapping :=
  ⟨.proxy, PyValue.freezeFields m.fields, PyValue.distinctKeys_freeze m.value m.distinct⟩

/-- `_thaw` of a mapping. -/
def thaw (m : PyMapping) : PyMapping :=
  ⟨.dict, PyValue.thawFields m.fields, PyValue.distinctKeys_thaw m.value m.distinct⟩

/-- `dict(mapping)`. -/
def toDict (m : PyMapping) : PyMapping := ⟨.dict, m.fields, m.distinct⟩

theorem value_freeze (m : PyMapping) : m.freeze.value = m.value.freeze := rfl

theorem value_thaw (m : PyMapping) : m.thaw.value = m.value.thaw := rfl

theorem get_freeze (m : PyMapping) (key : String) : m.freeze.get key = (m.get key).map .freeze := by
  change (PyValue.freezeFields m.fields).lookup (.str key) = _
  rw [PyValue.freezeFields_eq_map, lookup_map_snd]
  rfl

theorem get_thaw (m : PyMapping) (key : String) : m.thaw.get key = (m.get key).map .thaw := by
  change (PyValue.thawFields m.fields).lookup (.str key) = _
  rw [PyValue.thawFields_eq_map, lookup_map_snd]
  rfl

/-- Mappings that mean the same have the same text under a key. -/
theorem get_str_of_meaning {m n : PyMapping} (h : m.value.meaning = n.value.meaning) {key s : String}
    (hm : m.get key = some (.str s)) : n.get key = some (.str s) := by
  have hkey := congrFun (Meaning.obj.inj h) (.str key)
  rw [PyValue.meaningFields_eq_lookup, PyValue.meaningFields_eq_lookup] at hkey
  change (m.get key).map _ = (n.get key).map _ at hkey
  rw [hm] at hkey
  cases hn : n.get key with
  | none => rw [hn] at hkey; cases hkey
  | some v =>
    rw [hn] at hkey
    cases v with
    | str s' => cases hkey; rfl
    | _ => cases hkey

end PyMapping

/-! ## Envelopes -/

/-- `SignatureEnvelope`. -/
structure PyEnvelope where
  header : PyMapping
  payload : PyMapping
  signature : String

namespace PyEnvelope

/-- `SignatureEnvelope(…)`: the parts are frozen. -/
def new (header payload : PyMapping) (signature : String) : PyEnvelope :=
  ⟨header.freeze, payload.freeze, signature⟩

/-- `to_dict`. -/
def toDict (e : PyEnvelope) : PyMapping where
  kind := .dict
  fields := [(.str "protected", e.header.thaw.value), (.str "payload", e.payload.thaw.value),
    (.str "signature", .str e.signature)]
  distinct := ⟨by simp, e.header.thaw.distinct, e.payload.thaw.distinct, trivial, trivial⟩

end PyEnvelope

theorem PyMapping.distinctKeys_of_get {m : PyMapping} {key : String} {v : PyValue}
    (h : m.get key = some v) : v.DistinctKeys := by
  have hfields : PyValue.DistinctKeysFields m.fields := m.distinct.2
  rw [get] at h
  generalize m.fields = fields at h hfields
  induction fields with
  | nil => cases h
  | cons f t ih =>
    obtain ⟨k, a⟩ := f
    rw [List.lookup_cons] at h
    split at h
    · cases h
      exact hfields.1
    · exact ih h hfields.2

/-- The mapping under a key; another value there raises. -/
def PyMapping.requireMapping (m : PyMapping) (key message : String) : Except Exn PyMapping :=
  match h : m.get key with
  | some (.map kind fields) => .ok ⟨kind, fields, distinctKeys_of_get h⟩
  | _ => .error ⟨.valueError, message⟩

/-- `SignatureEnvelope.from_dict`. -/
def PyEnvelope.fromDict (m : PyMapping) : Except Exn PyEnvelope := do
  let header ← m.requireMapping "protected" "protected header must be an object"
  let payload ← m.requireMapping "payload" "payload must be an object"
  match m.get "signature" with
  | some (.str signature) =>
    if signature = "" then .error ⟨.valueError, "signature must be a non-empty string"⟩
    else return .new header payload signature
  | _ => .error ⟨.valueError, "signature must be a non-empty string"⟩

/-- An envelope with a signature can be written out and read back. -/
theorem PyEnvelope.fromDict_toDict {e : PyEnvelope} (h : e.signature ≠ "") :
    fromDict e.toDict = .ok (.new e.header.thaw e.payload.thaw e.signature) := by
  change (if e.signature = "" then _ else _) = _
  rw [if_neg h]
  rfl

/-! ## Signing -/

namespace ArtifactService

variable (rt : Runtime) (keys : KeyProvider)

/-- `_signing_input`. -/
def signingInput (header payload : PyMapping) : Except Exn ByteArray := do
  let body ← (PyValue.map .dict
    [(.str "protected", header.value), (.str "payload", payload.value)]).canonicalJsonBytes
  return "RAILONE-SIGNED-ARTIFACT-V1\x00".toUTF8 ++ body

/-- `hashlib.sha256(canonical_json_bytes(payload)).hexdigest()`. -/
def payloadSha256 (payload : PyMapping) : Except Exn String := do
  return rt.sha256 (← payload.value.canonicalJsonBytes)

/-- The protected header of an artifact signed under `record` at `instant`. -/
def protectedHeader (record : KeyRecord) (artifactType : ArtifactType) (instant : Instant)
    (payloadHash : String) : PyMapping where
  kind := .dict
  fields := [(.str "alg", .str "EdDSA"), (.str "crv", .str "Ed25519"),
    (.str "kid", .str record.keyId), (.str "iss", .str record.ownerId),
    (.str "typ", .str artifactType.value), (.str "v", .int 1),
    (.str "iat", .int (epochSeconds instant)), (.str "payload_sha256", .str payloadHash)]
  distinct := ⟨by simp, by simp [PyValue.DistinctKeysFields, PyValue.DistinctKeys]⟩

/-- The arguments of `sign_artifact`. -/
structure SignCall where
  artifactType : ArtifactType
  payload : PyMapping
  keyId : String
  issuedAt : Instant

/-- `sign_artifact`. -/
def signArtifact (call : SignCall) : Except Exn PyEnvelope :=
  match keys.getKeyRecord call.keyId with
  | none => .error ⟨.keyError, "unknown signing key: " ++ call.keyId⟩
  | some record =>
    if record.purpose ≠ call.artifactType.purpose then
      .error ⟨.permissionError,
        "key purpose " ++ record.purpose.value ++ " cannot sign " ++ call.artifactType.value⟩
    else if ¬ record.permitsSigningAt call.issuedAt then
      .error ⟨.permissionError, "key is not active for the requested issue time"⟩
    else do
      let payloadHash ← payloadSha256 rt call.payload
      let header := protectedHeader record call.artifactType call.issuedAt payloadHash
      let message ← signingInput header call.payload
      let signature ← keys.sign rt call.keyId message
      return .new header call.payload.toDict (rt.b64urlEncode signature)

/-! ## Verifying -/

/-- `value == 1`, which also holds of `True` and of `1.0`. -/
def isOne : Option PyValue → Bool
  | some (.int n) => n == 1
  | some (.bool b) => b
  | some (.float literal) => rt.floatIsOne literal
  | _ => false

/-- The text that a value found in the header is. -/
def text : Option PyValue → Option String
  | some (.str s) => some s
  | _ => none

/-- The integer that a value found in the header is; booleans are integers. -/
def integer : Option PyValue → Option Int
  | some (.int n) => some n
  | some (.bool b) => some (if b then 1 else 0)
  | _ => none

/-- The body of the `try` block of `verify_artifact`. -/
def checkArtifact (e : PyEnvelope) (expected : Option ArtifactType) (acceptRevoked : Bool) :
    Except Exn VerificationResult :=
  if text (e.header.get "alg") ≠ some "EdDSA" ∨ text (e.header.get "crv") ≠ some "Ed25519" then
    .ok ⟨false, "UNSUPPORTED_ALGORITHM", none, none⟩
  else if ¬ isOne rt (e.header.get "v") then
    .ok ⟨false, "UNSUPPORTED_SIGNATURE_VERSION", none, none⟩
  else match text (e.header.get "kid") with
  | none => .ok ⟨false, "KEY_ID_MISSING", none, none⟩
  | some keyId =>
    if keyId = "" then .ok ⟨false, "KEY_ID_MISSING", none, none⟩
    else match (text (e.header.get "typ")).bind ArtifactType.ofValue with
    | none => .ok ⟨false, "ARTIFACT_TYPE_INVALID", some keyId, none⟩
    | some artifactType =>
      if expected ≠ none ∧ expected ≠ some artifactType then
        .ok ⟨false, "ARTIFACT_TYPE_MISMATCH", some keyId, some artifactType⟩
      else match keys.getKeyRecord keyId with
      | none => .ok ⟨false, "KEY_NOT_FOUND", some keyId, some artifactType⟩
      | some record =>
        if text (e.header.get "iss") ≠ some record.ownerId then
          .ok ⟨false, "ISSUER_MISMATCH", some keyId, some artifactType⟩
        else if record.purpose ≠ artifactType.purpose then
          .ok ⟨false, "KEY_PURPOSE_MISMATCH", some keyId, some artifactType⟩
        else if record.status = .revoked ∧ ¬ acceptRevoked then
          .ok ⟨false, "KEY_REVOKED", some keyId, some artifactType⟩
        else match integer (e.header.get "iat") with
        | none => .ok ⟨false, "ISSUED_AT_INVALID", some keyId, some artifactType⟩
        | some issuedAtRaw => do
          let issuedAt ← fromTimestamp issuedAtRaw
          if ¬ (record.notBefore ≤ issuedAt ∧ issuedAt < record.notAfter) then
            return ⟨false, "KEY_NOT_VALID_AT_ISSUANCE", some keyId, some artifactType⟩
          else
            let actualHash ← payloadSha256 rt e.payload
            match text (e.header.get "payload_sha256") with
            | none => return ⟨false, "PAYLOAD_HASH_MISMATCH", some keyId, some artifactType⟩
            | some expectedHash =>
              -- `hmac.compare_digest` refuses text that is not ASCII
              if expectedHash.toList.any fun c => 128 ≤ c.toNat then
                .error ⟨.typeError, "comparing strings with non-ASCII characters is not supported"⟩
              else if actualHash ≠ expectedHash then
                return ⟨false, "PAYLOAD_HASH_MISMATCH", some keyId, some artifactType⟩
              else
                let signature ← rt.b64urlDecode e.signature
                let message ← signingInput e.header e.payload
                if rt.ed25519Verify record.publicKey signature message then
                  return ⟨true, "VALID", some keyId, some artifactType⟩
                else return ⟨false, "SIGNATURE_INVALID", none, none⟩

/-- `verify_artifact`: value, type and signature errors make the artifact invalid, other exceptions
propagate. -/
def verifyArtifact (e : PyEnvelope) (expected : Option ArtifactType) (acceptRevoked : Bool) :
    Except Exn VerificationResult :=
  match checkArtifact rt keys e expected acceptRevoked with
  | .ok result => .ok result
  | .error exn =>
    if exn.isValueError || exn.kind == .typeError then
      .ok ⟨false, "SIGNATURE_INVALID", none, none⟩
    else .error exn

/-! ## What signing and verifying establish -/

variable {rt keys}

/-- A signed artifact was made from an active key of the purpose that its type requires, and carries
the signature of that key on its header and payload. -/
theorem signArtifact_eq_ok {call : SignCall} {e : PyEnvelope}
    (h : signArtifact rt keys call = .ok e) :
    ∃ record hash key message, keys.getKeyRecord call.keyId = some record ∧
      record.purpose = call.artifactType.purpose ∧
      payloadSha256 rt call.payload = .ok hash ∧ keys.privateKeys.get? call.keyId = some key ∧
      signingInput (protectedHeader record call.artifactType call.issuedAt hash) call.payload =
        .ok message ∧
      e = .new (protectedHeader record call.artifactType call.issuedAt hash) call.payload.toDict
        (rt.b64urlEncode (rt.ed25519Sign key message)) := by
  unfold signArtifact at h
  split at h
  · cases h
  · next record hrecord =>
    split_ifs at h with hpurpose hactive
    simp only [bind_eq_ok, pure_eq_ok] at h
    obtain ⟨hash, hhash, message, hmessage, signature, hsign, rfl⟩ := h
    unfold KeyProvider.sign at hsign
    split at hsign
    · next key hkey =>
      cases hsign
      exact ⟨record, hash, key, message, hrecord, not_not.mp hpurpose, hhash, hkey, hmessage, rfl⟩
    · cases hsign

/-- The checks that a valid artifact has passed. -/
structure Passes (rt : Runtime) (keys : KeyProvider) (e : PyEnvelope)
    (expected : Option ArtifactType) (acceptRevoked : Bool) (keyId : String)
    (artifactType : ArtifactType) (record : KeyRecord) : Prop where
  alg : text (e.header.get "alg") = some "EdDSA"
  crv : text (e.header.get "crv") = some "Ed25519"
  version : isOne rt (e.header.get "v") = true
  kid : text (e.header.get "kid") = some keyId
  kid_ne : keyId ≠ ""
  typ : (text (e.header.get "typ")).bind ArtifactType.ofValue = some artifactType
  expects : expected = none ∨ expected = some artifactType
  found : keys.getKeyRecord keyId = some record
  iss : text (e.header.get "iss") = some record.ownerId
  purpose : record.purpose = artifactType.purpose
  live : record.status ≠ .revoked ∨ acceptRevoked = true
  issued : ∃ n issuedAt, integer (e.header.get "iat") = some n ∧ fromTimestamp n = .ok issuedAt ∧
    record.notBefore ≤ issuedAt ∧ issuedAt < record.notAfter
  hash : ∃ hash, text (e.header.get "payload_sha256") = some hash ∧
    payloadSha256 rt e.payload = .ok hash ∧ ∀ c ∈ hash.toList, c.toNat < 128
  signature : ∃ signature message, rt.b64urlDecode e.signature = .ok signature ∧
    signingInput e.header e.payload = .ok message ∧
    rt.ed25519Verify record.publicKey signature message = true

/-- A check that refuses an artifact was not met by a valid one. -/
theorem not_refused {p : Prop} [Decidable p] {refusal result : VerificationResult}
    {rest : Except Exn VerificationResult} (h : (if p then .ok refusal else rest) = .ok result)
    (hrefusal : refusal.valid = false) (hvalid : result.valid = true) :
    ¬ p ∧ rest = .ok result := by
  by_cases hp : p
  · rw [if_pos hp, Except.ok.injEq] at h
    rw [← h, hrefusal] at hvalid
    cases hvalid
  · rw [if_neg hp] at h
    exact ⟨hp, h⟩

theorem passes_of_checkArtifact {e : PyEnvelope} {expected : Option ArtifactType}
    {acceptRevoked : Bool} {result : VerificationResult}
    (h : checkArtifact rt keys e expected acceptRevoked = .ok result) (hvalid : result.valid = true) :
    ∃ keyId artifactType record, Passes rt keys e expected acceptRevoked keyId artifactType record := by
  unfold checkArtifact at h
  obtain ⟨halg, h⟩ := not_refused h rfl hvalid
  obtain ⟨hv, h⟩ := not_refused h rfl hvalid
  split at h
  · cases h; cases hvalid
  next keyId hkid =>
  obtain ⟨hempty, h⟩ := not_refused h rfl hvalid
  split at h
  · cases h; cases hvalid
  next artifactType htyp =>
  obtain ⟨hexpected, h⟩ := not_refused h rfl hvalid
  split at h
  · cases h; cases hvalid
  next record hfound =>
  obtain ⟨hiss, h⟩ := not_refused h rfl hvalid
  obtain ⟨hpurpose, h⟩ := not_refused h rfl hvalid
  obtain ⟨hrevoked, h⟩ := not_refused h rfl hvalid
  split at h
  · cases h; cases hvalid
  next n hiat =>
  obtain ⟨issuedAt, hissued, h⟩ := bind_eq_ok.mp h
  obtain ⟨hwindow, h⟩ := not_refused h rfl hvalid
  obtain ⟨actual, hactual, h⟩ := bind_eq_ok.mp h
  split at h
  · cases h; cases hvalid
  next hash hhash =>
  split at h
  · cases h
  next hascii =>
  obtain ⟨heq, h⟩ := not_refused h rfl hvalid
  obtain ⟨signature, hsignature, h⟩ := bind_eq_ok.mp h
  obtain ⟨message, hmessage, h⟩ := bind_eq_ok.mp h
  have hverify : rt.ed25519Verify record.publicKey signature message = true := by
    by_contra hne
    rw [if_neg hne] at h
    cases h
    cases hvalid
  push Not at halg
  refine ⟨keyId, artifactType, record, halg.1, halg.2, by simpa using hv, hkid, hempty, htyp, ?_,
    hfound, not_not.mp hiss, not_not.mp hpurpose, ?_, ⟨n, issuedAt, hiat, hissued, not_not.mp hwindow⟩,
    ⟨hash, hhash, not_not.mp heq ▸ hactual, by simpa using hascii⟩,
    ⟨signature, message, hsignature, hmessage, hverify⟩⟩
  · by_contra hne
    push Not at hne
    exact hexpected hne
  · by_contra hne
    push Not at hne
    exact hrevoked hne

/-- A valid artifact has passed the checks. -/
theorem passes_of_verifyArtifact {e : PyEnvelope} {expected : Option ArtifactType}
    {acceptRevoked : Bool} {result : VerificationResult}
    (h : verifyArtifact rt keys e expected acceptRevoked = .ok result)
    (hvalid : result.valid = true) :
    ∃ keyId artifactType record, Passes rt keys e expected acceptRevoked keyId artifactType record := by
  unfold verifyArtifact at h
  split at h
  · next result' hcheck =>
    cases h
    exact passes_of_checkArtifact hcheck hvalid
  · split_ifs at h
    cases h
    cases hvalid

/-- An artifact that passes the checks is valid. -/
theorem verifyArtifact_of_passes {e : PyEnvelope} {expected : Option ArtifactType}
    {acceptRevoked : Bool} {keyId : String} {artifactType : ArtifactType} {record : KeyRecord}
    (h : Passes rt keys e expected acceptRevoked keyId artifactType record) :
    verifyArtifact rt keys e expected acceptRevoked =
      .ok ⟨true, "VALID", some keyId, some artifactType⟩ := by
  obtain ⟨n, issuedAt, hiat, hissued, hwindow⟩ := h.issued
  obtain ⟨hash, hhash, hpayload, hascii⟩ := h.hash
  obtain ⟨signature, message, hsignature, hmessage, hverify⟩ := h.signature
  have hexpects : ¬ (expected ≠ none ∧ expected ≠ some artifactType) := by
    rcases h.expects with h | h <;> simp [h]
  have hlive : ¬ (record.status = .revoked ∧ ¬ acceptRevoked = true) := by
    rcases h.live with h | h <;> simp [h]
  have hany : ¬ (hash.toList.any (fun c => decide (128 ≤ c.toNat))) = true := by
    simpa using hascii
  have hcheck : checkArtifact rt keys e expected acceptRevoked =
      .ok ⟨true, "VALID", some keyId, some artifactType⟩ := by
    unfold checkArtifact
    rw [if_neg (by simp [h.alg, h.crv]), if_neg (by simp [h.version]), h.kid]
    simp only
    rw [if_neg h.kid_ne, h.typ]
    simp only
    rw [if_neg hexpects, h.found]
    simp only
    rw [if_neg (by simp [h.iss]), if_neg (by simp [h.purpose]), if_neg hlive, hiat]
    simp only [hissued, bind, Except.bind]
    rw [if_neg (by simp [hwindow])]
    simp only [hpayload, hhash]
    rw [if_neg hany, if_neg (by simp)]
    simp only [hsignature, hmessage, hverify, if_true]
    rfl
  rw [verifyArtifact, hcheck]

end ArtifactService

/-! ## Envelopes read from JSON -/

/-- The mapping that an object is read to. -/
def PyMapping.ofJson (fields : Fields) (h : (Json.obj fields).DistinctKeys) : PyMapping :=
  ⟨.dict, Json.fieldsToPy fields, Json.distinctKeys_toPy _ h⟩

theorem PyMapping.get_ofJson (fields : Fields) (h : (Json.obj fields).DistinctKeys) (key : String) :
    (PyMapping.ofJson fields h).get key = (fields.get key).map Json.toPy := by
  change (Json.fieldsToPy fields).lookup _ = (fields.lookup key).map _
  clear h
  induction fields with
  | nil => rfl
  | cons f t ih =>
    obtain ⟨k, a⟩ := f
    rw [Json.fieldsToPy, List.lookup_cons, List.lookup_cons, ih]
    by_cases hk : key = k
    · simp [hk]
    · have hk' : (PyKey.str key == PyKey.str k) = false := by simp [hk]
      rw [hk', beq_eq_false_iff_ne.mpr hk]

/-- The envelope whose parts are read from JSON. -/
def PyEnvelope.ofJson (e : SignatureEnvelope) (hheader : (Json.obj e.header).DistinctKeys)
    (hpayload : (Json.obj e.payload).DistinctKeys) : PyEnvelope :=
  .new (.ofJson e.header hheader) (.ofJson e.payload hpayload) e.signature

namespace ArtifactService

/-- Freezing and thawing change nothing that the verifier reads: scalars stay, and no container is
read as one. -/
theorem reads_map_freeze (rt : Runtime) (v : Option PyValue) : text (v.map .freeze) = text v ∧
    integer (v.map .freeze) = integer v ∧ isOne rt (v.map .freeze) = isOne rt v := by
  rcases v with _ | (_ | _ | _ | _ | _ | ⟨_ | _ | _, _⟩ | _ | _) <;> exact ⟨rfl, rfl, rfl⟩

theorem reads_map_thaw (rt : Runtime) (v : Option PyValue) : text (v.map .thaw) = text v ∧
    integer (v.map .thaw) = integer v ∧ isOne rt (v.map .thaw) = isOne rt v := by
  rcases v with _ | (_ | _ | _ | _ | _ | ⟨_ | _ | _, _⟩ | _ | _) <;> exact ⟨rfl, rfl, rfl⟩

theorem signingInput_freeze (header payload : PyMapping) :
    signingInput header.freeze payload.freeze = signingInput header payload := by
  have hvalue := PyValue.canonicalJsonBytes_freeze
    (.map .dict [(.str "protected", header.value), (.str "payload", payload.value)])
  rw [signingInput, signingInput, ← hvalue]
  rfl

theorem signingInput_thaw (header payload : PyMapping) :
    signingInput header.thaw payload.thaw = signingInput header payload := by
  have hvalue := PyValue.canonicalJsonBytes_thaw
    (.map .dict [(.str "protected", header.value), (.str "payload", payload.value)])
  rw [signingInput, signingInput, ← hvalue]
  rfl

theorem payloadSha256_freeze {rt : Runtime} (payload : PyMapping) :
    payloadSha256 rt payload.freeze = payloadSha256 rt payload := by
  rw [payloadSha256, PyMapping.value_freeze, PyValue.canonicalJsonBytes_freeze, payloadSha256]

theorem payloadSha256_thaw {rt : Runtime} (payload : PyMapping) :
    payloadSha256 rt payload.thaw = payloadSha256 rt payload := by
  rw [payloadSha256, PyMapping.value_thaw, PyValue.canonicalJsonBytes_thaw, payloadSha256]

variable {rt : Runtime} {keys : KeyProvider}

/-- Freezing the parts of an envelope changes nothing for the verifier. -/
theorem checkArtifact_new (header payload : PyMapping) (signature : String)
    (expected : Option ArtifactType) (acceptRevoked : Bool) :
    checkArtifact rt keys (.new header payload signature) expected acceptRevoked =
      checkArtifact rt keys ⟨header, payload, signature⟩ expected acceptRevoked := by
  unfold checkArtifact PyEnvelope.new
  simp only [PyMapping.get_freeze, reads_map_freeze rt, payloadSha256_freeze, signingInput_freeze]

/-- Thawing them changes nothing either. -/
theorem checkArtifact_thaw (e : PyEnvelope) (expected : Option ArtifactType) (acceptRevoked : Bool) :
    checkArtifact rt keys ⟨e.header.thaw, e.payload.thaw, e.signature⟩ expected acceptRevoked =
      checkArtifact rt keys e expected acceptRevoked := by
  unfold checkArtifact
  simp only [PyMapping.get_thaw, reads_map_thaw rt, payloadSha256_thaw, signingInput_thaw]

/-- An envelope that is written out and read back verifies as before. -/
theorem verifyArtifact_fromDict_toDict {e e' : PyEnvelope} (h : PyEnvelope.fromDict e.toDict = .ok e')
    (expected : Option ArtifactType) (acceptRevoked : Bool) :
    verifyArtifact rt keys e' expected acceptRevoked =
      verifyArtifact rt keys e expected acceptRevoked := by
  have hne : e.signature ≠ "" := by
    intro hempty
    change (if e.signature = "" then _ else _) = _ at h
    rw [if_pos hempty] at h
    cases h
  rw [PyEnvelope.fromDict_toDict hne, Except.ok.injEq] at h
  rw [← h, verifyArtifact, checkArtifact_new, checkArtifact_thaw, verifyArtifact]

section Json

variable {fields : Fields} {h : (Json.obj fields).DistinctKeys}

theorem text_get_ofJson (key : String) : text ((PyMapping.ofJson fields h).get key) =
    match fields.get key with
    | some (.str s) => some s
    | _ => none := by
  rw [PyMapping.get_ofJson]
  rcases fields.get key with _ | (_ | _ | _ | _ | _ | _ | _) <;> rfl

theorem integer_get_ofJson (key : String) : integer ((PyMapping.ofJson fields h).get key) =
    match fields.get key with
    | some (.int n) => some n
    | some (.bool b) => some (if b then 1 else 0)
    | _ => none := by
  rw [PyMapping.get_ofJson]
  rcases fields.get key with _ | (_ | _ | _ | _ | _ | _ | _) <;> rfl

theorem isOne_get_ofJson (key : String) : isOne rt ((PyMapping.ofJson fields h).get key) =
    SignatureService.isOne rt (fields.get key) := by
  rw [PyMapping.get_ofJson]
  rcases fields.get key with _ | (_ | _ | _ | _ | _ | _ | _) <;> rfl

theorem text_get_ofJson_eq {key s : String} :
    text ((PyMapping.ofJson fields h).get key) = some s ↔ fields.get key = some (.str s) := by
  rw [text_get_ofJson]
  rcases fields.get key with _ | (_ | _ | _ | _ | _ | _ | _) <;> simp

end Json

/-- On parts read from JSON the verifier is that of `SignatureService`. -/
theorem verifyArtifact_ofJson (e : SignatureEnvelope) (hheader : (Json.obj e.header).DistinctKeys)
    (hpayload : (Json.obj e.payload).DistinctKeys) (expected : Option ArtifactType)
    (acceptRevoked : Bool) :
    verifyArtifact rt keys (.ofJson e hheader hpayload) expected acceptRevoked =
      SignatureService.verifyArtifact rt keys e expected acceptRevoked := by
  have hhash : payloadSha256 rt (.ofJson e.payload hpayload) = rt.payloadSha256 (.obj e.payload) := by
    rw [payloadSha256, Runtime.payloadSha256, ← Json.canonicalJsonBytes_toPy]
    rfl
  have hinput : signingInput (.ofJson e.header hheader) (.ofJson e.payload hpayload) =
      SignatureService.signingInput e.header e.payload := by
    rw [signingInput, SignatureService.signingInput, ← Json.canonicalJsonBytes_toPy]
    rfl
  have hcheck : checkArtifact rt keys (.ofJson e hheader hpayload) expected acceptRevoked =
      SignatureService.checkArtifact rt keys e expected acceptRevoked := by
    rw [PyEnvelope.ofJson, checkArtifact_new]
    unfold checkArtifact SignatureService.checkArtifact
    simp only [ne_eq, text_get_ofJson_eq, isOne_get_ofJson, hhash, hinput]
    refine if_congr Iff.rfl rfl (if_congr Iff.rfl rfl ?_)
    rw [text_get_ofJson]
    rcases e.header.get "kid" with _ | (_ | _ | _ | _ | keyId | _ | _)
    case some.str =>
      refine if_congr Iff.rfl rfl ?_
      rw [text_get_ofJson "typ", integer_get_ofJson, text_get_ofJson "payload_sha256"]
      rcases e.header.get "typ" with _ | (_ | _ | _ | _ | typ | _ | _)
      case some.str =>
        change (match ArtifactType.ofValue typ with | none => _ | some artifactType => _) =
          match ArtifactType.ofValue typ with | none => _ | some artifactType => _
        cases ArtifactType.ofValue typ with
        | none => rfl
        | some artifactType =>
          refine if_congr Iff.rfl rfl ?_
          cases keys.getKeyRecord keyId with
          | none => rfl
          | some record =>
            refine if_congr Iff.rfl rfl (if_congr Iff.rfl rfl (if_congr Iff.rfl rfl ?_))
            rcases e.header.get "payload_sha256" with _ | (_ | _ | _ | _ | _ | _ | _) <;> rfl
      all_goals rfl
    all_goals rfl
  unfold verifyArtifact SignatureService.verifyArtifact
  cases hresult : SignatureService.checkArtifact rt keys e expected acceptRevoked with
  | ok result => simp only [hcheck.trans hresult]
  | error exn => simp only [hcheck.trans hresult]

end ArtifactService

end RailOne
