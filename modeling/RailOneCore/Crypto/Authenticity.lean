import RailOneCore.Crypto.Envelope
import RailOneCore.Foundation.SampleRuntime

/-!
# What a valid artifact proves

A history is any list of calls that generate, retire and revoke keys and sign artifacts.  If no
signature is forged, an artifact that verifies under a type was signed under that type, with its own
payload and header, by a key of the purpose of the type.

In the other direction a signed artifact verifies later on exactly when its header, which keeps whole
seconds, still falls into the window of the key, and the key has a name.
-/

namespace RailOne

namespace ArtifactService

open RailOne.Sample (sealedRuntime)

/-! ## Histories -/

/-- A call on the key provider or on the signature service. -/
inductive KeyCall
  | generate (privateKey : ByteArray) (keyId ownerId : String) (purpose : KeyPurpose)
      (notBefore notAfter : Instant)
  | retire (keyId : String)
  | revoke (keyId reason : String)
  | sign (call : SignCall)

variable (rt : Runtime)

/-- The key provider after a call.  A call that raises leaves it as it was. -/
def step (keys : KeyProvider) : KeyCall → KeyProvider
  | .generate privateKey keyId ownerId purpose notBefore notAfter =>
    (keys.generate rt privateKey keyId ownerId purpose notBefore notAfter).toOption.getD keys
  | .retire keyId => (keys.retire keyId).toOption.getD keys
  | .revoke keyId reason => (keys.revoke keyId reason).toOption.getD keys
  | .sign _ => keys

/-- The key provider after a history, which starts without keys. -/
def run (calls : List KeyCall) : KeyProvider := calls.foldl (step rt) .empty

variable {rt}

@[simp] theorem run_append_singleton (calls : List KeyCall) (c : KeyCall) :
    run rt (calls ++ [c]) = step rt (run rt calls) c := by
  simp [run]

theorem requireRecord_eq_ok {keys : KeyProvider} {keyId : String} {record : KeyRecord} :
    keys.requireRecord keyId = .ok record ↔ keys.getKeyRecord keyId = some record := by
  unfold KeyProvider.requireRecord
  cases keys.getKeyRecord keyId <;> simp

/-- Everything a call can do to the key provider: nothing, add a fresh key, or change the status of a
key and drop its private half. -/
theorem step_cases (keys : KeyProvider) (c : KeyCall) :
    step rt keys c = keys ∨
    (∃ privateKey keyId ownerId purpose notBefore notAfter, ∃ window : notBefore < notAfter,
      c = .generate privateKey keyId ownerId purpose notBefore notAfter ∧
      keys.records.get? keyId = none ∧
      step rt keys c =
        ⟨keys.records.set keyId ⟨keyId, ownerId, purpose, rt.publicKey privateKey, .active, notBefore,
          notAfter, window⟩, keys.privateKeys.set keyId privateKey⟩) ∨
    ∃ keyId record status, keys.getKeyRecord keyId = some record ∧
      (c = .retire keyId ∧ status = .retired ∨ ∃ reason, c = .revoke keyId reason ∧ status = .revoked) ∧
      step rt keys c = keys.withStatus keyId record status := by
  cases c with
  | generate privateKey keyId ownerId purpose notBefore notAfter =>
    rw [step, KeyProvider.generate]
    cases hget : keys.records.get? keyId with
    | some record => exact .inl rfl
    | none =>
      by_cases window : notBefore < notAfter
      · simp only [window]
        exact .inr (.inl ⟨privateKey, keyId, ownerId, purpose, notBefore, notAfter, window, rfl, hget,
          rfl⟩)
      · simp only [window]
        exact .inl rfl
  | retire keyId =>
    cases hreq : keys.requireRecord keyId with
    | error exn =>
      refine .inl ?_
      rw [step, KeyProvider.retire, hreq]
      rfl
    | ok record =>
      refine .inr (.inr ⟨keyId, record, .retired, requireRecord_eq_ok.mp hreq, .inl ⟨rfl, rfl⟩, ?_⟩)
      rw [step, KeyProvider.retire, hreq]
      rfl
  | revoke keyId reason =>
    by_cases hreason : strip reason ≠ ""
    · cases hreq : keys.requireRecord keyId with
      | error exn =>
        refine .inl ?_
        rw [step, KeyProvider.revoke, hreq, require, if_pos hreason]
        rfl
      | ok record =>
        refine .inr (.inr ⟨keyId, record, .revoked, requireRecord_eq_ok.mp hreq,
          .inr ⟨reason, rfl, rfl⟩, ?_⟩)
        rw [step, KeyProvider.revoke, hreq, require, if_pos hreason]
        rfl
    · refine .inl ?_
      rw [step, KeyProvider.revoke, require, if_neg hreason]
      rfl
  | sign call => exact .inl rfl

/-! ## Records and their private keys -/

/-- The private key was drawn for some key of the history. -/
def Drawn (calls : List KeyCall) (privateKey : ByteArray) : Prop :=
  ∃ keyId ownerId purpose notBefore notAfter,
    KeyCall.generate privateKey keyId ownerId purpose notBefore notAfter ∈ calls

/-- Every record is filed under its own key id and has the public half of a drawn key, and private
keys are kept only for records that have their public half. -/
structure KeysMatch (rt : Runtime) (calls : List KeyCall) (keys : KeyProvider) : Prop where
  record : ∀ keyId record, keys.getKeyRecord keyId = some record → record.keyId = keyId ∧
    ∃ privateKey, Drawn calls privateKey ∧ record.publicKey = rt.publicKey privateKey
  privateKey : ∀ keyId privateKey, keys.privateKeys.get? keyId = some privateKey →
    ∃ record, keys.getKeyRecord keyId = some record ∧ record.publicKey = rt.publicKey privateKey

theorem Drawn.append {calls : List KeyCall} {privateKey : ByteArray} (h : Drawn calls privateKey)
    (more : List KeyCall) : Drawn (calls ++ more) privateKey := by
  obtain ⟨keyId, ownerId, purpose, notBefore, notAfter, hmem⟩ := h
  exact ⟨keyId, ownerId, purpose, notBefore, notAfter, List.mem_append_left _ hmem⟩

theorem KeysMatch.mono {calls : List KeyCall} {keys : KeyProvider} (h : KeysMatch rt calls keys)
    (more : List KeyCall) : KeysMatch rt (calls ++ more) keys where
  record keyId record hget := by
    obtain ⟨hid, privateKey, hdrawn, hpublic⟩ := h.record keyId record hget
    exact ⟨hid, privateKey, hdrawn.append more, hpublic⟩
  privateKey := h.privateKey

theorem keysMatch_step {calls : List KeyCall} {keys : KeyProvider} (h : KeysMatch rt calls keys)
    (c : KeyCall) : KeysMatch rt (calls ++ [c]) (step rt keys c) := by
  have hmono := h.mono [c]
  rcases step_cases keys c with heq | ⟨privateKey, keyId, ownerId, purpose, notBefore, notAfter,
    window, rfl, hfresh, heq⟩ | ⟨keyId, record, status, hget, -, heq⟩
  · rw [heq]
    exact hmono
  · rw [heq]
    constructor
    · intro keyId' record' hget'
      simp only [KeyProvider.getKeyRecord, Ordered.Dict.get?_set] at hget'
      split_ifs at hget' with hid
      · cases hget'
        exact ⟨hid.symm, privateKey, ⟨keyId, ownerId, purpose, notBefore, notAfter, by simp⟩, rfl⟩
      · exact hmono.record keyId' record' hget'
    · intro keyId' privateKey' hget'
      simp only [KeyProvider.getKeyRecord, Ordered.Dict.get?_set] at hget' ⊢
      split_ifs at hget' ⊢ with hid
      · cases hget'
        exact ⟨_, rfl, rfl⟩
      · exact hmono.privateKey keyId' privateKey' hget'
  · rw [heq]
    constructor
    · intro keyId' record' hget'
      simp only [KeyProvider.withStatus, KeyProvider.getKeyRecord, Ordered.Dict.get?_set] at hget'
      split_ifs at hget' with hid
      · cases hget'
        exact hid ▸ hmono.record keyId record hget
      · exact hmono.record keyId' record' hget'
    · intro keyId' privateKey' hget'
      simp only [KeyProvider.withStatus, KeyProvider.getKeyRecord, Ordered.Dict.get?_set,
        Ordered.Dict.get?_erase] at hget' ⊢
      split_ifs at hget' ⊢ with hid
      exact hmono.privateKey keyId' privateKey' hget'

theorem keysMatch_run (calls : List KeyCall) : KeysMatch rt calls (run rt calls) := by
  induction calls using List.reverseRecOn with
  | nil => exact ⟨nofun, nofun⟩
  | append_singleton calls c ih =>
    rw [run_append_singleton]
    exact keysMatch_step ih c

/-- A record stays, and only its status ever changes. -/
theorem getKeyRecord_step {keys : KeyProvider} {keyId : String} {record : KeyRecord}
    (h : keys.getKeyRecord keyId = some record) (c : KeyCall) :
    ∃ status, (step rt keys c).getKeyRecord keyId = some { record with status } := by
  rcases step_cases keys c with heq | ⟨privateKey, keyId', ownerId, purpose, notBefore, notAfter,
    window, rfl, hfresh, heq⟩ | ⟨keyId', record', status, hget, -, heq⟩
  · exact ⟨record.status, by rw [heq]; exact h⟩
  · have hne : keyId ≠ keyId' := by
      rintro rfl
      rw [KeyProvider.getKeyRecord, hfresh] at h
      cases h
    refine ⟨record.status, ?_⟩
    rw [heq, KeyProvider.getKeyRecord, Ordered.Dict.get?_set_of_ne _ _ hne]
    exact h
  · rw [heq, KeyProvider.withStatus, KeyProvider.getKeyRecord, Ordered.Dict.get?_set]
    by_cases hid : keyId = keyId'
    · subst hid
      rw [hget] at h
      cases h
      exact ⟨status, if_pos rfl⟩
    · exact ⟨record.status, by rw [if_neg hid]; exact h⟩

theorem getKeyRecord_run {before : List KeyCall} {keyId : String} {record : KeyRecord}
    (h : (run rt before).getKeyRecord keyId = some record) (more : List KeyCall) :
    ∃ status, (run rt (before ++ more)).getKeyRecord keyId = some { record with status } := by
  induction more using List.reverseRecOn with
  | nil => exact ⟨record.status, by rw [List.append_nil]; exact h⟩
  | append_singleton more c ih =>
    obtain ⟨status, hstatus⟩ := ih
    rw [← List.append_assoc, run_append_singleton]
    exact getKeyRecord_step hstatus c

/-! ## Completeness -/

/-- What signing relies on: the primitive verifies what it signed, base64 is read back, signatures
are not empty, and digests are ASCII text. -/
structure FaithfulSignatures (rt : Runtime) : Prop where
  verify_sign : ∀ key message,
    rt.ed25519Verify (rt.publicKey key) (rt.ed25519Sign key message) message = true
  decode_encode : ∀ data, rt.b64urlDecode (rt.b64urlEncode data) = .ok data
  encode_sign_ne : ∀ key message, rt.b64urlEncode (rt.ed25519Sign key message) ≠ ""
  sha256_ascii : ∀ data, ∀ c ∈ (rt.sha256 data).toList, c.toNat < 128

/-- The verifier finds the envelope valid under the type. -/
def Accepts (rt : Runtime) (keys : KeyProvider) (e : PyEnvelope) (t : ArtifactType) : Prop :=
  ∃ result, verifyArtifact rt keys e (some t) false = .ok result ∧ result.valid = true

/-- The instant that the header stores, in whole seconds, is in the window of the key. -/
def HeaderInWindow (record : KeyRecord) (issuedAt : Instant) : Prop :=
  ∃ instant, fromTimestamp (epochSeconds issuedAt) = .ok instant ∧ record.notBefore ≤ instant ∧
    instant < record.notAfter

/-- A signed artifact passes the checks while its key is not revoked, if its header is in the window
of the key and the key has a name. -/
theorem passes_of_signArtifact (hrt : FaithfulSignatures rt) {before after : List KeyCall}
    {call : SignCall} {e : PyEnvelope} {record : KeyRecord} {status : KeyStatus}
    (hsigned : signArtifact rt (run rt before) call = .ok e)
    (hrecord : (run rt before).getKeyRecord call.keyId = some record)
    (hlater : (run rt (before ++ after)).getKeyRecord call.keyId = some { record with status })
    (hlive : status ≠ .revoked) (hname : call.keyId ≠ "")
    (hwindow : HeaderInWindow record call.issuedAt) :
    Passes rt (run rt (before ++ after)) e (some call.artifactType) false call.keyId
      call.artifactType { record with status } := by
  obtain ⟨record', hash, key, message, hrecord', hpurpose, hhash, hkey, hmessage, rfl⟩ :=
    signArtifact_eq_ok hsigned
  rw [hrecord, Option.some.injEq] at hrecord'
  subst hrecord'
  have hmatch : KeysMatch rt before (run rt before) := keysMatch_run before
  have hid := (hmatch.record _ _ hrecord).1
  obtain ⟨record', hrecord', hpublic⟩ := hmatch.privateKey _ _ hkey
  rw [hrecord, Option.some.injEq] at hrecord'
  subst hrecord'
  obtain ⟨bytes, hbytes, hhash'⟩ : ∃ bytes, call.payload.value.canonicalJsonBytes = .ok bytes ∧
      rt.sha256 bytes = hash := by
    simpa only [payloadSha256, bind_eq_ok, pure_eq_ok] using hhash
  refine ⟨rfl, rfl, rfl, ?_, hname, ArtifactType.ofValue_value _, .inr rfl, hlater, rfl, hpurpose,
    .inl hlive, ?_, ⟨hash, rfl, ?_, ?_⟩, ⟨rt.ed25519Sign key message, message, ?_, ?_, ?_⟩⟩
  · exact congrArg some hid
  · obtain ⟨instant, hinstant, hle, hlt⟩ := hwindow
    exact ⟨_, instant, rfl, hinstant, hle, hlt⟩
  · exact (payloadSha256_freeze call.payload.toDict).trans hhash
  · exact hhash' ▸ hrt.sha256_ascii bytes
  · exact hrt.decode_encode _
  · exact (signingInput_freeze _ call.payload.toDict).trans hmessage
  · change rt.ed25519Verify record.publicKey _ _ = true
    rw [hpublic]
    exact hrt.verify_sign key message

/-- The verifier only accepts a signed artifact if the key has a name and the header is in the window
of the key. -/
theorem window_of_accepts {before after : List KeyCall} {call : SignCall} {e : PyEnvelope}
    {record : KeyRecord} (hsigned : signArtifact rt (run rt before) call = .ok e)
    (hrecord : (run rt before).getKeyRecord call.keyId = some record)
    (haccepts : Accepts rt (run rt (before ++ after)) e call.artifactType) :
    call.keyId ≠ "" ∧ HeaderInWindow record call.issuedAt := by
  obtain ⟨result, hverify, hvalid⟩ := haccepts
  obtain ⟨keyId, artifactType, later, hpasses⟩ := passes_of_verifyArtifact hverify hvalid
  obtain ⟨record', hash, key, message, hrecord', -, -, -, -, rfl⟩ := signArtifact_eq_ok hsigned
  rw [hrecord, Option.some.injEq] at hrecord'
  subst hrecord'
  have hmatch : KeysMatch rt before (run rt before) := keysMatch_run before
  have hid := (hmatch.record _ _ hrecord).1
  have hkid : keyId = call.keyId := by
    have hget := hpasses.kid
    change some record.keyId = some keyId at hget
    rw [← Option.some.inj hget, hid]
  subst hkid
  obtain ⟨status, hlater⟩ := getKeyRecord_run hrecord after
  have hfound := hpasses.found
  rw [hlater, Option.some.injEq] at hfound
  obtain ⟨n, issuedAt, hiat, hissued, hle, hlt⟩ := hpasses.issued
  change some (epochSeconds call.issuedAt) = some n at hiat
  rw [← Option.some.inj hiat] at hissued
  rw [← hfound] at hle hlt
  exact ⟨hpasses.kid_ne, issuedAt, hissued, hle, hlt⟩

/-- A signed artifact verifies while its key is not revoked, also once it was written out and read
back, exactly when the key has a name and the header is in the window of the key. -/
theorem signed_artifact_verifies_iff (hrt : FaithfulSignatures rt) {before after : List KeyCall}
    {call : SignCall} {e : PyEnvelope} {record : KeyRecord}
    (hsigned : signArtifact rt (run rt before) call = .ok e)
    (hrecord : (run rt before).getKeyRecord call.keyId = some record)
    (hlive : ∀ later, (run rt (before ++ after)).getKeyRecord call.keyId = some later →
      later.status ≠ .revoked) :
    (Accepts rt (run rt (before ++ after)) e call.artifactType ∧
      ∃ e', PyEnvelope.fromDict e.toDict = .ok e' ∧
        Accepts rt (run rt (before ++ after)) e' call.artifactType) ↔
      call.keyId ≠ "" ∧ HeaderInWindow record call.issuedAt := by
  constructor
  · rintro ⟨haccepts, -⟩
    exact window_of_accepts hsigned hrecord haccepts
  · rintro ⟨hname, hwindow⟩
    obtain ⟨status, hlater⟩ := getKeyRecord_run hrecord after
    have hpasses := passes_of_signArtifact hrt hsigned hrecord hlater (hlive _ hlater) hname hwindow
    have haccepts : Accepts rt (run rt (before ++ after)) e call.artifactType :=
      ⟨_, verifyArtifact_of_passes hpasses, rfl⟩
    have hne : e.signature ≠ "" := by
      obtain ⟨_, _, key, message, -, -, -, -, -, rfl⟩ := signArtifact_eq_ok hsigned
      exact hrt.encode_sign_ne key message
    have hread := PyEnvelope.fromDict_toDict hne
    refine ⟨haccepts, _, hread, ?_⟩
    obtain ⟨result, hverify, hvalid⟩ := haccepts
    exact ⟨result, by rw [verifyArtifact_fromDict_toDict hread]; exact hverify, hvalid⟩

/-! ### A sample history -/

namespace Sample

open RailOne.Sample

/-- The payload of the sample, a nested one. -/
def payload : PyMapping where
  kind := .dict
  fields := [(.str "utt_id", .str "UTT-1"), (.str "parts", .seq .list [.int 1, .bool true])]
  distinct := by simp [PyValue.DistinctKeys, PyValue.DistinctKeysFields, PyValue.DistinctKeysItems]

/-- A key for execution artifacts, valid in the given window. -/
def generated (notBefore notAfter : Instant) : KeyCall :=
  .generate "secret".toUTF8 "EXEC" "RAILONE" .executionSigning notBefore notAfter

/-- A call that signs the payload as a UTT. -/
def call (issuedAt : Instant) : SignCall := ⟨.utt, payload, "EXEC", issuedAt⟩

theorem faithfulSignatures_sealedRuntime : FaithfulSignatures sealedRuntime where
  verify_sign key message := by simp [sealedRuntime]
  decode_encode := hexDecode_hexText
  encode_sign_ne := hexText_stamp_ne
  sha256_ascii data c hc := by
    have hbound := Runtime.toNat_of_isHexDigit (isHexDigit_of_mem_hexText hc)
    omega

end Sample

/-- The sample key signs an artifact, is retired, and the artifact still verifies. -/
theorem signed_artifact_verifies_iff_sample :
    ∃ e, signArtifact sealedRuntime (run sealedRuntime [Sample.generated 0 2000000])
        (Sample.call 1500000) = .ok e ∧
      Accepts sealedRuntime
        (run sealedRuntime ([Sample.generated 0 2000000] ++ [.retire "EXEC"])) e .utt := by
  obtain ⟨e, he⟩ : ∃ e, signArtifact sealedRuntime (run sealedRuntime [Sample.generated 0 2000000])
    (Sample.call 1500000) = .ok e := ⟨_, rfl⟩
  refine ⟨e, he, ((signed_artifact_verifies_iff Sample.faithfulSignatures_sealedRuntime he rfl ?_).mpr
    ⟨by decide, 1000000, rfl, by decide, by decide⟩).1⟩
  intro later hlater
  cases hlater
  decide

/-- A key that becomes valid in the middle of a second signs in the same second.  The verifier
refuses the artifact: its header stores the beginning of the second. -/
theorem issued_in_first_second_refused :
    FaithfulSignatures sealedRuntime ∧
    (do
      let keys := run sealedRuntime [Sample.generated 500000 2000000]
      let e ← signArtifact sealedRuntime keys (Sample.call 700000)
      verifyArtifact sealedRuntime keys e (some .utt) false) =
      .ok ⟨false, "KEY_NOT_VALID_AT_ISSUANCE", some "EXEC", some .utt⟩ := by
  refine ⟨Sample.faithfulSignatures_sealedRuntime, ?_⟩
  rfl

/-! ## Authenticity -/

/-- The private key has signed the message: the signing input of some artifact of the history. -/
def Signed (rt : Runtime) (calls : List KeyCall) (privateKey message : ByteArray) : Prop :=
  ∃ before call after e, calls = before ++ .sign call :: after ∧
    signArtifact rt (run rt before) call = .ok e ∧
    (run rt before).privateKeys.get? call.keyId = some privateKey ∧
    signingInput e.header e.payload = .ok message

/-- The signature is no forgery: under the public half of a key of the history it verifies only
messages that the key has signed. -/
def Unforged (rt : Runtime) (calls : List KeyCall) (signature : String) : Prop :=
  ∀ privateKey, Drawn calls privateKey → ∀ bytes message, rt.b64urlDecode signature = .ok bytes →
    rt.ed25519Verify (rt.publicKey privateKey) bytes message = true →
    Signed rt calls privateKey message

/-- The signing input determines the header and the payload as JSON values. -/
theorem meaning_of_signingInput {header payload header' payload' : PyMapping} {message : ByteArray}
    (h : signingInput header payload = .ok message)
    (h' : signingInput header' payload' = .ok message) :
    header.value.meaning = header'.value.meaning ∧ payload.value.meaning = payload'.value.meaning := by
  have hdistinct : ∀ m n : PyMapping, (PyValue.map .dict [(.str "protected", m.value),
      (.str "payload", n.value)]).DistinctKeys := fun m n => ⟨by simp, m.distinct, n.distinct, trivial⟩
  simp only [signingInput, bind_eq_ok, pure_eq_ok] at h h'
  obtain ⟨body, hbody, rfl⟩ := h
  obtain ⟨body', hbody', heq⟩ := h'
  have hbytes : body = body' := by
    have hdata := congrArg (fun b : ByteArray => b.data.toList) heq
    simp only [ByteArray.data_append, Array.toList_append] at hdata
    exact (ByteArray.ext (Array.toList_inj.mp (List.append_cancel_left hdata))).symm
  have hmeaning := Meaning.obj.inj
    ((canonical_encoding (hdistinct _ _) (hdistinct _ _) hbody hbody').1.mp hbytes)
  have hprotected := congrFun hmeaning (.str "protected")
  have hpayload := congrFun hmeaning (.str "payload")
  simp only [PyValue.meaningFields, if_true, Option.some.injEq] at hprotected
  have hne : PyKey.str "payload" ≠ .str "protected" := by decide
  simp only [PyValue.meaningFields, if_neg hne, if_true, Option.some.injEq] at hpayload
  exact ⟨hprotected, hpayload⟩

/-- An artifact that verifies under a type was signed under that type, with the same payload and the
same protected header, by a key of the purpose of the type. -/
theorem verified_artifact_was_signed {calls : List KeyCall} {e : PyEnvelope} {t : ArtifactType}
    {acceptRevoked : Bool} {result : VerificationResult} (hideal : Unforged rt calls e.signature)
    (hverify : verifyArtifact rt (run rt calls) e (some t) acceptRevoked = .ok result)
    (hvalid : result.valid = true) :
    ∃ before call after e' record, calls = before ++ .sign call :: after ∧
      signArtifact rt (run rt before) call = .ok e' ∧ call.artifactType = t ∧
      call.payload.value.meaning = e.payload.value.meaning ∧
      (run rt before).getKeyRecord call.keyId = some record ∧ record.purpose = t.purpose ∧
      e'.header.value.meaning = e.header.value.meaning := by
  obtain ⟨keyId, artifactType, record, hpasses⟩ := passes_of_verifyArtifact hverify hvalid
  obtain ⟨-, privateKey, hdrawn, hpublic⟩ := (keysMatch_run calls).record keyId record hpasses.found
  obtain ⟨signature, message, hdecode, hmessage, hsignature⟩ := hpasses.signature
  rw [hpublic] at hsignature
  obtain ⟨before, call, after, e', hcalls, hsigned, -, hmessage'⟩ :=
    hideal privateKey hdrawn signature message hdecode hsignature
  obtain ⟨hheader, hpayload⟩ := meaning_of_signingInput hmessage' hmessage
  obtain ⟨record', hash, key', message', hrecord', hpurpose', -, -, -, rfl⟩ :=
    signArtifact_eq_ok hsigned
  -- the type is read off the header, which the signature covers
  have htype : artifactType = t := by
    rcases hpasses.expects with h | h
    · cases h
    · exact (Option.some.inj h).symm
  have htyp : call.artifactType = t := by
    have hget : e.header.get "typ" = some (.str call.artifactType.value) :=
      PyMapping.get_str_of_meaning hheader rfl
    have hparse := hpasses.typ
    rw [hget] at hparse
    change ArtifactType.ofValue call.artifactType.value = _ at hparse
    rw [ArtifactType.ofValue_value, htype] at hparse
    exact Option.some.inj hparse
  refine ⟨before, call, after, _, record', hcalls, hsigned, htyp, ?_, hrecord', htyp ▸ hpurpose',
    hheader⟩
  rw [← hpayload]
  exact (PyValue.meaning_freeze call.payload.toDict.value).symm


/-- An artifact of the sample, verified after its key was retired. -/
theorem verified_artifact_was_signed_sample :
    ∃ e : PyEnvelope, ∃ before call after e',
      [Sample.generated 0 2000000, .sign (Sample.call 1500000), .retire "EXEC"] =
        before ++ .sign call :: after ∧
      signArtifact sealedRuntime (run sealedRuntime before) call = .ok e' ∧
      e'.header.value.meaning = e.header.value.meaning := by
  obtain ⟨e, he⟩ : ∃ e, signArtifact sealedRuntime (run sealedRuntime [Sample.generated 0 2000000])
    (Sample.call 1500000) = .ok e := ⟨_, rfl⟩
  have hlater : (run sealedRuntime ([Sample.generated 0 2000000] ++
      [.sign (Sample.call 1500000), .retire "EXEC"])).getKeyRecord "EXEC" =
      some ⟨"EXEC", "RAILONE", .executionSigning, "secret".toUTF8, .retired, 0, 2000000, by decide⟩ :=
    rfl
  have hpasses := passes_of_signArtifact Sample.faithfulSignatures_sealedRuntime he rfl hlater
    (by decide) (by decide) ⟨1000000, rfl, by decide, by decide⟩
  have hideal : Unforged sealedRuntime
      [Sample.generated 0 2000000, .sign (Sample.call 1500000), .retire "EXEC"] e.signature := by
    intro privateKey hdrawn bytes message hdecode hverify
    obtain ⟨record, hash, key, signed, hrecord, -, hhash, hkey, hsigned, rfl⟩ := signArtifact_eq_ok he
    have hprivate : privateKey = key := by
      obtain ⟨keyId, ownerId, purpose, notBefore, notAfter, hmem⟩ := hdrawn
      simp only [Sample.generated, List.mem_cons, KeyCall.generate.injEq, reduceCtorEq,
        List.not_mem_nil, or_false] at hmem
      exact hmem.1.trans (Option.some.inj hkey)
    subst hprivate
    have hbytes : bytes = RailOne.Sample.stamp privateKey signed :=
      (Except.ok.inj ((RailOne.Sample.hexDecode_hexText _).symm.trans hdecode)).symm
    have hstamp : bytes = RailOne.Sample.stamp privateKey message :=
      ByteArray.ext (beq_iff_eq.mp hverify)
    have hmessage : signed = message := RailOne.Sample.stamp_inj (hbytes.symm.trans hstamp)
    refine ⟨[Sample.generated 0 2000000], Sample.call 1500000, [.retire "EXEC"], _, rfl, he, hkey, ?_⟩
    rw [← hmessage, ← hsigned]
    exact signingInput_freeze _ (Sample.call 1500000).payload.toDict
  obtain ⟨before, call, after, e', record, hcalls, hsigned, -, -, -, -, hheader⟩ :=
    verified_artifact_was_signed hideal (verifyArtifact_of_passes hpasses) rfl
  exact ⟨e, before, call, after, e', hcalls, hsigned, hheader⟩

end ArtifactService

end RailOne
