import RailOneCore.Security.KeyProvider
import RailOneCore.Institutions.Callback

/-!
# Envelope encryption

`EnvelopeEncryptionService.encrypt` encrypts a value under a fresh data key, wraps that key, and binds both
to the context of the value: its purpose, record, owner and field, in canonical JSON.  `decrypt` refuses
another context.

The size limits are written in three places: for the plaintext in `encrypt`, and for the text of the
ciphertext and its bytes in `decode_base64url`.  They agree: every plaintext that `encrypt` admits comes
back from the portable form of its envelope (`decrypt_fromDict_toDict`).
-/

namespace RailOne

open Ordered

/-- The context of an encrypted value. -/
structure EnvelopeContext where
  purpose : EncryptionPurpose
  recordId : String
  ownerId : String
  fieldName : String
  deriving DecidableEq, Repr

namespace EnvelopeContext

variable (context : EnvelopeContext)

/-- The associated data, before it is encoded. -/
def values : Fields :=
  [("domain", .str "RAILONE-ENVELOPE-AAD-V1"), ("purpose", .str context.purpose.value),
    ("record_id", .str context.recordId), ("owner_id", .str context.ownerId),
    ("field_name", .str context.fieldName)]

/-- The check of one of the texts of a context. -/
def checkText (name value : String) : Except Exn Unit :=
  require (strip value ≠ "" ∧ value.length ≤ 256) ⟨.valueError, name ++ " is invalid"⟩

/-- `_context`. -/
def bytes : Except Exn ByteArray := do
  checkText "record_id" context.recordId
  checkText "owner_id" context.ownerId
  checkText "field_name" context.fieldName
  canonicalJsonBytes (.obj context.values)

/-- The texts are not blank and not too long. -/
structure Admissible : Prop where
  recordId : strip context.recordId ≠ "" ∧ context.recordId.length ≤ 256
  ownerId : strip context.ownerId ≠ "" ∧ context.ownerId.length ≤ 256
  fieldName : strip context.fieldName ≠ "" ∧ context.fieldName.length ≤ 256

variable {context}

theorem accepted_values (context : EnvelopeContext) :
    CanonicalJson.Accepted (.obj context.values) := by
  simp [values, CanonicalJson.Accepted, CanonicalJson.AcceptedFields]

/-- The associated data of an admissible context. -/
theorem Admissible.exists_bytes (h : context.Admissible) :
    ∃ data, context.bytes = .ok data ∧ canonicalJsonBytes (.obj context.values) = .ok data := by
  obtain ⟨data, hdata⟩ := canonicalJsonBytes_of_accepted (accepted_values context)
  refine ⟨data, ?_, hdata⟩
  simp only [bytes, checkText, require, if_pos h.recordId, if_pos h.ownerId, if_pos h.fieldName]
  exact hdata

/-- Contexts are determined by their associated data. -/
theorem eq_of_bytes_eq {context' : EnvelopeContext} {data : ByteArray}
    (h : canonicalJsonBytes (.obj context.values) = .ok data)
    (h' : canonicalJsonBytes (.obj context'.values) = .ok data) : context = context' := by
  have hkeys : (context.values.map Prod.fst).Nodup := by simp [values]
  have hkeys' : (context'.values.map Prod.fst).Nodup := by simp [values]
  have hget := get_of_canonicalJsonBytes_eq hkeys hkeys' h h'
  have htext : ∀ key {s s'}, context.values.get key = some (.str s) →
      context'.values.get key = some (.str s') → s = s' := by
    intro key s s' hs hs'
    have heq := hget key
    rw [hs, hs'] at heq
    exact Json.str.inj (Option.some.inj heq)
  have hpurpose : context.purpose.value = context'.purpose.value := htext "purpose" rfl rfl
  have hrecord : context.recordId = context'.recordId := htext "record_id" rfl rfl
  have howner : context.ownerId = context'.ownerId := htext "owner_id" rfl rfl
  have hfield : context.fieldName = context'.fieldName := htext "field_name" rfl rfl
  obtain ⟨purpose, recordId, ownerId, fieldName⟩ := context
  obtain ⟨purpose', recordId', ownerId', fieldName'⟩ := context'
  obtain rfl : purpose = purpose' := EncryptionPurpose.value_injective hpurpose
  obtain rfl : recordId = recordId' := hrecord
  obtain rfl : ownerId = ownerId' := howner
  obtain rfl : fieldName = fieldName' := hfield
  rfl

end EnvelopeContext

/-! ## The service -/

/-- `EnvelopeEncryptionService`.  Its constructor refuses an incomplete mapping. -/
structure EnvelopeEncryptionService (Coins : Type) where
  keys : KeyEncryptionProvider Coins
  activeKeyIds : Dict EncryptionPurpose String
  complete : ∀ purpose, (activeKeyIds.get? purpose).isSome = true

/-- What an encryption draws at random. -/
structure EnvelopeDraws (Coins : Type) where
  dataKey : TokenBytes 32
  nonce : TokenBytes 12
  coins : Coins

/-- `except (InvalidTag, ValueError, LookupError)`. -/
def Exn.failsAuthentication (exn : Exn) : Bool :=
  exn.className == "InvalidTag" || exn.isValueError || exn.kind == .lookupError || exn.kind == .keyError

namespace EnvelopeEncryptionService

variable {Coins : Type} (rt : Runtime) (aes : AesGcm) (service : EnvelopeEncryptionService Coins)

/-- `EnvelopeEncryptionService(…)`. -/
def new (keys : KeyEncryptionProvider Coins) (activeKeyIds : Dict EncryptionPurpose String) :
    Except Exn (EnvelopeEncryptionService Coins) :=
  if h : ∀ purpose ∈ EncryptionPurpose.all, (activeKeyIds.get? purpose).isSome = true then
    .ok ⟨keys, activeKeyIds, fun purpose => h purpose (by cases purpose <;> decide)⟩
  else .error ⟨.valueError, "active encryption key mapping is incomplete"⟩

/-- `_active_key_ids[purpose]`. -/
def activeKeyId (purpose : EncryptionPurpose) : String :=
  (service.activeKeyIds.get? purpose).get (service.complete purpose)

/-- `MAX_PLAINTEXT_BYTES`. -/
def maxPlaintextBytes : ℕ := 1048576

/-- `encrypt`. -/
def encrypt (draws : EnvelopeDraws Coins) (context : EnvelopeContext) (plaintext : ByteArray) :
    Except Exn EncryptedEnvelope := do
  require (1 ≤ plaintext.size ∧ plaintext.size ≤ maxPlaintextBytes)
    ⟨.valueError, "sensitive plaintext is outside the size policy"⟩
  let associated ← context.bytes
  let keyId := service.activeKeyId context.purpose
  let ciphertext := aes.encrypt draws.dataKey.bytes draws.nonce.bytes plaintext associated
  let wrapped ← service.keys.wrapKey draws.coins keyId draws.dataKey.bytes (rt.digest associated)
  let result : EncryptedEnvelope :=
    { version := 1
      algorithm := "A256GCM"
      keyId
      purpose := context.purpose
      wrappedDataKey := encodeBase64url wrapped
      nonce := encodeBase64url draws.nonce.bytes
      ciphertext := encodeBase64url ciphertext
      aadSha256 := rt.sha256 associated }
  result.validate
  return result

/-- `encrypt_text`. -/
def encryptText (draws : EnvelopeDraws Coins) (context : EnvelopeContext) (plaintext : String) :
    Except Exn EncryptedEnvelope := do
  require (plaintext ≠ "") ⟨.valueError, "sensitive plaintext must be non-empty text"⟩
  service.encrypt rt aes draws context (utf8Bytes plaintext.toList)

/-- The body of the `try` block of `decrypt`. -/
def openEnvelope (envelope : EncryptedEnvelope) (associated : ByteArray) : Except Exn ByteArray := do
  let wrapped ← decodeBase64url "wrapped_data_key" envelope.wrappedDataKey 29 512
  let nonce ← decodeBase64url "nonce" envelope.nonce 12 12
  let ciphertext ← decodeBase64url "ciphertext" envelope.ciphertext 16 1048592
  let dataKey ← service.keys.unwrapKey envelope.keyId wrapped (rt.digest associated)
  aes.decrypt dataKey nonce ciphertext associated

/-- `decrypt`. -/
def decrypt (envelope : EncryptedEnvelope) (context : EnvelopeContext) : Except Exn ByteArray := do
  envelope.validate
  require (envelope.purpose = context.purpose)
    ⟨.envelopeIntegrity, "encrypted value purpose mismatch"⟩
  let associated ← context.bytes
  -- both texts are hexadecimal, so that `compare_digest` does not refuse them
  require (rt.sha256 associated = envelope.aadSha256)
    ⟨.envelopeIntegrity, "encrypted value context mismatch"⟩
  match service.openEnvelope rt aes envelope associated with
  | .ok plaintext => return plaintext
  | .error exn =>
    if exn.failsAuthentication then
      .error ⟨.envelopeIntegrity, "encrypted value failed authentication"⟩
    else .error exn

/-- `decrypt_text`. -/
def decryptText (envelope : EncryptedEnvelope) (context : EnvelopeContext) : Except Exn String := do
  match (← service.decrypt rt aes envelope context).utf8Decode? with
  | some text => return String.ofList text.toList
  | none => .error ⟨.envelopeIntegrity, "decrypted value is not UTF-8"⟩

variable {rt aes service} {context context' : EnvelopeContext}
  {plaintext associated : ByteArray} {envelope : EncryptedEnvelope}

/-! ## What an envelope holds -/

variable (rt aes service context plaintext envelope) in
/-- The envelope is valid, bound to the context, and holds the plaintext. -/
structure Holds : Prop where
  valid : envelope.validate = .ok ()
  purpose : envelope.purpose = context.purpose
  opens : ∃ associated, context.bytes = .ok associated ∧
    canonicalJsonBytes (.obj context.values) = .ok associated ∧
    envelope.aadSha256 = rt.sha256 associated ∧
    service.openEnvelope rt aes envelope associated = .ok plaintext

/-- Every plaintext within the size policy is encrypted, whatever is drawn. -/
theorem exists_encrypt (draws : EnvelopeDraws Coins) (haes : aes.Ideal)
    (hkeys : service.keys.Wraps (service.activeKeyId context.purpose))
    (hdigests : CallbackAdapter.WritesDigests rt) (hcontext : context.Admissible)
    (hsize : 1 ≤ plaintext.size ∧ plaintext.size ≤ maxPlaintextBytes) :
    ∃ envelope, service.encrypt rt aes draws context plaintext = .ok envelope ∧
      service.Holds rt aes context plaintext envelope := by
  obtain ⟨associated, hassociated, hcanonical⟩ := hcontext.exists_bytes
  obtain ⟨wrapped, hwrap, hwrapped, hunwrap⟩ := hkeys.unwrap_wrap draws.coins draws.dataKey.bytes
    (rt.digest associated) draws.dataKey.size_eq
  have hcipher := haes.size_encrypt draws.dataKey.bytes draws.nonce.bytes plaintext associated
    draws.dataKey.size_eq draws.nonce.size_eq
  have hplain := haes.decrypt_encrypt draws.dataKey.bytes draws.nonce.bytes plaintext associated
    draws.dataKey.size_eq draws.nonce.size_eq
  have hnonce := draws.nonce.size_eq
  have hmax : plaintext.size ≤ 1048576 := hsize.2
  have hwrappedText : decodeBase64url "wrapped_data_key" (encodeBase64url wrapped) 29 512 = .ok wrapped :=
    decodeBase64url_encodeBase64url (by omega) (by omega) (by omega)
  have hnonceText : decodeBase64url "nonce" (encodeBase64url draws.nonce.bytes) 12 12 =
      .ok draws.nonce.bytes :=
    decodeBase64url_encodeBase64url (by omega) (by omega) (by omega)
  -- the tag of 16 bytes is the difference between the two limits
  have hcipherText : decodeBase64url "ciphertext" (encodeBase64url
      (aes.encrypt draws.dataKey.bytes draws.nonce.bytes plaintext associated)) 16 1048592 =
      .ok (aes.encrypt draws.dataKey.bytes draws.nonce.bytes plaintext associated) :=
    decodeBase64url_encodeBase64url (by omega) (by omega) (by omega)
  have hdigest := hdigests associated
  obtain ⟨hashBytes, hhex⟩ := fromHex_of_isDigest hdigest
  have hlength : (rt.sha256 associated).length = 64 := by
    rw [InstitutionExecutionInstruction.isDigest, Bool.and_eq_true, beq_iff_eq] at hdigest
    exact hdigest.1
  let sealed : EncryptedEnvelope :=
    { version := 1
      algorithm := "A256GCM"
      keyId := service.activeKeyId context.purpose
      purpose := context.purpose
      wrappedDataKey := encodeBase64url wrapped
      nonce := encodeBase64url draws.nonce.bytes
      ciphertext := encodeBase64url
        (aes.encrypt draws.dataKey.bytes draws.nonce.bytes plaintext associated)
      aadSha256 := rt.sha256 associated }
  have hvalid : sealed.validate = .ok () := by
    simp only [sealed, EncryptedEnvelope.validate, require, hwrappedText, hnonceText, hcipherText,
      if_pos hkeys.keyId_length, if_pos hlength, hhex]
    rfl
  refine ⟨sealed, ?_, hvalid, rfl, associated, hassociated, hcanonical, rfl, ?_⟩
  · simp only [encrypt, require, if_pos hsize, hassociated, hwrap, bind, Except.bind]
    change (sealed.validate >>= fun _ => pure sealed) = .ok sealed
    rw [hvalid]
    rfl
  · simp only [sealed, openEnvelope, hwrappedText, hnonceText, hcipherText, hunwrap, bind, Except.bind]
    exact hplain

/-- What an envelope holds is decrypted in its context. -/
theorem Holds.decrypt_eq (h : service.Holds rt aes context plaintext envelope) :
    service.decrypt rt aes envelope context = .ok plaintext := by
  obtain ⟨associated, hassociated, -, hhash, hopen⟩ := h.opens
  simp only [decrypt, h.valid, hassociated, hopen, require, bind, Except.bind, if_pos h.purpose,
    if_pos hhash.symm]
  rfl

theorem utf8Decode?_utf8Bytes (l : List Char) : (utf8Bytes l).utf8Decode? = some l.toArray := by
  have hutf8 : utf8Bytes l = l.utf8Encode := ByteArray.ext (by simp [utf8Bytes, List.utf8Encode])
  rw [hutf8, List.utf8Decode?_utf8Encode]

/-- A text is decrypted as it was. -/
theorem Holds.decryptText_eq {text : String}
    (h : service.Holds rt aes context (utf8Bytes text.toList) envelope) :
    service.decryptText rt aes envelope context = .ok text := by
  simp only [decryptText, h.decrypt_eq, bind, Except.bind, utf8Decode?_utf8Bytes, String.ofList_toList]
  rfl

/-- In another context it is refused, unless the digests of the contexts collide. -/
theorem Holds.decrypt_eq_error (h : service.Holds rt aes context plaintext envelope)
    (hcontext : context'.Admissible) (hne : context' ≠ context)
    (hcollision : ∀ x y, context.bytes = .ok x → context'.bytes = .ok y → rt.sha256 x = rt.sha256 y →
      x = y) :
    ∃ message, service.decrypt rt aes envelope context' = .error ⟨.envelopeIntegrity, message⟩ := by
  by_cases hpurpose : envelope.purpose = context'.purpose
  · obtain ⟨associated, hassociated, hcanonical, hhash, -⟩ := h.opens
    obtain ⟨associated', hassociated', hcanonical'⟩ := hcontext.exists_bytes
    have hmismatch : ¬ rt.sha256 associated' = envelope.aadSha256 := by
      intro heq
      have hsame := hcollision _ _ hassociated hassociated' (heq.trans hhash).symm
      exact hne (EnvelopeContext.eq_of_bytes_eq hcanonical' (hsame ▸ hcanonical))
    refine ⟨"encrypted value context mismatch", ?_⟩
    simp only [decrypt, h.valid, hassociated', require, bind, Except.bind, if_pos hpurpose,
      if_neg hmismatch]
  · refine ⟨"encrypted value purpose mismatch", ?_⟩
    simp only [decrypt, h.valid, require, bind, Except.bind, if_neg hpurpose]

/-- Every plaintext that `encrypt` admits, in every admissible context and whatever is drawn, comes back
from the portable form of its envelope in this context, and is refused in every other. -/
theorem decrypt_fromDict_toDict (intOfFloat : String → Except Exn Int) (haes : aes.Ideal)
    (hkeys : ∀ purpose, service.keys.Wraps (service.activeKeyId purpose))
    (hdigests : CallbackAdapter.WritesDigests rt) (hcontext : context.Admissible)
    (hsize : 1 ≤ plaintext.size ∧ plaintext.size ≤ maxPlaintextBytes) (draws : EnvelopeDraws Coins) :
    ∃ envelope value, service.encrypt rt aes draws context plaintext = .ok envelope ∧
      envelope.toDict = .ok value ∧
      ∃ envelope', EncryptedEnvelope.fromDict rt intOfFloat value = .ok envelope' ∧
        service.decrypt rt aes envelope' context = .ok plaintext ∧
        ∀ context' : EnvelopeContext, context'.Admissible → context' ≠ context →
          (∀ x y, context.bytes = .ok x → context'.bytes = .ok y → rt.sha256 x = rt.sha256 y → x = y) →
          ∃ message,
            service.decrypt rt aes envelope' context' = .error ⟨.envelopeIntegrity, message⟩ := by
  obtain ⟨envelope, hencrypt, hholds⟩ :=
    exists_encrypt draws haes (hkeys context.purpose) hdigests hcontext hsize
  obtain ⟨value, hvalue, hread⟩ :=
    EncryptedEnvelope.fromDict_toDict rt intOfFloat hholds.valid
  exact ⟨envelope, value, hencrypt, hvalue, envelope, hread, hholds.decrypt_eq,
    fun context' hadmissible hne hcollision => hholds.decrypt_eq_error hadmissible hne hcollision⟩

end EnvelopeEncryptionService

/-! ## A plaintext of the largest size -/

namespace Sample

/-- A checksum of one byte. -/
def checksum (data : ByteArray) : UInt8 := data.data.toList.foldl (fun n b => n * 31 + b) 7

/-- Hide every byte under a mask. -/
def masked (mask : UInt8) (data : ByteArray) : ByteArray := ⟨data.data.map (· ^^^ mask)⟩

theorem masked_masked (mask : UInt8) (data : ByteArray) : masked mask (masked mask data) = data := by
  apply ByteArray.ext
  rw [masked, masked, Array.map_map]
  have hcancel : (fun b : UInt8 => b ^^^ mask) ∘ (fun b => b ^^^ mask) = id := by
    funext b
    simp only [Function.comp_apply, UInt8.xor_assoc, UInt8.xor_self, UInt8.xor_zero, id_eq]
  rw [hcancel, Array.map_id]

theorem size_masked (mask : UInt8) (data : ByteArray) : (masked mask data).size = data.size :=
  Array.size_map

/-- The tag of a text. -/
def authTag (key nonce data associated : ByteArray) : ByteArray :=
  ⟨Array.replicate 16 (checksum (key ++ nonce ++ data ++ associated))⟩

theorem size_authTag (key nonce data associated : ByteArray) :
    (authTag key nonce data associated).size = 16 := Array.size_replicate

/-- A cipher that hides its texts and checks their tags. -/
def maskingAes : AesGcm where
  encrypt key nonce data associated :=
    masked (checksum (key ++ nonce)) data ++ authTag key nonce data associated
  decrypt key nonce data associated :=
    let plain := masked (checksum (key ++ nonce)) (data.extract 0 (data.size - 16))
    if data.extract (data.size - 16) data.size = authTag key nonce plain associated then .ok plain
    else .error ⟨.external, "InvalidTag"⟩

theorem maskingAes_ideal : maskingAes.Ideal where
  decrypt_encrypt key nonce data associated _ _ := by
    have hsize : (masked (checksum (key ++ nonce)) data ++ authTag key nonce data associated).size - 16 =
        (masked (checksum (key ++ nonce)) data).size := by
      rw [ByteArray.size_append, size_authTag, Nat.add_sub_cancel]
    simp only [maskingAes, hsize, ByteArray.extract_append_eq_left rfl,
      ByteArray.extract_append_eq_right rfl ByteArray.size_append, masked_masked, if_true]
  size_encrypt key nonce data associated _ _ := by
    simp only [maskingAes, ByteArray.size_append, size_masked, size_authTag]

/-- The provider of the sample holds one key. -/
def sampleRing : KeyRing := (KeyRing.empty.register "KEK-1" ⟨Array.replicate 32 1⟩).toOption.getD .empty

/-- The service of the sample uses this key for every purpose. -/
def sampleEncryption : EnvelopeEncryptionService (TokenBytes 12) where
  keys := sampleRing.provider maskingAes
  activeKeyIds := (((Dict.empty.set .accountEndpoint "KEK-1").set .contactDestination "KEK-1").set
    .providerCredential "KEK-1").set .notificationBody "KEK-1"
  complete purpose := by cases purpose <;> rfl

theorem sampleEncryption_wraps (purpose : EncryptionPurpose) :
    sampleEncryption.keys.Wraps (sampleEncryption.activeKeyId purpose) := by
  have hkey : sampleEncryption.activeKeyId purpose = "KEK-1" := by cases purpose <;> rfl
  have hget : sampleRing.keys.get? "KEK-1" = some ⟨Array.replicate 32 1⟩ := by decide +kernel
  rw [hkey]
  exact KeyRing.wraps maskingAes_ideal hget

/-- What the encryption of the sample draws. -/
def sampleDraws : EnvelopeDraws (TokenBytes 12) where
  dataKey := ⟨⟨Array.replicate 32 2⟩, Array.size_replicate⟩
  nonce := ⟨⟨Array.replicate 12 3⟩, Array.size_replicate⟩
  coins := ⟨⟨Array.replicate 12 4⟩, Array.size_replicate⟩

/-- The context of a contact. -/
def contactContext (recordId : String) : EnvelopeContext where
  purpose := .contactDestination
  recordId := recordId
  ownerId := "CONT-1"
  fieldName := "sms_destination"

/-- The largest plaintext. -/
def largestPlaintext : ByteArray := ⟨Array.replicate 1048576 65⟩

/-- The largest plaintext comes back for its contact, and is refused for another. -/
theorem decrypt_largestPlaintext :
    ∃ envelope value, sampleEncryption.encrypt wideRuntime maskingAes sampleDraws
        (contactContext "CONTACT-1") largestPlaintext = .ok envelope ∧
      envelope.toDict = .ok value ∧
      ∃ envelope', EncryptedEnvelope.fromDict wideRuntime (fun _ => .ok 0) value = .ok envelope' ∧
        sampleEncryption.decrypt wideRuntime maskingAes envelope' (contactContext "CONTACT-1") =
          .ok largestPlaintext ∧
        ∃ message, sampleEncryption.decrypt wideRuntime maskingAes envelope'
          (contactContext "CONTACT-2") = .error ⟨.envelopeIntegrity, message⟩ := by
  have howner : strip "CONT-1" ≠ "" ∧ "CONT-1".length ≤ 256 := by decide +kernel
  have hfield : strip "sms_destination" ≠ "" ∧ "sms_destination".length ≤ 256 := by decide +kernel
  have hadmissible : ∀ recordId, strip recordId ≠ "" ∧ recordId.length ≤ 256 →
      (contactContext recordId).Admissible := fun _ h => ⟨h, howner, hfield⟩
  have hsize : largestPlaintext.size = 1048576 := Array.size_replicate
  have hlimits : 1 ≤ largestPlaintext.size ∧
      largestPlaintext.size ≤ EnvelopeEncryptionService.maxPlaintextBytes := by
    rw [hsize]
    decide
  obtain ⟨envelope, value, hencrypt, hvalue, envelope', hread, hdecrypt, hother⟩ :=
    EnvelopeEncryptionService.decrypt_fromDict_toDict (fun _ => .ok 0) maskingAes_ideal
      sampleEncryption_wraps writesDigests_wideRuntime (hadmissible "CONTACT-1" (by decide +kernel)) hlimits
      sampleDraws
  refine ⟨envelope, value, hencrypt, hvalue, envelope', hread, hdecrypt, ?_⟩
  refine hother _ (hadmissible "CONTACT-2" (by decide +kernel)) (by decide) ?_
  have hdigests : (contactContext "CONTACT-1").bytes.map wideRuntime.sha256 ≠
      (contactContext "CONTACT-2").bytes.map wideRuntime.sha256 := by
    decide +kernel
  intro x y hx hy heq
  rw [hx, hy] at hdigests
  exact absurd (congrArg Except.ok heq) hdigests

end Sample

end RailOne
