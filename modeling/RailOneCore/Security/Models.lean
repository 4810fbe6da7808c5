import RailOneCore.Institutions.Models
import RailOneCore.Foundation.JsonDecoder
import RailOneCore.Library.Base64

/-!
# Encrypted envelopes

An `EncryptedEnvelope` is the text form of an encrypted value.  `validate` bounds its parts, `to_dict`
and `from_dict` are its portable form, and a valid envelope is read back from what it is written to
(`fromDict_toDict`).
-/

namespace RailOne

/-- `EncryptionPurpose`. -/
inductive EncryptionPurpose
  | accountEndpoint | contactDestination | providerCredential | notificationBody
  deriving DecidableEq, Repr

namespace EncryptionPurpose

/-- The text of a purpose. -/
def value : EncryptionPurpose → String
  | .accountEndpoint => "ACCOUNT_ENDPOINT"
  | .contactDestination => "CONTACT_DESTINATION"
  | .providerCredential => "PROVIDER_CREDENTIAL"
  | .notificationBody => "NOTIFICATION_BODY"

/-- The purposes, in the order of their declaration. -/
def all : List EncryptionPurpose :=
  [.accountEndpoint, .contactDestination, .providerCredential, .notificationBody]

/-- `EncryptionPurpose(text)`. -/
def ofValue (text : String) : Except Exn EncryptionPurpose :=
  match all.find? fun purpose => purpose.value = text with
  | some purpose => .ok purpose
  | none => .error ⟨.valueError, text ++ " is not a valid EncryptionPurpose"⟩

@[simp] theorem ofValue_value (purpose : EncryptionPurpose) : ofValue purpose.value = .ok purpose := by
  cases purpose <;> rfl

theorem value_injective : Function.Injective value := by
  intro p q h
  have hof : ofValue p.value = ofValue q.value := congrArg ofValue h
  simpa using hof

end EncryptionPurpose

/-! ## Bytes in text -/

/-- The white space that `bytes.fromhex` skips. -/
def isAsciiSpace (c : Char) : Bool := (9 ≤ c.toNat && c.toNat ≤ 13) || c.toNat == 32

/-- The bytes of hexadecimal text; white space may stand between them. -/
def hexBytes : List Char → Option (List UInt8)
  | [] => some []
  | [c] => if isAsciiSpace c then some [] else none
  | c :: d :: t =>
    if isAsciiSpace c then hexBytes (d :: t)
    else do
      let high ← JsonDecoder.hexValue c
      let low ← JsonDecoder.hexValue d
      return UInt8.ofNat (16 * high + low) :: (← hexBytes t)

/-- `bytes.fromhex`. -/
def fromHex (text : String) : Except Exn ByteArray :=
  match hexBytes text.toList with
  | some bytes => .ok ⟨⟨bytes⟩⟩
  | none => .error ⟨.valueError, "non-hexadecimal number found in fromhex() arg"⟩

/-- `_encode`. -/
def encodeBase64url (value : ByteArray) : String := String.ofList (Base64.encode value.data.toList)

/-- `decode_base64url`. -/
def decodeBase64url (name value : String) (minimum maximum : ℕ) : Except Exn ByteArray := do
  require (value ≠ "") ⟨.valueError, name ++ " must be non-empty base64url text"⟩
  require (value.length ≤ maximum * 4 / 3 + 8)
    ⟨.valueError, name ++ " exceeds the encoded size policy"⟩
  match Base64.decodeStrict (value.toList ++ Base64.padding value.length) with
  | none => .error ⟨.valueError, name ++ " is not valid base64url"⟩
  | some decoded =>
    require (minimum ≤ decoded.length ∧ decoded.length ≤ maximum)
      ⟨.valueError, name ++ " is outside the byte-length policy"⟩
    return ⟨⟨decoded⟩⟩

/-- Bytes within the bounds are read back: the bound on the text leaves room for them. -/
theorem decodeBase64url_encodeBase64url {name : String} {minimum maximum : ℕ} {data : ByteArray}
    (hpos : 1 ≤ data.size) (hmin : minimum ≤ data.size) (hmax : data.size ≤ maximum) :
    decodeBase64url name (encodeBase64url data) minimum maximum = .ok data := by
  have hsize : data.size = data.data.toList.length := rfl
  have hlength : (encodeBase64url data).length = (4 * data.size + 2) / 3 := by
    rw [encodeBase64url, String.length_ofList, Base64.length_encode, hsize]
  have hne : encodeBase64url data ≠ "" := by
    intro h
    rw [h] at hlength
    change 0 = _ at hlength
    omega
  have hdecode : Base64.decodeStrict ((encodeBase64url data).toList ++
      Base64.padding (encodeBase64url data).length) = some data.data.toList := by
    rw [encodeBase64url, String.toList_ofList, String.length_ofList, Base64.decodeStrict_encode]
  unfold decodeBase64url
  rw [hdecode]
  have hbound : (encodeBase64url data).length ≤ maximum * 4 / 3 + 8 := by omega
  simp only [require, if_pos hne, if_pos hbound, ← hsize, if_pos (And.intro hmin hmax)]
  rfl

theorem hexValue_isSome {c : Char} (h : ('a' ≤ c && c ≤ 'f') || ('0' ≤ c && c ≤ '9')) :
    isAsciiSpace c = false ∧ ∃ n, JsonDecoder.hexValue c = some n := by
  have hhex : isHexDigit c = true := by
    simp only [isHexDigit, Bool.or_eq_true, Bool.and_eq_true] at h ⊢
    tauto
  have hbound := Runtime.toNat_of_isHexDigit hhex
  constructor
  · simp only [isAsciiSpace, Bool.or_eq_false_iff, Bool.and_eq_false_iff, decide_eq_false_iff_not,
      beq_eq_false_iff_ne]
    omega
  · simp only [Bool.or_eq_true, Bool.and_eq_true, decide_eq_true_eq] at h
    unfold JsonDecoder.hexValue
    split_ifs with hdigit hlower hupper
    · exact ⟨_, rfl⟩
    · exact ⟨_, rfl⟩
    · exact ⟨_, rfl⟩
    · rcases h with h | h
      · exact absurd h hlower
      · exact absurd h hdigit

/-- An even number of lower-case hexadecimal digits is read. -/
theorem hexBytes_isSome {l : List Char} (heven : l.length % 2 = 0)
    (h : ∀ c ∈ l, (('a' ≤ c && c ≤ 'f') || ('0' ≤ c && c ≤ '9')) = true) :
    ∃ bytes, hexBytes l = some bytes := by
  fun_induction hexBytes l with
  | case1 => exact ⟨[], rfl⟩
  | case2 c hspace => exact ⟨[], rfl⟩
  | case3 c hspace =>
    rw [List.length_singleton] at heven
    omega
  | case4 c d t hspace ih =>
    have hc := (hexValue_isSome (h c List.mem_cons_self)).1
    rw [hc] at hspace
    cases hspace
  | case5 c d t hspace ih =>
    obtain ⟨-, high, hhigh⟩ := hexValue_isSome (h c List.mem_cons_self)
    obtain ⟨-, low, hlow⟩ := hexValue_isSome (h d (List.mem_cons_of_mem c List.mem_cons_self))
    have hlength : t.length % 2 = 0 := by
      simp only [List.length_cons] at heven
      omega
    obtain ⟨bytes, hbytes⟩ := ih hlength fun x hx =>
      h x (List.mem_cons_of_mem c (List.mem_cons_of_mem d hx))
    rw [hhigh, hlow, hbytes]
    exact ⟨_, rfl⟩

/-- A SHA-256 digest is hexadecimal. -/
theorem fromHex_of_isDigest {s : String} (h : InstitutionExecutionInstruction.isDigest s = true) :
    ∃ bytes, fromHex s = .ok bytes := by
  rw [InstitutionExecutionInstruction.isDigest, Bool.and_eq_true, beq_iff_eq, List.all_eq_true] at h
  have heven : s.toList.length % 2 = 0 := by
    rw [String.length_toList, h.1]
  obtain ⟨bytes, hbytes⟩ := hexBytes_isSome heven h.2
  exact ⟨⟨⟨bytes⟩⟩, by rw [fromHex, hbytes]⟩

/-- `hashlib.sha256(data).digest()`: the bytes that the hexadecimal digest is written for. -/
def Runtime.digest (rt : Runtime) (data : ByteArray) : ByteArray :=
  match fromHex (rt.sha256 data) with
  | .ok bytes => bytes
  | .error _ => ByteArray.empty

/-! ## Envelopes -/

/-- `EncryptedEnvelope`. -/
structure EncryptedEnvelope where
  version : Int
  algorithm : String
  keyId : String
  purpose : EncryptionPurpose
  wrappedDataKey : String
  nonce : String
  ciphertext : String
  aadSha256 : String
  deriving DecidableEq, Repr

namespace EncryptedEnvelope

variable (e : EncryptedEnvelope)

/-- `validate`. -/
def validate : Except Exn Unit := do
  require (e.version = 1 ∧ e.algorithm = "A256GCM")
    ⟨.valueError, "unsupported encrypted-envelope profile"⟩
  require (1 ≤ e.keyId.length ∧ e.keyId.length ≤ 128) ⟨.valueError, "encryption key_id is invalid"⟩
  let _ ← decodeBase64url "wrapped_data_key" e.wrappedDataKey 29 512
  let _ ← decodeBase64url "nonce" e.nonce 12 12
  let _ ← decodeBase64url "ciphertext" e.ciphertext 16 1048592
  require (e.aadSha256.length = 64) ⟨.valueError, "aad_sha256 must be a SHA-256 hex digest"⟩
  match fromHex e.aadSha256 with
  | .ok _ => return ()
  | .error _ => .error ⟨.valueError, "aad_sha256 must be hexadecimal"⟩

/-- The fields of the portable form. -/
def fields : Fields :=
  [("version", .int e.version), ("algorithm", .str e.algorithm), ("key_id", .str e.keyId),
    ("purpose", .str e.purpose.value), ("wrapped_data_key", .str e.wrappedDataKey),
    ("nonce", .str e.nonce), ("ciphertext", .str e.ciphertext), ("aad_sha256", .str e.aadSha256)]

/-- `to_dict`. -/
def toDict : Except Exn Fields := do
  e.validate
  return e.fields

/-- The keys of the portable form. -/
def required : List String :=
  ["version", "algorithm", "key_id", "purpose", "wrapped_data_key", "nonce", "ciphertext", "aad_sha256"]

/-- `int(value)`, where `intOfFloat` is `int` on floating-point numbers. -/
def intOf (rt : Runtime) (intOfFloat : String → Except Exn Int) : Json → Except Exn Int
  | .int n => .ok n
  | .bool b => .ok (if b then 1 else 0)
  | .str s => rt.parseInt s
  | .float literal => intOfFloat literal
  | _ => .error ⟨.typeError, "int() argument must be a string or a number"⟩

/-- The body of the `try` block of `from_dict`. -/
def read (rt : Runtime) (intOfFloat : String → Except Exn Int) (value : Fields) :
    Except Exn EncryptedEnvelope := do
  let version ← intOf rt intOfFloat (← value.item "version")
  let algorithm := rt.str (← value.item "algorithm")
  let keyId := rt.str (← value.item "key_id")
  let purpose ← EncryptionPurpose.ofValue (rt.str (← value.item "purpose"))
  let wrappedDataKey := rt.str (← value.item "wrapped_data_key")
  let nonce := rt.str (← value.item "nonce")
  let ciphertext := rt.str (← value.item "ciphertext")
  let aadSha256 := rt.str (← value.item "aad_sha256")
  return { version, algorithm, keyId, purpose, wrappedDataKey, nonce, ciphertext, aadSha256 }

/-- `from_dict`. -/
def fromDict (rt : Runtime) (intOfFloat : String → Except Exn Int) (value : Fields) :
    Except Exn EncryptedEnvelope := do
  require ((∀ f ∈ value, f.1 ∈ required) ∧ ∀ key ∈ required, key ∈ value.map Prod.fst)
    ⟨.valueError, "encrypted envelope has an unexpected shape"⟩
  match read rt intOfFloat value with
  | .ok envelope =>
    envelope.validate
    return envelope
  | .error exn =>
    if exn.isValueError || exn.kind == .typeError then
      .error ⟨.valueError, "encrypted envelope fields are invalid"⟩
    else .error exn

variable {e}

/-- A valid envelope is read back from its portable form. -/
theorem fromDict_toDict (rt : Runtime) (intOfFloat : String → Except Exn Int) (h : e.validate = .ok ()) :
    ∃ value, e.toDict = .ok value ∧ fromDict rt intOfFloat value = .ok e := by
  have hread : read rt intOfFloat e.fields = .ok e := by
    have hpurpose := EncryptionPurpose.ofValue_value e.purpose
    change (EncryptionPurpose.ofValue e.purpose.value >>= _) = _
    rw [hpurpose]
    rfl
  have hkeys : e.fields.map Prod.fst = required := rfl
  have hshape : (∀ f ∈ e.fields, f.1 ∈ required) ∧ ∀ key ∈ required, key ∈ e.fields.map Prod.fst := by
    rw [← hkeys]
    exact ⟨fun f hf => List.mem_map_of_mem hf, fun key hkey => hkey⟩
  refine ⟨e.fields, ?_, ?_⟩
  · rw [toDict, h]
    rfl
  · unfold fromDict
    rw [hread]
    simp only [require, if_pos hshape, h]
    rfl

end EncryptedEnvelope

end RailOne
