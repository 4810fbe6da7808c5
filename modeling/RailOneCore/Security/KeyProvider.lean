import RailOneCore.Security.Models
import RailOneCore.Library.Dict

/-!
# The key-encryption boundary

A `KeyEncryptionProvider` wraps the data key of a record under a key of its own, in a context, and
unwraps it in the same context.  `Wraps` says what an ideal one does for one of its keys.  The provider of
the tests, over an ideal AES-GCM, wraps in this sense under every key that it has registered
(`KeyRing.wraps`), and the client of an isolated key service does where the service does
(`RemoteKeyEncryptionProvider.wraps`).
-/

namespace RailOne

open Ordered

/-- `secrets.token_bytes(n)`: bytes that are drawn at random. -/
structure TokenBytes (n : ℕ) where
  bytes : ByteArray
  size_eq : bytes.size = n

/-- `AESGCM(key).encrypt` and `AESGCM(key).decrypt`. -/
structure AesGcm where
  encrypt : (key nonce data associated : ByteArray) → ByteArray
  decrypt : (key nonce data associated : ByteArray) → Except Exn ByteArray

/-- Under keys of 32 bytes, with nonces of 12 bytes, what is encrypted is decrypted, and the tag adds 16
bytes. -/
structure AesGcm.Ideal (aes : AesGcm) : Prop where
  decrypt_encrypt : ∀ key nonce data associated : ByteArray, key.size = 32 → nonce.size = 12 →
    aes.decrypt key nonce (aes.encrypt key nonce data associated) associated = .ok data
  size_encrypt : ∀ key nonce data associated : ByteArray, key.size = 32 → nonce.size = 12 →
    (aes.encrypt key nonce data associated).size = data.size + 16

/-- `KeyEncryptionProvider`.  What it draws at random for a wrapping is handed to it. -/
structure KeyEncryptionProvider (Coins : Type) where
  wrapKey : Coins → (keyId : String) → (dataKey context : ByteArray) → Except Exn ByteArray
  unwrapKey : (keyId : String) → (wrappedKey context : ByteArray) → Except Exn ByteArray

/-- Under this key, whose identifier is within the policy, data keys are wrapped in texts within the
policy and unwrapped in the same context. -/
structure KeyEncryptionProvider.Wraps {Coins : Type} (keys : KeyEncryptionProvider Coins)
    (keyId : String) : Prop where
  keyId_length : 1 ≤ keyId.length ∧ keyId.length ≤ 128
  unwrap_wrap : ∀ (coins : Coins) (dataKey context : ByteArray), dataKey.size = 32 →
    ∃ wrapped, keys.wrapKey coins keyId dataKey context = .ok wrapped ∧
      (29 ≤ wrapped.size ∧ wrapped.size ≤ 512) ∧
      keys.unwrapKey keyId wrapped context = .ok dataKey

/-! ## Isolated key services -/

/-- `IsolatedKeyServiceClient`. -/
structure IsolatedKeyServiceClient (Coins : Type) where
  wrap : Coins → (keyId : String) → (plaintext context : ByteArray) → Except Exn ByteArray
  unwrap : (keyId : String) → (ciphertext context : ByteArray) → Except Exn ByteArray

namespace RemoteKeyEncryptionProvider

variable {Coins : Type} (client : IsolatedKeyServiceClient Coins)

/-- `RemoteKeyEncryptionProvider`. -/
def provider : KeyEncryptionProvider Coins where
  wrapKey coins keyId dataKey context := do
    require (dataKey.size = 32) ⟨.valueError, "AES-256 data key must contain 32 bytes"⟩
    client.wrap coins keyId dataKey context
  unwrapKey keyId wrappedKey context := do
    let value ← client.unwrap keyId wrappedKey context
    require (value.size = 32) ⟨.valueError, "isolated key service returned an invalid data key"⟩
    return value

variable {client}

/-- The checks of the provider let data keys pass. -/
theorem wraps {keyId : String} (hlength : 1 ≤ keyId.length ∧ keyId.length ≤ 128)
    (h : ∀ (coins : Coins) (dataKey context : ByteArray), dataKey.size = 32 →
      ∃ wrapped, client.wrap coins keyId dataKey context = .ok wrapped ∧
        (29 ≤ wrapped.size ∧ wrapped.size ≤ 512) ∧ client.unwrap keyId wrapped context = .ok dataKey) :
    (provider client).Wraps keyId where
  keyId_length := hlength
  unwrap_wrap coins dataKey context hsize := by
    obtain ⟨wrapped, hwrap, hbounds, hunwrap⟩ := h coins dataKey context hsize
    refine ⟨wrapped, ?_, hbounds, ?_⟩
    · simp only [provider, require, if_pos hsize]
      exact hwrap
    · simp only [provider, hunwrap, require, bind, Except.bind, if_pos hsize]
      rfl

end RemoteKeyEncryptionProvider

/-! ## The provider of the tests -/

/-- `InMemoryAesGcmKeyEncryptionProvider`.  A key that `register` refuses cannot be in it. -/
structure KeyRing where
  keys : Dict String ByteArray
  registered : ∀ keyId key, keys.get? keyId = some key →
    key.size = 32 ∧ strip keyId ≠ "" ∧ keyId.length ≤ 128

namespace KeyRing

/-- The provider without keys. -/
def empty : KeyRing := ⟨.empty, fun _ _ h => by cases h⟩

/-- `register`. -/
def register (ring : KeyRing) (keyId : String) (key : ByteArray) : Except Exn KeyRing :=
  if hid : strip keyId = "" ∨ 128 < keyId.length then .error ⟨.valueError, "key_id is invalid"⟩
  else if hkey : key.size ≠ 32 then
    .error ⟨.valueError, "AES-256 KEK must contain exactly 32 bytes"⟩
  else if (ring.keys.get? keyId).isSome then .error ⟨.valueError, "key_id is already registered"⟩
  else .ok
    { keys := ring.keys.set keyId key
      registered := by
        intro keyId' key' hget
        rw [Dict.get?_set] at hget
        split_ifs at hget with heq
        · cases hget
          push Not at hid
          exact heq ▸ ⟨not_not.mp hkey, hid⟩
        · exact ring.registered keyId' key' hget }

/-- `_require`. -/
def requireKey (ring : KeyRing) (keyId : String) : Except Exn ByteArray :=
  match ring.keys.get? keyId with
  | some key => .ok key
  | none => .error ⟨.lookupError, "encryption key is unavailable: " ++ keyId⟩

/-- The associated data of a wrapped key. -/
def wrapContext (context : ByteArray) : ByteArray :=
  utf8Bytes "RAILONE-DEK-WRAP-V1\x00".toList ++ context

variable (aes : AesGcm) (ring : KeyRing)

/-- `wrap_key` and `unwrap_key`.  A wrapping draws its nonce. -/
def provider : KeyEncryptionProvider (TokenBytes 12) where
  wrapKey nonce keyId dataKey context := do
    require (dataKey.size = 32) ⟨.valueError, "AES-256 data key must contain exactly 32 bytes"⟩
    let key ← ring.requireKey keyId
    return nonce.bytes ++ aes.encrypt key nonce.bytes dataKey (wrapContext context)
  unwrapKey keyId wrappedKey context := do
    require (40 ≤ wrappedKey.size ∧ wrappedKey.size ≤ 512)
      ⟨.valueError, "wrapped data key is outside policy"⟩
    let key ← ring.requireKey keyId
    let value ← aes.decrypt key (wrappedKey.extract 0 12) (wrappedKey.extract 12 wrappedKey.size)
      (wrapContext context)
    require (value.size = 32) ⟨.valueError, "unwrapped data key is invalid"⟩
    return value

variable {aes ring}

/-- Over an ideal AES-GCM, data keys are wrapped under every key of the ring. -/
theorem wraps (haes : aes.Ideal) {keyId : String} {key : ByteArray}
    (h : ring.keys.get? keyId = some key) : (ring.provider aes).Wraps keyId where
  keyId_length := by
    obtain ⟨-, hblank, hlength⟩ := ring.registered keyId key h
    refine ⟨?_, hlength⟩
    by_contra hzero
    have hempty : keyId = "" := String.length_eq_zero_iff.mp (by omega)
    exact hblank (by rw [hempty]; rfl)
  unwrap_wrap nonce dataKey context hsize := by
    have hkey := (ring.registered keyId key h).1
    have hrequire : ring.requireKey keyId = .ok key := by rw [requireKey, h]
    have hwrapped := haes.size_encrypt key nonce.bytes dataKey (wrapContext context) hkey nonce.size_eq
    have hdecrypt :=
      haes.decrypt_encrypt key nonce.bytes dataKey (wrapContext context) hkey nonce.size_eq
    refine ⟨nonce.bytes ++ aes.encrypt key nonce.bytes dataKey (wrapContext context), ?_, ?_, ?_⟩
    · simp only [provider, hrequire, require, if_pos hsize]
      rfl
    · rw [ByteArray.size_append, hwrapped, hsize, nonce.size_eq]
      omega
    · have hbounds : 40 ≤ (nonce.bytes ++ aes.encrypt key nonce.bytes dataKey (wrapContext context)).size ∧
          (nonce.bytes ++ aes.encrypt key nonce.bytes dataKey (wrapContext context)).size ≤ 512 := by
        rw [ByteArray.size_append, hwrapped, hsize, nonce.size_eq]
        omega
      have hhead : (nonce.bytes ++ aes.encrypt key nonce.bytes dataKey (wrapContext context)).extract 0 12 =
          nonce.bytes := ByteArray.extract_append_eq_left nonce.size_eq.symm
      have htail : (nonce.bytes ++ aes.encrypt key nonce.bytes dataKey (wrapContext context)).extract 12
          (nonce.bytes ++ aes.encrypt key nonce.bytes dataKey (wrapContext context)).size =
          aes.encrypt key nonce.bytes dataKey (wrapContext context) :=
        ByteArray.extract_append_eq_right nonce.size_eq.symm ByteArray.size_append
      simp only [provider, hrequire, hhead, htail, hdecrypt, require, if_pos hbounds, if_pos hsize, bind,
        Except.bind]
      rfl

end KeyRing

end RailOne
