import RailOneCore.Foundation.Runtime
import RailOneCore.Foundation.JsonDecoder

/-!
# Sample library functions

Concrete functions in the place of the library's, to evaluate the model and to apply its results at.
`runtime` takes a checksum for the digest, `wideRuntime` one of the usual length, `exactRuntime` and
`listedRuntime` take digests that never collide, and `sealedRuntime` has also signatures that verify
exactly what was signed.
-/

namespace RailOne

namespace Sample

/-- A four-digit checksum. -/
def digest (data : ByteArray) : String :=
  let sum := data.data.toList.foldl (fun n b => (n * 31 + b.toNat) % 65536) 7
  String.ofList ([sum / 4096, sum / 256, sum / 16, sum].map fun n => CanonicalJson.hexDigit (n % 16))

theorem isHexDigit_hexDigit (n : ℕ) : isHexDigit (CanonicalJson.hexDigit (n % 16)) = true := by
  have h : ∀ m < 16, isHexDigit (CanonicalJson.hexDigit m) = true := by decide
  exact h _ (Nat.mod_lt _ (by decide))

/-- `int(text)` on decimal literals. -/
def parseInt (s : String) : Except Exn Int :=
  match JsonDecoder.readNumber s.toList with
  | some (.int n, []) => .ok n
  | _ => .error ⟨.valueError, "invalid literal for int()"⟩

theorem parseInt_repr (n : Int) : parseInt n.repr = .ok n := by
  have h := JsonDecoder.readNumber_repr n (x := []) nofun
  rw [List.append_nil] at h
  rw [parseInt, h]

theorem isDigit_repr (n : ℕ) : n.repr.toList.all Char.isDigit = true := by
  rw [Nat.toList_repr, List.all_eq_true]
  exact fun c hc => JsonDecoder.isDigit_of_mem_toDigits hc

/-- A code of 64 hexadecimal digits. -/
def hmac (key data : ByteArray) : String :=
  String.ofList (List.replicate 16 (digest (key ++ data)).toList).flatten

/-- Library functions that behave like the real ones on the sample. -/
def runtime : Runtime where
  upperChar c := [c]
  upperChar_idem := by simp
  upperChar_space := by simp
  upperChar_word := by simp
  title s := s
  lower s := s
  isdigit s := s.toList.all Char.isDigit
  isdigit_repr := isDigit_repr
  parseInt := parseInt
  parseInt_repr := parseInt_repr
  strOther _ := "[...]"
  sha256 := digest
  shortDigest := digest
  shortDigest_hex data c hc := by
    simp only [digest, String.toList_ofList, List.mem_map] at hc
    obtain ⟨n, -, rfl⟩ := hc
    exact isHexDigit_hexDigit n
  hmacSha256 := hmac
  publicKey key := key
  ed25519Sign _ _ := ByteArray.empty
  ed25519Verify _ _ _ := true
  b64urlEncode _ := ""
  b64urlDecode _ := .ok ByteArray.empty
  jsonLoads data := match jsonDecode data with
    | some value => .ok value
    | none => .error ⟨.valueError, "Expecting value"⟩
  decimalNonPositive _ := some false
  floatIsOne literal := literal == "1.0"

/-! ## Digests of the usual lengths -/

theorem isHexDigit_toUpper (n : ℕ) :
    isHexDigit (CanonicalJson.hexDigit (n % 16)).toUpper = true := by
  have h : ∀ m < 16, isHexDigit (CanonicalJson.hexDigit m).toUpper = true := by decide
  exact h _ (Nat.mod_lt _ (by decide))

/-- The library functions of the sample, with digests as long and in the case as the real ones. -/
def wideRuntime : Runtime :=
  { runtime with
    sha256 := fun data => String.ofList (List.replicate 16 (digest data).toList).flatten
    shortDigest := fun data =>
      String.ofList (List.replicate 8 ((digest data).toList.map Char.toUpper)).flatten
    shortDigest_hex := fun data c hc => by
      simp only [digest, String.toList_ofList, List.mem_flatten, List.mem_replicate] at hc
      obtain ⟨l, ⟨-, rfl⟩, hc⟩ := hc
      simp only [List.mem_map] at hc
      obtain ⟨b, ⟨n, -, rfl⟩, rfl⟩ := hc
      exact isHexDigit_toUpper n }

/-! ## Digests without collisions

Results that assume collision freedom are applied to a deployment whose digest is the whole text in
hexadecimal digits. -/

/-- The hexadecimal digits of a byte. -/
def hexByte (b : UInt8) : List Char :=
  [CanonicalJson.hexDigit (b.toNat / 16 % 16), CanonicalJson.hexDigit (b.toNat % 16)]

/-- The bytes in hexadecimal digits. -/
def hexText (data : ByteArray) : String := String.ofList (data.data.toList.flatMap hexByte)

theorem hexByte_injective : Function.Injective hexByte := by
  intro b c h
  have hdigit : ∀ m < 16, ∀ n < 16, CanonicalJson.hexDigit m = CanonicalJson.hexDigit n → m = n := by
    decide
  simp only [hexByte, List.cons.injEq, and_true] at h
  have hb := b.toNat_lt
  have hc := c.toNat_lt
  have hhigh := hdigit _ (Nat.mod_lt _ (by decide)) _ (Nat.mod_lt _ (by decide)) h.1
  have hlow := hdigit _ (Nat.mod_lt _ (by decide)) _ (Nat.mod_lt _ (by decide)) h.2
  exact UInt8.toNat_inj.mp (by omega)

theorem flatMap_hexByte_injective : ∀ l l' : List UInt8,
    l.flatMap hexByte = l'.flatMap hexByte → l = l'
  | [], [], _ => rfl
  | [], _ :: _, h => by simp [hexByte] at h
  | _ :: _, [], h => by simp [hexByte] at h
  | b :: l, c :: l', h => by
    rw [List.flatMap_cons, List.flatMap_cons] at h
    obtain ⟨hbc, hrest⟩ := List.append_inj h rfl
    rw [hexByte_injective hbc, flatMap_hexByte_injective l l' hrest]

theorem hexText_injective : Function.Injective hexText := by
  intro a b h
  have hlist := flatMap_hexByte_injective _ _ (String.ofList_injective h)
  exact ByteArray.ext (Array.toList_inj.mp hlist)

theorem isHexDigit_of_mem_hexText {data : ByteArray} {c : Char} (h : c ∈ (hexText data).toList) :
    isHexDigit c = true := by
  simp only [hexText, hexByte, String.toList_ofList, List.mem_flatMap, List.mem_cons,
    List.not_mem_nil, or_false] at h
  obtain ⟨b, -, rfl | rfl⟩ := h <;> exact isHexDigit_hexDigit _

/-- The library functions of the sample, with digests that never collide. -/
def exactRuntime : Runtime :=
  { runtime with
    sha256 := hexText
    shortDigest := hexText
    shortDigest_hex := fun _ _ => isHexDigit_of_mem_hexText }

theorem collisionFree_exactRuntime : CollisionFree exactRuntime :=
  ⟨hexText_injective, hexText_injective⟩

/-! ## Short digests without collisions -/

/-- Where a text stands in a list. -/
def position : List (List UInt8) → List UInt8 → Option ℕ
  | [], _ => none
  | text :: rest, data => if text = data then some 0 else (position rest data).map (· + 1)

theorem position_eq_some {listed : List (List UInt8)} {data : List UInt8} {i : ℕ}
    (h : position listed data = some i) : listed[i]? = some data := by
  induction listed generalizing i with
  | nil => cases h
  | cons text rest ih =>
    unfold position at h
    split_ifs at h with heq
    · cases h
      simp [heq]
    · obtain ⟨j, hj, rfl⟩ := Option.map_eq_some_iff.mp h
      simpa using ih hj

/-- The digest of the text at a position: 64 times the digit of the position. -/
def tag (i : ℕ) : String := String.ofList (List.replicate 64 (CanonicalJson.hexDigit (i % 16)))

/-- A digest that never collides, and is short for the listed texts. -/
def listedDigest (listed : List (List UInt8)) (data : ByteArray) : String :=
  match position listed data.data.toList with
  | some i => tag i
  | none => "0" ++ hexText data

theorem length_hexText (data : ByteArray) : (hexText data).length = 2 * data.data.toList.length := by
  rw [hexText, String.length_ofList]
  induction data.data.toList with
  | nil => rfl
  | cons b t ih => simp [hexByte, ih]; omega

theorem tag_inj {i j : ℕ} (hi : i < 16) (hj : j < 16) (h : tag i = tag j) : i = j := by
  have hdigit : ∀ m < 16, ∀ n < 16, CanonicalJson.hexDigit m = CanonicalJson.hexDigit n → m = n := by
    decide
  have hlist := String.ofList_injective h
  rw [List.replicate_right_inj (by decide), Nat.mod_eq_of_lt hi, Nat.mod_eq_of_lt hj] at hlist
  exact hdigit i hi j hj hlist

theorem listedDigest_injective {listed : List (List UInt8)} (hlisted : listed.length ≤ 16) :
    Function.Injective (listedDigest listed) := by
  intro a b h
  have hlength : ∀ (i : ℕ) (data : ByteArray), tag i ≠ "0" ++ hexText data := by
    intro i data heq
    have hlen := congrArg String.length heq
    rw [String.length_append, length_hexText, tag, String.length_ofList, List.length_replicate] at hlen
    change 64 = 1 + _ at hlen
    omega
  unfold listedDigest at h
  cases ha : position listed a.data.toList with
  | none =>
    rw [ha] at h
    cases hb : position listed b.data.toList with
    | none =>
      rw [hb] at h
      exact hexText_injective ((String.append_right_inj _).mp h)
    | some j =>
      rw [hb] at h
      exact absurd h.symm (hlength j a)
  | some i =>
    rw [ha] at h
    cases hb : position listed b.data.toList with
    | none =>
      rw [hb] at h
      exact absurd h (hlength i b)
    | some j =>
      rw [hb] at h
      have hi := position_eq_some ha
      have hj := position_eq_some hb
      have hlti := (List.getElem?_eq_some_iff.mp hi).1
      have hltj := (List.getElem?_eq_some_iff.mp hj).1
      obtain rfl := tag_inj (by omega) (by omega) h
      rw [hi, Option.some.injEq] at hj
      exact ByteArray.ext (Array.toList_inj.mp hj)

/-- The bytes that hexadecimal digits stand for. -/
def hexBytes : List Char → Option (List UInt8)
  | [] => some []
  | [_] => none
  | a :: b :: t =>
    (hexBytes t).map (UInt8.ofNat (16 * CanonicalJson.hexValue a + CanonicalJson.hexValue b) :: ·)

theorem hexBytes_flatMap_hexByte (l : List UInt8) : hexBytes (l.flatMap hexByte) = some l := by
  have hdigit : ∀ m < 16, CanonicalJson.hexValue (CanonicalJson.hexDigit m) = m := by decide
  induction l with
  | nil => rfl
  | cons b t ih =>
    have hb := b.toNat_lt
    have hhigh := hdigit (b.toNat / 16 % 16) (Nat.mod_lt _ (by decide))
    have hlow := hdigit (b.toNat % 16) (Nat.mod_lt _ (by decide))
    have hbyte : 16 * (b.toNat / 16 % 16) + b.toNat % 16 = b.toNat := by omega
    rw [List.flatMap_cons, hexByte, List.cons_append, List.cons_append, List.nil_append, hexBytes, ih,
      hhigh, hlow, hbyte, UInt8.ofNat_toNat]
    rfl

/-- Read bytes written by `hexText`. -/
def hexDecode (s : String) : Except Exn ByteArray :=
  match hexBytes s.toList with
  | some l => .ok ⟨⟨l⟩⟩
  | none => .error ⟨.valueError, "Incorrect padding"⟩

theorem hexDecode_hexText (data : ByteArray) : hexDecode (hexText data) = .ok data := by
  rw [hexDecode, hexText, String.toList_ofList, hexBytes_flatMap_hexByte]

/-- A signature that holds the key and the message. -/
def stamp (key message : ByteArray) : ByteArray := ⟨#[0]⟩ ++ (key ++ message)

theorem stamp_inj {key message message' : ByteArray} (h : stamp key message = stamp key message') :
    message = message' := by
  have hdata := congrArg (fun b : ByteArray => b.data.toList) h
  simp only [stamp, ByteArray.data_append, Array.toList_append] at hdata
  exact ByteArray.ext (Array.toList_inj.mp (List.append_cancel_left (List.append_cancel_left hdata)))

theorem hexText_stamp_ne (key message : ByteArray) : hexText (stamp key message) ≠ "" := by
  intro h
  have hlist := congrArg String.toList h
  simp [hexText, stamp, hexByte] at hlist

/-- The library functions of the sample, with digests that never collide and signatures that hold the
key and the message. -/
def sealedRuntime : Runtime :=
  { exactRuntime with
    publicKey := fun key => key
    ed25519Sign := stamp
    ed25519Verify := fun key signature message => signature.data == (stamp key message).data
    b64urlEncode := hexText
    b64urlDecode := hexDecode }

end Sample

end RailOne
