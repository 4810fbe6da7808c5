import RailOneCore.Foundation.CanonicalJson

/-!
# The library functions the code is written over

`Runtime` collects the functions of the language's library and of the cryptographic packages that the
services call and that this development does not compute: the case mappings and digits of Unicode
text, SHA-256, HMAC, Ed25519, base64, the JSON parser and the decimal parser.  Its proof fields are
documented facts about them: `str.upper` maps characters one by one, is idempotent and neither makes
nor removes white space, decimal digits are digits, `int` reads what `str` writes, and digests are
written with hexadecimal digits.

Collision freedom is not a field: results that need it name the hypothesis `CollisionFree`.
-/

namespace RailOne

/-- The digits of an upper-case or lower-case hexadecimal number. -/
def isHexDigit (c : Char) : Bool :=
  ('0' ≤ c && c ≤ '9') || ('a' ≤ c && c ≤ 'f') || ('A' ≤ c && c ≤ 'F')

/-- The library functions that the services call. -/
structure Runtime where
  /-- The upper-case mapping of one character. -/
  upperChar : Char → List Char
  upperChar_idem : ∀ c, (upperChar c).flatMap upperChar = upperChar c
  upperChar_space : ∀ c, isSpace c = true → upperChar c = [c]
  upperChar_word : ∀ c, isSpace c = false →
    upperChar c ≠ [] ∧ ∀ d ∈ upperChar c, isSpace d = false
  /-- `str.title`. -/
  title : String → String
  /-- `str.lower`. -/
  lower : String → String
  /-- `str.isdigit`. -/
  isdigit : String → Bool
  isdigit_repr : ∀ n : ℕ, isdigit n.repr = true
  /-- `int(text)`. -/
  parseInt : String → Except Exn Int
  parseInt_repr : ∀ n : Int, parseInt n.repr = .ok n
  /-- `str(value)` of a floating-point number, a list or a dictionary. -/
  strOther : Json → String
  /-- `hashlib.sha256(data).hexdigest()`. -/
  sha256 : ByteArray → String
  /-- `hashlib.sha256(data).hexdigest().upper()[:32]`, the digest inside content identifiers. -/
  shortDigest : ByteArray → String
  shortDigest_hex : ∀ data, ∀ c ∈ (shortDigest data).toList, isHexDigit c = true
  /-- `hmac.new(key, data, hashlib.sha256).hexdigest()`. -/
  hmacSha256 : ByteArray → ByteArray → String
  /-- The public key of an Ed25519 private key. -/
  publicKey : ByteArray → ByteArray
  /-- `private_key.sign(message)`. -/
  ed25519Sign : ByteArray → ByteArray → ByteArray
  /-- Whether `public_key.verify(signature, message)` returns. -/
  ed25519Verify : ByteArray → ByteArray → ByteArray → Bool
  /-- `_b64url_encode`. -/
  b64urlEncode : ByteArray → String
  /-- `_b64url_decode`. -/
  b64urlDecode : String → Except Exn ByteArray
  /-- `json.loads(data.decode("utf-8"))`. -/
  jsonLoads : ByteArray → Except Exn Json
  /-- Whether `Decimal(text) <= 0`; `none` when `Decimal` raises `InvalidOperation`. -/
  decimalNonPositive : String → Option Bool
  /-- Whether the floating-point number with this literal equals 1. -/
  floatIsOne : String → Bool

/-- SHA-256 is assumed collision free, also where its digest is cut to 128 bits. -/
structure CollisionFree (rt : Runtime) : Prop where
  sha256 : Function.Injective rt.sha256
  shortDigest : Function.Injective rt.shortDigest

namespace Runtime

variable (rt : Runtime)

/-! ## Upper-casing -/

/-- `str.upper`. -/
def upper (s : String) : String := String.ofList (s.toList.flatMap rt.upperChar)

@[simp] theorem upper_upper (s : String) : rt.upper (rt.upper s) = rt.upper s := by
  apply String.toList_inj.mp
  simp only [upper, String.toList_ofList, List.flatMap_assoc, rt.upperChar_idem]

private theorem dropWhile_flatMap_upperChar {l : List Char} (h : l.dropWhile isSpace = l) :
    (l.flatMap rt.upperChar).dropWhile isSpace = l.flatMap rt.upperChar := by
  cases l with
  | nil => rfl
  | cons c t =>
    have hc : isSpace c = false := by
      by_contra hc
      rw [Bool.not_eq_false] at hc
      rw [List.dropWhile_cons_of_pos hc] at h
      have hlen := congrArg List.length h
      have hle := List.length_dropWhile_le isSpace t
      simp only [List.length_cons] at hlen
      omega
    obtain ⟨hne, hword⟩ := rt.upperChar_word c hc
    obtain ⟨d, u, hd⟩ := List.exists_cons_of_ne_nil hne
    have hdspace : isSpace d = false := hword d (hd ▸ List.mem_cons_self)
    rw [List.flatMap_cons, hd, List.cons_append,
      List.dropWhile_cons_of_neg (by simp [hdspace])]

private theorem rdropWhile_flatMap_upperChar {l : List Char} (h : l.rdropWhile isSpace = l) :
    (l.flatMap rt.upperChar).rdropWhile isSpace = l.flatMap rt.upperChar := by
  rw [List.rdropWhile_eq_self_iff] at h ⊢
  intro hne
  rcases List.eq_nil_or_concat' l with rfl | ⟨t, c, rfl⟩
  · exact absurd rfl hne
  · have hc : isSpace c = false := by
      simpa using h (by simp)
    obtain ⟨hne', hword⟩ := rt.upperChar_word c hc
    have hlast : (List.flatMap rt.upperChar (t ++ [c])).getLast hne =
        (rt.upperChar c).getLast hne' := by
      simp [hne']
    rw [hlast]
    simp [hword _ (List.getLast_mem hne')]

/-- Upper-casing trimmed text leaves it trimmed. -/
theorem strip_upper {s : String} (h : strip s = s) : strip (rt.upper s) = rt.upper s := by
  have hlist : (s.toList.dropWhile isSpace).rdropWhile isSpace = s.toList := by
    rw [← toList_strip, h]
  have hdrop : s.toList.dropWhile isSpace = s.toList := by
    have h₁ := (List.rdropWhile_prefix isSpace (s.toList.dropWhile isSpace)).length_le
    rw [hlist] at h₁
    exact (List.dropWhile_suffix isSpace).eq_of_length_le h₁
  have hrdrop : s.toList.rdropWhile isSpace = s.toList := by rw [hdrop] at hlist; exact hlist
  apply String.toList_inj.mp
  rw [toList_strip, upper, String.toList_ofList, dropWhile_flatMap_upperChar rt hdrop,
    rdropWhile_flatMap_upperChar rt hrdrop]

/-- Upper-casing never makes text empty. -/
theorem upper_ne_empty {s : String} (h : s ≠ "") : rt.upper s ≠ "" := by
  intro hu
  have hl : s.toList.flatMap rt.upperChar = [] := by
    have := congrArg String.toList hu
    simpa [upper] using this
  rw [List.flatMap_eq_nil_iff] at hl
  have hs : s.toList ≠ [] := fun hn => h (String.toList_inj.mp (by rw [hn]; rfl))
  obtain ⟨c, t, hc⟩ := List.exists_cons_of_ne_nil hs
  have hnil := hl c (hc ▸ List.mem_cons_self)
  cases hsp : isSpace c with
  | true => rw [rt.upperChar_space c hsp] at hnil; cases hnil
  | false => exact (rt.upperChar_word c hsp).1 hnil

private theorem one_le_length_upperChar (c : Char) : 1 ≤ (rt.upperChar c).length := by
  cases hc : isSpace c with
  | true => simp [rt.upperChar_space c hc]
  | false => exact List.length_pos_of_ne_nil (rt.upperChar_word c hc).1

/-- Upper-casing gives every character at least one. -/
private theorem length_flatMap_upperChar {l l' : List Char} (h : l.Sublist l') :
    (l.flatMap rt.upperChar).length + l'.length ≤ (l'.flatMap rt.upperChar).length + l.length := by
  induction h with
  | slnil => exact Nat.le_refl _
  | cons c _ ih =>
    have hc := one_le_length_upperChar rt c
    simp only [List.flatMap_cons, List.length_append, List.length_cons]
    omega
  | cons_cons c _ ih =>
    simp only [List.flatMap_cons, List.length_append, List.length_cons]
    omega

/-- Text and its trimmed form have the same upper-case form only when the text is trimmed. -/
theorem upper_strip_eq_upper {s : String} : rt.upper (strip s) = rt.upper s ↔ strip s = s := by
  constructor
  · intro h
    have hsub := toList_strip_sublist s
    have hlen := length_flatMap_upperChar rt hsub
    have heq := congrArg (fun t => t.toList.length) h
    simp only [upper, String.toList_ofList] at heq
    have hle := hsub.length_le
    exact String.toList_inj.mp (hsub.eq_of_length_le (by omega))
  · exact fun h => congrArg rt.upper h

/-- `str(value)`. -/
def str : Json → String
  | .null => "None"
  | .bool true => "True"
  | .bool false => "False"
  | .int n => n.repr
  | .str s => s
  | j => rt.strOther j

/-! ## Content identifiers -/

/-- `_identifier`, `_content_id` and `_artifact_id`: a tag and the short digest of the canonical
bytes. -/
def contentId (tag : String) (payload : Json) : Except Exn String := do
  return tag ++ "-" ++ rt.shortDigest (← canonicalJsonBytes payload)

/-- `hashlib.sha256(canonical_json_bytes(payload)).hexdigest()`. -/
def payloadSha256 (payload : Json) : Except Exn String := do
  return rt.sha256 (← canonicalJsonBytes payload)

theorem contentId_eq_ok {tag id : String} {payload : Json} :
    rt.contentId tag payload = .ok id ↔
      ∃ bytes, canonicalJsonBytes payload = .ok bytes ∧ id = tag ++ "-" ++ rt.shortDigest bytes := by
  unfold contentId
  cases canonicalJsonBytes payload <;> simp [bind, Except.bind, pure, Except.pure, eq_comm]

theorem payloadSha256_eq_ok {hash : String} {payload : Json} :
    rt.payloadSha256 payload = .ok hash ↔
      ∃ bytes, canonicalJsonBytes payload = .ok bytes ∧ hash = rt.sha256 bytes := by
  unfold payloadSha256
  cases canonicalJsonBytes payload <;> simp [bind, Except.bind, pure, Except.pure, eq_comm]

theorem toNat_of_isHexDigit {c : Char} (h : isHexDigit c = true) :
    48 ≤ c.toNat ∧ c.toNat ≤ 102 := by
  have h0 : '0'.toNat = 48 := rfl
  have h9 : '9'.toNat = 57 := rfl
  have ha : 'a'.toNat = 97 := rfl
  have hf : 'f'.toNat = 102 := rfl
  have hA : 'A'.toNat = 65 := rfl
  have hF : 'F'.toNat = 70 := rfl
  simp only [isHexDigit, Bool.or_eq_true, Bool.and_eq_true, decide_eq_true_eq, Char.le_def,
    UInt32.le_iff_toNat_le] at h
  change (('0'.toNat ≤ c.toNat ∧ c.toNat ≤ '9'.toNat) ∨
    ('a'.toNat ≤ c.toNat ∧ c.toNat ≤ 'f'.toNat)) ∨
    ('A'.toNat ≤ c.toNat ∧ c.toNat ≤ 'F'.toNat) at h
  omega

/-- Without collisions, objects with distinct keys and the same content identifier have the same
fields. -/
theorem get_of_contentId_eq (hcf : CollisionFree rt) {tag id : String} {f g : Fields}
    (hf : (f.map Prod.fst).Nodup) (hg : (g.map Prod.fst).Nodup)
    (ha : rt.contentId tag (.obj f) = .ok id) (hb : rt.contentId tag (.obj g) = .ok id)
    (k : String) : (f.get k).map CanonicalJson.sortKeys = (g.get k).map CanonicalJson.sortKeys := by
  obtain ⟨x, hx, hid⟩ := rt.contentId_eq_ok.mp ha
  obtain ⟨y, hy, hid'⟩ := rt.contentId_eq_ok.mp hb
  rw [hid', String.append_right_inj] at hid
  obtain rfl := hcf.shortDigest hid
  exact get_of_canonicalJsonBytes_eq hf hg hx hy k

private theorem isSpace_of_isHexDigit {c : Char} (h : isHexDigit c = true) :
    isSpace c = false := by
  have hbound := toNat_of_isHexDigit h
  simp only [isSpace, Bool.or_eq_false_iff, Bool.and_eq_false_iff, decide_eq_false_iff_not,
    beq_eq_false_iff_ne]
  omega

/-- Content identifiers under a tag without white space have none either, so trimming leaves them
alone. -/
theorem strip_contentId {tag id : String} {payload : Json}
    (htag : tag.toList.any isSpace = false) (h : rt.contentId tag payload = .ok id) :
    strip id = id := by
  obtain ⟨bytes, -, rfl⟩ := (rt.contentId_eq_ok).mp h
  refine strip_eq_self fun c hc => ?_
  simp only [String.toList_append, List.mem_append] at hc
  rcases hc with (hc | hc) | hc
  · simpa using List.any_eq_false.mp htag c hc
  · have : c = '-' := by simpa using hc
    subst this
    rfl
  · exact isSpace_of_isHexDigit (rt.shortDigest_hex _ _ hc)

end Runtime

end RailOne
