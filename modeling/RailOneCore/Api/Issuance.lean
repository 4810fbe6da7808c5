import RailOneCore.Api.KeyRevocation
import RailOneCore.Foundation.Epoch
import RailOneCore.Library.Base64

/-!
# Issued tokens verify

`issue` and `verify` check different things: the number of scopes and the length of the token, the
window of the key to the microsecond and to the second, a token id that is present and one that is not
blank.  This file computes what `verify` does with a token that was issued, and from it exactly which
issued tokens the service accepts at an instant.
-/

namespace RailOne

open ArtifactService

/-! ## Normal forms of scopes -/

theorem sortedSet_eq_self {l : List String} (hnd : l.Nodup) (hsorted : l.Pairwise (· ≤ ·)) :
    sortedSet l = l := by
  rw [sortedSet, hnd.dedup, hsorted.insertionSort_eq]

theorem nodup_sortedSet (l : List String) : (sortedSet l).Nodup :=
  (List.perm_insertionSort _ _).nodup_iff.mpr (List.nodup_dedup l)

theorem pairwise_sortedSet (l : List String) : (sortedSet l).Pairwise (· ≤ ·) :=
  List.pairwise_insertionSort _ _

theorem mem_sortedSet {l : List String} {s : String} : s ∈ sortedSet l ↔ s ∈ l := by
  rw [sortedSet, List.mem_insertionSort, List.mem_dedup]

/-- Texts that are in normal form already: trimmed, mapped, without repetition and in order. -/
structure NormalTexts (f : String → String) (l : List String) : Prop where
  nodup : l.Nodup
  sorted : l.Pairwise (· ≤ ·)
  stripped : ∀ s ∈ l, strip s = s ∧ s ≠ ""
  mapped : ∀ s ∈ l, f s = s
  short : ∀ s ∈ l, s.length ≤ 128

section Texts

variable {f : String → String} {noun distinct long : String}

theorem normalTexts_of_eq_ok (hstrip : ∀ s, strip s = s → strip (f s) = f s)
    (hne : ∀ s, s ≠ "" → f s ≠ "") (hidem : ∀ s, f (f s) = f s) {values : List Json} {l : List String}
    (h : normalizedTexts f noun distinct long values = .ok l) : NormalTexts f l := by
  simp only [normalizedTexts, bind_eq_ok, require_eq_ok, pure_eq_ok] at h
  obtain ⟨texts, -, _, -, _, hshort, rfl⟩ := h
  have hmem : ∀ s, s ∈ sortedSet ((texts.filter fun value => strip value ≠ "").map fun value =>
      f (strip value)) → ∃ value, strip value ≠ "" ∧ f (strip value) = s := by
    intro s hs
    rw [mem_sortedSet] at hs
    obtain ⟨value, hvalue, rfl⟩ := List.mem_map.mp hs
    exact ⟨value, by simpa using (List.mem_filter.mp hvalue).2, rfl⟩
  refine ⟨nodup_sortedSet _, pairwise_sortedSet _, fun s hs => ?_, fun s hs => ?_, hshort⟩
  · obtain ⟨value, hvalue, rfl⟩ := hmem s hs
    exact ⟨hstrip _ (strip_strip value), hne _ hvalue⟩
  · obtain ⟨value, -, rfl⟩ := hmem s hs
    exact hidem _

/-- Texts in normal form are normalized to themselves. -/
theorem NormalTexts.eq_ok {l : List String} (h : NormalTexts f l) :
    normalizedTexts f noun distinct long (l.map .str) = .ok l := by
  have hfilter : (l.filter fun value => strip value ≠ "") = l := by
    rw [List.filter_eq_self]
    intro s hs
    obtain ⟨hstrip, hne⟩ := h.stripped s hs
    rw [decide_eq_true_eq, hstrip]
    exact hne
  have hmap : (l.map fun value => f (strip value)) = l := by
    rw [List.map_congr_left (g := id) fun s hs => by rw [(h.stripped s hs).1, h.mapped s hs, id],
      List.map_id]
  have hset : sortedSet ((l.filter fun value => strip value ≠ "").map fun value => f (strip value)) = l := by
    rw [hfilter, hmap, sortedSet_eq_self h.nodup h.sorted]
  simp only [normalizedTexts, bind_eq_ok, require_eq_ok, pure_eq_ok]
  refine ⟨l, ?_, (), by rw [hset], (), by rw [hset]; exact h.short, hset⟩
  rw [mapM_eq_ok, List.forall₂_map_left_iff]
  exact List.forall₂_same.mpr fun _ _ => rfl

end Texts

/-- The scopes are in normal form. -/
structure ActorScopes.Normal (rt : Runtime) (s : ActorScopes) : Prop where
  continuityUid : ∀ uid ∈ s.continuityUid, isContinuityUid uid = true ∧ rt.upper (strip uid) = uid
  merchantIds : NormalTexts rt.upper s.merchantIds
  branchIds : NormalTexts rt.upper s.branchIds
  partnerIds : NormalTexts rt.upper s.partnerIds
  permissions : NormalTexts id s.permissions
  total : s.merchantIds.length + s.branchIds.length + s.partnerIds.length + s.permissions.length +
    (if s.continuityUid.isSome then 1 else 0) ≤ 200

namespace ActorScopes

variable {rt : Runtime}

theorem normalTexts_of_normalizedIds {name : String} {values : List Json} {l : List String}
    (h : normalizedIds rt name values = .ok l) : NormalTexts rt.upper l :=
  normalTexts_of_eq_ok (fun _ => rt.strip_upper) (fun _ => rt.upper_ne_empty) rt.upper_upper h

theorem normal_of_normalizedScopes {continuityUid : Json}
    {merchantIds branchIds partnerIds permissions : List Json} {s : ActorScopes}
    (h : normalizedScopes rt continuityUid merchantIds branchIds partnerIds permissions = .ok s) :
    s.Normal rt := by
  simp only [normalizedScopes, bind_eq_ok, require_eq_ok, pure_eq_ok] at h
  obtain ⟨uid, huid, merchants, hmerchants, branches, hbranches, partners, hpartners, permitted,
    hpermitted, _, htotal, rfl⟩ := h
  refine ⟨?_, normalTexts_of_normalizedIds hmerchants, normalTexts_of_normalizedIds hbranches,
    normalTexts_of_normalizedIds hpartners, ?_, htotal⟩
  · intro u hu
    obtain rfl : uid = some u := hu
    unfold normalizedUid at huid
    split at huid
    · cases huid
    · next text =>
      split_ifs at huid with hform
      obtain rfl : rt.upper (strip text) = u := Option.some.inj (Except.ok.inj huid)
      exact ⟨hform, by rw [rt.strip_upper (strip_strip text), rt.upper_upper]⟩
    · cases huid
  · exact normalTexts_of_eq_ok (fun _ h => h) (fun _ h => h) (fun _ => rfl) hpermitted

/-- Scopes in normal form are normalized to themselves. -/
theorem Normal.normalized {s : ActorScopes} (h : s.Normal rt) : s.normalized rt = .ok s := by
  have huid : normalizedUid rt (.ofOption s.continuityUid) = .ok s.continuityUid := by
    cases hs : s.continuityUid with
    | none => rfl
    | some uid =>
      obtain ⟨hform, hupper⟩ := h.continuityUid uid hs
      rw [Json.ofOption_some, normalizedUid, hupper, if_pos hform]
  simp only [ActorScopes.normalized, normalizedScopes, bind_eq_ok, require_eq_ok, pure_eq_ok]
  exact ⟨_, huid, _, h.merchantIds.eq_ok, _, h.branchIds.eq_ok, _, h.partnerIds.eq_ok, _,
    h.permissions.eq_ok, (), h.total, rfl⟩

end ActorScopes

/-! ## Reading a token back -/

theorem Fields.item_of_get {fields : Fields} {key : String} {value : Json}
    (h : fields.get key = some value) : fields.item key = .ok value := by
  rw [Fields.item, h]

namespace AccessTokenService

/-- What tokens rely on: signatures of 64 bytes that verify, base64 without a dot that is read back, and
a parser that reads back what `json.dumps` writes. -/
structure FaithfulTokens (rt : Runtime) (loads : ByteArray → Except Exn Json) : Prop where
  verify_sign : ∀ key message,
    rt.ed25519Verify (rt.publicKey key) (rt.ed25519Sign key message) message = true
  size_sign : ∀ key message, (rt.ed25519Sign key message).size = 64
  decode_encode : ∀ data, rt.b64urlDecode (rt.b64urlEncode data) = .ok data
  length_encode : ∀ data, (rt.b64urlEncode data).length = (4 * data.size + 2) / 3
  dot_encode : ∀ data, '.' ∉ (rt.b64urlEncode data).toList
  loads_dumps : ∀ j, CanonicalJson.Accepted j → j.DistinctKeys →
    loads (utf8Bytes (CanonicalJson.dumps j)) = .ok j

section Reading

variable {rt : Runtime} {loads : ByteArray → Except Exn Json} (hrt : FaithfulTokens rt loads)
include hrt

theorem loads_jsonBytes {j : Json} (hj : CanonicalJson.Accepted j) (hd : j.DistinctKeys) :
    loads (jsonBytes j) = .ok (CanonicalJson.sortKeys j) :=
  hrt.loads_dumps _ (CanonicalJson.accepted_sortKeys j hj) (distinctKeys_sortKeys j hd)

/-- The parts of a token are those it was put together from. -/
theorem split_token {header claims : Json} {signature : ByteArray}
    (hheader : CanonicalJson.Accepted header ∧ header.DistinctKeys)
    (hclaims : CanonicalJson.Accepted claims ∧ claims.DistinctKeys) :
    split rt loads (signingInput rt header claims ++ "." ++ rt.b64urlEncode signature) =
      .ok ⟨rt.b64urlEncode (jsonBytes header), rt.b64urlEncode (jsonBytes claims),
        rt.b64urlEncode signature, CanonicalJson.sortKeys header, CanonicalJson.sortKeys claims⟩ := by
  have hparts : (signingInput rt header claims ++ "." ++ rt.b64urlEncode signature).toList.splitOn '.' =
      [(rt.b64urlEncode (jsonBytes header)).toList, (rt.b64urlEncode (jsonBytes claims)).toList,
        (rt.b64urlEncode signature).toList] := by
    have htext : (signingInput rt header claims ++ "." ++ rt.b64urlEncode signature).toList =
        (rt.b64urlEncode (jsonBytes header)).toList ++ '.' ::
          ((rt.b64urlEncode (jsonBytes claims)).toList ++ '.' :: (rt.b64urlEncode signature).toList) := by
      simp [signingInput]
    rw [htext, List.splitOn_append_cons_self_of_not_mem (hrt.dot_encode _),
      List.splitOn_append_cons_self_of_not_mem (hrt.dot_encode _),
      List.splitOn_eq_singleton (hrt.dot_encode _)]
  rw [split, hparts]
  simp only [String.ofList_toList, bind_eq_ok, pure_eq_ok]
  exact ⟨_, hrt.decode_encode _, _, loads_jsonBytes hrt hheader.1 hheader.2, _, hrt.decode_encode _, _,
    loads_jsonBytes hrt hclaims.1 hclaims.2, rfl⟩

theorem length_token {header claims : Json} {key message : ByteArray} :
    (signingInput rt header claims ++ "." ++ rt.b64urlEncode (rt.ed25519Sign key message)).length =
      (4 * (jsonBytes header).size + 2) / 3 + (4 * (jsonBytes claims).size + 2) / 3 + 88 := by
  simp only [signingInput, String.length_append, hrt.length_encode, hrt.size_sign]
  have hdot : ".".length = 1 := rfl
  omega

end Reading

/-! ## The header -/

section Header

variable {rt : Runtime} {loads : ByteArray → Except Exn Json}

theorem tokenHeader_faithful (keyId : String) :
    CanonicalJson.Accepted (tokenHeader keyId) ∧ (tokenHeader keyId).DistinctKeys := by
  refine ⟨⟨trivial, trivial, trivial, trivial⟩, ?_, trivial, trivial, trivial, trivial⟩
  change ["alg", "kid", "typ"].Nodup
  decide

/-- The key that the header of an issued token leads to. -/
theorem tokenKey_tokenHeader {keys : KeyProvider} {keyId : String} {record : KeyRecord} {header : Fields}
    (hheader : CanonicalJson.sortKeys (tokenHeader keyId) = .obj header)
    (hrecord : keys.getKeyRecord keyId = some record) (hpurpose : record.purpose = .accessTokenSigning)
    (hlive : record.status ≠ .revoked) : tokenKey keys header = .ok record := by
  have hget (name : String) : header.get name = (Fields.get [("alg", .str "EdDSA"), ("kid", .str keyId),
      ("typ", .str "JWT")] name).map CanonicalJson.sortKeys :=
    lookup_sortKeys (f := [_, _, _]) (by simp) hheader name
  have hkeys : (header.map Prod.fst).Perm ["alg", "kid", "typ"] := by
    rw [tokenHeader, CanonicalJson.sortKeys, Json.obj.injEq] at hheader
    rw [← hheader]
    exact (List.perm_insertionSort _ _).map Prod.fst
  have hkid : headerKey keys (header.get "kid") = .ok record := by
    rw [hget]
    change headerKey keys (some (.str keyId)) = .ok record
    rw [headerKey, hrecord]
  have halg : header.get "alg" = some (.str "EdDSA") := hget "alg"
  have htyp : header.get "typ" = some (.str "JWT") := hget "typ"
  simp only [tokenKey, bind_eq_ok, require_eq_ok, pure_eq_ok]
  exact ⟨(), ⟨fun _ h => hkeys.mem_iff.mp h, fun _ h => hkeys.mem_iff.mpr h⟩, (), ⟨halg, htyp⟩, record,
    hkid, (), hpurpose, (), hlive, rfl⟩

end Header

/-! ## The claims -/

section Claims

theorem texts_faithful (l : List String) :
    CanonicalJson.AcceptedItems (l.map .str) ∧ Json.DistinctKeysItems (l.map .str) ∧
      CanonicalJson.sortKeysItems (l.map .str) = l.map .str := by
  induction l with
  | nil => exact ⟨trivial, trivial, rfl⟩
  | cons s l ih =>
    obtain ⟨haccepted, hdistinct, hsorted⟩ := ih
    exact ⟨⟨trivial, haccepted⟩, ⟨trivial, hdistinct⟩, congrArg (Json.str s :: ·) hsorted⟩

theorem ofOption_faithful (s : Option String) :
    CanonicalJson.Accepted (.ofOption s) ∧ (Json.ofOption s).DistinctKeys ∧
      CanonicalJson.sortKeys (.ofOption s) = .ofOption s := by
  cases s <;> exact ⟨trivial, trivial, rfl⟩

variable {rt : Runtime} {s : AccessTokenService} {call : IssueCall} {scopes : ActorScopes}
  {expires : Instant}

theorem tokenClaims_faithful : CanonicalJson.Accepted (tokenClaims s call scopes expires) ∧
    (tokenClaims s call scopes expires).DistinctKeys := by
  obtain ⟨huid, huid', -⟩ := ofOption_faithful scopes.continuityUid
  obtain ⟨hmerchants, hmerchants', -⟩ := texts_faithful scopes.merchantIds
  obtain ⟨hbranches, hbranches', -⟩ := texts_faithful scopes.branchIds
  obtain ⟨hpartners, hpartners', -⟩ := texts_faithful scopes.partnerIds
  obtain ⟨hpermissions, hpermissions', -⟩ := texts_faithful scopes.permissions
  refine ⟨⟨trivial, trivial, trivial, trivial, trivial, trivial, trivial, trivial,
    ⟨huid, hmerchants, hbranches, hpartners, hpermissions, trivial⟩, trivial⟩, ?_, trivial, trivial,
    trivial, trivial, trivial, trivial, trivial, trivial, ⟨?_, huid', hmerchants', hbranches',
      hpartners', hpermissions', trivial⟩, trivial⟩
  · change ["iss", "aud", "sub", "jti", "principal_type", "iat", "nbf", "exp", "scope"].Nodup
    decide
  · change ["continuity_uid", "merchant_ids", "branch_ids", "partner_ids", "permissions"].Nodup
    decide

/-- The fields of the claims of an issued token, once they have been read back. -/
structure IssuedClaims (s : AccessTokenService) (call : IssueCall) (scopes : ActorScopes)
    (expires : Instant) (claims scope : Fields) : Prop where
  iss : claims.get "iss" = some (.str s.issuer)
  aud : claims.get "aud" = some (.str s.audience)
  sub : claims.get "sub" = some (.str (strip call.principalId))
  jti : claims.get "jti" = some (.str (IssueCall.jti call))
  principalType : claims.get "principal_type" = some (.str call.principalType.value)
  iat : claims.get "iat" = some (.int (epochSeconds call.at_))
  nbf : claims.get "nbf" = some (.int (epochSeconds call.at_))
  exp : claims.get "exp" = some (.int (epochSeconds expires))
  object : claims.get "scope" = some (.obj scope)
  continuityUid : scope.get "continuity_uid" = some (.ofOption scopes.continuityUid)
  merchantIds : scope.get "merchant_ids" = some (.arr (scopes.merchantIds.map .str))
  branchIds : scope.get "branch_ids" = some (.arr (scopes.branchIds.map .str))
  partnerIds : scope.get "partner_ids" = some (.arr (scopes.partnerIds.map .str))
  permissions : scope.get "permissions" = some (.arr (scopes.permissions.map .str))

theorem issuedClaims_of_sortKeys {claims : Fields}
    (hclaims : CanonicalJson.sortKeys (tokenClaims s call scopes expires) = .obj claims) :
    ∃ scope, IssuedClaims s call scopes expires claims scope := by
  have hfields : (tokenClaims s call scopes expires).DistinctKeys := tokenClaims_faithful.2
  unfold tokenClaims at hclaims hfields
  have hget := lookup_sortKeys hfields.1 hclaims
  obtain ⟨-, -, -, -, -, -, -, -, -, hscope, -⟩ := hfields
  obtain ⟨scope, hobj⟩ : ∃ scope, CanonicalJson.sortKeys (.obj
      [("continuity_uid", .ofOption scopes.continuityUid),
        ("merchant_ids", .arr (scopes.merchantIds.map .str)),
        ("branch_ids", .arr (scopes.branchIds.map .str)),
        ("partner_ids", .arr (scopes.partnerIds.map .str)),
        ("permissions", .arr (scopes.permissions.map .str))]) = .obj scope := ⟨_, rfl⟩
  have hgetScope := lookup_sortKeys hscope.1 hobj
  have htexts (l : List String) : some (CanonicalJson.sortKeys (.arr (l.map .str))) =
      some (.arr (l.map .str)) := by
    rw [CanonicalJson.sortKeys, (texts_faithful l).2.2]
  exact ⟨scope, hget "iss", hget "aud", hget "sub", hget "jti", hget "principal_type", hget "iat",
    hget "nbf", hget "exp", (hget "scope").trans (congrArg some hobj),
    (hgetScope "continuity_uid").trans (congrArg some (ofOption_faithful _).2.2),
    (hgetScope "merchant_ids").trans (htexts _), (hgetScope "branch_ids").trans (htexts _),
    (hgetScope "partner_ids").trans (htexts _), (hgetScope "permissions").trans (htexts _)⟩

theorem ofValue_value (t : PrincipalType) : PrincipalType.ofValue (.str t.value) = .ok t := by
  cases t <;> rfl

/-- What is read from the claims of an issued token: nothing can go wrong but the two timestamps. -/
theorem readClaims_eq_ok {claims scope : Fields} (hclaims : IssuedClaims s call scopes expires claims scope)
    (hnormal : scopes.Normal rt) (hvalid : validatePrincipalScope call.principalType scopes = .ok ())
    {read : TokenClaims} :
    readClaims rt claims = .ok read ↔ ∃ issuedAt expiresAt,
      fromTimestamp (epochSeconds call.at_) = .ok issuedAt ∧
      fromTimestamp (epochSeconds expires) = .ok expiresAt ∧
      read = ⟨issuedAt, issuedAt, expiresAt, strip call.principalId, IssueCall.jti call,
        call.principalType, scopes⟩ := by
  have hiat : epochClaim claims "iat" = fromTimestamp (epochSeconds call.at_) := by
    rw [epochClaim, Fields.item_of_get hclaims.iat]
    rfl
  have hnbf : epochClaim claims "nbf" = fromTimestamp (epochSeconds call.at_) := by
    rw [epochClaim, Fields.item_of_get hclaims.nbf]
    rfl
  have hexp : epochClaim claims "exp" = fromTimestamp (epochSeconds expires) := by
    rw [epochClaim, Fields.item_of_get hclaims.exp]
    rfl
  have hlist {name : String} {l : List String} (h : scope.get name = some (.arr (l.map .str))) :
      scopeList scope name = .ok (l.map .str) := by
    rw [scopeList, h]
  have hscopes := hnormal.normalized
  unfold ActorScopes.normalized at hscopes
  simp only [readClaims, hiat, hnbf, hexp, Fields.item_of_get hclaims.sub,
    Fields.item_of_get hclaims.jti, Fields.item_of_get hclaims.principalType,
    Fields.item_of_get hclaims.object, subjectTexts, scopeObject, ofValue_value, hclaims.continuityUid,
    hlist hclaims.merchantIds, hlist hclaims.branchIds, hlist hclaims.partnerIds,
    hlist hclaims.permissions, Option.getD_some, hscopes, hvalid, bind_eq_ok, pure_eq_ok,
    Except.ok.injEq, exists_eq_left']
  constructor
  · rintro ⟨issuedAt, hissued, notBefore, hnotBefore, expiresAt, hexpires, _, -, rfl⟩
    obtain rfl := Except.ok.inj (hissued.symm.trans hnotBefore)
    exact ⟨issuedAt, expiresAt, hissued, hexpires, rfl⟩
  · rintro ⟨issuedAt, expiresAt, hissued, hexpires, rfl⟩
    exact ⟨issuedAt, hissued, issuedAt, hissued, expiresAt, hexpires, (), trivial, rfl⟩

end Claims

/-! ## Which issued tokens verify -/

variable {rt : Runtime} {loads : ByteArray → Except Exn Json} {s : AccessTokenService}
  {keys : KeyProvider} {call : IssueCall} {token : String}

/-- When the token of a call expires, to the microsecond. -/
def IssueCall.expires (call : IssueCall) : Instant := call.at_ + seconds call.ttlSeconds

/-- The text of a token that its signature covers. -/
def tokenMessage (rt : Runtime) (s : AccessTokenService) (call : IssueCall) (scopes : ActorScopes) : String :=
  signingInput rt (tokenHeader call.keyId) (tokenClaims s call scopes (IssueCall.expires call))

/-- What has been issued: the checks that were passed, and the text of the token. -/
structure Issued (rt : Runtime) (s : AccessTokenService) (keys : KeyProvider) (call : IssueCall)
    (token : String) (record : KeyRecord) (scopes : ActorScopes) (key : ByteArray) : Prop where
  principal : strip call.principalId ≠ ""
  ttl : 60 ≤ call.ttlSeconds
  found : keys.getKeyRecord call.keyId = some record
  purpose : record.purpose = .accessTokenSigning
  normalized : call.scopes.normalized rt = .ok scopes
  permitted : validatePrincipalScope call.principalType scopes = .ok ()
  inYears : InYears (IssueCall.expires call)
  privateKey : keys.privateKeys.get? call.keyId = some key
  text : token = tokenMessage rt s call scopes ++ "." ++
    rt.b64urlEncode (rt.ed25519Sign key (tokenMessage rt s call scopes).toUTF8)

theorem addDuration_eq_ok {t d t' : Int} : addDuration t d = .ok t' ↔ InYears (t + d) ∧ t + d = t' := by
  unfold addDuration
  split_ifs with h <;> simp [h]

theorem issued_of_issue (h : s.issue rt keys call = .ok token) :
    ∃ record scopes key, Issued rt s keys call token record scopes key := by
  simp only [issue, bind_eq_ok, require_eq_ok, pure_eq_ok] at h
  obtain ⟨_, hprincipal, _, httl, record, hrecord, _, hpurpose, _, -, scopes, hscopes, _, hscoped,
    expires, hexpires, _, -, signature, hsign, htoken⟩ := h
  obtain ⟨hyears, rfl⟩ := addDuration_eq_ok.mp hexpires
  have hfound : keys.getKeyRecord call.keyId = some record := by
    unfold issuingKey at hrecord
    split at hrecord
    · next found hfound => rw [hfound, Except.ok.inj hrecord]
    · cases hrecord
  unfold KeyProvider.sign at hsign
  split at hsign
  · next key hkey =>
    obtain rfl := Except.ok.inj hsign
    exact ⟨record, scopes, key, hprincipal, httl.1, hfound, hpurpose, hscopes, hscoped, hyears, hkey,
      htoken.symm⟩
  · cases hsign

/-- The number of characters of the token of a call. -/
def tokenLength (s : AccessTokenService) (call : IssueCall) (scopes : ActorScopes) : ℕ :=
  (4 * (jsonBytes (tokenHeader call.keyId)).size + 2) / 3 +
    (4 * (jsonBytes (tokenClaims s call scopes (IssueCall.expires call))).size + 2) / 3 + 88

/-- The instants that the token of a call holds, in whole seconds. -/
def IssueCall.issuedAt (call : IssueCall) : Instant := seconds (epochSeconds call.at_)

def IssueCall.expiresAt (call : IssueCall) : Instant := seconds (epochSeconds (IssueCall.expires call))

/-- What `verify` does with an issued token, after everything that cannot go wrong. -/
theorem verify_issued_eq_ok (hrt : FaithfulTokens rt loads) {later : KeyProvider} {record : KeyRecord}
    {status : KeyStatus} {scopes : ActorScopes} {key : ByteArray}
    (hissued : Issued rt s keys call token record scopes key)
    (hpublic : record.publicKey = rt.publicKey key)
    (hlater : later.getKeyRecord call.keyId = some { record with status }) (hlive : status ≠ .revoked)
    {revocations : TokenRevocations} {instant : Instant} {principal : AuthenticatedPrincipal} :
    verify rt loads s later revocations token instant = .ok principal ↔
      tokenLength s call scopes ≤ 16384 ∧ ∃ issuedAt expiresAt,
        fromTimestamp (epochSeconds call.at_) = .ok issuedAt ∧
        fromTimestamp (epochSeconds (IssueCall.expires call)) = .ok expiresAt ∧
        checkTimes s { record with status } ⟨issuedAt, issuedAt, expiresAt, strip call.principalId,
          IssueCall.jti call, call.principalType, scopes⟩ instant = .ok () ∧
        strip (IssueCall.jti call) ≠ "" ∧ revocations.isRevoked (IssueCall.jti call) = false ∧
        principal = ⟨strip call.principalId, call.principalType, IssueCall.jti call, s.issuer,
          s.audience, scopes, issuedAt, expiresAt⟩ := by
  obtain ⟨header, hheader⟩ : ∃ header, CanonicalJson.sortKeys (tokenHeader call.keyId) = .obj header :=
    ⟨_, rfl⟩
  obtain ⟨claims, hclaims⟩ : ∃ claims, CanonicalJson.sortKeys
    (tokenClaims s call scopes (IssueCall.expires call)) = .obj claims := ⟨_, rfl⟩
  obtain ⟨scope, hfields⟩ := issuedClaims_of_sortKeys hclaims
  have hnormal := ActorScopes.normal_of_normalizedScopes hissued.normalized
  have hsplit : split rt loads token = .ok ⟨rt.b64urlEncode (jsonBytes (tokenHeader call.keyId)),
      rt.b64urlEncode (jsonBytes (tokenClaims s call scopes (IssueCall.expires call))),
      rt.b64urlEncode (rt.ed25519Sign key (tokenMessage rt s call scopes).toUTF8), .obj header,
      .obj claims⟩ := by
    rw [hissued.text, ← hheader, ← hclaims]
    exact split_token hrt (tokenHeader_faithful call.keyId) tokenClaims_faithful
  have hlength : token.length = tokenLength s call scopes := by
    rw [hissued.text]
    exact length_token hrt
  have hkey : tokenKey later header = .ok { record with status } :=
    tokenKey_tokenHeader hheader hlater hissued.purpose hlive
  have hblank : strip token ≠ "" := by
    rw [ne_eq, strip_eq_empty]
    intro hspace
    have hdot : '.' ∈ token.toList := by
      rw [hissued.text]
      simp
    exact absurd (hspace '.' hdot) (by decide)
  have hverifies : rt.ed25519Verify record.publicKey
      (rt.ed25519Sign key (tokenMessage rt s call scopes).toUTF8)
      (tokenMessage rt s call scopes).toUTF8 = true := by
    rw [hpublic]
    exact hrt.verify_sign key _
  constructor
  · intro h
    simp only [verify, bind_eq_ok, require_eq_ok, orRefused_eq_ok] at h
    obtain ⟨_, -, _, hsize, parts, hparts, ⟨header', claims'⟩, hobjects, record', hkey', _, -, _, -,
      read, hclaimed, _, htimes, _, ⟨-, hjti⟩, _, hrevoked, h⟩ := h
    obtain rfl := Except.ok.inj (hsplit.symm.trans hparts)
    cases hobjects
    obtain rfl := Except.ok.inj (hkey.symm.trans hkey')
    obtain ⟨issuedAt, expiresAt, hissuedAt, hexpiresAt, rfl⟩ :=
      (readClaims_eq_ok hfields hnormal hissued.permitted).mp hclaimed
    exact ⟨hlength ▸ hsize, issuedAt, expiresAt, hissuedAt, hexpiresAt, htimes, hjti, hrevoked,
      (pure_eq_ok.mp h).symm⟩
  · rintro ⟨hsize, issuedAt, expiresAt, hissuedAt, hexpiresAt, htimes, hjti, hrevoked, rfl⟩
    have hsignature : checkSignature rt { record with status } ⟨rt.b64urlEncode (jsonBytes (tokenHeader
        call.keyId)), rt.b64urlEncode (jsonBytes (tokenClaims s call scopes (IssueCall.expires call))),
        rt.b64urlEncode (rt.ed25519Sign key (tokenMessage rt s call scopes).toUTF8), .obj header,
        .obj claims⟩ = .ok () := by
      simp only [checkSignature, bind_eq_ok, require_eq_ok, orRefused_eq_ok]
      exact ⟨_, hrt.decode_encode _, hverifies⟩
    have hprincipal : strip (strip call.principalId) ≠ "" := by
      rw [strip_strip]
      exact hissued.principal
    have hread := (readClaims_eq_ok hfields hnormal hissued.permitted).mpr
      ⟨issuedAt, expiresAt, hissuedAt, hexpiresAt, rfl⟩
    simp only [verify, bind_eq_ok, require_eq_ok, orRefused_eq_ok]
    exact ⟨(), hblank, (), hlength ▸ hsize, _, hsplit, (header, claims), rfl, _, hkey, (), hsignature, (),
      ⟨hfields.iss, hfields.aud⟩, _, hread, (), htimes, (), ⟨hprincipal, hjti⟩, (), hrevoked, rfl⟩

/-! ### The instants -/

theorem timedelta_eq_ok {n d : Int} :
    timedelta n = .ok d ↔ (-999999999 ≤ n / 86400 ∧ n / 86400 ≤ 999999999) ∧ seconds n = d := by
  unfold timedelta
  split_ifs with h <;> simp [h]

theorem inYears_seconds {n : Int} :
    InYears (seconds n) ↔ -62135596800 ≤ n ∧ n ≤ 253402300799 := by
  change -62135596800000000 ≤ n * 1000000 ∧ n * 1000000 ≤ 253402300799999999 ↔ _
  omega

theorem fromTimestamp_eq_ok {n : Int} {t : Instant} :
    fromTimestamp n = .ok t ↔ InYears (seconds n) ∧ seconds n = t := by
  rw [inYears_seconds]
  unfold fromTimestamp
  split_ifs with h₁ h₂ h₃
  · simp only [false_iff, not_and]
    omega
  · simp only [false_iff, not_and]
    omega
  · simp only [false_iff, not_and]
    omega
  · simp only [Except.ok.injEq, iff_and_self]
    omega

/-- The token of a call is issued before it expires, also in whole seconds. -/
theorem issuedAt_lt_expiresAt (httl : 60 ≤ call.ttlSeconds) :
    IssueCall.issuedAt call < IssueCall.expiresAt call := by
  have hfloor (t n : Int) (hn : 60 ≤ n) : (t / 1000000 + 60) * 1000000 ≤ t + n * 1000000 := by omega
  have hceil (t : Int) : t ≤ (t / 1000000 + 1) * 1000000 := by omega
  have hlow : seconds (call.at_ / 1000000 + 60) ≤ IssueCall.expires call := hfloor _ _ httl
  have hhigh : call.at_ ≤ seconds (call.at_ / 1000000 + 1) := hceil _
  have hexpires := epochSeconds_mono hlow
  have hissued := epochSeconds_mono hhigh
  rw [epochSeconds_seconds] at hexpires hissued
  change epochSeconds call.at_ * 1000000 < epochSeconds (IssueCall.expires call) * 1000000
  omega

theorem inYears_issuedAt (hat : InYears call.at_) (hexpires : InYears (IssueCall.expiresAt call))
    (httl : 60 ≤ call.ttlSeconds) : InYears (IssueCall.issuedAt call) := by
  have hlow := epochSeconds_mono (s := seconds (-62135596800)) hat.1
  rw [epochSeconds_seconds] at hlow
  refine ⟨?_, (issuedAt_lt_expiresAt httl).le.trans hexpires.2⟩
  change -62135596800000000 ≤ epochSeconds call.at_ * 1000000
  omega

/-- When the token of a call verifies at an instant.  The principal and the token id are not blank and
the principal is trimmed, the token is not too long, the instants of the claims and the policy about them
are representable, and the whole seconds of the claims fit the clock skew, the lifetime and the key. -/
structure Verifiable (s : AccessTokenService) (record : KeyRecord) (call : IssueCall)
    (scopes : ActorScopes) (instant : Instant) : Prop where
  principal : strip call.principalId = call.principalId
  identifier : strip (IssueCall.jti call) ≠ ""
  size : tokenLength s call scopes ≤ 16384
  inYears : InYears (IssueCall.expiresAt call)
  skew : -999999999 ≤ s.clockSkewSeconds / 86400 ∧ s.clockSkewSeconds / 86400 ≤ 999999999
  early : InYears (IssueCall.issuedAt call - seconds s.clockSkewSeconds) ∧
    IssueCall.issuedAt call - seconds s.clockSkewSeconds ≤ instant
  late : InYears (IssueCall.expiresAt call + seconds s.clockSkewSeconds) ∧
    instant < IssueCall.expiresAt call + seconds s.clockSkewSeconds
  lifetime : IssueCall.expiresAt call - IssueCall.issuedAt call ≤ seconds s.maxTtlSeconds
  window : record.notBefore ≤ IssueCall.issuedAt call ∧ IssueCall.issuedAt call < record.notAfter ∧
    IssueCall.expiresAt call ≤ record.notAfter

theorem checkTimes_eq_ok {record : KeyRecord} {claims : TokenClaims} {instant : Instant}
    (hnbf : claims.notBefore = claims.issuedAt) (hlt : claims.issuedAt < claims.expiresAt) :
    checkTimes s record claims instant = .ok () ↔
      (-999999999 ≤ s.clockSkewSeconds / 86400 ∧ s.clockSkewSeconds / 86400 ≤ 999999999) ∧
      (InYears (claims.issuedAt - seconds s.clockSkewSeconds) ∧
        claims.issuedAt - seconds s.clockSkewSeconds ≤ instant) ∧
      (InYears (claims.expiresAt + seconds s.clockSkewSeconds) ∧
        instant < claims.expiresAt + seconds s.clockSkewSeconds) ∧
      claims.expiresAt - claims.issuedAt ≤ seconds s.maxTtlSeconds ∧
      record.notBefore ≤ claims.issuedAt ∧ claims.issuedAt < record.notAfter ∧
      claims.expiresAt ≤ record.notAfter := by
  simp only [checkTimes, bind_eq_ok, require_eq_ok, timedelta_eq_ok, addDuration_eq_ok, hnbf]
  constructor
  · rintro ⟨_, ⟨hskew, rfl⟩, _, ⟨hearly, rfl⟩, _, hle, _, ⟨-, rfl⟩, _, -, _, ⟨hlate, rfl⟩, _, hlatest, _,
      ⟨-, hlifetime⟩, ⟨hbefore, hafter⟩, hend⟩
    exact ⟨hskew, ⟨hearly, hle⟩, ⟨hlate, hlatest⟩, hlifetime, hbefore, hafter, hend⟩
  · rintro ⟨hskew, ⟨hearly, hle⟩, ⟨hlate, hlatest⟩, hlifetime, hbefore, hafter, hend⟩
    exact ⟨_, ⟨hskew, rfl⟩, _, ⟨hearly, rfl⟩, (), hle, _, ⟨hearly, rfl⟩, (), hle, _, ⟨hlate, rfl⟩, (),
      hlatest, (), ⟨hlt, hlifetime⟩, ⟨hbefore, hafter⟩, hend⟩

/-- Whatever the revocations: what `verify` returns for an issued token, and when. -/
theorem verify_issued_iff (hrt : FaithfulTokens rt loads) {later : KeyProvider} {record : KeyRecord}
    {status : KeyStatus} {scopes : ActorScopes} {key : ByteArray} (hat : InYears call.at_)
    (hissued : Issued rt s keys call token record scopes key)
    (hpublic : record.publicKey = rt.publicKey key)
    (hlater : later.getKeyRecord call.keyId = some { record with status }) (hlive : status ≠ .revoked)
    {revocations : TokenRevocations} (hrevoked : revocations.isRevoked (IssueCall.jti call) = false)
    {instant : Instant} :
    (∃ principal, verify rt loads s later revocations token instant = .ok principal ∧
      principal.principalId = call.principalId ∧ principal.principalType = call.principalType ∧
      principal.scopes = scopes) ↔ Verifiable s record call scopes instant := by
  have hlt := issuedAt_lt_expiresAt hissued.ttl
  constructor
  · rintro ⟨principal, hverify, hprincipal, -, -⟩
    obtain ⟨hsize, issuedAt, expiresAt, hissuedAt, hexpiresAt, htimes, hjti, -, rfl⟩ :=
      (verify_issued_eq_ok hrt hissued hpublic hlater hlive).mp hverify
    obtain ⟨-, rfl⟩ := fromTimestamp_eq_ok.mp hissuedAt
    obtain ⟨hyears, rfl⟩ := fromTimestamp_eq_ok.mp hexpiresAt
    obtain ⟨hskew, hearly, hlate, hlifetime, hwindow⟩ := (checkTimes_eq_ok rfl hlt).mp htimes
    exact ⟨hprincipal, hjti, hsize, hyears, hskew, hearly, hlate, hlifetime, hwindow⟩
  · rintro ⟨hprincipal, hjti, hsize, hyears, hskew, hearly, hlate, hlifetime, hwindow⟩
    have htimes : checkTimes s { record with status } ⟨IssueCall.issuedAt call, IssueCall.issuedAt call,
        IssueCall.expiresAt call, strip call.principalId, IssueCall.jti call, call.principalType, scopes⟩
        instant = .ok () :=
      (checkTimes_eq_ok rfl hlt).mpr ⟨hskew, hearly, hlate, hlifetime, hwindow⟩
    refine ⟨_, (verify_issued_eq_ok hrt hissued hpublic hlater hlive).mpr ⟨hsize, _, _,
      fromTimestamp_eq_ok.mpr ⟨inYears_issuedAt hat hyears hissued.ttl, rfl⟩,
      fromTimestamp_eq_ok.mpr ⟨hyears, rfl⟩, htimes, hjti, hrevoked, rfl⟩, hprincipal, rfl, rfl⟩

/-- A token that was issued verifies at an instant, as long as it and its key are not revoked, with the
principal, the type and the normalized scopes it was issued for exactly under the conditions of
`Verifiable`. -/
theorem issued_token_verifies_iff (hrt : FaithfulTokens rt loads) {before after : List KeyCall}
    {record : KeyRecord} {scopes : ActorScopes} (hat : InYears call.at_)
    (hissue : s.issue rt (run rt before) call = .ok token)
    (hrecord : (run rt before).getKeyRecord call.keyId = some record)
    (hscopes : call.scopes.normalized rt = .ok scopes)
    (hlive : ∀ later, (run rt (before ++ after)).getKeyRecord call.keyId = some later →
      later.status ≠ .revoked)
    {revocations : TokenRevocations} (hrevoked : revocations.isRevoked (IssueCall.jti call) = false)
    {instant : Instant} :
    (∃ principal, verify rt loads s (run rt (before ++ after)) revocations token instant =
        .ok principal ∧ principal.principalId = call.principalId ∧
      principal.principalType = call.principalType ∧ principal.scopes = scopes) ↔
    Verifiable s record call scopes instant := by
  obtain ⟨record', scopes', key, hissued⟩ := issued_of_issue hissue
  obtain rfl := Option.some.inj (hrecord.symm.trans hissued.found)
  obtain rfl := Except.ok.inj (hscopes.symm.trans hissued.normalized)
  obtain ⟨record', hrecord', hpublic⟩ := (keysMatch_run before).privateKey _ _ hissued.privateKey
  obtain rfl := Option.some.inj (hrecord.symm.trans hrecord')
  obtain ⟨status, hlater⟩ := getKeyRecord_run hrecord after
  exact verify_issued_iff hrt hat hissued hpublic hlater (hlive _ hlater) hrevoked

/-! ### Sample tokens -/

end AccessTokenService

namespace Sample

open AccessTokenService

/-- The library functions of the sample, with base64 as it is and signatures of 64 bytes. -/
def tokenRuntime : Runtime :=
  { exactRuntime with
    publicKey := fun key => key
    ed25519Sign := fun _ _ => ⟨.replicate 64 0⟩
    ed25519Verify := fun _ signature _ => signature.size == 64
    b64urlEncode := fun data => String.ofList (Base64.encode data.data.toList)
    b64urlDecode := fun text =>
      match Base64.decode (text.toList ++ Base64.padding text.length) with
      | some bytes => .ok ⟨⟨bytes⟩⟩
      | none => .error ⟨.valueError, "Incorrect padding"⟩ }

theorem faithfulTokens_tokenRuntime : FaithfulTokens tokenRuntime tokenRuntime.jsonLoads where
  verify_sign _ _ := rfl
  size_sign _ _ := rfl
  decode_encode data := by
    simp only [tokenRuntime, String.toList_ofList, String.length_ofList, Base64.decode_encode]
  length_encode data := by
    simp only [tokenRuntime, String.length_ofList, Base64.length_encode]
    rfl
  dot_encode data := by
    have hdigit (n : ℕ) : Base64.digit n ≠ '.' := by
      have hall : Base64.alphabet.all (fun c => c != '.') = true := by decide
      simpa using List.all_eq_true.mp hall _ (Base64.digit_mem n)
    simp only [tokenRuntime, String.toList_ofList]
    exact fun hmem => Base64.forall_mem_encode (p := fun c => c ≠ '.') hdigit _ _ hmem rfl
  loads_dumps j hj hd := by
    simp only [tokenRuntime, exactRuntime, runtime, jsonDecode_utf8Bytes hj hd]

/-- The token service of the sample. -/
def tokenService : AccessTokenService :=
  ⟨"RAILONE", "railone-api", 900, 30, by decide, by decide, by decide⟩

/-- A key for tokens whose window starts half a second after the epoch. -/
def tokenKeyCalls : List KeyCall :=
  [.generate "secret".toUTF8 "TOK" "RAILONE" .accessTokenSigning 500000 (seconds 100000)]

/-- A token for an operator, which lives for a minute. -/
def issueCall (principalId tokenId : String) (at_ : Instant) : IssueCall where
  principalId := principalId
  principalType := .operator
  scopes := { permissions := [readAnyPermission] }
  keyId := "TOK"
  ttlSeconds := 60
  tokenId := some tokenId
  uuid := "AT-0"
  at_ := at_

/-- A token that is issued after the first second of its key verifies. -/
theorem issued_token_verifies_iff_sample : ∃ token,
    tokenService.issue tokenRuntime (run tokenRuntime tokenKeyCalls) (issueCall "OPS-1" "AT-1" 2700000) =
      .ok token ∧
    ∃ principal, verify tokenRuntime tokenRuntime.jsonLoads tokenService
      (run tokenRuntime (tokenKeyCalls ++ [])) .empty token 2700000 = .ok principal ∧
      principal.principalId = "OPS-1" ∧ principal.principalType = .operator ∧
      principal.scopes = { permissions := [readAnyPermission] } := by
  obtain ⟨token, htoken⟩ := exists_of_isOk (x := tokenService.issue tokenRuntime
    (run tokenRuntime tokenKeyCalls) (issueCall "OPS-1" "AT-1" 2700000)) (by decide +kernel)
  refine ⟨token, htoken, ?_⟩
  refine (issued_token_verifies_iff faithfulTokens_tokenRuntime (by decide +kernel) htoken rfl
    (by decide +kernel) ?_ rfl).mpr ?_
  · intro later hlater
    obtain rfl := Option.some.inj hlater
    decide
  · exact ⟨by decide, by decide, by decide +kernel, by decide +kernel, by decide, by decide +kernel,
      by decide +kernel, by decide +kernel, by decide +kernel⟩

/-- A token that is issued within the first second of its key is refused, at that instant and ever
after: the second that it says it was issued in began before the key was valid. -/
theorem issued_token_refused : ∃ token,
    tokenService.issue tokenRuntime (run tokenRuntime tokenKeyCalls) (issueCall "OPS-1" "AT-1" 700000) =
      .ok token ∧
    ∀ instant principal, verify tokenRuntime tokenRuntime.jsonLoads tokenService
      (run tokenRuntime tokenKeyCalls) .empty token instant ≠ .ok principal := by
  obtain ⟨token, htoken⟩ := exists_of_isOk (x := tokenService.issue tokenRuntime
    (run tokenRuntime tokenKeyCalls) (issueCall "OPS-1" "AT-1" 700000)) (by decide +kernel)
  refine ⟨token, htoken, fun instant principal hverify => ?_⟩
  obtain ⟨record, scopes, key, hissued⟩ := issued_of_issue htoken
  obtain rfl := Option.some.inj hissued.found
  obtain rfl := Option.some.inj hissued.privateKey
  have hactive : KeyStatus.active ≠ .revoked := by decide
  obtain ⟨-, issuedAt, expiresAt, hissuedAt, -, htimes, -⟩ :=
    (verify_issued_eq_ok faithfulTokens_tokenRuntime hissued rfl rfl hactive).mp hverify
  obtain ⟨-, rfl⟩ := fromTimestamp_eq_ok.mp hissuedAt
  simp only [checkTimes, bind_eq_ok, require_eq_ok] at htimes
  obtain ⟨_, -, _, -, _, -, _, -, _, -, _, -, _, -, _, -, ⟨hwindow, -⟩, -⟩ := htimes
  exact absurd hwindow (by decide +kernel)

/-- The operator that the tokens of the sample are for. -/
def operator (principalId tokenId : String) : AuthenticatedPrincipal where
  principalId := principalId
  principalType := .operator
  tokenId := tokenId
  issuer := "RAILONE"
  audience := "railone-api"
  scopes := { permissions := [readAnyPermission] }
  issuedAt := seconds 2
  expiresAt := seconds 62

end Sample

end RailOne
