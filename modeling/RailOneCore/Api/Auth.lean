import RailOneCore.Crypto.SignatureService

/-!
# Access tokens

`AccessTokenService` issues signed tokens for a principal and its scopes and verifies any text that is
presented as a token.  A token is a header, claims and a signature, each in base64; the signature
covers the two texts before it.  Verifying turns every parsing error into `AccessTokenError`; the
arithmetic on instants afterwards stands outside of the `try` blocks.

`loads` is `json.loads` on bytes.
-/

namespace RailOne

open Ordered

/-! ## Datetimes and durations -/

/-- The instants that `datetime` represents: the years 1 to 9999. -/
def InYears (t : Instant) : Prop := -62135596800000000 ≤ t ∧ t ≤ 253402300799999999

instance (t : Instant) : Decidable (InYears t) := inferInstanceAs (Decidable (_ ∧ _))

/-- `t + d` for a `datetime` and a `timedelta`. -/
def addDuration (t : Instant) (d : Int) : Except Exn Instant :=
  if InYears (t + d) then .ok (t + d) else .error ⟨.overflowError, "date value out of range"⟩

/-- `timedelta(seconds=n)`, whose days must fit nine digits. -/
def timedelta (n : Int) : Except Exn Int :=
  if -999999999 ≤ n / 86400 ∧ n / 86400 ≤ 999999999 then .ok (seconds n)
  else .error ⟨.overflowError, "days=" ++ (n / 86400).repr ++ "; must have magnitude <= 999999999"⟩

/-! ## Principals and scopes -/

inductive PrincipalType
  | human | merchantService | partnerService | operator
  deriving DecidableEq, Repr

/-- The text of a principal type. -/
def PrincipalType.value : PrincipalType → String
  | .human => "HUMAN"
  | .merchantService => "MERCHANT_SERVICE"
  | .partnerService => "PARTNER_SERVICE"
  | .operator => "OPERATOR"

/-- `PrincipalType(value)`. -/
def PrincipalType.ofValue : Json → Except Exn PrincipalType
  | .str "HUMAN" => .ok .human
  | .str "MERCHANT_SERVICE" => .ok .merchantService
  | .str "PARTNER_SERVICE" => .ok .partnerService
  | .str "OPERATOR" => .ok .operator
  | _ => .error ⟨.valueError, "not a valid PrincipalType"⟩

/-- The scopes of a principal. -/
structure ActorScopes where
  continuityUid : Option String := none
  merchantIds : List String := []
  branchIds : List String := []
  partnerIds : List String := []
  permissions : List String := []
  deriving DecidableEq, Repr

/-- `READ_ANY_PERMISSION`. -/
def readAnyPermission : String := "railone.transactions.read:any"

/-- `sorted` on the set of the texts. -/
def sortedSet (l : List String) : List String := l.dedup.insertionSort (· ≤ ·)

/-- `_normalized_ids` and `_normalized_permissions`: the texts, trimmed and mapped by `f`, in order and
without repetition. -/
def normalizedTexts (f : String → String) (noun distinct long : String) (values : List Json) :
    Except Exn (List String) := do
  let texts ← values.mapM fun
    | .str value => .ok value
    | _ => .error ⟨.typeError, noun ++ " must contain strings"⟩
  let normalized := sortedSet ((texts.filter fun value => strip value ≠ "").map fun value =>
    f (strip value))
  require (normalized.length = texts.length)
    ⟨.valueError, noun ++ " must contain unique non-empty " ++ distinct⟩
  require (∀ value ∈ normalized, value.length ≤ 128) ⟨.valueError, long⟩
  return normalized

/-- `_normalized_ids`. -/
def normalizedIds (rt : Runtime) (name : String) : List Json → Except Exn (List String) :=
  normalizedTexts rt.upper name "identifiers" (name ++ " identifiers cannot exceed 128 characters")

/-- `_normalized_permissions`. -/
def normalizedPermissions : List Json → Except Exn (List String) :=
  normalizedTexts id "permissions" "values" "permissions cannot exceed 128 characters"

/-- `re.fullmatch(r"CUID-[A-Z2-7]{32}", text)`. -/
def isContinuityUid (text : String) : Bool :=
  text.toList.take 5 == "CUID-".toList && text.length == 37 &&
    (text.toList.drop 5).all fun c => ('A' ≤ c && c ≤ 'Z') || ('2' ≤ c && c ≤ '7')

/-- The continuity UID of normalized scopes. -/
def normalizedUid (rt : Runtime) : Json → Except Exn (Option String)
  | .null => .ok none
  | .str text =>
    if isContinuityUid (rt.upper (strip text)) then .ok (some (rt.upper (strip text)))
    else .error ⟨.valueError, "continuity_uid must be a RailOne ContUID"⟩
  | _ => .error ⟨.typeError, "continuity_uid must be a string"⟩

/-- `ActorScopes(…).normalized()`, on whatever values the scopes were built from. -/
def normalizedScopes (rt : Runtime) (continuityUid : Json)
    (merchantIds branchIds partnerIds permissions : List Json) : Except Exn ActorScopes := do
  let continuityUid ← normalizedUid rt continuityUid
  let merchantIds ← normalizedIds rt "merchant_ids" merchantIds
  let branchIds ← normalizedIds rt "branch_ids" branchIds
  let partnerIds ← normalizedIds rt "partner_ids" partnerIds
  let permissions ← normalizedPermissions permissions
  require (merchantIds.length + branchIds.length + partnerIds.length + permissions.length +
      (if continuityUid.isSome then 1 else 0) ≤ 200)
    ⟨.valueError, "access token exceeds the actor-scope limit"⟩
  return { continuityUid, merchantIds, branchIds, partnerIds, permissions }

/-- `ActorScopes.normalized`. -/
def ActorScopes.normalized (rt : Runtime) (s : ActorScopes) : Except Exn ActorScopes :=
  normalizedScopes rt (.ofOption s.continuityUid) (s.merchantIds.map .str) (s.branchIds.map .str)
    (s.partnerIds.map .str) (s.permissions.map .str)

/-- `_validate_principal_scope`. -/
def validatePrincipalScope (principalType : PrincipalType) (scopes : ActorScopes) :
    Except Exn Unit := do
  require (readAnyPermission ∈ scopes.permissions → principalType = .operator)
    ⟨.valueError, "privileged transaction permission requires OPERATOR principal type"⟩
  require (principalType = .merchantService → scopes.merchantIds ≠ [])
    ⟨.valueError, "merchant service requires at least one merchant scope"⟩
  require (principalType = .partnerService → scopes.partnerIds ≠ [])
    ⟨.valueError, "partner service requires at least one partner scope"⟩

/-- `AuthenticatedPrincipal`. -/
structure AuthenticatedPrincipal where
  principalId : String
  principalType : PrincipalType
  tokenId : String
  issuer : String
  audience : String
  scopes : ActorScopes
  issuedAt : Instant
  expiresAt : Instant
  deriving DecidableEq, Repr

/-! ## Revoked tokens -/

/-- `InMemoryTokenRevocationStore`: the expiry and the reason of each revoked token. -/
abbrev TokenRevocations := Dict String (Instant × String)

namespace TokenRevocations

/-- `is_revoked`. -/
def isRevoked (revocations : TokenRevocations) (tokenId : String) : Bool :=
  (revocations.get? tokenId).isSome

/-- `revoke`. -/
def revoke (rt : Runtime) (revocations : TokenRevocations) (tokenId : String) (expiresAt : Instant)
    (reason : String) : Except Exn TokenRevocations := do
  require (strip reason ≠ "") ⟨.valueError, "token revocation reason is required"⟩
  let material := (expiresAt, rt.upper (strip reason))
  require (∀ prior ∈ revocations.get? tokenId, prior = material)
    ⟨.runtimeError, "token revocation conflict"⟩
  return revocations.set tokenId material

end TokenRevocations

/-! ## The service -/

/-- The configuration of `AccessTokenService`, as its constructor accepts it. -/
structure AccessTokenService where
  issuer : String
  audience : String
  maxTtlSeconds : Int
  clockSkewSeconds : Int
  issuer_stripped : strip issuer = issuer ∧ issuer ≠ ""
  audience_stripped : strip audience = audience ∧ audience ≠ ""
  ttl_bounds : 60 ≤ maxTtlSeconds ∧ maxTtlSeconds ≤ 3600

/-- The arguments of `issue`; `uuid` is the identifier drawn for a token without one. -/
structure IssueCall where
  principalId : String
  principalType : PrincipalType
  scopes : ActorScopes
  keyId : String
  ttlSeconds : Int
  tokenId : Option String
  uuid : String
  at_ : Instant

namespace AccessTokenService

variable (rt : Runtime) (loads : ByteArray → Except Exn Json)

/-- `_json`. -/
def jsonBytes (value : Json) : ByteArray := utf8Bytes (CanonicalJson.dumps (CanonicalJson.sortKeys value))

/-- The header of a token. -/
def tokenHeader (keyId : String) : Json :=
  .obj [("alg", .str "EdDSA"), ("kid", .str keyId), ("typ", .str "JWT")]

/-- `token_id or f"AT-{uuid4().hex.upper()}"`. -/
def IssueCall.jti (call : IssueCall) : String :=
  match call.tokenId with
  | some tokenId => if tokenId = "" then call.uuid else tokenId
  | none => call.uuid

/-- The claims of a token. -/
def tokenClaims (s : AccessTokenService) (call : IssueCall) (scopes : ActorScopes)
    (expires : Instant) : Json :=
  .obj [("iss", .str s.issuer), ("aud", .str s.audience), ("sub", .str (strip call.principalId)),
    ("jti", .str (IssueCall.jti call)), ("principal_type", .str call.principalType.value),
    ("iat", .int (epochSeconds call.at_)), ("nbf", .int (epochSeconds call.at_)),
    ("exp", .int (epochSeconds expires)),
    ("scope", .obj [("continuity_uid", .ofOption scopes.continuityUid),
      ("merchant_ids", .arr (scopes.merchantIds.map .str)),
      ("branch_ids", .arr (scopes.branchIds.map .str)),
      ("partner_ids", .arr (scopes.partnerIds.map .str)),
      ("permissions", .arr (scopes.permissions.map .str))])]

/-- `_b64encode(_json(header)) + "." + _b64encode(_json(claims))`. -/
def signingInput (header claims : Json) : String :=
  rt.b64urlEncode (jsonBytes header) ++ "." ++ rt.b64urlEncode (jsonBytes claims)

/-- The record of the key of an `issue` call. -/
def issuingKey (keys : KeyProvider) (keyId : String) : Except Exn KeyRecord :=
  match keys.getKeyRecord keyId with
  | some record => .ok record
  | none => .error ⟨.keyError, "unknown access-token signing key: " ++ keyId⟩

/-- `issue`. -/
def issue (s : AccessTokenService) (keys : KeyProvider) (call : IssueCall) : Except Exn String := do
  require (strip call.principalId ≠ "") ⟨.valueError, "principal_id is required"⟩
  require (60 ≤ call.ttlSeconds ∧ call.ttlSeconds ≤ s.maxTtlSeconds)
    ⟨.valueError, "token TTL exceeds policy"⟩
  let record ← issuingKey keys call.keyId
  require (record.purpose = .accessTokenSigning)
    ⟨.permissionError, "key is not authorized for access-token signing"⟩
  require (record.permitsSigningAt call.at_ = true)
    ⟨.permissionError, "access-token signing key is not active"⟩
  let normalized ← call.scopes.normalized rt
  validatePrincipalScope call.principalType normalized
  let expires ← addDuration call.at_ (seconds call.ttlSeconds)
  require (expires ≤ record.notAfter)
    ⟨.valueError, "access token cannot outlive its signing key"⟩
  let message := signingInput rt (tokenHeader call.keyId) (tokenClaims s call normalized expires)
  let signature ← keys.sign rt call.keyId message.toUTF8
  return message ++ "." ++ rt.b64urlEncode signature

/-- `raise AccessTokenError(code)`. -/
def refused (code : String) : Exn := ⟨.accessToken, code⟩

/-- `try: x except …: raise AccessTokenError(code)`. -/
def orRefused {α : Type} (catches : Exn → Bool) (code : String) (x : Except Exn α) : Except Exn α :=
  match x with
  | .ok a => .ok a
  | .error exn => if catches exn then .error (refused code) else .error exn

/-- The parts of a token and what the first two of them decode to. -/
structure TokenParts where
  encodedHeader : String
  encodedClaims : String
  encodedSignature : String
  header : Json
  claims : Json

/-- The first `try` block of `verify`. -/
def split (token : String) : Except Exn TokenParts :=
  match token.toList.splitOn '.' with
  | [header, claims, signature] => do
    let encodedHeader := String.ofList header
    let encodedClaims := String.ofList claims
    let decodedHeader ← loads (← rt.b64urlDecode encodedHeader)
    let decodedClaims ← loads (← rt.b64urlDecode encodedClaims)
    return ⟨encodedHeader, encodedClaims, String.ofList signature, decodedHeader, decodedClaims⟩
  | _ => .error ⟨.valueError, "not three parts"⟩

/-- `_epoch_claim`. -/
def epochClaim (claims : Fields) (name : String) : Except Exn Instant := do
  match ← claims.item name with
  | .int value => fromTimestamp value
  | _ => .error ⟨.valueError, name ++ " must be an integer epoch timestamp"⟩

/-- What the claims say. -/
structure TokenClaims where
  issuedAt : Instant
  notBefore : Instant
  expiresAt : Instant
  principalId : String
  tokenId : String
  principalType : PrincipalType
  scopes : ActorScopes

/-- `raw_scope.get(list_name, ())`, which must be an array. -/
def scopeList (scope : Fields) (name : String) : Except Exn (List Json) :=
  match scope.get name with
  | none => .ok []
  | some (.arr items) => .ok items
  | _ => .error ⟨.valueError, name ++ " must be an array"⟩

/-- `claims["scope"]`, which must be an object. -/
def scopeObject : Json → Except Exn Fields
  | .obj scope => .ok scope
  | _ => .error ⟨.valueError, "scope must be an object"⟩

/-- `claims["sub"]` and `claims["jti"]`, which must be texts. -/
def subjectTexts : Json → Json → Except Exn (String × String)
  | .str principalId, .str tokenId => .ok (principalId, tokenId)
  | _, _ => .error ⟨.valueError, "sub and jti must be strings"⟩

/-- The last `try` block of `verify`. -/
def readClaims (claims : Fields) : Except Exn TokenClaims := do
  let issuedAt ← epochClaim claims "iat"
  let notBefore ← epochClaim claims "nbf"
  let expiresAt ← epochClaim claims "exp"
  let sub ← claims.item "sub"
  let jti ← claims.item "jti"
  let (principalId, tokenId) ← subjectTexts sub jti
  let principalType ← PrincipalType.ofValue (← claims.item "principal_type")
  let scope ← scopeObject (← claims.item "scope")
  let merchantIds ← scopeList scope "merchant_ids"
  let branchIds ← scopeList scope "branch_ids"
  let partnerIds ← scopeList scope "partner_ids"
  let permissions ← scopeList scope "permissions"
  let scopes ← normalizedScopes rt ((scope.get "continuity_uid").getD .null) merchantIds branchIds
    partnerIds permissions
  validatePrincipalScope principalType scopes
  return ⟨issuedAt, notBefore, expiresAt, principalId, tokenId, principalType, scopes⟩

/-- `except (KeyError, TypeError, ValueError, OverflowError)`. -/
def isClaimsError (exn : Exn) : Bool :=
  exn.kind == .keyError || exn.kind == .typeError || exn.isValueError || exn.kind == .overflowError

/-- The record of the key with the given `kid`. -/
def headerKey (keys : KeyProvider) : Option Json → Except Exn KeyRecord
  | some (.str keyId) => match keys.getKeyRecord keyId with
    | some record => .ok record
    | none => .error (refused "TOKEN_KEY_NOT_FOUND")
  | _ => .error (refused "TOKEN_KEY_NOT_FOUND")

/-- The record of the key that the header names, if it may sign tokens and is not revoked. -/
def tokenKey (keys : KeyProvider) (header : Fields) : Except Exn KeyRecord := do
  require ((∀ key ∈ header.map Prod.fst, key ∈ ["alg", "kid", "typ"]) ∧
      ∀ key ∈ ["alg", "kid", "typ"], key ∈ header.map Prod.fst)
    (refused "TOKEN_HEADER_INVALID")
  require (header.get "alg" = some (.str "EdDSA") ∧ header.get "typ" = some (.str "JWT"))
    (refused "TOKEN_ALGORITHM_REJECTED")
  let record ← headerKey keys (header.get "kid")
  require (record.purpose = .accessTokenSigning) (refused "TOKEN_KEY_PURPOSE_MISMATCH")
  require (record.status ≠ .revoked) (refused "TOKEN_KEY_REVOKED")
  return record

/-- The checks of the instants against the claims, the key and the policy. -/
def checkTimes (s : AccessTokenService) (record : KeyRecord) (claims : TokenClaims)
    (instant : Instant) : Except Exn Unit := do
  let skew ← timedelta s.clockSkewSeconds
  let earliest ← addDuration claims.issuedAt (-skew)
  require (earliest ≤ instant) (refused "TOKEN_NOT_YET_VALID")
  let earliest' ← addDuration claims.notBefore (-skew)
  require (earliest' ≤ instant) (refused "TOKEN_NOT_YET_VALID")
  let latest ← addDuration claims.expiresAt skew
  require (instant < latest) (refused "TOKEN_EXPIRED")
  require (claims.issuedAt < claims.expiresAt ∧
      claims.expiresAt - claims.issuedAt ≤ seconds s.maxTtlSeconds)
    (refused "TOKEN_LIFETIME_INVALID")
  require ((record.notBefore ≤ claims.issuedAt ∧ claims.issuedAt < record.notAfter) ∧
      claims.expiresAt ≤ record.notAfter)
    (refused "TOKEN_OUTSIDE_KEY_LIFETIME")

/-- Whether the signature of the token verifies; a text that is not base64 raises a value error. -/
def checkSignature (record : KeyRecord) (parts : TokenParts) : Except Exn Unit := do
  let signature ← orRefused Exn.isValueError "TOKEN_SIGNATURE_INVALID"
    (rt.b64urlDecode parts.encodedSignature)
  require (rt.ed25519Verify record.publicKey signature
      (parts.encodedHeader ++ "." ++ parts.encodedClaims).toUTF8 = true)
    (refused "TOKEN_SIGNATURE_INVALID")

/-- The header and the claims, which must be objects. -/
def objects (parts : TokenParts) : Except Exn (Fields × Fields) :=
  match parts.header, parts.claims with
  | .obj header, .obj claims => .ok (header, claims)
  | _, _ => .error (refused "TOKEN_MALFORMED")

/-- `verify`. -/
def verify (s : AccessTokenService) (keys : KeyProvider) (revocations : TokenRevocations)
    (token : String) (instant : Instant) : Except Exn AuthenticatedPrincipal := do
  require (strip token ≠ "") (refused "BEARER_TOKEN_REQUIRED")
  require (token.length ≤ 16384) (refused "TOKEN_TOO_LARGE")
  let parts ← orRefused (fun _ => true) "TOKEN_MALFORMED" (split rt loads token)
  let (header, claims) ← objects parts
  let record ← tokenKey keys header
  checkSignature rt record parts
  require (claims.get "iss" = some (.str s.issuer) ∧ claims.get "aud" = some (.str s.audience))
    (refused "TOKEN_ISSUER_OR_AUDIENCE_INVALID")
  let read ← orRefused isClaimsError "TOKEN_CLAIMS_INVALID" (readClaims rt claims)
  checkTimes s record read instant
  require (strip read.principalId ≠ "" ∧ strip read.tokenId ≠ "") (refused "TOKEN_CLAIMS_INVALID")
  require (revocations.isRevoked read.tokenId = false) (refused "TOKEN_REVOKED")
  return ⟨read.principalId, read.principalType, read.tokenId, s.issuer, s.audience, read.scopes,
    read.issuedAt, read.expiresAt⟩

/-- `revoke`. -/
def revoke (s : AccessTokenService) (keys : KeyProvider) (revocations : TokenRevocations)
    (token reason : String) (instant : Instant) : Except Exn TokenRevocations := do
  let principal ← verify rt loads s keys revocations token instant
  revocations.revoke rt principal.tokenId principal.expiresAt reason

end AccessTokenService

end RailOne
