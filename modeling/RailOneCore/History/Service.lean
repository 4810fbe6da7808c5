import RailOneCore.Contracts.Store
import RailOneCore.History.Store
import RailOneCore.Library.Base64

/-!
# Indexing UTTs and reading the history

The code of `UttTransactionIndexer` and of `TransactionHistoryService`.  The indexer links a UTT to the
subjects of its origin and to its two actors.  A read is decided by the scope of the principal, and the
decision is audited before anything is returned; a list of transactions is read in pages, with a cursor
that names the last transaction of a page.

Code that is not modelled enters as parameters: whether a continuity UID is known, and the fresh
identifier that `uuid4` makes for an audit.
-/

namespace RailOne

open Ordered

/-! ## The indexer -/

namespace UttTransactionIndexer

variable (rt : Runtime)

/-- The roles of each subject, in the order of their first mention. -/
abbrev SubjectRoles := Dict (SubjectKind × String) (List TransactionRole)

/-- `roles_by_subject.setdefault(subject, set()).add(role)`. -/
def addRole (roles : SubjectRoles) (subject : SubjectKind × String) (role : TransactionRole) :
    SubjectRoles :=
  let old := (roles.get? subject).getD []
  roles.set subject (if role ∈ old then old else old ++ [role])

/-- `add`. -/
def add (roles : SubjectRoles) (kind : SubjectKind) (subjectId : Json) (role : TransactionRole) :
    Except Exn SubjectRoles := do
  let normalized ← requireTextValue "subject_id" subjectId
  return addRole roles (kind, rt.upper normalized) role

/-- `_require_identity`; `known` says which continuity UIDs the identity repository has. -/
def requireIdentity (known : String → Bool) (continuityUid : Json) : Except Exn Unit := do
  let normalized ← requireTextValue "continuity_uid" continuityUid
  require (known (rt.upper normalized))
    ⟨.permissionError, "unknown continuity UID cannot be indexed: " ++ rt.upper normalized⟩

/-- The continuity UID of the origin. -/
def addOriginIdentity (known : String → Bool) (origin : Fields) (roles : SubjectRoles) :
    Except Exn SubjectRoles :=
  match origin.get "continuity_uid" with
  | none | some .null => .ok roles
  | some continuityUid => do
    requireIdentity rt known continuityUid
    let contextType ← origin.item "context_type"
    add rt roles .continuityUid continuityUid
      (if contextType = .str "P2P" then .payer else .authorizer)

/-- A subject that the origin may name. -/
def addOriginSubject (origin : Fields) (field : String) (kind : SubjectKind) (role : TransactionRole)
    (roles : SubjectRoles) : Except Exn SubjectRoles :=
  match origin.get field with
  | none | some .null => .ok roles
  | some subjectId => add rt roles kind subjectId role

/-- `_add_actor`. -/
def addActor (known : String → Bool) (actor : Fields) (role : TransactionRole)
    (roles : SubjectRoles) : Except Exn SubjectRoles := do
  let actorType := rt.upper (rt.str (← actor.item "actor_type"))
  let actorId := rt.upper (rt.str (← actor.item "actor_id"))
  if startsWith actorId "CUID-" then
    requireIdentity rt known (.str actorId)
    return addRole roles (.continuityUid, actorId) role
  else if actorType = "MERCHANT" then return addRole roles (.merchantId, actorId) role
  else if actorType = "BRANCH" then return addRole roles (.branchId, actorId) role
  else if actorType = "PARTNER" then return addRole roles (.partnerId, actorId) role
  else return roles

/-- The subjects of a UTT, with their roles. -/
def subjectRoles (known : String → Bool) (utt origin : Fields) : Except Exn SubjectRoles := do
  let roles ← addOriginIdentity rt known origin .empty
  let roles ← addOriginSubject rt origin "merchant_id" .merchantId .originMerchant roles
  let roles ← addOriginSubject rt origin "branch_id" .branchId .originBranch roles
  let roles ← addOriginSubject rt origin "partner_id" .partnerId .originPartner roles
  let roles ← addActor rt known (← utt.objItem "payer") .payer roles
  addActor rt known (← utt.objItem "beneficiary") .beneficiary roles

/-- The order of the links: by the kind and the identifier of the subject. -/
def subjectBefore (a b : (SubjectKind × String) × List TransactionRole) : Prop :=
  (toLex (a.1.1.value, a.1.2) : String ×ₗ String) ≤ toLex (b.1.1.value, b.1.2)

instance : DecidableRel subjectBefore := fun a b =>
  inferInstanceAs (Decidable ((toLex (a.1.1.value, a.1.2) : String ×ₗ String) ≤
    toLex (b.1.1.value, b.1.2)))

/-- The links of a UTT. -/
def links (uttId : String) (indexedAt : Instant) (roles : SubjectRoles) :
    List TransactionSubjectLink :=
  (roles.entries.insertionSort subjectBefore).map fun entry =>
    { uttId
      subjectKind := entry.1.1
      subjectId := entry.1.2
      roles := entry.2.insertionSort fun a b => a.value ≤ b.value
      linkedAt := indexedAt }

/-- `utc_datetime_from_epoch`. -/
def utcDatetimeFromEpoch : Json → Except Exn Instant
  | .int value => fromTimestamp value
  | _ => .error ⟨.typeError, "epoch timestamp must be an integer"⟩

/-- The projection of a signed UTT. -/
def projection (uttId : String) (signedUtt : SignatureEnvelope) (origin : Fields)
    (indexedAt : Instant) : Except Exn UttTransactionProjection := do
  let utt := signedUtt.payload
  return {
    uttId
    uttPayloadSha256 := ← signedUtt.header.item "payload_sha256"
    quoteId := ← utt.item "quote_id"
    purpose := ← utt.item "purpose"
    contextType := ← origin.item "context_type"
    amountMinor := ← utt.item "amount_minor"
    currencyFrom := ← utt.item "currency_from"
    receiveAmountMinor := ← utt.item "receive_amount_minor"
    currencyTo := ← utt.item "currency_to"
    commercialState := ← utt.item "commercial_state"
    acceptedAt := ← utcDatetimeFromEpoch (← utt.item "accepted_at")
    indexedAt }

/-- `index`. -/
def index (keys : KeyProvider) (contracts : ContractStore) (known : String → Bool) (uttId : String)
    (at_ : Datetime) (st : TransactionHistoryStore) :
    Except Exn (UttTransactionProjection × TransactionHistoryStore) := do
  let indexedAt ← requireAware "transaction-history timestamp" at_
  let signedUtt ← contracts.requireUtt (← requireText "utt_id" uttId)
  let verification ← SignatureService.verifyArtifact rt keys signedUtt (some .utt) false
  require verification.valid ⟨.permissionError, "UTT rejected: " ++ verification.reason⟩
  let origin ← signedUtt.payload.objItem "origin"
  let p ← projection uttId signedUtt origin indexedAt
  let roles ← subjectRoles rt known signedUtt.payload origin
  st.commit p (links uttId indexedAt roles)

end UttTransactionIndexer

/-! ## Reading -/

/-- Who reads, and what its scope is. -/
structure TransactionReadContext where
  principalId : String
  continuityUid : Option String
  merchantIds : List String
  branchIds : List String
  partnerIds : List String
  permissions : List String
  accessReason : Option String
  deriving DecidableEq, Repr

structure TransactionHistoryEntry where
  transaction : UttTransactionProjection
  matchedRoles : List TransactionRole
  deriving DecidableEq, Repr

structure TransactionHistoryPage where
  entries : List TransactionHistoryEntry
  nextCursor : Option String
  deriving DecidableEq, Repr

namespace TransactionHistoryService

variable (rt : Runtime)

/-- `_privileged`. -/
def privileged (access : TransactionReadContext) : Bool :=
  access.permissions.contains "railone.transactions.read:any"

/-- The reason that a principal gives, unless it is blank. -/
def reasonOf (access : TransactionReadContext) : Option String :=
  access.accessReason.bind fun reason => if strip reason = "" then none else some (strip reason)

/-- `_can_access`. -/
def canAccess (subject : SubjectKind × String) (access : TransactionReadContext) : Bool :=
  if privileged access then true
  else
    let normalized := rt.upper subject.2
    match subject.1 with
    | .continuityUid => rt.upper (access.continuityUid.getD "") == normalized
    | .merchantId => (access.merchantIds.map rt.upper).contains normalized
    | .branchId => (access.branchIds.map rt.upper).contains normalized
    | .partnerId => (access.partnerIds.map rt.upper).contains normalized

/-- `_audit`; `auditId` is the identifier that `uuid4` makes. -/
def audit (access : TransactionReadContext) (targetKind targetId : String) (allowed : Bool)
    (at_ : Instant) (fallbackReason auditId : String) (st : TransactionHistoryStore) :
    Except Exn TransactionHistoryStore := do
  let principal ← requireText "principal_id" access.principalId
  st.appendAudit
    { auditId
      principalId := principal
      targetKind, targetId
      outcome := if allowed then .allowed else .denied
      accessReason := (reasonOf access).getD fallbackReason
      occurredAt := at_ }

/-- Audit the decision, and raise unless access is allowed. -/
def auditDecision (access : TransactionReadContext) (targetKind targetId : String) (allowed : Bool)
    (at_ : Instant) (fallbackReason refusal auditId : String) (st : TransactionHistoryStore) :
    Except Exn Unit × TransactionHistoryStore :=
  match audit access targetKind targetId allowed at_ fallbackReason auditId st with
  | .error e => (.error e, st)
  | .ok st' => (if allowed then .ok () else .error ⟨.transactionAccessDenied, refusal⟩, st')

/-- `_require_privileged_reason`, and then the decision for a target. -/
def authorize (access : TransactionReadContext) (targetKind targetId : String) (allowed : Bool)
    (at_ : Instant) (refusal auditId : String) (st : TransactionHistoryStore) :
    Except Exn Unit × TransactionHistoryStore :=
  if privileged access ∧ reasonOf access = none then
    auditDecision access "PRIVILEGED_QUERY" targetId false at_ "PRIVILEGED_REASON_REQUIRED"
      "privileged transaction access requires an access reason" auditId st
  else
    auditDecision access targetKind targetId allowed at_ "SUBJECT_SCOPED_ACCESS" refusal auditId st

/-- Go on with a computation that writes nothing, once access has been allowed. -/
def guarded {α : Type} (decision : Except Exn Unit × TransactionHistoryStore)
    (result : TransactionHistoryStore → Except Exn α) : Except Exn α × TransactionHistoryStore :=
  (decision.1 >>= fun _ => result decision.2, decision.2)

/-- The roles of the links that the principal may read. -/
def matchedRoles (links : List TransactionSubjectLink) (access : TransactionReadContext) :
    List TransactionRole :=
  (links.filter fun link => canAccess rt link.subject access).flatMap TransactionSubjectLink.roles

/-- `get_by_utt`. -/
def getByUtt (uttId : String) (access : TransactionReadContext) (at_ : Datetime) (auditId : String)
    (st : TransactionHistoryStore) : Except Exn TransactionHistoryEntry × TransactionHistoryStore :=
  let found : Except Exn (Instant × String × UttTransactionProjection ×
      List TransactionSubjectLink) := do
    let instant ← requireAware "transaction-history timestamp" at_
    let normalizedUtt ← requireText "utt_id" uttId
    let projection ← st.requireProjection normalizedUtt
    return (instant, normalizedUtt, projection, ← st.linksForUtt normalizedUtt)
  match found with
  | .error e => (.error e, st)
  | .ok (instant, normalizedUtt, projection, links) =>
    let matched := matchedRoles rt links access
    let allowed := ! matched.isEmpty || privileged access
    guarded (authorize access "UTT" normalizedUtt allowed instant "principal cannot read this UTT"
      auditId st) fun _ => .ok
      { transaction := projection
        matchedRoles := matched.dedup.insertionSort fun a b => a.value ≤ b.value }

/-! ## Cursors -/

/-- The text inside a cursor. -/
def cursorText (p : UttTransactionProjection) : String :=
  (epochSeconds p.acceptedAt).repr ++ "|" ++ p.uttId

/-- `_encode_cursor`. -/
def encodeCursor (p : UttTransactionProjection) : String :=
  String.ofList (Base64.encode (utf8Bytes (cursorText p).toList).data.toList)

/-- Everything that goes wrong with a cursor is one error. -/
def invalidCursor : Exn := ⟨.valueError, "invalid transaction-history cursor"⟩

/-- The text that a cursor stands for. -/
def decodeText (cursor : String) : Option (List Char) := do
  let bytes ← Base64.decode (cursor.toList ++ Base64.padding cursor.length)
  let text ← (ByteArray.mk ⟨bytes⟩).utf8Decode?
  return text.toList

/-- `_decode_cursor`. -/
def decodeCursor (cursor : String) : Except Exn (Int ×ₗ String) :=
  match decodeText cursor with
  | none => .error invalidCursor
  | some text =>
    match text.dropWhile (· ≠ '|') with
    | [] => .error invalidCursor
    | _ :: rest =>
      if ¬ startsWith (String.ofList rest) "UTT-" then .error invalidCursor
      else match rt.parseInt (String.ofList (text.takeWhile (· ≠ '|'))) with
        | .error _ => .error invalidCursor
        | .ok epoch => .ok (toLex (epoch, String.ofList rest))

/-! ## Lists -/

/-- What the cursor is compared with. -/
def cursorKey (row : HistoryRow) : Int ×ₗ String :=
  toLex (epochSeconds row.1.acceptedAt, row.1.uttId)

/-- The page of some rows below a cursor. -/
def pageOf (limit : ℕ) (rows : List HistoryRow) : TransactionHistoryPage :=
  let visible := rows.take (limit + 1)
  let shown := visible.take limit
  { entries := shown.map fun row => ⟨row.1, row.2.roles⟩
    nextCursor :=
      if limit < visible.length then shown.getLast?.map fun row => encodeCursor row.1 else none }

/-- The rest of `list_by_subject`, once access has been allowed. -/
def readPage (subject : SubjectKind × String) (limit : ℕ) (cursor : Option String)
    (st : TransactionHistoryStore) : Except Exn TransactionHistoryPage := do
  let rows ← st.listForSubject subject
  match cursor with
  | none => return pageOf limit rows
  | some cursor =>
    let key ← decodeCursor rt cursor
    return pageOf limit (rows.filter fun row => cursorKey row < key)

/-- `list_by_subject`. -/
def listBySubject (kind : SubjectKind) (subjectId : String) (access : TransactionReadContext)
    (limit : Int) (cursor : Option String) (at_ : Datetime) (auditId : String)
    (st : TransactionHistoryStore) : Except Exn TransactionHistoryPage × TransactionHistoryStore :=
  let checked : Except Exn (Instant × String) := do
    let instant ← requireAware "transaction-history timestamp" at_
    let normalized ← requireText "subject_id" subjectId
    require (1 ≤ limit ∧ limit ≤ 100) ⟨.valueError, "limit must be between 1 and 100"⟩
    return (instant, rt.upper normalized)
  match checked with
  | .error e => (.error e, st)
  | .ok (instant, normalized) =>
    guarded (authorize access kind.value normalized (canAccess rt (kind, normalized) access) instant
      "principal cannot read this subject transaction history" auditId st)
      (readPage rt (kind, normalized) limit.toNat cursor)

end TransactionHistoryService

end RailOne
