import RailOneCore.Foundation.SampleRuntime
import RailOneCore.History.Service

/-!
# How histories are built

The steps of a history store: the indexer adds a UTT, or the service audits a read.  The maps of the
store fit together after every run, and what has been written stays.
-/

namespace RailOne

open Ordered TransactionHistoryStore

/-! ## The indexer -/

namespace UttTransactionIndexer

variable {rt : Runtime}

/-- What is known about an indexed UTT: `I` holds of its identifier, it was accepted at a whole second,
and it is linked to no empty continuity UID. -/
structure Indexed (I : String → Prop) (p : UttTransactionProjection)
    (links : List TransactionSubjectLink) : Prop where
  identifier : I p.uttId
  acceptedAt : ∃ n, fromTimestamp n = .ok p.acceptedAt
  identities : ∀ link ∈ links, link.subjectKind = .continuityUid → link.subjectId ≠ ""

/-- No continuity UID is empty. -/
def Named (roles : SubjectRoles) : Prop :=
  ∀ entry ∈ roles.entries, entry.1.1 = .continuityUid → entry.1.2 ≠ ""

theorem Named.addRole {roles : SubjectRoles} (h : Named roles) {subject : SubjectKind × String}
    (hsubject : subject.1 = .continuityUid → subject.2 ≠ "") (role : TransactionRole) :
    Named (addRole roles subject role) := by
  intro entry hentry
  have hget := Dict.get?_of_mem (k := entry.1) (v := entry.2) hentry
  unfold UttTransactionIndexer.addRole at hget
  rw [Dict.get?_set] at hget
  by_cases heq : entry.1 = subject
  · rw [heq]
    exact hsubject
  · rw [if_neg heq] at hget
    obtain ⟨l₁, l₂, hentries⟩ := Dict.entries_of_get? hget
    exact h entry (hentries ▸ List.mem_append_right _ List.mem_cons_self)

theorem Named.add {roles roles' : SubjectRoles} (h : Named roles) {kind : SubjectKind}
    {subjectId : Json} {role : TransactionRole} (hadd : add rt roles kind subjectId role = .ok roles') :
    Named roles' := by
  unfold UttTransactionIndexer.add at hadd
  obtain ⟨normalized, htext, hadd⟩ := bind_eq_ok.mp hadd
  obtain ⟨_, -, htrim, hne⟩ := requireTextValue_eq_ok.mp htext
  rw [← pure_eq_ok.mp hadd]
  exact h.addRole (fun _ => rt.upper_ne_empty (htrim ▸ hne)) role

theorem Named.addOriginIdentity {roles roles' : SubjectRoles} (h : Named roles)
    {known : String → Bool} {origin : Fields}
    (hadd : addOriginIdentity rt known origin roles = .ok roles') : Named roles' := by
  unfold UttTransactionIndexer.addOriginIdentity at hadd
  split at hadd
  · cases hadd
    exact h
  · cases hadd
    exact h
  · simp only [bind_eq_ok] at hadd
    obtain ⟨-, -, _, -, hadd⟩ := hadd
    exact h.add hadd

theorem Named.addOriginSubject {roles roles' : SubjectRoles} (h : Named roles) {origin : Fields}
    {field : String} {kind : SubjectKind} {role : TransactionRole}
    (hadd : addOriginSubject rt origin field kind role roles = .ok roles') : Named roles' := by
  unfold UttTransactionIndexer.addOriginSubject at hadd
  split at hadd
  · cases hadd
    exact h
  · cases hadd
    exact h
  · exact h.add hadd

theorem Named.addActor {roles roles' : SubjectRoles} (h : Named roles) {known : String → Bool}
    {actor : Fields} {role : TransactionRole} (hadd : addActor rt known actor role roles = .ok roles') :
    Named roles' := by
  simp only [UttTransactionIndexer.addActor, bind_eq_ok] at hadd
  obtain ⟨_, -, id, -, hadd⟩ := hadd
  split_ifs at hadd with hcuid hmerchant hbranch hpartner
  · simp only [bind_eq_ok, pure_eq_ok] at hadd
    obtain ⟨-, -, rfl⟩ := hadd
    refine h.addRole (fun _ hempty => ?_) role
    rw [show rt.upper (rt.str id) = "" from hempty] at hcuid
    cases hcuid
  · cases hadd
    exact h.addRole (fun hkind => by cases hkind) role
  · cases hadd
    exact h.addRole (fun hkind => by cases hkind) role
  · cases hadd
    exact h.addRole (fun hkind => by cases hkind) role
  · cases hadd
    exact h

theorem named_subjectRoles {known : String → Bool} {utt origin : Fields} {roles : SubjectRoles}
    (h : subjectRoles rt known utt origin = .ok roles) : Named roles := by
  simp only [subjectRoles, bind_eq_ok] at h
  obtain ⟨r₁, h₁, r₂, h₂, r₃, h₃, r₄, h₄, payer, -, r₅, h₅, beneficiary, -, h₆⟩ := h
  have hempty : Named .empty := nofun
  exact (((((hempty.addOriginIdentity h₁).addOriginSubject h₂).addOriginSubject h₃).addOriginSubject
    h₄).addActor h₅).addActor h₆

/-- What a call of `index` writes. -/
theorem index_eq_ok {I : String → Prop} {keys : KeyProvider} {contracts : ContractStore}
    {known : String → Bool} {uttId : String} {at_ : Datetime} {st st' : TransactionHistoryStore}
    {q : UttTransactionProjection} (hid : I uttId)
    (h : index rt keys contracts known uttId at_ st = .ok (q, st')) :
    ∃ p links, Indexed I p links ∧ st.commit p links = .ok (q, st') := by
  simp only [index, bind_eq_ok, require_eq_ok] at h
  obtain ⟨indexedAt, -, _, -, signedUtt, -, verification, -, -, -, origin, -, p, hp, roles, hroles,
    hcommit⟩ := h
  refine ⟨p, _, ⟨?_, ?_, ?_⟩, hcommit⟩
  · simp only [projection, bind_eq_ok, pure_eq_ok] at hp
    obtain ⟨_, -, _, -, _, -, _, -, _, -, _, -, _, -, _, -, _, -, _, -, _, -, rfl⟩ := hp
    exact hid
  · simp only [projection, bind_eq_ok, pure_eq_ok] at hp
    obtain ⟨_, -, _, -, _, -, _, -, _, -, _, -, _, -, _, -, _, -, accepted, -, _, hepoch, rfl⟩ := hp
    cases accepted with
    | int n => exact ⟨n, hepoch⟩
    | _ => cases hepoch
  · intro link hlink
    obtain ⟨entry, hentry, rfl⟩ := List.mem_map.mp hlink
    exact named_subjectRoles hroles entry ((List.mem_insertionSort _).mp hentry)

end UttTransactionIndexer

/-! ## Runs -/

open UttTransactionIndexer

/-- A step of a history: a UTT is indexed, or the decision about a read is audited.  `I` is what is
known about the identifiers of UTTs. -/
inductive HistoryStep (rt : Runtime) (I : String → Prop) (st st' : TransactionHistoryStore) : Prop
  | index {keys : KeyProvider} {contracts : ContractStore} {known : String → Bool} {uttId : String}
      {at_ : Datetime} {q : UttTransactionProjection} (hid : I uttId)
      (h : index rt keys contracts known uttId at_ st = .ok (q, st'))
  | audit {audit : TransactionAccessAudit} (h : st.appendAudit audit = .ok st')

/-- Any number of steps. -/
abbrev HistoryRun (rt : Runtime) (I : String → Prop) :
    TransactionHistoryStore → TransactionHistoryStore → Prop :=
  Relation.ReflTransGen (HistoryStep rt I)

/-- The identifiers that UTTs are issued with. -/
def IssuedUtt (rt : Runtime) (uttId : String) : Prop :=
  ∃ payload, rt.contentId "UTT" payload = .ok uttId

section Runs

variable {rt : Runtime} {I : String → Prop} {st st' : TransactionHistoryStore}

theorem HistoryStep.keeps (h : HistoryStep rt I st st') (hst : st.Consistent (Indexed I)) :
    st'.Consistent (Indexed I) ∧ st.Grows st' := by
  rcases h with ⟨hid, h⟩ | h
  · obtain ⟨p, links, hindexed, hcommit⟩ := index_eq_ok hid h
    exact hst.commit hindexed hcommit
  · exact hst.appendAudit h

/-- A run keeps the maps of the store together, and everything that has been written. -/
theorem HistoryRun.keeps (h : HistoryRun rt I st st') (hst : st.Consistent (Indexed I)) :
    st'.Consistent (Indexed I) ∧ st.Grows st' := by
  induction h with
  | refl => exact ⟨hst, .refl st⟩
  | tail _ hstep ih =>
    obtain ⟨hcons, hgrows⟩ := ih
    obtain ⟨hcons', hgrows'⟩ := hstep.keeps hcons
    exact ⟨hcons', hgrows.trans hgrows'⟩

theorem HistoryRun.consistent (h : HistoryRun rt I .empty st) : st.Consistent (Indexed I) :=
  (h.keeps .empty).1

end Runs

/-! ## A sample history -/

namespace Sample

/-- A key for UTTs. -/
def uttKeyRecord : KeyRecord where
  keyId := "EXEC"
  ownerId := "RAILONE"
  purpose := .executionSigning
  publicKey := ByteArray.empty
  status := .active
  notBefore := 0
  notAfter := seconds 5000000000
  window := by decide

def uttKeys : KeyProvider where
  records := Dict.empty.set "EXEC" uttKeyRecord
  privateKeys := Dict.empty.set "EXEC" ByteArray.empty

/-- An actor of a payment. -/
def actor (actorType actorId : String) : Json :=
  .obj [("actor_type", .str actorType), ("actor_id", .str actorId)]

/-- A payment to a merchant. -/
def paymentTo (merchantId : String) : Fields :=
  [("quote_id", .str "Q-1"), ("purpose", .str "GOODS"), ("amount_minor", .int 500),
    ("currency_from", .str "KES"), ("receive_amount_minor", .int 500), ("currency_to", .str "KES"),
    ("commercial_state", .str "ACCEPTED"), ("accepted_at", .int 1000),
    ("origin", .obj [("context_type", .str "MERCHANT"), ("merchant_id", .str merchantId)]),
    ("payer", actor "PERSON" "ALICE"), ("beneficiary", actor "MERCHANT" merchantId)]

/-- The identifier of the UTT. -/
def paymentId (merchantId : String) : String :=
  (wideRuntime.contentId "UTT" (.obj (paymentTo merchantId))).toOption.getD ""

/-- Index the signed UTT of the payment. -/
def indexPayment (merchantId : String) (st : TransactionHistoryStore) :
    Except Exn (UttTransactionProjection × TransactionHistoryStore) :=
  let utt := (SignatureService.signArtifact wideRuntime uttKeys .utt (paymentTo merchantId) "EXEC"
    (seconds 1000)).toOption.getD default
  let contracts := { ContractStore.empty with utts := Dict.empty.set (paymentId merchantId) utt }
  index wideRuntime uttKeys contracts (fun _ => false) (paymentId merchantId) (.aware (seconds 2000)) st

/-- The history after the payment. -/
def afterPayment (merchantId : String) (st : TransactionHistoryStore) : TransactionHistoryStore :=
  match indexPayment merchantId st with
  | .ok (_, st') => st'
  | .error _ => st

/-- A payment to the shop. -/
def shopHistory : TransactionHistoryStore := afterPayment "SHOP" .empty

/-- Another payment, to the stall next to the shop. -/
def marketHistory : TransactionHistoryStore := afterPayment "STALL" shopHistory

/-- The service of the shop. -/
def shopKeeper : TransactionReadContext where
  principalId := "SVC-1"
  continuityUid := none
  merchantIds := ["SHOP"]
  branchIds := []
  partnerIds := []
  permissions := []
  accessReason := none

theorem run_afterPayment {I : String → Prop} {merchantId : String} {st : TransactionHistoryStore}
    (hid : I (paymentId merchantId)) (hok : (indexPayment merchantId st).isOk = true) :
    HistoryRun wideRuntime I st (afterPayment merchantId st) := by
  obtain ⟨⟨q, st'⟩, hindexed⟩ := exists_of_isOk hok
  have hst : afterPayment merchantId st = st' := by
    unfold afterPayment
    rw [hindexed]
  exact hst ▸ .single (.index hid hindexed)

theorem run_shopHistory {I : String → Prop} (hid : I (paymentId "SHOP")) :
    HistoryRun wideRuntime I .empty shopHistory :=
  run_afterPayment hid (by decide +kernel)

theorem run_marketHistory {I : String → Prop} (hid : I (paymentId "SHOP"))
    (hid' : I (paymentId "STALL")) : HistoryRun wideRuntime I .empty marketHistory :=
  (run_shopHistory hid).trans (run_afterPayment hid' (by decide +kernel))

end Sample

end RailOne
