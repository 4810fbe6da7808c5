import RailOneCore.Crypto.SignatureService

/-!
# The transaction-history store

`InMemoryTransactionHistoryStore` keeps one projection for each indexed UTT, the links of the UTT to
its subjects, an index of the UTTs of each subject, and the audits of reads.  Projections and links
are written once and never changed.

The fields of a projection that the indexer copies out of the signed UTT without looking at them keep
the type `Json` of the payload.
-/

namespace RailOne

open Ordered

/-! ## Records -/

inductive SubjectKind
  | continuityUid | merchantId | branchId | partnerId
  deriving DecidableEq, Repr

def SubjectKind.value : SubjectKind → String
  | .continuityUid => "CONTINUITY_UID"
  | .merchantId => "MERCHANT_ID"
  | .branchId => "BRANCH_ID"
  | .partnerId => "PARTNER_ID"

inductive TransactionRole
  | payer | beneficiary | authorizer | originMerchant | originBranch | originPartner
  deriving DecidableEq, Repr

def TransactionRole.value : TransactionRole → String
  | .payer => "PAYER"
  | .beneficiary => "BENEFICIARY"
  | .authorizer => "AUTHORIZER"
  | .originMerchant => "ORIGIN_MERCHANT"
  | .originBranch => "ORIGIN_BRANCH"
  | .originPartner => "ORIGIN_PARTNER"

inductive AccessOutcome
  | allowed | denied
  deriving DecidableEq, Repr

/-- What the history says about a UTT. -/
structure UttTransactionProjection where
  uttId : String
  uttPayloadSha256 : Json
  quoteId : Json
  purpose : Json
  contextType : Json
  amountMinor : Json
  currencyFrom : Json
  receiveAmountMinor : Json
  currencyTo : Json
  commercialState : Json
  acceptedAt : Instant
  indexedAt : Instant
  deriving DecidableEq, Repr

/-- The key that rows are sorted by. -/
def UttTransactionProjection.key (p : UttTransactionProjection) : Int ×ₗ String :=
  toLex (p.acceptedAt, p.uttId)

structure TransactionSubjectLink where
  uttId : String
  subjectKind : SubjectKind
  subjectId : String
  roles : List TransactionRole
  linkedAt : Instant
  deriving DecidableEq, Repr

/-- The subject of a link. -/
def TransactionSubjectLink.subject (link : TransactionSubjectLink) : SubjectKind × String :=
  (link.subjectKind, link.subjectId)

structure TransactionAccessAudit where
  auditId : String
  principalId : String
  targetKind : String
  targetId : String
  outcome : AccessOutcome
  accessReason : String
  occurredAt : Instant
  deriving DecidableEq, Repr

/-- A row of the history of a subject. -/
abbrev HistoryRow := UttTransactionProjection × TransactionSubjectLink

/-- `InMemoryTransactionHistoryStore`.  A set of UTTs is a list without repetitions, in the order of
the insertions. -/
structure TransactionHistoryStore where
  projections : Dict String UttTransactionProjection
  linksByUtt : Dict String (List TransactionSubjectLink)
  uttsBySubject : Dict (SubjectKind × String) (List String)
  audits : List TransactionAccessAudit

namespace TransactionHistoryStore

/-- The store without transactions. -/
def empty : TransactionHistoryStore := ⟨.empty, .empty, .empty, []⟩

/-! ## Operations -/

/-- The UTTs of a subject. -/
def uttsOf (st : TransactionHistoryStore) (subject : SubjectKind × String) : List String :=
  (st.uttsBySubject.get? subject).getD []

/-- `set.add` on the UTTs of a subject. -/
def addUtt (uttId : String) (index : Dict (SubjectKind × String) (List String))
    (subject : SubjectKind × String) : Dict (SubjectKind × String) (List String) :=
  let utts := (index.get? subject).getD []
  index.set subject (if uttId ∈ utts then utts else utts ++ [uttId])

/-- `commit`. -/
def commit (st : TransactionHistoryStore) (projection : UttTransactionProjection)
    (links : List TransactionSubjectLink) :
    Except Exn (UttTransactionProjection × TransactionHistoryStore) :=
  match st.projections.get? projection.uttId with
  | some existing =>
    if existing.uttPayloadSha256 ≠ projection.uttPayloadSha256 then
      .error ⟨.runtimeError, "UTT transaction projection conflict"⟩
    else .ok (existing, st)
  | none =>
    if links = [] then
      .error ⟨.valueError, "UTT transaction projection requires at least one subject"⟩
    else if links.any fun link => link.uttId != projection.uttId then
      .error ⟨.valueError, "transaction link UTT does not match projection"⟩
    else if ¬ (links.map TransactionSubjectLink.subject).Nodup then
      .error ⟨.valueError, "transaction subject links must be aggregated"⟩
    else .ok (projection,
      { st with
        projections := st.projections.set projection.uttId projection
        linksByUtt := st.linksByUtt.set projection.uttId links
        uttsBySubject := (links.map TransactionSubjectLink.subject).foldl (addUtt projection.uttId)
          st.uttsBySubject })

/-- `require_projection`. -/
def requireProjection (st : TransactionHistoryStore) (uttId : String) :
    Except Exn UttTransactionProjection :=
  match st.projections.get? uttId with
  | some projection => .ok projection
  | none =>
    .error ⟨.transactionProjectionNotFound, "transaction projection not found: " ++ uttId⟩

/-- `self._projections[utt_id]`. -/
def projectionItem (st : TransactionHistoryStore) (uttId : String) :
    Except Exn UttTransactionProjection :=
  match st.projections.get? uttId with
  | some projection => .ok projection
  | none => .error ⟨.keyError, uttId⟩

/-- `self._links_by_utt[utt_id]`. -/
def linksItem (st : TransactionHistoryStore) (uttId : String) :
    Except Exn (List TransactionSubjectLink) :=
  match st.linksByUtt.get? uttId with
  | some links => .ok links
  | none => .error ⟨.keyError, uttId⟩

/-- `links_for_utt`. -/
def linksForUtt (st : TransactionHistoryStore) (uttId : String) :
    Except Exn (List TransactionSubjectLink) := do
  let _ ← st.requireProjection uttId
  st.linksItem uttId

/-- The row of a UTT in the history of a subject. -/
def rowOf (st : TransactionHistoryStore) (subject : SubjectKind × String) (uttId : String) :
    Except Exn HistoryRow := do
  let projection ← st.projectionItem uttId
  let links ← st.linksItem uttId
  match links.find? fun link => link.subject == subject with
  | some link => return (projection, link)
  | none => .error ⟨.external, "StopIteration"⟩

/-- The order of `rows.sort(key=..., reverse=True)`. -/
def sortsBefore (a b : HistoryRow) : Prop := b.1.key ≤ a.1.key

instance : DecidableRel sortsBefore := fun a b => inferInstanceAs (Decidable (b.1.key ≤ a.1.key))

instance : Std.Total sortsBefore := ⟨fun a b => le_total b.1.key a.1.key⟩

instance : IsTrans HistoryRow sortsBefore := ⟨fun _ _ _ hab hbc => le_trans hbc hab⟩

/-- `list_for_subject`. -/
def listForSubject (st : TransactionHistoryStore) (subject : SubjectKind × String) :
    Except Exn (List HistoryRow) := do
  let rows ← (st.uttsOf subject).mapM (st.rowOf subject)
  return rows.insertionSort sortsBefore

/-- `append_audit`. -/
def appendAudit (st : TransactionHistoryStore) (audit : TransactionAccessAudit) :
    Except Exn TransactionHistoryStore :=
  if st.audits.any fun existing => existing.auditId == audit.auditId then
    .error ⟨.runtimeError, "transaction access audit identifier collision"⟩
  else .ok { st with audits := st.audits ++ [audit] }

theorem projectionItem_eq_ok {st : TransactionHistoryStore} {uttId : String}
    {p : UttTransactionProjection} :
    st.projectionItem uttId = .ok p ↔ st.projections.get? uttId = some p := by
  unfold projectionItem
  split <;> simp_all

theorem linksItem_eq_ok {st : TransactionHistoryStore} {uttId : String}
    {links : List TransactionSubjectLink} :
    st.linksItem uttId = .ok links ↔ st.linksByUtt.get? uttId = some links := by
  unfold linksItem
  split <;> simp_all

/-! ## The invariant -/

/-- A UTT is in the history of a subject: its projection, and the roles that link it. -/
def Linked (st : TransactionHistoryStore) (subject : SubjectKind × String)
    (projection : UttTransactionProjection) (link : TransactionSubjectLink) : Prop :=
  st.projections.get? projection.uttId = some projection ∧
    ∃ links, st.linksByUtt.get? projection.uttId = some links ∧ link ∈ links ∧
      link.subject = subject

/-- The maps of the store fit together.  `A` is a property of the UTTs that have been indexed. -/
structure Consistent (A : UttTransactionProjection → List TransactionSubjectLink → Prop)
    (st : TransactionHistoryStore) : Prop where
  key : ∀ {uttId p}, st.projections.get? uttId = some p → p.uttId = uttId
  links : ∀ {uttId p}, st.projections.get? uttId = some p →
    ∃ links, st.linksByUtt.get? uttId = some links ∧ A p links ∧
      (links.map TransactionSubjectLink.subject).Nodup
  projection : ∀ {uttId links}, st.linksByUtt.get? uttId = some links →
    ∃ p, st.projections.get? uttId = some p
  indexed : ∀ subject uttId, uttId ∈ st.uttsOf subject ↔
    ∃ links, st.linksByUtt.get? uttId = some links ∧
      subject ∈ links.map TransactionSubjectLink.subject
  nodup : ∀ subject, (st.uttsOf subject).Nodup

variable {A : UttTransactionProjection → List TransactionSubjectLink → Prop}
  {st st' : TransactionHistoryStore}

theorem Consistent.empty : Consistent A TransactionHistoryStore.empty where
  key h := by cases h
  links h := by cases h
  projection h := by cases h
  indexed _ _ := ⟨nofun, fun ⟨_, h, _⟩ => by cases h⟩
  nodup _ := List.nodup_nil

/-- The UTTs of a subject after one more UTT has been added to the index of some subjects. -/
theorem get?_foldl_addUtt (uttId : String) (subjects : List (SubjectKind × String))
    (index : Dict (SubjectKind × String) (List String)) (subject : SubjectKind × String) :
    ((subjects.foldl (addUtt uttId) index).get? subject).getD [] =
      if subject ∈ subjects ∧ uttId ∉ (index.get? subject).getD [] then
        (index.get? subject).getD [] ++ [uttId]
      else (index.get? subject).getD [] := by
  induction subjects generalizing index with
  | nil => simp
  | cons head tail ih =>
    rw [List.foldl_cons, ih]
    have hadd : ((addUtt uttId index head).get? subject).getD [] =
        if subject = head ∧ uttId ∉ (index.get? subject).getD [] then
          (index.get? subject).getD [] ++ [uttId]
        else (index.get? subject).getD [] := by
      unfold addUtt
      rw [Dict.get?_set]
      by_cases heq : subject = head
      · subst heq
        by_cases hmem : uttId ∈ (index.get? subject).getD [] <;> simp [hmem]
      · simp [heq]
    rw [hadd]
    by_cases heq : subject = head <;> by_cases hmem : uttId ∈ (index.get? subject).getD [] <;>
      simp [heq, hmem]
    all_goals simp_all

/-- A commit finds the UTT, or writes it with its links. -/
theorem commit_eq_ok {p q : UttTransactionProjection} {links : List TransactionSubjectLink}
    (h : st.commit p links = .ok (q, st')) :
    st' = st ∨ (st.projections.get? p.uttId = none ∧
      (links.map TransactionSubjectLink.subject).Nodup ∧
      st' = { st with
        projections := st.projections.set p.uttId p
        linksByUtt := st.linksByUtt.set p.uttId links
        uttsBySubject := (links.map TransactionSubjectLink.subject).foldl (addUtt p.uttId)
          st.uttsBySubject }) := by
  unfold commit at h
  split at h
  · split_ifs at h
    cases h
    exact .inl rfl
  · next hnone =>
    split_ifs at h with hempty hutt hnodup
    cases h
    exact .inr ⟨hnone, hnodup, rfl⟩

/-- What remains true of a store while UTTs are indexed and audits are written: projections and links
stay as they are. -/
structure Grows (st st' : TransactionHistoryStore) : Prop where
  projections : ∀ {uttId p}, st.projections.get? uttId = some p →
    st'.projections.get? uttId = some p
  links : ∀ {uttId links}, st.linksByUtt.get? uttId = some links →
    st'.linksByUtt.get? uttId = some links

theorem Grows.refl (st : TransactionHistoryStore) : Grows st st := ⟨id, id⟩

theorem Grows.trans {s₁ s₂ s₃ : TransactionHistoryStore} (h : Grows s₁ s₂) (h' : Grows s₂ s₃) :
    Grows s₁ s₃ :=
  ⟨fun hp => h'.projections (h.projections hp), fun hl => h'.links (h.links hl)⟩

/-- A commit keeps the invariant and what has been written. -/
theorem Consistent.commit (hst : st.Consistent A) {p q : UttTransactionProjection}
    {links : List TransactionSubjectLink} (hA : A p links) (h : st.commit p links = .ok (q, st')) :
    st'.Consistent A ∧ st.Grows st' := by
  rcases commit_eq_ok h with rfl | ⟨hnone, hnodup, rfl⟩
  · exact ⟨hst, .refl _⟩
  have hnolinks : st.linksByUtt.get? p.uttId = none := by
    by_contra hsome
    obtain ⟨old, hold⟩ := Option.ne_none_iff_exists'.mp hsome
    obtain ⟨_, hp⟩ := hst.projection hold
    rw [hnone] at hp
    cases hp
  -- the UTT was in no index, so that it is added to those of its subjects and to no other
  have habsent : ∀ subject, p.uttId ∉ st.uttsOf subject := by
    intro subject hmem
    obtain ⟨_, hold, -⟩ := (hst.indexed subject p.uttId).mp hmem
    rw [hnolinks] at hold
    cases hold
  have huttsOf : ∀ subject, uttsOf
      { st with
        projections := st.projections.set p.uttId p
        linksByUtt := st.linksByUtt.set p.uttId links
        uttsBySubject := (links.map TransactionSubjectLink.subject).foldl (addUtt p.uttId)
          st.uttsBySubject } subject =
      if subject ∈ links.map TransactionSubjectLink.subject then st.uttsOf subject ++ [p.uttId]
      else st.uttsOf subject := by
    intro subject
    have hfold := get?_foldl_addUtt p.uttId (links.map TransactionSubjectLink.subject)
      st.uttsBySubject subject
    have habs := habsent subject
    simp only [uttsOf] at hfold habs ⊢
    rw [hfold]
    simp [habs]
  refine ⟨⟨?_, ?_, ?_, ?_, ?_⟩, ?_, ?_⟩
  · intro uttId p' hp'
    rw [Dict.get?_set] at hp'
    split_ifs at hp' with heq
    · cases hp'
      exact heq.symm
    · exact hst.key hp'
  · intro uttId p' hp'
    rw [Dict.get?_set] at hp' ⊢
    split_ifs at hp' ⊢ with heq
    · cases hp'
      exact ⟨links, rfl, hA, hnodup⟩
    · exact hst.links hp'
  · intro uttId links' hlinks'
    rw [Dict.get?_set] at hlinks' ⊢
    split_ifs at hlinks' ⊢ with heq
    · exact ⟨p, rfl⟩
    · exact hst.projection hlinks'
  · intro subject uttId
    rw [huttsOf, Dict.get?_set]
    by_cases heq : uttId = p.uttId
    · subst heq
      have habs := habsent subject
      split_ifs with hmem <;> simp_all
    · rw [if_neg heq, ← hst.indexed]
      split_ifs with hmem <;> simp [heq]
  · intro subject
    rw [huttsOf]
    split_ifs with hmem
    · refine List.nodup_append.mpr ⟨hst.nodup subject, List.nodup_singleton _, ?_⟩
      intro a ha b hb heq
      rw [List.mem_singleton] at hb
      exact habsent subject (hb ▸ heq ▸ ha)
    · exact hst.nodup subject
  · intro uttId p' hp'
    rw [Dict.get?_set, if_neg]
    · exact hp'
    · rintro rfl
      rw [hnone] at hp'
      cases hp'
  · intro uttId links' hlinks'
    rw [Dict.get?_set, if_neg]
    · exact hlinks'
    · rintro rfl
      rw [hnolinks] at hlinks'
      cases hlinks'

/-- An audit changes nothing else. -/
theorem Consistent.appendAudit (hst : st.Consistent A) {audit : TransactionAccessAudit}
    (h : st.appendAudit audit = .ok st') : st'.Consistent A ∧ st.Grows st' := by
  unfold TransactionHistoryStore.appendAudit at h
  split_ifs at h
  cases h
  exact ⟨⟨hst.key, hst.links, hst.projection, hst.indexed, hst.nodup⟩, id, id⟩

/-! ## The history of a subject -/

/-- The keys of rows descend. -/
def Sorted (rows : List HistoryRow) : Prop := rows.Pairwise fun a b => b.1.key < a.1.key

/-- Among links to distinct subjects, the first link to a subject is the only one. -/
theorem find?_subject {links : List TransactionSubjectLink} {subject : SubjectKind × String}
    {link : TransactionSubjectLink} (hnodup : (links.map TransactionSubjectLink.subject).Nodup) :
    links.find? (fun l => l.subject == subject) = some link ↔ link ∈ links ∧ link.subject = subject := by
  constructor
  · intro h
    exact ⟨List.mem_of_find?_eq_some h, by simpa using List.find?_some h⟩
  · rintro ⟨hmem, rfl⟩
    have hsome : (links.find? fun l => l.subject == link.subject).isSome = true :=
      List.find?_isSome.mpr ⟨link, hmem, beq_self_eq_true link.subject⟩
    obtain ⟨found, hfound⟩ := Option.isSome_iff_exists.mp hsome
    have hsubject : found.subject = link.subject := by simpa using List.find?_some hfound
    have heq : found = link :=
      List.inj_on_of_nodup_map hnodup (List.mem_of_find?_eq_some hfound) hmem hsubject
    rw [hfound, heq]

theorem rowOf_eq_ok (hst : st.Consistent A) {subject : SubjectKind × String} {uttId : String}
    {row : HistoryRow} :
    st.rowOf subject uttId = .ok row ↔ st.Linked subject row.1 row.2 ∧ row.1.uttId = uttId := by
  constructor
  · intro h
    simp only [rowOf, bind_eq_ok, projectionItem_eq_ok, linksItem_eq_ok] at h
    obtain ⟨p, hp, links, hlinks, h⟩ := h
    obtain ⟨links', hlinks', -, hnodup⟩ := hst.links hp
    rw [hlinks, Option.some.injEq] at hlinks'
    subst hlinks'
    have hkey := hst.key hp
    split at h
    · next link hfind =>
      cases h
      exact ⟨⟨hkey.symm ▸ hp, links, hkey.symm ▸ hlinks, (find?_subject hnodup).mp hfind⟩, hkey⟩
    · cases h
  · rintro ⟨⟨hp, links, hlinks, hmem, hsubject⟩, rfl⟩
    obtain ⟨links', hlinks', -, hnodup⟩ := hst.links hp
    rw [hlinks, Option.some.injEq] at hlinks'
    subst hlinks'
    have hfind := (find?_subject hnodup).mpr ⟨hmem, hsubject⟩
    simp only [rowOf, projectionItem_eq_ok.mpr hp, linksItem_eq_ok.mpr hlinks, bind, Except.bind, hfind]
    rfl

/-- `list_for_subject` returns the rows of the subject, sorted. -/
theorem listForSubject_eq_ok (hst : st.Consistent A) (subject : SubjectKind × String) :
    ∃ rows, st.listForSubject subject = .ok rows ∧ Sorted rows ∧
      ∀ row, row ∈ rows ↔ st.Linked subject row.1 row.2 := by
  have hrow : ∀ uttId ∈ st.uttsOf subject, ∃ row, st.rowOf subject uttId = .ok row := by
    intro uttId hmem
    obtain ⟨links, hlinks, hsubject⟩ := (hst.indexed subject uttId).mp hmem
    obtain ⟨link, hlink, hsub⟩ := List.mem_map.mp hsubject
    obtain ⟨p, hp⟩ := hst.projection hlinks
    have hkey := hst.key hp
    exact ⟨(p, link), (rowOf_eq_ok hst).mpr
      ⟨⟨hkey.symm ▸ hp, links, hkey.symm ▸ hlinks, hlink, hsub⟩, hkey⟩⟩
  obtain ⟨rows, hmap⟩ := exists_mapM_eq_ok hrow
  have hrows := mapM_eq_ok.mp hmap
  have hids : rows.map (fun row => row.1.uttId) = st.uttsOf subject := by
    rw [← List.forall₂_eq_eq_eq, List.forall₂_map_left_iff]
    exact hrows.flip.imp fun _ _ h => ((rowOf_eq_ok hst).mp h).2
  have hmem : ∀ row, row ∈ rows ↔ st.Linked subject row.1 row.2 := by
    intro row
    constructor
    · intro h
      obtain ⟨uttId, -, hok⟩ := mem_of_forall₂ hrows.flip h
      exact ((rowOf_eq_ok hst).mp hok).1
    · intro h
      have hutt : row.1.uttId ∈ st.uttsOf subject := by
        obtain ⟨-, links, hlinks, hlink, hsub⟩ := h
        exact (hst.indexed subject _).mpr ⟨links, hlinks, List.mem_map.mpr ⟨_, hlink, hsub⟩⟩
      obtain ⟨row', hrow', hok⟩ := mem_of_forall₂ hrows hutt
      have heq : st.rowOf subject row.1.uttId = .ok row := (rowOf_eq_ok hst).mpr ⟨h, rfl⟩
      rw [hok, Except.ok.injEq] at heq
      exact heq ▸ hrow'
  refine ⟨rows.insertionSort sortsBefore, ?_, ?_, fun row => by rw [List.mem_insertionSort, hmem]⟩
  · rw [listForSubject, hmap]
    rfl
  · -- the keys are distinct, since the UTTs are
    have hnodup : (rows.map fun row => row.1.uttId).Nodup := hids ▸ hst.nodup subject
    have hdistinct : (rows.insertionSort sortsBefore).Pairwise fun a b => a.1.uttId ≠ b.1.uttId :=
      List.pairwise_map.mp (((List.perm_insertionSort _ rows).map _).nodup_iff.mpr hnodup)
    have hsorted : (rows.insertionSort sortsBefore).Pairwise sortsBefore :=
      List.pairwise_insertionSort _ _
    refine hsorted.imp₂ (fun a b hle hne => lt_of_le_of_ne hle fun heq => hne ?_) hdistinct
    exact (congrArg (fun k => (ofLex k).2) heq).symm

end TransactionHistoryStore

end RailOne
