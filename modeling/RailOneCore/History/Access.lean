import RailOneCore.Foundation.SampleRuntime
import RailOneCore.History.Runs

/-!
# Who may read what

`Decided` says what a read can do: it fails before the decision, it is denied or it is allowed, and
both decisions are audited.  From this follow that data is returned only within the scope of the
principal, that every decision leaves one audit, and that the history of a subject does not depend on
the UTTs of others.
-/

namespace RailOne

open Ordered TransactionHistoryStore UttTransactionIndexer

namespace TransactionHistoryService

variable {rt : Runtime} {access : TransactionReadContext} {auditId : String}
  {st st' : TransactionHistoryStore}

/-! ## Decisions -/

/-- One audit has been added, about the principal of the read. -/
def Audited (access : TransactionReadContext) (auditId : String) (outcome : AccessOutcome)
    (st st' : TransactionHistoryStore) : Prop :=
  ∃ audit : TransactionAccessAudit, audit.auditId = auditId ∧
    audit.principalId = strip access.principalId ∧ audit.outcome = outcome ∧
    st' = { st with audits := st.audits ++ [audit] }

/-- What a read does: it fails and writes nothing, or it is denied, or it is allowed and goes on with
`result`. -/
inductive Decided {α : Type} (access : TransactionReadContext) (auditId : String) (allowed : Prop)
    (result : TransactionHistoryStore → Except Exn α) (st : TransactionHistoryStore) :
    Except Exn α × TransactionHistoryStore → Prop
  | failed {e : Exn} (hkind : e.kind ≠ .transactionAccessDenied) :
    Decided access auditId allowed result st (.error e, st)
  | denied {st' : TransactionHistoryStore} {refusal : String}
      (haudit : Audited access auditId .denied st st') :
    Decided access auditId allowed result st (.error ⟨.transactionAccessDenied, refusal⟩, st')
  | allowed {st' : TransactionHistoryStore} (hallowed : allowed)
      (haudit : Audited access auditId .allowed st st') :
    Decided access auditId allowed result st (result st', st')

theorem appendAudit_eq_ok {audit : TransactionAccessAudit} (h : st.appendAudit audit = .ok st') :
    st' = { st with audits := st.audits ++ [audit] } := by
  unfold appendAudit at h
  split_ifs at h
  cases h
  rfl

theorem appendAudit_eq_error {audit : TransactionAccessAudit} {e : Exn}
    (h : st.appendAudit audit = .error e) : e.kind = .runtimeError := by
  unfold appendAudit at h
  split_ifs at h
  cases h
  rfl

/-- The identifier is not that of an audit. -/
def FreshAudit (auditId : String) (st : TransactionHistoryStore) : Prop :=
  ∀ audit ∈ st.audits, audit.auditId ≠ auditId

theorem freshAudit_of_empty (h : st.audits.isEmpty = true) : FreshAudit auditId st := by
  intro audit haudit
  rw [List.isEmpty_iff.mp h] at haudit
  cases haudit

theorem appendAudit_of_fresh {audit : TransactionAccessAudit} (h : FreshAudit audit.auditId st) :
    st.appendAudit audit = .ok { st with audits := st.audits ++ [audit] } := by
  refine if_neg ?_
  rw [Bool.not_eq_true, List.any_eq_false]
  intro existing hmem
  rw [beq_iff_eq]
  exact h existing hmem

section Audit

variable {targetKind targetId fallbackReason refusal : String} {allowed : Bool}
  {instant : Instant}

theorem audit_eq_ok
    (h : audit access targetKind targetId allowed instant fallbackReason auditId st = .ok st') :
    Audited access auditId (if allowed then .allowed else .denied) st st' := by
  simp only [audit, bind_eq_ok, requireText_eq_ok] at h
  obtain ⟨_, ⟨rfl, -⟩, h⟩ := h
  exact ⟨_, rfl, rfl, rfl, appendAudit_eq_ok h⟩

/-- The errors of an audit are not refusals. -/
theorem audit_eq_error {e : Exn}
    (h : audit access targetKind targetId allowed instant fallbackReason auditId st = .error e) :
    e.kind ≠ .transactionAccessDenied := by
  simp only [audit, bind_eq_error] at h
  rcases h with h | ⟨_, -, h⟩
  · unfold requireText at h
    split_ifs at h
    cases h
    simp
  · rw [appendAudit_eq_error h]
    simp

theorem decided_auditDecision {α : Type} (result : TransactionHistoryStore → Except Exn α) :
    Decided access auditId (allowed = true) result st
      (guarded (auditDecision access targetKind targetId allowed instant fallbackReason refusal auditId
        st) result) := by
  unfold auditDecision
  split
  · next e haudit => exact .failed (audit_eq_error haudit)
  · next st' haudit =>
    have hwritten := audit_eq_ok haudit
    cases allowed with
    | true => exact .allowed rfl hwritten
    | false => exact .denied hwritten

theorem Decided.imp {α : Type} {p q : Prop} {result : TransactionHistoryStore → Except Exn α}
    {r : Except Exn α × TransactionHistoryStore} (hpq : p → q) (h : Decided access auditId p result st r) :
    Decided access auditId q result st r := by
  cases h with
  | failed hkind => exact .failed hkind
  | denied haudit => exact .denied haudit
  | allowed hallowed haudit => exact .allowed (hpq hallowed) haudit

theorem decided_authorize {α : Type} (result : TransactionHistoryStore → Except Exn α) :
    Decided access auditId (allowed = true) result st
      (guarded (authorize access targetKind targetId allowed instant refusal auditId st) result) := by
  unfold authorize
  split_ifs
  · exact (decided_auditDecision result).imp fun hfalse => by cases hfalse
  · exact decided_auditDecision result

end Audit

/-! ## Reads -/

variable {kind : SubjectKind} {subjectId uttId : String} {limit : Int}
  {cursor : Option String} {at_ : Datetime}

theorem requireAware_eq_error {name : String} {e : Exn} (h : requireAware name at_ = .error e) :
    e.kind = .valueError := by
  cases at_ with
  | aware t => cases h
  | naive =>
    cases h
    rfl

theorem requireText_eq_error {name value : String} {e : Exn} (h : requireText name value = .error e) :
    e.kind = .valueError := by
  unfold requireText at h
  split_ifs at h
  cases h
  rfl

/-- A list is decided by whether the principal can access the subject. -/
theorem decided_listBySubject : Decided access auditId
    (strip subjectId ≠ "" ∧ canAccess rt (kind, rt.upper (strip subjectId)) access = true)
    (readPage rt (kind, rt.upper (strip subjectId)) limit.toNat cursor) st
    (listBySubject rt kind subjectId access limit cursor at_ auditId st) := by
  unfold listBySubject
  dsimp only
  split
  · next e hchecked =>
    have hkind : e.kind = .valueError := by
      simp only [bind_eq_error, require_eq_error] at hchecked
      rcases hchecked with h | ⟨_, -, h | ⟨_, -, ⟨-, rfl⟩ | ⟨_, -, h⟩⟩⟩
      · exact requireAware_eq_error h
      · exact requireText_eq_error h
      · rfl
      · cases h
    exact .failed (by simp [hkind])
  · next instant normalized hchecked =>
    simp only [bind_eq_ok, requireText_eq_ok, require_eq_ok, pure_eq_ok, Prod.mk.injEq] at hchecked
    obtain ⟨_, -, _, ⟨rfl, hsubject⟩, _, -, -, rfl⟩ := hchecked
    exact (decided_authorize _).imp fun hallowed => ⟨hsubject, hallowed⟩

theorem requireProjection_eq_error {e : Exn} (h : st.requireProjection uttId = .error e) :
    e.kind = .transactionProjectionNotFound := by
  unfold requireProjection at h
  split at h
  · cases h
  · cases h
    rfl

theorem linksForUtt_eq_error {e : Exn} (h : st.linksForUtt uttId = .error e) :
    e.kind ≠ .transactionAccessDenied := by
  simp only [linksForUtt, bind_eq_error] at h
  rcases h with h | ⟨_, -, h⟩
  · simp [requireProjection_eq_error h]
  · unfold linksItem at h
    split at h
    · cases h
    · cases h
      simp

/-- A single UTT is decided by whether the principal can access one of its links. -/
theorem decided_getByUtt : ∃ result : TransactionHistoryStore → Except Exn TransactionHistoryEntry,
    (∀ s e, result s = .error e → e.kind ≠ .transactionAccessDenied) ∧
    Decided access auditId (∃ links, st.linksByUtt.get? (strip uttId) = some links ∧
      (matchedRoles rt links access ≠ [] ∨ privileged access = true)) result st
      (getByUtt rt uttId access at_ auditId st) := by
  unfold getByUtt
  dsimp only
  split
  · next e hfound =>
    have hkind : e.kind ≠ .transactionAccessDenied := by
      simp only [bind_eq_error] at hfound
      rcases hfound with h | ⟨_, -, h | ⟨_, -, h | ⟨_, -, h | ⟨_, -, h⟩⟩⟩⟩
      · simp [requireAware_eq_error h]
      · simp [requireText_eq_error h]
      · simp [requireProjection_eq_error h]
      · exact linksForUtt_eq_error h
      · cases h
    refine ⟨fun _ => .error e, fun s e' he => ?_, .failed hkind⟩
    cases he
    exact hkind
  · next instant normalized p links hfound =>
    simp only [bind_eq_ok, requireText_eq_ok, pure_eq_ok, Prod.mk.injEq] at hfound
    obtain ⟨_, -, _, ⟨rfl, -⟩, p', hp, links', hlinks, -, rfl, rfl, rfl⟩ := hfound
    simp only [linksForUtt, bind_eq_ok, linksItem_eq_ok] at hlinks
    obtain ⟨_, -, hlinks⟩ := hlinks
    refine ⟨_, fun s e he => ?_, (decided_authorize _).imp fun hallowed => ⟨links', hlinks, ?_⟩⟩
    · cases he
    · simpa using hallowed

/-! ## Scopes -/

/-- The subject is in the scope of the principal itself; letters in both cases are the same. -/
def InScope (rt : Runtime) (access : TransactionReadContext) (subject : SubjectKind × String) : Prop :=
  match subject.1 with
  | .continuityUid =>
    ∃ own, access.continuityUid = some own ∧ rt.upper own = rt.upper subject.2
  | .merchantId => ∃ own ∈ access.merchantIds, rt.upper own = rt.upper subject.2
  | .branchId => ∃ own ∈ access.branchIds, rt.upper own = rt.upper subject.2
  | .partnerId => ∃ own ∈ access.partnerIds, rt.upper own = rt.upper subject.2

/-- What a principal without the permission to read everything can access is in its scope, unless the
subject is an empty continuity UID. -/
theorem inScope_of_canAccess {subject : SubjectKind × String} (hscoped : privileged access = false)
    (hsubject : subject.1 = .continuityUid → subject.2 ≠ "")
    (h : canAccess rt subject access = true) : InScope rt access subject := by
  obtain ⟨kind, id⟩ := subject
  unfold canAccess at h
  rw [hscoped] at h
  cases kind with
  | continuityUid =>
    have heq : rt.upper (access.continuityUid.getD "") = rt.upper id := by simpa using h
    cases hown : access.continuityUid with
    | none =>
      rw [hown] at heq
      exact absurd heq.symm (rt.upper_ne_empty (hsubject rfl))
    | some own =>
      rw [hown] at heq
      exact ⟨own, hown, heq⟩
  | merchantId => simpa [InScope] using h
  | branchId => simpa [InScope] using h
  | partnerId => simpa [InScope] using h

/-- A link whose roles are returned can be accessed. -/
theorem exists_link_of_matchedRoles {links : List TransactionSubjectLink}
    (h : matchedRoles rt links access ≠ []) :
    ∃ link ∈ links, canAccess rt link.subject access = true := by
  obtain ⟨role, hrole⟩ := List.exists_mem_of_ne_nil _ h
  obtain ⟨link, hlink, -⟩ := List.mem_flatMap.mp hrole
  exact ⟨link, (List.mem_filter.mp hlink).1, (List.mem_filter.mp hlink).2⟩

/-! ## Two stores -/

/-- The stores have the same transactions of a subject, with the same roles. -/
def Agree (subject : SubjectKind × String) (st₁ st₂ : TransactionHistoryStore) : Prop :=
  ∀ p roles, (∃ link, st₁.Linked subject p link ∧ link.roles = roles) ↔
    ∃ link, st₂.Linked subject p link ∧ link.roles = roles

/-- Stores with the same rows of a subject agree on it. -/
theorem agree_of_list {A : UttTransactionProjection → List TransactionSubjectLink → Prop}
    {subject : SubjectKind × String} {st₁ st₂ : TransactionHistoryStore} (h₁ : st₁.Consistent A)
    (h₂ : st₂.Consistent A) (h : st₁.listForSubject subject = st₂.listForSubject subject) :
    Agree subject st₁ st₂ := by
  obtain ⟨rows₁, hlist₁, -, hmem₁⟩ := listForSubject_eq_ok h₁ subject
  obtain ⟨rows₂, hlist₂, -, hmem₂⟩ := listForSubject_eq_ok h₂ subject
  rw [hlist₁, hlist₂, Except.ok.injEq] at h
  subst h
  have hlinked : ∀ p link, st₁.Linked subject p link ↔ st₂.Linked subject p link :=
    fun p link => (hmem₁ (p, link)).symm.trans (hmem₂ (p, link))
  intro p roles
  simp only [hlinked]

/-- What a row is shown as. -/
def entryOf (row : HistoryRow) : TransactionHistoryEntry := ⟨row.1, row.2.roles⟩

/-- A page depends only on what the rows are shown as. -/
theorem pageOf_congr {n : ℕ} {rows₁ rows₂ : List HistoryRow}
    (h : rows₁.map entryOf = rows₂.map entryOf) : pageOf n rows₁ = pageOf n rows₂ := by
  have hpage : ∀ rows : List HistoryRow, pageOf n rows =
      { entries := ((rows.map entryOf).take (n + 1)).take n
        nextCursor :=
          if n < ((rows.map entryOf).take (n + 1)).length then
            (((rows.map entryOf).take (n + 1)).take n).getLast?.map fun e => encodeCursor e.transaction
          else none } := by
    intro rows
    simp only [pageOf, ← List.map_take, List.length_map, List.getLast?_map, Option.map_map]
    rfl
  rw [hpage, hpage, h]

section Agreement

variable {A : UttTransactionProjection → List TransactionSubjectLink → Prop}
  {st₁ st₂ : TransactionHistoryStore} {subject : SubjectKind × String} {n : ℕ}

theorem listForSubject_of_agree (h₁ : st₁.Consistent A) (h₂ : st₂.Consistent A)
    (h : Agree subject st₁ st₂) : ∃ rows₁ rows₂, st₁.listForSubject subject = .ok rows₁ ∧
      st₂.listForSubject subject = .ok rows₂ ∧ rows₁.map entryOf = rows₂.map entryOf := by
  obtain ⟨rows₁, hlist₁, hsorted₁, hmem₁⟩ := listForSubject_eq_ok h₁ subject
  obtain ⟨rows₂, hlist₂, hsorted₂, hmem₂⟩ := listForSubject_eq_ok h₂ subject
  -- both lists are sorted by the same strict order
  let before (a b : TransactionHistoryEntry) : Prop := b.transaction.key < a.transaction.key
  have hbefore : ∀ {rows}, Sorted rows → (rows.map entryOf).Pairwise before :=
    fun hsorted => List.pairwise_map.mpr hsorted
  have : Std.Irrefl before := ⟨fun _ => lt_irrefl _⟩
  have : Std.Antisymm before := ⟨fun _ _ hab hba => absurd hba hab.asymm⟩
  have hmem : ∀ {st : TransactionHistoryStore} {rows : List HistoryRow},
      (∀ row, row ∈ rows ↔ st.Linked subject row.1 row.2) → ∀ e : TransactionHistoryEntry,
      e ∈ rows.map entryOf ↔ ∃ link, st.Linked subject e.transaction link ∧
        link.roles = e.matchedRoles := by
    intro st rows hrows e
    rw [List.mem_map]
    constructor
    · rintro ⟨row, hrow, rfl⟩
      exact ⟨row.2, (hrows row).mp hrow, rfl⟩
    · rintro ⟨link, hlinked, hroles⟩
      refine ⟨(e.transaction, link), (hrows _).mpr hlinked, ?_⟩
      rw [entryOf, hroles]
  refine ⟨rows₁, rows₂, hlist₁, hlist₂, (hbefore hsorted₁).eq_of_mem_iff (hbefore hsorted₂) ?_⟩
  intro e
  rw [hmem hmem₁, hmem hmem₂, h e.transaction e.matchedRoles]

theorem readPage_of_agree (h₁ : st₁.Consistent A) (h₂ : st₂.Consistent A)
    (h : Agree subject st₁ st₂) : readPage rt subject n cursor st₁ = readPage rt subject n cursor st₂ := by
  obtain ⟨rows₁, rows₂, hlist₁, hlist₂, hrows⟩ := listForSubject_of_agree h₁ h₂ h
  unfold readPage
  rw [hlist₁, hlist₂]
  cases cursor with
  | none => exact congrArg Except.ok (pageOf_congr hrows)
  | some text =>
    change (decodeCursor rt text >>= fun key =>
        pure (pageOf n (rows₁.filter fun row => cursorKey row < key))) =
      (decodeCursor rt text >>= fun key =>
        pure (pageOf n (rows₂.filter fun row => cursorKey row < key)))
    congr 1
    funext key
    -- the cursor is compared with the transaction, which the entry has too
    have hfilter : ∀ rows : List HistoryRow,
        (rows.filter fun row => cursorKey row < key).map entryOf = (rows.map entryOf).filter fun e =>
          (toLex (epochSeconds e.transaction.acceptedAt, e.transaction.uttId) : Int ×ₗ String) < key :=
      fun rows => by rw [List.filter_map]; rfl
    refine congrArg pure (pageOf_congr ?_)
    rw [hfilter, hfilter, hrows]

/-- With a fresh identifier, whether access is allowed does not depend on the store. -/
theorem auditDecision_fst {targetKind targetId fallbackReason refusal : String} {allowed : Bool}
    {instant : Instant} (h₁ : FreshAudit auditId st₁) (h₂ : FreshAudit auditId st₂) :
    (auditDecision access targetKind targetId allowed instant fallbackReason refusal auditId st₁).1 =
      (auditDecision access targetKind targetId allowed instant fallbackReason refusal auditId st₂).1 := by
  unfold auditDecision audit
  cases requireText "principal_id" access.principalId with
  | error e => rfl
  | ok principal =>
    simp only [bind, Except.bind]
    rw [appendAudit_of_fresh h₁, appendAudit_of_fresh h₂]

theorem authorize_fst {targetKind targetId refusal : String} {allowed : Bool} {instant : Instant}
    (h₁ : FreshAudit auditId st₁) (h₂ : FreshAudit auditId st₂) :
    (authorize access targetKind targetId allowed instant refusal auditId st₁).1 =
      (authorize access targetKind targetId allowed instant refusal auditId st₂).1 := by
  unfold authorize
  split_ifs
  · exact auditDecision_fst h₁ h₂
  · exact auditDecision_fst h₁ h₂

theorem readPage_auditDecision {targetKind targetId fallbackReason refusal : String} {allowed : Bool}
    {instant : Instant} :
    readPage rt subject n cursor
      (auditDecision access targetKind targetId allowed instant fallbackReason refusal auditId st).2 =
    readPage rt subject n cursor st := by
  unfold auditDecision
  split
  · rfl
  · next st' haudit =>
    obtain ⟨audit, -, -, -, rfl⟩ := audit_eq_ok haudit
    rfl

/-- A decision writes audits only, which no page reads. -/
theorem readPage_authorize {targetKind targetId refusal : String} {allowed : Bool}
    {instant : Instant} :
    readPage rt subject n cursor
      (authorize access targetKind targetId allowed instant refusal auditId st).2 =
    readPage rt subject n cursor st := by
  unfold authorize
  split_ifs
  · exact readPage_auditDecision
  · exact readPage_auditDecision

/-- Stores that agree on a subject give the same list. -/
theorem listBySubject_of_agree (h₁ : st₁.Consistent A) (h₂ : st₂.Consistent A)
    (h : Agree (kind, rt.upper (strip subjectId)) st₁ st₂) (hfresh₁ : FreshAudit auditId st₁)
    (hfresh₂ : FreshAudit auditId st₂) :
    (listBySubject rt kind subjectId access limit cursor at_ auditId st₁).1 =
      (listBySubject rt kind subjectId access limit cursor at_ auditId st₂).1 := by
  unfold listBySubject
  dsimp only
  split
  · rfl
  · next instant normalized hchecked =>
    simp only [bind_eq_ok, requireText_eq_ok, require_eq_ok, pure_eq_ok, Prod.mk.injEq] at hchecked
    obtain ⟨_, -, _, ⟨rfl, -⟩, _, -, -, rfl⟩ := hchecked
    unfold guarded
    simp only [readPage_authorize, readPage_of_agree h₁ h₂ h, authorize_fst hfresh₁ hfresh₂]

end Agreement

/-! ## Isolation -/

theorem decodeCursor_eq_error {text : String} {e : Exn} (h : decodeCursor rt text = .error e) :
    e = invalidCursor := by
  unfold decodeCursor at h
  split at h
  · exact (Except.error.inj h).symm
  · split at h
    · exact (Except.error.inj h).symm
    · split_ifs at h
      · split at h
        · exact (Except.error.inj h).symm
        · cases h
      · exact (Except.error.inj h).symm

/-- The only error of a page is about its cursor. -/
theorem readPage_eq_error {A : UttTransactionProjection → List TransactionSubjectLink → Prop}
    (hst : st.Consistent A) {subject : SubjectKind × String} {n : ℕ} {e : Exn}
    (h : readPage rt subject n cursor st = .error e) : e = invalidCursor := by
  obtain ⟨rows, hlist, -⟩ := listForSubject_eq_ok hst subject
  unfold readPage at h
  rw [hlist] at h
  cases cursor with
  | none => cases h
  | some text =>
    rcases bind_eq_error.mp h with h | ⟨_, hrows, h⟩
    · cases h
    · rcases bind_eq_error.mp h with h | ⟨_, -, h⟩
      · exact decodeCursor_eq_error h
      · cases h

/-- Each decision leaves one audit. -/
def OneAudit {α : Type} (access : TransactionReadContext) (auditId : String) (st : TransactionHistoryStore)
    (r : Except Exn α × TransactionHistoryStore) : Prop :=
  (∀ a, r.1 = .ok a → Audited access auditId .allowed st r.2) ∧
    ∀ e, r.1 = .error e → e.kind = .transactionAccessDenied → Audited access auditId .denied st r.2

theorem Decided.oneAudit {α : Type} {allowed : Prop} {result : TransactionHistoryStore → Except Exn α}
    {r : Except Exn α × TransactionHistoryStore} (h : Decided access auditId allowed result st r)
    (hresult : ∀ st' e, Audited access auditId .allowed st st' → result st' = .error e →
      e.kind ≠ .transactionAccessDenied) : OneAudit access auditId st r := by
  constructor
  · intro a ha
    cases h with
    | failed hkind => cases ha
    | denied haudit => cases ha
    | allowed hallowed haudit => exact haudit
  · intro e he hdenied
    cases h with
    | failed hkind =>
      cases he
      exact absurd hdenied hkind
    | denied haudit => exact haudit
    | allowed hallowed haudit => exact absurd hdenied (hresult _ e haudit he)

/-- What is returned has been allowed. -/
theorem Decided.allowed_of_ok {α : Type} {allowed : Prop}
    {result : TransactionHistoryStore → Except Exn α} {r : Except Exn α × TransactionHistoryStore}
    (h : Decided access auditId allowed result st r) {a : α} (ha : r.1 = .ok a) : allowed := by
  cases h with
  | failed hkind => cases ha
  | denied haudit => cases ha
  | allowed hallowed haudit => exact hallowed

theorem Audited.consistent {A : UttTransactionProjection → List TransactionSubjectLink → Prop}
    {outcome : AccessOutcome} (h : Audited access auditId outcome st st') (hst : st.Consistent A) :
    st'.Consistent A := by
  obtain ⟨audit, -, -, -, rfl⟩ := h
  exact ⟨hst.key, hst.links, hst.projection, hst.indexed, hst.nodup⟩

/-- The stores that the indexer and the service build. -/
def Built (rt : Runtime) (st : TransactionHistoryStore) : Prop :=
  HistoryRun rt (fun _ => True) .empty st

/-- A list is returned only to a principal whose scope has the subject. -/
theorem inScope_of_listBySubject {page : TransactionHistoryPage} (hscoped : privileged access = false)
    (hok : (listBySubject rt kind subjectId access limit cursor at_ auditId st).1 = .ok page) :
    InScope rt access (kind, strip subjectId) := by
  have hdecided : Decided access auditId _ _ st
      (listBySubject rt kind subjectId access limit cursor at_ auditId st) := decided_listBySubject
  obtain ⟨hsubject, haccess⟩ := hdecided.allowed_of_ok hok
  have hscope : InScope rt access (kind, rt.upper (strip subjectId)) := by
    refine inScope_of_canAccess hscoped ?_ haccess
    intro _
    exact rt.upper_ne_empty hsubject
  unfold InScope at hscope ⊢
  simp only [rt.upper_upper] at hscope
  exact hscope

/-- A UTT is returned only to a principal whose scope has a subject of the UTT. -/
theorem inScope_of_getByUtt {I : String → Prop} (hst : st.Consistent (Indexed I))
    {entry : TransactionHistoryEntry} (hscoped : privileged access = false)
    (hok : (getByUtt rt uttId access at_ auditId st).1 = .ok entry) :
    ∃ links, st.linksByUtt.get? (strip uttId) = some links ∧
      ∃ link ∈ links, InScope rt access link.subject := by
  obtain ⟨result, -, hdecided⟩ : ∃ result, _ ∧ Decided access auditId _ result st
      (getByUtt rt uttId access at_ auditId st) := decided_getByUtt
  obtain ⟨links, hlinks, hmatched⟩ := hdecided.allowed_of_ok hok
  have hroles : matchedRoles rt links access ≠ [] := hmatched.resolve_right (by simp [hscoped])
  obtain ⟨link, hlink, haccess⟩ := exists_link_of_matchedRoles hroles
  refine ⟨links, hlinks, link, hlink, inScope_of_canAccess hscoped ?_ haccess⟩
  obtain ⟨p, hp⟩ := hst.projection hlinks
  obtain ⟨links', hlinks', hindexed, -⟩ := hst.links hp
  rw [hlinks, Option.some.injEq] at hlinks'
  exact hindexed.identities link (hlinks' ▸ hlink)

theorem oneAudit_listBySubject {A : UttTransactionProjection → List TransactionSubjectLink → Prop}
    (hst : st.Consistent A) :
    OneAudit access auditId st (listBySubject rt kind subjectId access limit cursor at_ auditId st) := by
  have hdecided : Decided access auditId _ _ st
      (listBySubject rt kind subjectId access limit cursor at_ auditId st) := decided_listBySubject
  refine hdecided.oneAudit fun st' e haudit he => ?_
  rw [readPage_eq_error (haudit.consistent hst) he]
  simp [invalidCursor]

theorem oneAudit_getByUtt : OneAudit access auditId st (getByUtt rt uttId access at_ auditId st) := by
  obtain ⟨result, hresult, hdecided⟩ : ∃ result, _ ∧ Decided access auditId _ result st
      (getByUtt rt uttId access at_ auditId st) := decided_getByUtt
  exact hdecided.oneAudit fun st' e _ he => hresult st' e he

/-- Reads of the history stay within the scope of the principal: the list of a subject depends only on
the UTTs of the subject, data is returned only in scope, and each decision leaves one audit. -/
theorem reads_isolated :
    (∀ st₁ st₂, Built rt st₁ → Built rt st₂ → Agree (kind, rt.upper (strip subjectId)) st₁ st₂ →
      FreshAudit auditId st₁ → FreshAudit auditId st₂ →
      (listBySubject rt kind subjectId access limit cursor at_ auditId st₁).1 =
        (listBySubject rt kind subjectId access limit cursor at_ auditId st₂).1) ∧
    (∀ st page, Built rt st → privileged access = false →
      (listBySubject rt kind subjectId access limit cursor at_ auditId st).1 = .ok page →
      InScope rt access (kind, strip subjectId)) ∧
    (∀ st entry, Built rt st → privileged access = false →
      (getByUtt rt uttId access at_ auditId st).1 = .ok entry →
      ∃ links, st.linksByUtt.get? (strip uttId) = some links ∧
        ∃ link ∈ links, InScope rt access link.subject) ∧
    ∀ st, Built rt st →
      OneAudit access auditId st (listBySubject rt kind subjectId access limit cursor at_ auditId st) ∧
      OneAudit access auditId st (getByUtt rt uttId access at_ auditId st) := by
  refine ⟨?_, ?_, ?_, ?_⟩
  · intro st₁ st₂ h₁ h₂ hagree hfresh₁ hfresh₂
    exact listBySubject_of_agree (HistoryRun.consistent h₁) (HistoryRun.consistent h₂) hagree hfresh₁
      hfresh₂
  · intro st page _ hscoped hok
    exact inScope_of_listBySubject hscoped hok
  · intro st entry hst hscoped hok
    exact inScope_of_getByUtt (HistoryRun.consistent hst) hscoped hok
  · intro st hst
    exact ⟨oneAudit_listBySubject (HistoryRun.consistent hst), oneAudit_getByUtt⟩

/-- The reads of a shop, in a history with a payment to it and in one with another payment. -/
theorem reads_isolated_shop :
    (listBySubject Sample.wideRuntime .merchantId "SHOP" Sample.shopKeeper 50 none (.aware 0) "A"
      Sample.shopHistory).1.isOk = true ∧
    (getByUtt Sample.wideRuntime (Sample.paymentId "SHOP") Sample.shopKeeper (.aware 0) "A"
      Sample.shopHistory).1.isOk = true ∧
    (listBySubject Sample.wideRuntime .merchantId "SHOP" Sample.shopKeeper 50 none (.aware 0) "A"
      Sample.shopHistory).1 =
      (listBySubject Sample.wideRuntime .merchantId "SHOP" Sample.shopKeeper 50 none (.aware 0) "A"
        Sample.marketHistory).1 ∧
    InScope Sample.wideRuntime Sample.shopKeeper (.merchantId, strip "SHOP") ∧
    (∃ links, Sample.shopHistory.linksByUtt.get? (strip (Sample.paymentId "SHOP")) = some links ∧
      ∃ link ∈ links, InScope Sample.wideRuntime Sample.shopKeeper link.subject) ∧
    OneAudit Sample.shopKeeper "A" Sample.shopHistory (listBySubject Sample.wideRuntime .merchantId
      "SHOP" Sample.shopKeeper 50 none (.aware 0) "A" Sample.shopHistory) := by
  have hshop : Built Sample.wideRuntime Sample.shopHistory := Sample.run_shopHistory trivial
  have hmarket : Built Sample.wideRuntime Sample.marketHistory :=
    Sample.run_marketHistory trivial trivial
  have hlist : (listBySubject Sample.wideRuntime .merchantId "SHOP" Sample.shopKeeper 50 none (.aware 0)
      "A" Sample.shopHistory).1.isOk = true := by decide +kernel
  have hget : (getByUtt Sample.wideRuntime (Sample.paymentId "SHOP") Sample.shopKeeper (.aware 0) "A"
      Sample.shopHistory).1.isOk = true := by decide +kernel
  have hrows : Sample.shopHistory.listForSubject (.merchantId, "SHOP") =
      Sample.marketHistory.listForSubject (.merchantId, "SHOP") := by decide +kernel
  have hagree := agree_of_list (HistoryRun.consistent hshop) (HistoryRun.consistent hmarket) hrows
  have hfresh : FreshAudit "A" Sample.shopHistory := freshAudit_of_empty (by decide +kernel)
  have hfresh' : FreshAudit "A" Sample.marketHistory := freshAudit_of_empty (by decide +kernel)
  obtain ⟨hsame, hscope, hutt, haudit⟩ := @reads_isolated Sample.wideRuntime Sample.shopKeeper "A"
    .merchantId "SHOP" (Sample.paymentId "SHOP") 50 none (.aware 0)
  obtain ⟨page, hpage⟩ := exists_of_isOk hlist
  obtain ⟨entry, hentry⟩ := exists_of_isOk hget
  exact ⟨hlist, hget, hsame _ _ hshop hmarket hagree hfresh hfresh', hscope _ page hshop rfl hpage,
    hutt _ entry hshop rfl hentry, (haudit _ hshop).1⟩

end TransactionHistoryService

end RailOne
