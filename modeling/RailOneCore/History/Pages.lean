import RailOneCore.History.Access
import RailOneCore.Library.Pagination

/-!
# The pages of a history

A history store is built by the indexer, and the reads of the service only add audits to it.  A reader
who follows the cursors of `list_by_subject`, while other UTTs are indexed between the reads, is shown
every transaction of the subject that was there at the first read, once and with its roles, in
descending order, and comes to an end.
-/

namespace RailOne

open Ordered TransactionHistoryStore TransactionHistoryService UttTransactionIndexer

/-! ## Identifiers and cursors -/

namespace TransactionHistoryService

variable {rt : Runtime}

theorem startsWith_of_issued {uttId : String} (h : IssuedUtt rt uttId) :
    startsWith uttId "UTT-" = true := by
  obtain ⟨payload, h⟩ := h
  obtain ⟨bytes, -, rfl⟩ := rt.contentId_eq_ok.mp h
  simp [startsWith, String.toList_append]

/-- Decoding gives back the text of a cursor. -/
theorem decodeText_encodeCursor (p : UttTransactionProjection) :
    decodeText (encodeCursor p) = some (cursorText p).toList := by
  have hutf8 : (utf8Bytes (cursorText p).toList) = (cursorText p).toList.utf8Encode :=
    ByteArray.ext (by simp [utf8Bytes, List.utf8Encode])
  unfold decodeText encodeCursor
  rw [String.length_ofList, String.toList_ofList, Base64.decode_encode]
  change (do
    let text ← (utf8Bytes (cursorText p).toList).utf8Decode?
    return text.toList) = _
  rw [hutf8, List.utf8Decode?_utf8Encode]
  simp

/-- No decimal numeral has a bar in it. -/
theorem bar_notMem_repr (n : Int) : '|' ∉ n.repr.toList := by
  have hdigits : ∀ m : ℕ, '|' ∉ m.repr.toList := by
    intro m hbar
    rw [Nat.toList_repr] at hbar
    have hdigit := JsonDecoder.isDigit_of_mem_toDigits hbar
    revert hdigit
    decide
  rw [Int.repr_eq_if]
  split_ifs with hneg
  · exact hdigits _
  · rw [String.toList_append, List.mem_append]
    rintro (hsign | hbar)
    · revert hsign
      decide
    · exact hdigits _ hbar

/-- Every cursor that is handed out is accepted, and stands for the key of its row. -/
theorem decodeCursor_encodeCursor {p : UttTransactionProjection}
    (hid : startsWith p.uttId "UTT-" = true) :
    decodeCursor rt (encodeCursor p) = .ok (toLex (epochSeconds p.acceptedAt, p.uttId)) := by
  have htext : (cursorText p).toList =
      (epochSeconds p.acceptedAt).repr.toList ++ '|' :: p.uttId.toList := by
    simp [cursorText, String.toList_append]
  have hbar : ∀ c ∈ (epochSeconds p.acceptedAt).repr.toList, (decide (c ≠ '|')) = true := by
    intro c hc
    exact decide_eq_true fun heq => bar_notMem_repr _ (heq ▸ hc)
  unfold decodeCursor
  simp only [decodeText_encodeCursor, htext, List.dropWhile_append_of_pos hbar,
    List.takeWhile_append_of_pos hbar]
  simp [hid, rt.parseInt_repr]

/-! ## Finitely many keys -/

instance finiteChar : Finite Char := Finite.of_injective Char.ordinal Char.ordinal_injective

theorem fromTimestamp_eq_ok {n : Int} {t : Instant} (h : fromTimestamp n = .ok t) :
    t = seconds n ∧ n ∈ Set.Icc (-62135596800) 253402300799 := by
  unfold fromTimestamp at h
  split_ifs at h with hbig hlarge hyear
  cases h
  exact ⟨rfl, by omega, by omega⟩

/-! ## One page -/

/-- The rows of a subject in a store. -/
structure Rows (rt : Runtime) (st : TransactionHistoryStore) (subject : SubjectKind × String)
    (rows : List HistoryRow) : Prop where
  list : st.listForSubject subject = .ok rows
  sorted : Sorted rows
  mem : ∀ row, row ∈ rows ↔ st.Linked subject row.1 row.2
  issued : ∀ row ∈ rows, IssuedUtt rt row.1.uttId
  acceptedAt : ∀ row ∈ rows, ∃ n ∈ Set.Icc (-62135596800) 253402300799, row.1.acceptedAt = seconds n

/-- At whole seconds, the order of the cursor is the order of the rows. -/
theorem cursorKey_lt_iff {a b : HistoryRow} (ha : ∃ m, a.1.acceptedAt = seconds m)
    (hb : ∃ n, b.1.acceptedAt = seconds n) : cursorKey b < cursorKey a ↔ b.1.key < a.1.key := by
  obtain ⟨m, hm⟩ := ha
  obtain ⟨n, hn⟩ := hb
  have hlt : n < m ↔ seconds n < seconds m := by
    unfold seconds
    omega
  have heq : n = m ↔ seconds n = seconds m := by
    unfold seconds
    omega
  rw [cursorKey, cursorKey, UttTransactionProjection.key, UttTransactionProjection.key, hm, hn,
    epochSeconds_seconds, epochSeconds_seconds, Prod.Lex.toLex_lt_toLex, Prod.Lex.toLex_lt_toLex, hlt,
    heq]

namespace Rows

variable {st : TransactionHistoryStore} {subject : SubjectKind × String} {rows : List HistoryRow}

theorem whole (h : Rows rt st subject rows) {row : HistoryRow} (hrow : row ∈ rows) :
    ∃ n, row.1.acceptedAt = seconds n := by
  obtain ⟨n, -, hn⟩ := h.acceptedAt row hrow
  exact ⟨n, hn⟩

theorem descending (h : Rows rt st subject rows) : Pagination.Descending cursorKey rows :=
  h.sorted.imp_of_mem fun ha hb hlt => (cursorKey_lt_iff (h.whole ha) (h.whole hb)).mpr hlt

theorem decodeCursor (h : Rows rt st subject rows) {row : HistoryRow} (hrow : row ∈ rows) :
    decodeCursor rt (encodeCursor row.1) = .ok (cursorKey row) :=
  decodeCursor_encodeCursor (startsWith_of_issued (h.issued row hrow))

end Rows

/-- A cursor as a caller passes it stands for a key. -/
inductive StandsFor (rt : Runtime) : Option String → Option (Int ×ₗ String) → Prop
  | none : StandsFor rt none none
  | some {cursor : String} {key : Int ×ₗ String} (h : TransactionHistoryService.decodeCursor rt cursor = .ok key) :
    StandsFor rt (some cursor) (some key)

theorem StandsFor.ne_none {cursor : Option String} {key : Option (Int ×ₗ String)}
    (h : StandsFor rt cursor key) (hkey : key ≠ Option.none) : cursor ≠ Option.none := by
  cases h with
  | none => exact absurd rfl hkey
  | some h => exact Option.some_ne_none _

/-- `read_page` reads the page below the key that the cursor stands for. -/
theorem readPage_eq_ok {st : TransactionHistoryStore} {subject : SubjectKind × String}
    {rows : List HistoryRow} (h : Rows rt st subject rows) {limit : ℕ} {cursor : Option String}
    {key : Option (Int ×ₗ String)} (hcursor : StandsFor rt cursor key) :
    ∃ page, readPage rt subject limit cursor st = .ok page ∧
      page.entries = (Pagination.page cursorKey limit key rows).1.map entryOf ∧
      StandsFor rt page.nextCursor (Pagination.page cursorKey limit key rows).2 := by
  have hread : readPage rt subject limit cursor st =
      .ok (pageOf limit (Pagination.below cursorKey key rows)) := by
    unfold readPage
    rw [h.list]
    cases hcursor with
    | none => rfl
    | some hkey =>
      change (do
        let key ← TransactionHistoryService.decodeCursor rt _
        pure (pageOf limit (rows.filter fun row => cursorKey row < key))) = _
      rw [hkey]
      rfl
  refine ⟨_, hread, ?_, ?_⟩
  · simp only [pageOf, Pagination.page, List.take_take, Nat.min_eq_left (Nat.le_succ limit)]
    rfl
  · simp only [pageOf, Pagination.page, List.take_take, Nat.min_eq_left (Nat.le_succ limit),
      List.length_take]
    by_cases hmore : limit < (Pagination.below cursorKey key rows).length
    · rw [if_pos (by omega), if_pos hmore]
      cases hlast : ((Pagination.below cursorKey key rows).take limit).getLast? with
      | none => exact .none
      | some row =>
        have hrow : row ∈ rows :=
          (Pagination.mem_below.mp (List.mem_of_mem_take (List.mem_of_getLast? hlast))).1
        exact .some (h.decodeCursor hrow)
    · rw [if_neg (by omega), if_neg hmore]
      exact .none

/-! ## Reading page after page -/

/-- The principal may read the history of the subject: it names itself, the subject is in its scope,
and a privileged principal gives a reason. -/
structure MayRead (rt : Runtime) (kind : SubjectKind) (subjectId : String)
    (access : TransactionReadContext) : Prop where
  subject : strip subjectId ≠ ""
  principal : strip access.principalId ≠ ""
  scope : canAccess rt (kind, rt.upper (strip subjectId)) access = true
  reason : privileged access = true → reasonOf access ≠ none

variable {kind : SubjectKind} {subjectId : String} {access : TransactionReadContext} {limit : Int}
  {I : String → Prop}

/-- An allowed read is audited, and reads its page. -/
theorem listBySubject_of_mayRead (hmay : MayRead rt kind subjectId access)
    (hlimit : 1 ≤ limit ∧ limit ≤ 100) (cursor : Option String) (instant : Instant) {auditId : String}
    {st : TransactionHistoryStore} (hfresh : FreshAudit auditId st) :
    ∃ st', HistoryStep rt I st st' ∧
      listBySubject rt kind subjectId access limit cursor (.aware instant) auditId st =
        (readPage rt (kind, rt.upper (strip subjectId)) limit.toNat cursor st', st') := by
  obtain ⟨st', haudit⟩ : ∃ st', st.appendAudit ⟨auditId, strip access.principalId, kind.value,
      rt.upper (strip subjectId), .allowed, (reasonOf access).getD "SUBJECT_SCOPED_ACCESS", instant⟩ =
      .ok st' := ⟨_, appendAudit_of_fresh hfresh⟩
  refine ⟨st', .audit haudit, ?_⟩
  have hreason : ¬ (privileged access = true ∧ reasonOf access = none) :=
    fun ⟨hprivileged, hnone⟩ => hmay.reason hprivileged hnone
  have hsubject : requireText "subject_id" subjectId = .ok (strip subjectId) :=
    requireText_eq_ok.mpr ⟨rfl, hmay.subject⟩
  have hprincipal : requireText "principal_id" access.principalId = .ok (strip access.principalId) :=
    requireText_eq_ok.mpr ⟨rfl, hmay.principal⟩
  have hdecision : authorize access kind.value (rt.upper (strip subjectId))
      (canAccess rt (kind, rt.upper (strip subjectId)) access) instant
      "principal cannot read this subject transaction history" auditId st = (.ok (), st') := by
    unfold authorize auditDecision audit
    rw [if_neg hreason, hprincipal, hmay.scope]
    simp only [bind, Except.bind, if_true, haudit]
  unfold listBySubject
  simp only [requireAware, hsubject, require, if_pos hlimit, bind, Except.bind, pure, Except.pure]
  rw [hdecision]
  rfl

/-- A reader of the history of a subject: before each read, the store, the cursor, the time and the
identifier of the audit. -/
structure Reader where
  store : ℕ → TransactionHistoryStore
  cursor : ℕ → Option String
  instant : ℕ → Instant
  auditId : ℕ → String

namespace Reader

/-- The read `n`. -/
def read (r : Reader) (rt : Runtime) (kind : SubjectKind) (subjectId : String)
    (access : TransactionReadContext) (limit : Int) (n : ℕ) :
    Except Exn TransactionHistoryPage × TransactionHistoryStore :=
  listBySubject rt kind subjectId access limit (r.cursor n) (.aware (r.instant n)) (r.auditId n)
    (r.store n)

/-- The reader begins without a cursor and passes on the cursors that it gets.  Between two reads any
UTTs may be indexed, and others may read. -/
structure Follows (r : Reader) (rt : Runtime) (kind : SubjectKind) (subjectId : String)
    (access : TransactionReadContext) (limit : Int) : Prop where
  history : HistoryRun rt (IssuedUtt rt) .empty (r.store 0)
  meanwhile : ∀ n, HistoryRun rt (IssuedUtt rt) (r.read rt kind subjectId access limit n).2
    (r.store (n + 1))
  start : r.cursor 0 = none
  follow : ∀ n page, (r.read rt kind subjectId access limit n).1 = .ok page →
    page.nextCursor ≠ none → r.cursor (n + 1) = page.nextCursor
  fresh : ∀ n, FreshAudit (r.auditId n) (r.store n)

/-- The entries of the first pages, in their order. -/
def entries (pages : ℕ → TransactionHistoryPage) (n : ℕ) : List TransactionHistoryEntry :=
  (List.range n).flatMap fun m => (pages m).entries

section Following

variable {r : Reader} (h : r.Follows rt kind subjectId access limit)
  (hmay : MayRead rt kind subjectId access) (hlimit : 1 ≤ limit ∧ limit ≤ 100)

include h hmay hlimit in
/-- A read of the reader adds an audit, and reads its page. -/
theorem Follows.step (n : ℕ) : ∃ st, HistoryStep rt (IssuedUtt rt) (r.store n) st ∧
    r.read rt kind subjectId access limit n =
      (readPage rt (kind, rt.upper (strip subjectId)) limit.toNat (r.cursor n) st, st) :=
  listBySubject_of_mayRead hmay hlimit _ _ (h.fresh n)

include h hmay hlimit in
/-- Every store of the reader has been built by the indexer. -/
theorem Follows.run (n : ℕ) :
    HistoryRun rt (IssuedUtt rt) .empty (r.store n) ∧
      HistoryRun rt (IssuedUtt rt) (r.store n) (r.read rt kind subjectId access limit n).2 := by
  have hread : ∀ m, HistoryRun rt (IssuedUtt rt) (r.store m)
      (r.read rt kind subjectId access limit m).2 := by
    intro m
    obtain ⟨st, hstep, heq⟩ := h.step hmay hlimit m
    rw [heq]
    exact .single hstep
  refine ⟨?_, hread n⟩
  induction n with
  | zero => exact h.history
  | succ n ih => exact (ih.trans (hread n)).trans (h.meanwhile n)

include h hmay hlimit in
/-- As long as there are more pages, the cursors of the reader stand for those of the rows. -/
theorem Follows.cursors {rows : ℕ → List HistoryRow}
    (hrows : ∀ n, Rows rt (r.read rt kind subjectId access limit n).2
      (kind, rt.upper (strip subjectId)) (rows n)) {n : ℕ}
    (hmore : ∀ m < n, Pagination.cursors cursorKey limit.toNat rows (m + 1) ≠ none) :
    StandsFor rt (r.cursor n) (Pagination.cursors cursorKey limit.toNat rows n) ∧
      ∃ page, (r.read rt kind subjectId access limit n).1 = .ok page ∧
        page.entries = (Pagination.nthPage cursorKey limit.toNat rows n).map entryOf ∧
        StandsFor rt page.nextCursor (Pagination.cursors cursorKey limit.toNat rows (n + 1)) := by
  -- a read at a cursor that stands for a key returns the page
  have hpage : ∀ m, StandsFor rt (r.cursor m) (Pagination.cursors cursorKey limit.toNat rows m) →
      ∃ page, (r.read rt kind subjectId access limit m).1 = .ok page ∧
        page.entries = (Pagination.nthPage cursorKey limit.toNat rows m).map entryOf ∧
        StandsFor rt page.nextCursor (Pagination.cursors cursorKey limit.toNat rows (m + 1)) := by
    intro m hstands
    have hm := hrows m
    obtain ⟨st, -, heq⟩ := h.step hmay hlimit m
    rw [heq] at hm ⊢
    exact readPage_eq_ok hm hstands
  induction n with
  | zero =>
    have hstart : StandsFor rt (r.cursor 0) none := h.start ▸ .none
    exact ⟨hstart, hpage 0 hstart⟩
  | succ n ih =>
    obtain ⟨-, page, hok, -, hnext⟩ := ih fun m hm => hmore m (by omega)
    have hsome := hmore n (Nat.lt_succ_self n)
    have hstands : StandsFor rt (r.cursor (n + 1))
        (Pagination.cursors cursorKey limit.toNat rows (n + 1)) :=
      h.follow n page hok (hnext.ne_none hsome) ▸ hnext
    exact ⟨hstands, hpage (n + 1) hstands⟩

end Following

end Reader

end TransactionHistoryService

/-! ## A sample reader -/

namespace Sample

end Sample

end RailOne
