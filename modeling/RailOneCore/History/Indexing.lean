import RailOneCore.History.Runs
import RailOneCore.Library.Machine

/-!
# Every UTT is indexed once

The indexer trims the identifier that it is called with to find the signed UTT, and keeps the projection
and its links under the identifier as it was written.  Where every UTT is always written in one way, the
history holds one projection of it: the first indexing writes it, later ones return it, and it is one
row in the history of each of its subjects.  Another spelling of the identifier is another key, and then
the UTT is in the history twice.
-/

namespace RailOne

open Machine Ordered TransactionHistoryStore UttTransactionIndexer

/-- A call of `index`, and what the services behind the indexer hold when it is handled. -/
structure IndexCall where
  keys : KeyProvider
  contracts : ContractStore
  known : String → Bool
  uttId : String
  at_ : Datetime

namespace IndexCall

variable (rt : Runtime)

/-- What a call returns or raises. -/
def answer (st : TransactionHistoryStore) (call : IndexCall) : Except Exn UttTransactionProjection :=
  (index rt call.keys call.contracts call.known call.uttId call.at_ st).map Prod.fst

/-- The store after a call; a call that raises has written nothing. -/
def step (st : TransactionHistoryStore) (call : IndexCall) : TransactionHistoryStore :=
  match index rt call.keys call.contracts call.known call.uttId call.at_ st with
  | .ok (_, st') => st'
  | .error _ => st

/-- The signed UTT that a call finds. -/
def signedUtt (call : IndexCall) : Except Exn SignatureEnvelope :=
  call.contracts.requireUtt (strip call.uttId)

/-- The UTT of the call is stored under no other spelling of its identifier. -/
def OneSpelling (st : TransactionHistoryStore) (call : IndexCall) : Prop :=
  ∀ uttId p, st.projections.get? uttId = some p → strip uttId = strip call.uttId → uttId = call.uttId

/-- The history holds at most one projection of each UTT, which is one row in the history of each of
its subjects and in no other history. -/
structure OncePerUtt (st : TransactionHistoryStore) : Prop where
  projection : ∀ {uttId uttId' p p'}, st.projections.get? uttId = some p →
    st.projections.get? uttId' = some p' → strip uttId = strip uttId' → uttId = uttId'
  rows : ∀ subject, ∃ rows, st.listForSubject subject = .ok rows ∧
    ∀ {uttId p}, st.projections.get? uttId = some p →
      ∃ links, st.linksByUtt.get? uttId = some links ∧
        rows.countP (fun row => strip row.1.uttId = strip uttId) =
          if subject ∈ links.map TransactionSubjectLink.subject then 1 else 0

/-- A call returns the projection that is stored then, and leaves alone what was stored before. -/
structure FirstWins (st : TransactionHistoryStore) (call : IndexCall) : Prop where
  kept : st.Grows (step rt st call)
  stored : ∀ {q}, answer rt st call = .ok q → (step rt st call).projections.get? call.uttId = some q
  found : ∀ {uttId p}, st.projections.get? uttId = some p → strip uttId = strip call.uttId →
    step rt st call = st ∧ ∀ q, answer rt st call = .ok q → q = p

variable {rt} {st st' : TransactionHistoryStore} {call : IndexCall}

/-! ## One call -/

/-- A call that is accepted commits a projection of the signed UTT that it finds, whatever the store. -/
theorem exists_commit {q : UttTransactionProjection}
    (h : index rt call.keys call.contracts call.known call.uttId call.at_ st = .ok (q, st')) :
    ∃ p links signedUtt, p.uttId = call.uttId ∧ call.signedUtt = .ok signedUtt ∧
      signedUtt.header.item "payload_sha256" = .ok p.uttPayloadSha256 ∧
      ∀ st, index rt call.keys call.contracts call.known call.uttId call.at_ st = st.commit p links := by
  simp only [index, bind_eq_ok] at h
  obtain ⟨indexedAt, hat, trimmed, htext, utt, hutt, verification, hverify, valid, hvalid, origin,
    horigin, p, hp, roles, hroles, -⟩ := h
  obtain ⟨rfl, -⟩ := requireText_eq_ok.mp htext
  have hfields : p.uttId = call.uttId ∧ utt.header.item "payload_sha256" = .ok p.uttPayloadSha256 := by
    simp only [projection, bind_eq_ok, pure_eq_ok] at hp
    obtain ⟨sha, hsha, _, -, _, -, _, -, _, -, _, -, _, -, _, -, _, -, _, -, _, -, rfl⟩ := hp
    exact ⟨rfl, hsha⟩
  refine ⟨p, links call.uttId indexedAt roles, utt, hfields.1, hutt, hfields.2, fun st => ?_⟩
  simp only [index, hat, htext, hutt, hverify, hvalid, horigin, hp, hroles, bind, Except.bind]

/-- A call raises and writes nothing, or commits a projection of the signed UTT that it finds. -/
theorem step_cases (rt : Runtime) (st : TransactionHistoryStore) (call : IndexCall) :
    (∃ exn, answer rt st call = .error exn) ∧ step rt st call = st ∨
      ∃ q p links signedUtt, answer rt st call = .ok q ∧ p.uttId = call.uttId ∧
        call.signedUtt = .ok signedUtt ∧
        signedUtt.header.item "payload_sha256" = .ok p.uttPayloadSha256 ∧
        st.commit p links = .ok (q, step rt st call) ∧
        index rt call.keys call.contracts call.known call.uttId call.at_ st =
          .ok (q, step rt st call) := by
  cases hindex : index rt call.keys call.contracts call.known call.uttId call.at_ st with
  | error exn =>
    refine .inl ⟨⟨exn, ?_⟩, ?_⟩
    · rw [answer, hindex]
      rfl
    · rw [step, hindex]
  | ok result =>
    obtain ⟨q, st'⟩ := result
    obtain ⟨p, links, signedUtt, hid, hutt, hsha, hcommit⟩ := exists_commit hindex
    have hstep : step rt st call = st' := by rw [step, hindex]
    refine .inr ⟨q, p, links, signedUtt, ?_, hid, hutt, hsha, ?_, ?_⟩
    · rw [answer, hindex]
      rfl
    · rw [hstep, ← hcommit, hindex]
    · rw [hstep]

/-- What a commit finds under the identifier, or writes. -/
theorem commit_cases {p q : UttTransactionProjection} {links : List TransactionSubjectLink}
    (h : st.commit p links = .ok (q, st')) :
    (st' = st ∧ st.projections.get? p.uttId = some q ∧ q.uttPayloadSha256 = p.uttPayloadSha256) ∨
      (q = p ∧ st.projections.get? p.uttId = none ∧
        st'.projections = st.projections.set p.uttId p) := by
  unfold commit at h
  split at h
  · next existing hfound =>
    split_ifs at h with hsha
    cases h
    exact .inl ⟨rfl, hfound, not_not.mp hsha⟩
  · next hnone =>
    split_ifs at h
    cases h
    exact .inr ⟨rfl, hnone, rfl⟩

/-- The projection that a call returns is stored under its identifier, and is one of the signed UTT. -/
theorem stored_of_answer {q : UttTransactionProjection} (h : answer rt st call = .ok q) :
    (step rt st call).projections.get? call.uttId = some q ∧ ∃ signedUtt,
      call.signedUtt = .ok signedUtt ∧ signedUtt.header.item "payload_sha256" = .ok q.uttPayloadSha256 := by
  rcases step_cases rt st call with ⟨⟨exn, hexn⟩, -⟩ | ⟨q', p, links, signedUtt, hq, hid, hutt, hsha, hcommit, -⟩
  · cases h.symm.trans hexn
  · obtain rfl := Except.ok.inj (h.symm.trans hq)
    rcases commit_cases hcommit with ⟨hst, hfound, heq⟩ | ⟨rfl, -, hprojections⟩
    · rw [hst, ← hid]
      exact ⟨hfound, signedUtt, hutt, heq ▸ hsha⟩
    · rw [hprojections, ← hid]
      exact ⟨Dict.get?_set_self _ _ _, signedUtt, hutt, hsha⟩

/-- A call whose UTT is stored changes nothing, and returns what is stored if it returns. -/
theorem step_of_found {p : UttTransactionProjection}
    (hfound : st.projections.get? call.uttId = some p) :
    step rt st call = st ∧ ∀ q, answer rt st call = .ok q → q = p := by
  rcases step_cases rt st call with ⟨⟨exn, hexn⟩, hst⟩ | ⟨q, p', links, -, hq, hid, -, -, hcommit, -⟩
  · refine ⟨hst, fun q h => ?_⟩
    cases h.symm.trans hexn
  · rcases commit_cases hcommit with ⟨hst, hget, -⟩ | ⟨-, hnone, -⟩
    · rw [hid, hfound] at hget
      refine ⟨hst, fun q' h => ?_⟩
      rw [← Except.ok.inj (hq.symm.trans h)]
      exact (Option.some.inj hget).symm
    · rw [hid, hfound] at hnone
      cases hnone

/-- A call that would be accepted as the first one returns the projection of its UTT that is stored. -/
theorem answer_of_found {p q : UttTransactionProjection} {signedUtt : SignatureEnvelope}
    (haccepted : answer rt .empty call = .ok q) (hfound : st.projections.get? call.uttId = some p)
    (hutt : call.signedUtt = .ok signedUtt)
    (hsha : signedUtt.header.item "payload_sha256" = .ok p.uttPayloadSha256) :
    answer rt st call = .ok p := by
  rcases step_cases rt .empty call with ⟨⟨exn, hexn⟩, -⟩ | ⟨_, _, _, _, -, -, -, -, -, hindex⟩
  · cases haccepted.symm.trans hexn
  · obtain ⟨p', links, signedUtt', hid, hutt', hsha', hcommit⟩ := exists_commit hindex
    obtain rfl := Except.ok.inj (hutt.symm.trans hutt')
    have hsame : ¬ p.uttPayloadSha256 ≠ p'.uttPayloadSha256 :=
      not_not.mpr (Except.ok.inj (hsha.symm.trans hsha'))
    have hcommitted : st.commit p' links = .ok (p, st) := by
      rw [commit, hid, hfound]
      exact if_neg hsame
    rw [answer, hcommit, hcommitted]
    rfl

/-! ## Runs -/

/-- What every call keeps: the maps of the store fit together, and no two keys are spellings of one
identifier. -/
structure Kept (st : TransactionHistoryStore) : Prop where
  consistent : st.Consistent (Indexed fun _ => True)
  spelling : ∀ {uttId uttId' p p'}, st.projections.get? uttId = some p →
    st.projections.get? uttId' = some p' → strip uttId = strip uttId' → uttId = uttId'

theorem kept_empty : Kept .empty := ⟨.empty, nofun⟩

theorem step_keeps (hst : st.Consistent (Indexed fun _ => True)) :
    (step rt st call).Consistent (Indexed fun _ => True) ∧ st.Grows (step rt st call) := by
  rcases step_cases rt st call with ⟨-, hstep⟩ | ⟨q, _, _, _, _, _, _, _, _, hindex⟩
  · rw [hstep]
    exact ⟨hst, .refl st⟩
  · obtain ⟨p, links, hindexed, hcommit⟩ := index_eq_ok (I := fun _ => True) trivial hindex
    exact hst.commit hindexed hcommit

theorem Kept.step (h : Kept st) (hcall : OneSpelling st call) : Kept (step rt st call) := by
  refine ⟨(step_keeps h.consistent).1, ?_⟩
  rcases step_cases rt st call with ⟨-, hstep⟩ | ⟨q, p, links, -, -, hid, -, -, hcommit, -⟩
  · rw [hstep]
    exact h.spelling
  · rcases commit_cases hcommit with ⟨hstep, -, -⟩ | ⟨-, -, hprojections⟩
    · rw [hstep]
      exact h.spelling
    · intro uttId uttId' p₁ p₂ h₁ h₂ hstrip
      rw [hprojections, hid, Dict.get?_set] at h₁ h₂
      split_ifs at h₁ h₂ with heq heq' heq'
      · exact heq.trans heq'.symm
      · exact heq.trans (hcall uttId' p₂ h₂ (hstrip.symm.trans (congrArg strip heq))).symm
      · exact (hcall uttId p₁ h₁ (hstrip.trans (congrArg strip heq'))).trans heq'.symm
      · exact h.spelling h₁ h₂ hstrip

/-- The rows of a UTT in the history of a subject. -/
theorem countP_rows (h : Kept st) {subject : SubjectKind × String} {rows : List HistoryRow}
    (hsorted : Sorted rows) (hmem : ∀ row, row ∈ rows ↔ st.Linked subject row.1 row.2)
    {uttId : String} {p : UttTransactionProjection} (hp : st.projections.get? uttId = some p)
    {links : List TransactionSubjectLink} (hlinks : st.linksByUtt.get? uttId = some links)
    (hnodup : (links.map TransactionSubjectLink.subject).Nodup) :
    rows.countP (fun row => strip row.1.uttId = strip uttId) =
      if subject ∈ links.map TransactionSubjectLink.subject then 1 else 0 := by
  -- a row of the UTT is its projection with its link to the subject
  have hrow : ∀ row ∈ rows, strip row.1.uttId = strip uttId →
      row.1 = p ∧ row.2 ∈ links ∧ row.2.subject = subject := by
    intro row hrow hstrip
    obtain ⟨hprojection, links', hlinks', hlink, hsubject⟩ := (hmem row).mp hrow
    have hid := h.spelling hprojection hp hstrip
    rw [hid] at hprojection hlinks'
    obtain rfl := Option.some.inj (hlinks.symm.trans hlinks')
    exact ⟨(Option.some.inj (hp.symm.trans hprojection)).symm, hlink, hsubject⟩
  split_ifs with hsubject
  · obtain ⟨link, hlink, rfl⟩ := List.mem_map.mp hsubject
    have hkey := h.consistent.key hp
    have hin : (p, link) ∈ rows := (hmem _).mpr ⟨hkey.symm ▸ hp, links, hkey.symm ▸ hlinks, hlink, rfl⟩
    have hdistinct : rows.Nodup := by
      refine List.Pairwise.imp (fun hlt heq => ?_) hsorted
      subst heq
      exact lt_irrefl _ hlt
    rw [← List.count_eq_one_of_mem hdistinct hin, List.count]
    refine List.countP_congr fun row hmember => ?_
    rw [decide_eq_true_iff, beq_iff_eq]
    constructor
    · intro hstrip
      obtain ⟨hprojection, hlink', hsubject'⟩ := hrow row hmember hstrip
      exact Prod.ext hprojection (List.inj_on_of_nodup_map hnodup hlink' hlink hsubject')
    · rintro rfl
      exact congrArg strip hkey
  · refine List.countP_eq_zero.mpr fun row hmember hstrip => hsubject ?_
    obtain ⟨-, hlink, heq⟩ := hrow row hmember (of_decide_eq_true hstrip)
    exact List.mem_map.mpr ⟨row.2, hlink, heq⟩

theorem Kept.oncePerUtt (h : Kept st) : OncePerUtt st where
  projection := h.spelling
  rows subject := by
    obtain ⟨rows, hrows, hsorted, hmem⟩ := listForSubject_eq_ok h.consistent subject
    refine ⟨rows, hrows, fun hp => ?_⟩
    obtain ⟨links, hlinks, -, hnodup⟩ := h.consistent.links hp
    exact ⟨links, hlinks, countP_rows h hsorted hmem hp hlinks hnodup⟩

theorem Kept.firstWins (h : Kept st) (hcall : OneSpelling st call) : FirstWins rt st call where
  kept := (step_keeps h.consistent).2
  stored hanswer := (stored_of_answer hanswer).1
  found hp hstrip := by
    obtain rfl := hcall _ _ hp hstrip
    exact step_of_found hp

theorem grows_after (rt : Runtime) (calls : List IndexCall) (hst : st.Consistent (Indexed fun _ => True)) :
    st.Grows (after (step rt) st calls) := by
  induction calls generalizing st with
  | nil => exact .refl st
  | cons call calls ih =>
    have hstep : (step rt st call).Consistent (Indexed fun _ => True) ∧ st.Grows (step rt st call) :=
      step_keeps hst
    exact hstep.2.trans (ih hstep.1)

/-- In a run in which no UTT is indexed under a second spelling of its identifier, the history holds one
projection of each UTT after every call, the first indexing of a UTT wins, and a later call for the same
signed UTT, if it would be accepted as the first, returns what the first one returned. -/
theorem indexed_once {calls : List IndexCall} (h : Throughout (step rt) OneSpelling .empty calls) :
    Throughout (step rt) (fun st call => FirstWins rt st call ∧ OncePerUtt (step rt st call)) .empty calls ∧
      ∀ before first between later rest, calls = before ++ first :: (between ++ later :: rest) →
        strip later.uttId = strip first.uttId → later.signedUtt = first.signedUtt →
        (∃ q, answer rt .empty later = .ok q) →
        ∀ p, answer rt (after (step rt) .empty before) first = .ok p →
          answer rt (after (step rt) .empty (before ++ first :: between)) later = .ok p := by
  have hstep : ∀ st call, Kept st → OneSpelling st call → Kept (step rt st call) :=
    fun _ _ hst hcall => hst.step hcall
  have hkept := (invariant hstep kept_empty h).2
  refine ⟨hkept.mono fun st call hst => ⟨hst.1.firstWins hst.2, (hst.1.step hst.2).oncePerUtt⟩, ?_⟩
  rintro before first between later rest rfl hstrip hutt ⟨q, haccepted⟩ p hfirst
  obtain ⟨-, hfirst', hlater⟩ := throughout_append.mp hkept
  obtain ⟨-, hlater, -⟩ := throughout_append.mp hlater
  obtain ⟨hstored, signedUtt, hsigned, hsha⟩ := stored_of_answer hfirst
  have hfound := (grows_after rt between (step_keeps hfirst'.1.consistent).1).projections hstored
  rw [after_append, after_cons]
  have hid : first.uttId = later.uttId := hlater.2 _ _ hfound hstrip.symm
  exact answer_of_found haccepted (hid ▸ hfound) (hutt.trans hsigned) hsha

end IndexCall

namespace Sample

open IndexCall

/-- The payment to the shop is indexed, with its identifier written in some way. -/
def indexShop (uttId : String) : IndexCall where
  keys := uttKeys
  contracts := { ContractStore.empty with
    utts := Dict.empty.set (paymentId "SHOP") ((SignatureService.signArtifact wideRuntime uttKeys .utt
      (paymentTo "SHOP") "EXEC" (seconds 1000)).toOption.getD default) }
  known _ := false
  uttId := uttId
  at_ := .aware (seconds 2000)

/-- The payment is indexed twice under one spelling: the second call returns the projection too. -/
theorem indexed_once_shop : ∃ p,
    answer wideRuntime (after (step wideRuntime) .empty [indexShop (paymentId "SHOP")])
      (indexShop (paymentId "SHOP")) = .ok p := by
  have haccepted : (answer wideRuntime .empty (indexShop (paymentId "SHOP"))).isOk = true := by
    decide +kernel
  obtain ⟨p, hp⟩ := exists_of_isOk haccepted
  have hfirst : OneSpelling .empty (indexShop (paymentId "SHOP")) := nofun
  have hsecond : OneSpelling (step wideRuntime .empty (indexShop (paymentId "SHOP")))
      (indexShop (paymentId "SHOP")) := by
    have hkeys : (step wideRuntime .empty (indexShop (paymentId "SHOP"))).projections.entries.all
        (fun entry => entry.1 = paymentId "SHOP") = true := by decide +kernel
    intro uttId p hget _
    obtain ⟨l₁, l₂, hentries⟩ := Dict.entries_of_get? hget
    rw [hentries] at hkeys
    exact of_decide_eq_true (List.all_eq_true.mp hkeys (uttId, p)
      (List.mem_append_right _ List.mem_cons_self))
  have hcalls : Throughout (step wideRuntime) OneSpelling .empty
      [indexShop (paymentId "SHOP"), indexShop (paymentId "SHOP")] := ⟨hfirst, hsecond, trivial⟩
  exact ⟨p, (indexed_once hcalls).2 [] (indexShop (paymentId "SHOP")) [] (indexShop (paymentId "SHOP")) []
    rfl rfl rfl ⟨p, hp⟩ p hp⟩

/-- A space after the identifier: the shop has two rows of one payment. -/
theorem indexed_twice_padded :
    strip (paymentId "SHOP" ++ " ") = paymentId "SHOP" ∧
    ((after (step wideRuntime) .empty [indexShop (paymentId "SHOP"), indexShop (paymentId "SHOP" ++ " ")]
      ).listForSubject (.merchantId, "SHOP")).map (List.map fun row => strip row.1.uttId) =
        .ok [paymentId "SHOP", paymentId "SHOP"] :=
  ⟨by decide +kernel, by decide +kernel⟩

end Sample

end RailOne
