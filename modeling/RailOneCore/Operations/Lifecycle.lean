import RailOneCore.Operations.Service

/-!
# The life of a provider submission

A submission is prepared, dispatched one or more times, and completed at most once; each of these
moves is announced by one event.  `SubmissionEffect` lists what one step of a call may do to the
operations store, `OperationsStore.Consistent` is the invariant of the submissions, and
`OperationsStore.Evolves` is what any number of effects leaves true.
-/

namespace RailOne

open Ordered

/-! ## Submissions -/

/-- Two records of one submission: everything that is fixed at preparation coincides. -/
structure SameSubmission (s t : ProviderSubmissionRecord) : Prop where
  submissionId : t.submissionId = s.submissionId
  idempotencyKey : t.idempotencyKey = s.idempotencyKey
  requestSha256 : t.requestSha256 = s.requestSha256
  uttId : t.uttId = s.uttId
  rttId : t.rttId = s.rttId
  providerId : t.providerId = s.providerId

namespace SameSubmission

theorem refl (s : ProviderSubmissionRecord) : SameSubmission s s := ⟨rfl, rfl, rfl, rfl, rfl, rfl⟩

theorem trans {s t u : ProviderSubmissionRecord} (h : SameSubmission s t)
    (h' : SameSubmission t u) : SameSubmission s u :=
  ⟨h'.submissionId.trans h.submissionId, h'.idempotencyKey.trans h.idempotencyKey,
    h'.requestSha256.trans h.requestSha256, h'.uttId.trans h.uttId, h'.rttId.trans h.rttId,
    h'.providerId.trans h.providerId⟩

end SameSubmission

/-- The moves of a submission. -/
inductive SubmissionMove : ProviderSubmissionState → ProviderSubmissionState → Prop
  | dispatch {a : ProviderSubmissionState} (h : a.isFinal = false) : SubmissionMove a .dispatching
  | complete {b : ProviderSubmissionState} (h : b.isFinal = true) : SubmissionMove .dispatching b

namespace SubmissionMove

variable {a b : ProviderSubmissionState}

/-- Completed submissions do not move. -/
theorem not_final (h : SubmissionMove a b) : a.isFinal = false := by
  cases h with
  | dispatch h => exact h
  | complete h => rfl

/-- No submission is prepared again. -/
theorem ne_prepared (h : SubmissionMove a b) : b ≠ .prepared := by
  cases h with
  | dispatch h => simp
  | complete h =>
    rintro rfl
    cases h

end SubmissionMove

/-- The counters and the outcome fields fit the state of the submission. -/
structure ProviderSubmissionRecord.Shape (s : ProviderSubmissionRecord) : Prop where
  prepared : s.state = .prepared → s.version = 1 ∧ s.dispatchAttempts = 0
  dispatching : s.state = .dispatching →
    s.version = s.dispatchAttempts + 1 ∧ 1 ≤ s.dispatchAttempts
  final : s.state.isFinal = true → s.version = s.dispatchAttempts + 2 ∧ 1 ≤ s.dispatchAttempts
  noOutcome : s.state.isFinal = false →
    s.normalizedCode = none ∧ s.externalReference = none ∧ s.rejectionDisposition = none
  rejected : s.state = .rejected ↔ s.rejectionDisposition ≠ none

namespace ProviderSubmissionRecord.Shape

variable {s : ProviderSubmissionRecord}

theorem newSubmission (submissionId : String) (request : ProviderExecutionRequest)
    (instant : Instant) :
    (ProviderSubmissionCoordinator.newSubmission submissionId request instant).Shape where
  prepared _ := ⟨rfl, rfl⟩
  dispatching h := by cases h
  final h := by cases h
  noOutcome _ := ⟨rfl, rfl, rfl⟩
  rejected := by simp [ProviderSubmissionCoordinator.newSubmission]

/-- A submission that is being sent. -/
theorem dispatching' (h : s.Shape) (hs : s.state.isFinal = false) (at_ : Instant) :
    (ProviderSubmissionCoordinator.dispatching s at_).Shape where
  prepared h := by cases h
  dispatching _ := by
    change s.version + 1 = s.dispatchAttempts + 1 + 1 ∧ 1 ≤ s.dispatchAttempts + 1
    cases hst : s.state with
    | prepared =>
      have := h.prepared hst
      omega
    | dispatching =>
      have := h.dispatching hst
      omega
    | accepted | rejected | unknown =>
      rw [hst] at hs
      cases hs
  final h := by cases h
  noOutcome _ := h.noOutcome hs
  rejected := by
    change ProviderSubmissionState.dispatching = .rejected ↔ s.rejectionDisposition ≠ none
    rw [(h.noOutcome hs).2.2]
    simp

/-- A submission that is completed. -/
theorem completed (h : s.Shape) (hs : s.state = .dispatching) {result : ProviderSubmissionResult}
    {u : Unit} (hresult : ProviderSubmissionCoordinator.checkDisposition result = .ok u)
    (code : String) (context : ProviderContext) (at_ : Instant) :
    (ProviderSubmissionCoordinator.completed s result code context at_).Shape := by
  have hdispatching := h.dispatching hs
  have hfinal : result.outcome.state.isFinal = true := by cases result.outcome <;> rfl
  refine ⟨?_, ?_, ?_, ?_, ?_⟩
  · intro hp
    rw [show result.outcome.state = _ from hp] at hfinal
    cases hfinal
  · intro hp
    rw [show result.outcome.state = _ from hp] at hfinal
    cases hfinal
  · intro _
    change s.version + 1 = s.dispatchAttempts + 2 ∧ 1 ≤ s.dispatchAttempts
    omega
  · intro hp
    rw [show result.outcome.state.isFinal = _ from hp] at hfinal
    cases hfinal
  · change result.outcome.state = .rejected ↔ result.rejectionDisposition ≠ none
    unfold ProviderSubmissionCoordinator.checkDisposition at hresult
    split at hresult <;> rename_i hout <;>
      simp_all [ProviderOutcome.state]

end ProviderSubmissionRecord.Shape

/-! ## Events -/

/-- An event without the bookkeeping of its delivery. -/
structure OutboxEvent where
  eventId : String
  aggregateType : String
  aggregateId : String
  eventType : String
  signedEvent : SignatureEnvelope
  deriving DecidableEq

/-- The event of an outbox row. -/
def OutboxRecord.event (row : OutboxRecord) : OutboxEvent :=
  ⟨row.eventId, row.aggregateType, row.aggregateId, row.eventType, row.signedEvent⟩

/-- The event announces the state that the submission is in. -/
structure OutboxEvent.Announces (rt : Runtime) (e : OutboxEvent) (s : ProviderSubmissionRecord)
    (idempotent : Bool) (at_ : Instant) : Prop where
  eventType : e.eventType = s.state.eventType
  aggregateId : e.aggregateId = s.submissionId
  contentId : rt.contentId "EVT" (.obj (s.eventCore idempotent at_)) = .ok e.eventId
  payload : e.signedEvent.payload = ("event_id", .str e.eventId) :: s.eventCore idempotent at_

namespace OperationsStore

/-- The events of the outbox, in the order of their commits. -/
def events (st : OperationsStore) : List OutboxEvent := st.outbox.values.map OutboxRecord.event

/-- The events of one submission. -/
def eventsOf (st : OperationsStore) (submissionId : String) : List OutboxEvent :=
  st.events.filter fun e => e.aggregateId == submissionId

end OperationsStore

/-! ## What a call may do to the store -/

/-- What a step may do to the operations store. -/
inductive SubmissionEffect (d : Deployment) (st : OperationsStore) : OperationsStore → Prop
  | unchanged : SubmissionEffect d st st
  | prepared (s : ProviderSubmissionRecord) (row : OutboxRecord) (at_ : Instant)
      (hfresh : st.submissionsByRtt.get? s.rttId = none)
      (hkey : st.rttByIdempotency.get? s.idempotencyKey = none)
      (hrow : st.outbox.get? row.eventId = none) (hstate : s.state = .prepared) (hshape : s.Shape)
      (hid : ProviderSubmissionCoordinator.submissionIdOf d s.rttId s.requestSha256 =
        .ok s.submissionId)
      (hannounces : row.event.Announces d.rt s false at_) :
      SubmissionEffect d st
        { submissionsByRtt := st.submissionsByRtt.set s.rttId s
          rttByIdempotency := st.rttByIdempotency.set s.idempotencyKey s.rttId
          outbox := st.outbox.set row.eventId row }
  | moved (s t : ProviderSubmissionRecord) (row : OutboxRecord) (idempotent : Bool) (at_ : Instant)
      (hs : st.submissionsByRtt.get? t.rttId = some s) (hsame : SameSubmission s t)
      (hversion : t.version = s.version + 1) (hmove : SubmissionMove s.state t.state)
      (hshape : t.Shape) (hrow : st.outbox.get? row.eventId = none)
      (hannounces : row.event.Announces d.rt t idempotent at_) :
      SubmissionEffect d st
        { st with
          submissionsByRtt := st.submissionsByRtt.set t.rttId t
          outbox := st.outbox.set row.eventId row }
  | relayed (outbox : Dict String OutboxRecord)
      (hkeys : outbox.entries.map (fun p => (p.1, p.2.event)) =
        st.outbox.entries.map fun p => (p.1, p.2.event)) :
      SubmissionEffect d st { st with outbox := outbox }

namespace OperationsStore

/-- The invariant of the submissions and of the keys of the outbox. -/
structure Consistent (d : Deployment) (st : OperationsStore) : Prop where
  key : ∀ {r s}, st.submissionsByRtt.get? r = some s → s.rttId = r
  shape : ∀ {r s}, st.submissionsByRtt.get? r = some s → s.Shape
  submissionId : ∀ {r s}, st.submissionsByRtt.get? r = some s →
    ProviderSubmissionCoordinator.submissionIdOf d s.rttId s.requestSha256 = .ok s.submissionId
  eventKey : ∀ {k row}, st.outbox.get? k = some row → row.eventId = k

theorem Consistent.empty (d : Deployment) : Consistent d OperationsStore.empty :=
  ⟨by simp [OperationsStore.empty], by simp [OperationsStore.empty],
    by simp [OperationsStore.empty], by simp [OperationsStore.empty]⟩

/-- What remains true of a store while calls work on it: submissions persist and change only with
their versions, completed ones never change again, and events are only added. -/
structure Evolves (st st' : OperationsStore) : Prop where
  submission : ∀ {r s}, st.submissionsByRtt.get? r = some s →
    ∃ t, st'.submissionsByRtt.get? r = some t ∧ SameSubmission s t ∧ s.version ≤ t.version ∧
      (t.version = s.version → t = s) ∧ (s.state.isFinal = true → t = s) ∧
      (s.state ≠ .prepared → t.state ≠ .prepared)
  events : st.events <+: st'.events

namespace Evolves

theorem refl (st : OperationsStore) : Evolves st st where
  submission hs := ⟨_, hs, .refl _, le_rfl, fun _ => rfl, fun _ => rfl, fun h => h⟩
  events := List.prefix_rfl

theorem trans {s₁ s₂ s₃ : OperationsStore} (h : Evolves s₁ s₂) (h' : Evolves s₂ s₃) :
    Evolves s₁ s₃ where
  submission := by
    intro r s hs
    obtain ⟨t, ht, hst, hle, hver, hfin, hprep⟩ := h.submission hs
    obtain ⟨u, hu, htu, hle', hver', hfin', hprep'⟩ := h'.submission ht
    refine ⟨u, hu, hst.trans htu, hle.trans hle', ?_, ?_, fun hp => hprep' (hprep hp)⟩
    · intro heq
      have hut := hver' (by omega)
      exact hut.trans (hver (by omega))
    · intro hf
      have hts := hfin hf
      exact (hfin' (hts ▸ hf)).trans hts
  events := h.events.trans h'.events

end Evolves

end OperationsStore

namespace SubmissionEffect

variable {d : Deployment} {st st' : OperationsStore}

theorem consistent (h : SubmissionEffect d st st') (hst : st.Consistent d) : st'.Consistent d := by
  cases h with
  | unchanged => exact hst
  | relayed outbox hkeys =>
    refine ⟨hst.key, hst.shape, hst.submissionId, ?_⟩
    intro k row hrow
    obtain ⟨l₁, l₂, hentries⟩ := Dict.entries_of_get? hrow
    have hmem : (k, row.event) ∈ st.outbox.entries.map fun p => (p.1, p.2.event) := by
      rw [← hkeys, hentries]
      simp
    obtain ⟨⟨k', row'⟩, hmem', heq⟩ := List.mem_map.mp hmem
    rw [Prod.mk.injEq] at heq
    obtain ⟨rfl, hevent⟩ := heq
    have hold := hst.eventKey (Dict.get?_of_mem hmem')
    exact (congrArg OutboxEvent.eventId hevent).symm.trans hold
  | prepared s row at_ hfresh hkey hrow hstate hshape hid hannounces =>
    refine ⟨?_, ?_, ?_, ?_⟩ <;> intro r t ht <;> rw [Dict.get?_set] at ht <;>
      split_ifs at ht with heq
    · cases ht
      exact heq.symm
    · exact hst.key ht
    · cases ht
      exact hshape
    · exact hst.shape ht
    · cases ht
      exact hid
    · exact hst.submissionId ht
    · cases ht
      exact heq.symm
    · exact hst.eventKey ht
  | moved s t row idempotent at_ hs hsame hversion hmove hshape hrow hannounces =>
    refine ⟨?_, ?_, ?_, ?_⟩ <;> intro r u hu <;> rw [Dict.get?_set] at hu <;>
      split_ifs at hu with heq
    · cases hu
      exact heq.symm
    · exact hst.key hu
    · cases hu
      exact hshape
    · exact hst.shape hu
    · cases hu
      rw [hsame.rttId, hsame.requestSha256, hsame.submissionId]
      exact hst.submissionId hs
    · exact hst.submissionId hu
    · cases hu
      exact heq.symm
    · exact hst.eventKey hu

/-- Rewriting the bookkeeping of one row. -/
theorem relayed_set {k : String} {row row' : OutboxRecord} (h : st.outbox.get? k = some row)
    (hevent : row'.event = row.event) :
    SubmissionEffect d st { st with outbox := st.outbox.set k row' } :=
  .relayed _ (Dict.map_entries_set OutboxRecord.event h hevent)

/-- Rewriting the bookkeeping of claimed rows. -/
theorem relayed_claimRows {workerId : String} {at_ : Instant} {leaseSeconds : Int}
    {rows : List OutboxRecord} {outbox : Dict String OutboxRecord}
    (h : ∀ row ∈ rows, ∃ row', outbox.get? row.eventId = some row' ∧ row'.event = row.event) :
    (OperationsStore.claimRows workerId at_ leaseSeconds rows outbox).entries.map
      (fun p => (p.1, p.2.event)) = outbox.entries.map fun p => (p.1, p.2.event) := by
  induction rows generalizing outbox with
  | nil => rfl
  | cons row rows ih =>
    obtain ⟨row', hget, hevent⟩ := h row List.mem_cons_self
    unfold OperationsStore.claimRows
    rw [ih, Dict.map_entries_set OutboxRecord.event hget]
    · exact hevent.symm
    · intro q hq
      rw [Dict.get?_set]
      obtain ⟨q', hq', hqe⟩ := h q (List.mem_cons_of_mem _ hq)
      split_ifs with heq
      · rw [heq, hget] at hq'
        cases hq'
        exact ⟨_, rfl, hevent.symm.trans hqe⟩
      · exact ⟨q', hq', hqe⟩

theorem events_set {row : OutboxRecord} {subs : Dict String ProviderSubmissionRecord}
    {keys : Dict String String} (hrow : st.outbox.get? row.eventId = none) :
    OperationsStore.events ⟨subs, keys, st.outbox.set row.eventId row⟩ =
      st.events ++ [row.event] := by
  rw [OperationsStore.events, Dict.values_set_of_none hrow, List.map_append]
  rfl

theorem events_relayed {outbox : Dict String OutboxRecord}
    (hkeys : outbox.entries.map (fun p => (p.1, p.2.event)) =
      st.outbox.entries.map fun p => (p.1, p.2.event)) :
    OperationsStore.events { st with outbox := outbox } = st.events := by
  have h := congrArg (List.map Prod.snd) hkeys
  simpa [OperationsStore.events, Dict.values, List.map_map, Function.comp_def] using h

/-- Effects only move the store forward. -/
theorem evolves (h : SubmissionEffect d st st') : st.Evolves st' := by
  cases h with
  | unchanged => exact .refl st
  | relayed outbox hkeys =>
    exact ⟨(OperationsStore.Evolves.refl st).submission, by rw [events_relayed hkeys]⟩
  | prepared s row at_ hfresh hkey hrow hstate hshape hid hannounces =>
    refine ⟨?_, (events_set hrow).symm ▸ List.prefix_append _ _⟩
    intro r t ht
    refine ⟨t, ?_, .refl t, le_rfl, fun _ => rfl, fun _ => rfl, fun h => h⟩
    rw [Dict.get?_set, if_neg ?_]
    · exact ht
    · rintro rfl
      rw [hfresh] at ht
      cases ht
  | moved s t row idempotent at_ hs hsame hversion hmove hshape hrow hannounces =>
    refine ⟨?_, (events_set hrow).symm ▸ List.prefix_append _ _⟩
    intro r u hu
    rw [Dict.get?_set]
    split_ifs with heq
    · subst heq
      rw [hs] at hu
      cases hu
      refine ⟨t, rfl, hsame, by omega, by omega, fun hf => ?_, fun _ => hmove.ne_prepared⟩
      rw [hmove.not_final] at hf
      cases hf
    · exact ⟨u, hu, .refl u, le_rfl, fun _ => rfl, fun _ => rfl, fun h => h⟩

end SubmissionEffect

end RailOne
