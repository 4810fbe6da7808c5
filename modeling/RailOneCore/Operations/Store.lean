import RailOneCore.Contracts.Models
import RailOneCore.Operations.Models

/-!
# The operations store

`InMemoryOperationsStore` keeps the submissions, the RTT of each idempotency key, and the outbox.
`prepare` and `transition` write a submission together with one outbox event; the relay operations
(`claim_outbox`, `mark_published`, `reschedule`) change only the delivery bookkeeping of events.
-/

namespace RailOne

open Ordered

/-- `InMemoryOperationsStore`. -/
structure OperationsStore where
  submissionsByRtt : Dict String ProviderSubmissionRecord
  rttByIdempotency : Dict String String
  outbox : Dict String OutboxRecord

namespace OperationsStore

/-- The store without submissions. -/
def empty : OperationsStore := ⟨.empty, .empty, .empty⟩

/-! ## Submissions -/

/-- `prepare`. -/
def prepare (st : OperationsStore) (submission : ProviderSubmissionRecord) (event : OutboxRecord) :
    Except Exn (ProviderSubmissionRecord × OperationsStore) :=
  match st.submissionsByRtt.get? submission.rttId with
  | some existing =>
    if existing.requestSha256 ≠ submission.requestSha256 ∨
        existing.idempotencyKey ≠ submission.idempotencyKey then
      .error ⟨.runtimeError, "provider submission preparation conflict"⟩
    else .ok (existing, st)
  | none =>
    match st.rttByIdempotency.get? submission.idempotencyKey with
    | some priorRtt =>
      .error ⟨.runtimeError, "provider idempotency key already belongs to " ++ priorRtt⟩
    | none =>
      if (st.outbox.get? event.eventId).isSome then
        .error ⟨.runtimeError, "outbox event identifier collision"⟩
      else .ok (submission,
        { submissionsByRtt := st.submissionsByRtt.set submission.rttId submission
          rttByIdempotency := st.rttByIdempotency.set submission.idempotencyKey submission.rttId
          outbox := st.outbox.set event.eventId event })

/-- `find_by_external_reference`: the first match in the order of preparation. -/
def findByExternalReference (st : OperationsStore) (providerId externalReference : String) :
    Option ProviderSubmissionRecord :=
  st.submissionsByRtt.values.find? fun s =>
    s.providerId == providerId && s.externalReference == some externalReference

/-- `transition`. -/
def transition (st : OperationsStore) (previousVersion : ℕ)
    (submission : ProviderSubmissionRecord) (event : OutboxRecord) :
    Except Exn (Unit × OperationsStore) :=
  match st.submissionsByRtt.get? submission.rttId with
  | none =>
    .error ⟨.submissionNotFound, "provider submission not found: " ++ submission.rttId⟩
  | some current =>
    if current.version ≠ previousVersion then
      .error ⟨.concurrentSubmissionUpdate, "provider submission changed concurrently"⟩
    else if submission.version ≠ previousVersion + 1 then
      .error ⟨.valueError, "submission version must advance exactly once"⟩
    else if (st.outbox.get? event.eventId).isSome then
      .error ⟨.runtimeError, "outbox event identifier collision"⟩
    else .ok ((),
      { st with
        submissionsByRtt := st.submissionsByRtt.set submission.rttId submission
        outbox := st.outbox.set event.eventId event })

/-! ## Delivery -/

/-- The rows that a relay may claim at `at`: pending and due, or in flight with an expired lease. -/
def claimable (at_ : Instant) (row : OutboxRecord) : Bool :=
  (row.deliveryState == .pending && row.availableAt ≤ at_) ||
    (row.deliveryState == .inFlight &&
      match row.leaseUntil with
      | some until_ => decide (until_ ≤ at_)
      | none => false)

/-- The sort key `(available_at, event_id)`. -/
def dueBefore (a b : OutboxRecord) : Prop :=
  a.availableAt < b.availableAt ∨ (a.availableAt = b.availableAt ∧ a.eventId ≤ b.eventId)

instance : DecidableRel dueBefore := fun a b =>
  inferInstanceAs (Decidable (a.availableAt < b.availableAt ∨
    (a.availableAt = b.availableAt ∧ a.eventId ≤ b.eventId)))

/-- A row that `workerId` has claimed at `at_`. -/
def claimed (workerId : String) (at_ : Instant) (leaseSeconds : Int) (row : OutboxRecord) :
    OutboxRecord :=
  { row with
    deliveryState := .inFlight
    deliveryAttempts := row.deliveryAttempts + 1
    leaseOwner := some workerId
    leaseUntil := some (at_ + seconds leaseSeconds)
    version := row.version + 1
    updatedAt := at_ }

/-- The loop of `claim_outbox` over the selected rows. -/
def claimRows (workerId : String) (at_ : Instant) (leaseSeconds : Int) :
    List OutboxRecord → Dict String OutboxRecord → Dict String OutboxRecord
  | [], outbox => outbox
  | row :: rows, outbox =>
    claimRows workerId at_ leaseSeconds rows
      (outbox.set row.eventId (claimed workerId at_ leaseSeconds row))

/-- `claim_outbox`. -/
def claimOutbox (st : OperationsStore) (workerId : String) (at_ : Instant)
    (leaseSeconds limit : Int) : Except Exn (List OutboxRecord × OperationsStore) :=
  if strip workerId = "" then .error ⟨.valueError, "outbox worker_id is required"⟩
  else if ¬ (1 ≤ leaseSeconds ∧ leaseSeconds ≤ 300) then
    .error ⟨.valueError, "outbox lease_seconds must be between 1 and 300"⟩
  else if ¬ (1 ≤ limit ∧ limit ≤ 1000) then
    .error ⟨.valueError, "outbox claim limit must be between 1 and 1000"⟩
  else
    let eligible := (st.outbox.values.filter (claimable at_)).insertionSort dueBefore
    let rows := eligible.take limit.toNat
    .ok (rows.map (claimed workerId at_ leaseSeconds),
      { st with outbox := claimRows workerId at_ leaseSeconds rows st.outbox })

/-- `_require_owned_event`. -/
def requireOwnedEvent (st : OperationsStore) (eventId workerId : String) :
    Except Exn OutboxRecord :=
  match st.outbox.get? eventId with
  | none => .error ⟨.lookupError, "outbox event not found: " ++ eventId⟩
  | some row =>
    if row.deliveryState ≠ .inFlight ∨ row.leaseOwner ≠ some workerId then
      .error ⟨.permissionError, "worker does not own the outbox lease"⟩
    else .ok row

/-- `mark_published`. -/
def markPublished (st : OperationsStore) (eventId workerId : String) (at_ : Instant) :
    Except Exn (OutboxRecord × OperationsStore) := do
  let row ← st.requireOwnedEvent eventId workerId
  let updated : OutboxRecord :=
    { row with
      deliveryState := .published
      leaseOwner := none
      leaseUntil := none
      lastError := none
      publishedAt := some at_
      version := row.version + 1
      updatedAt := at_ }
  return (updated, { st with outbox := st.outbox.set eventId updated })

/-- `reschedule`. -/
def reschedule (st : OperationsStore) (eventId workerId : String) (at_ availableAt : Instant)
    (error : String) (maxAttempts : Int) : Except Exn (OutboxRecord × OperationsStore) :=
  if strip error = "" then .error ⟨.valueError, "outbox failure error is required"⟩
  else if ¬ (1 ≤ maxAttempts ∧ maxAttempts ≤ 100) then
    .error ⟨.valueError, "outbox max_attempts must be between 1 and 100"⟩
  else do
    let row ← st.requireOwnedEvent eventId workerId
    let updated : OutboxRecord :=
      { row with
        deliveryState := if maxAttempts ≤ row.deliveryAttempts then .deadLetter else .pending
        availableAt := availableAt
        leaseOwner := none
        leaseUntil := none
        lastError := some (truncate error 1000)
        version := row.version + 1
        updatedAt := at_ }
    return (updated, { st with outbox := st.outbox.set eventId updated })

/-! ## What the operations find and do -/

/-- A prepared submission is the stored one with the same request, or a new one with its event. -/
theorem prepare_eq_ok {st st' : OperationsStore} {submission stored : ProviderSubmissionRecord}
    {event : OutboxRecord} (h : st.prepare submission event = .ok (stored, st')) :
    (st' = st ∧ st.submissionsByRtt.get? submission.rttId = some stored ∧
        stored.requestSha256 = submission.requestSha256 ∧
        stored.idempotencyKey = submission.idempotencyKey) ∨
      (stored = submission ∧ st.submissionsByRtt.get? submission.rttId = none ∧
        st.rttByIdempotency.get? submission.idempotencyKey = none ∧
        st.outbox.get? event.eventId = none ∧
        st' = { submissionsByRtt := st.submissionsByRtt.set submission.rttId submission
                rttByIdempotency :=
                  st.rttByIdempotency.set submission.idempotencyKey submission.rttId
                outbox := st.outbox.set event.eventId event }) := by
  unfold prepare at h
  split at h
  · next existing hex =>
    split_ifs at h with hne
    cases h
    rw [not_or, not_not, not_not] at hne
    exact .inl ⟨rfl, hex, hne.1, hne.2⟩
  · next hnone =>
    split at h
    · cases h
    · next hkey =>
      split_ifs at h with hev
      cases h
      exact .inr ⟨rfl, hnone, hkey, by simpa using hev, rfl⟩

/-- A committed transition found the submission at the expected version. -/
theorem transition_eq_ok {st st' : OperationsStore} {v : ℕ}
    {submission : ProviderSubmissionRecord} {event : OutboxRecord} {u : Unit}
    (h : st.transition v submission event = .ok (u, st')) :
    (∃ current, st.submissionsByRtt.get? submission.rttId = some current ∧
        current.version = v) ∧
      submission.version = v + 1 ∧ st.outbox.get? event.eventId = none ∧
      st' = { st with
        submissionsByRtt := st.submissionsByRtt.set submission.rttId submission
        outbox := st.outbox.set event.eventId event } := by
  unfold transition at h
  split at h
  · cases h
  · next current hcur =>
    split_ifs at h with h₁ h₂ h₃
    cases h
    exact ⟨⟨current, hcur, not_not.mp h₁⟩, not_not.mp h₂, by simpa using h₃, rfl⟩

/-- A row that is owned is in the outbox. -/
theorem requireOwnedEvent_eq_ok {st : OperationsStore} {eventId workerId : String}
    {row : OutboxRecord} (h : st.requireOwnedEvent eventId workerId = .ok row) :
    st.outbox.get? eventId = some row := by
  unfold requireOwnedEvent at h
  split at h
  · cases h
  · next hrow =>
    split_ifs at h
    cases h
    exact hrow

/-- The found submission is stored, and carries the reference it was looked up by. -/
theorem findByExternalReference_eq_some {st : OperationsStore} {providerId ref : String}
    {s : ProviderSubmissionRecord} (h : st.findByExternalReference providerId ref = some s) :
    (∃ rttId, st.submissionsByRtt.get? rttId = some s) ∧ s.providerId = providerId ∧
      s.externalReference = some ref := by
  have hp := List.find?_some h
  rw [Bool.and_eq_true, beq_iff_eq, beq_iff_eq] at hp
  exact ⟨Dict.mem_values.mp (List.mem_of_find?_eq_some h), hp⟩

end OperationsStore

end RailOne
