import RailOneCore.Library.LatestWins
import RailOneCore.Library.Machine
import RailOneCore.Operations.Completion
import RailOneCore.Projection.Service

/-!
# Projections converge

The events of the outbox reach the projector in any order, some of them several times and some of them
not at all.  Whatever has been delivered, the projection of a submission is the one of the highest
version that has been accepted: it depends on the set of the accepted events only, it never goes back,
and once every event of a submission has been accepted it says what the stored submission says.
-/

namespace RailOne

open Concurrent Ordered LatestWins

/-! ## Events and the submissions that they announce -/

theorem SameSubmission.symm {s t : ProviderSubmissionRecord} (h : SameSubmission s t) :
    SameSubmission t s :=
  ⟨h.submissionId.symm, h.idempotencyKey.symm, h.requestSha256.symm, h.uttId.symm, h.rttId.symm,
    h.providerId.symm⟩

/-- What an event says of two records, it says of the one what it says of the other. -/
theorem OutboxEvent.Describes.agree {e : OutboxEvent} {s t : ProviderSubmissionRecord}
    (hs : e.Describes s) (ht : e.Describes t) :
    s.state = t.state ∧ s.version = t.version ∧ s.normalizedCode = t.normalizedCode ∧
      s.externalReference = t.externalReference ∧ s.rejectionDisposition = t.rejectionDisposition := by
  obtain ⟨data, hdata, hcode, href, hdisposition⟩ := hs.outcome
  obtain ⟨data', hdata', hcode', href', hdisposition'⟩ := ht.outcome
  rw [hdata, Option.some.injEq, Json.obj.injEq] at hdata'
  subst hdata'
  have hversion : (s.version : Int) = t.version := by
    simpa using hs.version.symm.trans ht.version
  have hvalue : Function.Injective RejectionDisposition.value := by
    intro a b h
    cases a <;> cases b <;> first | rfl | exact absurd h (by decide)
  refine ⟨ProviderSubmissionState.eventType_injective (hs.eventType.symm.trans ht.eventType), ?_,
    Json.ofOption_injective (hcode.symm.trans hcode'), Json.ofOption_injective (href.symm.trans href'),
    ?_⟩
  · exact_mod_cast hversion
  · exact Option.map_injective hvalue (Json.ofOption_injective (hdisposition.symm.trans hdisposition'))

namespace OperationsStore

variable {d : Deployment} {st st' : OperationsStore}

/-- Every event announces a version of a stored submission. -/
def Attributed (rt : Runtime) (st : OperationsStore) : Prop :=
  ∀ e ∈ st.events, ∃ r s t idempotent at_, st.submissionsByRtt.get? r = some s ∧ SameSubmission s t ∧
    t.Shape ∧ e.Announces rt t idempotent at_

theorem attributed_of_effect (h : SubmissionEffect d st st') (hst : st.Attributed d.rt) :
    st'.Attributed d.rt := by
  have hkeep : ∀ e ∈ st.events, ∃ r s t idempotent at_, st'.submissionsByRtt.get? r = some s ∧
      SameSubmission s t ∧ t.Shape ∧ e.Announces d.rt t idempotent at_ := by
    intro e he
    obtain ⟨r, s, t, idempotent, at_, hs, hsame, hshape, hannounces⟩ := hst e he
    obtain ⟨u, hu, hsame', -⟩ := h.evolves.submission hs
    exact ⟨r, u, t, idempotent, at_, hu, hsame'.symm.trans hsame, hshape, hannounces⟩
  intro e he
  cases h with
  | unchanged => exact hst e he
  | relayed outbox hkeys =>
    rw [SubmissionEffect.events_relayed hkeys] at he
    exact hkeep e he
  | prepared s row at_ hfresh hkey hrow hstate hshape hid hannounces =>
    rw [SubmissionEffect.events_set hrow, List.mem_append, List.mem_singleton] at he
    rcases he with he | rfl
    · exact hkeep e he
    · exact ⟨s.rttId, s, s, false, at_, Dict.get?_set_self _ _ _, .refl s, hshape, hannounces⟩
  | moved s t row idempotent at_ hs hsame hversion hmove hshape hrow hannounces =>
    rw [SubmissionEffect.events_set hrow, List.mem_append, List.mem_singleton] at he
    rcases he with he | rfl
    · exact hkeep e he
    · exact ⟨t.rttId, t, t, idempotent, at_, Dict.get?_set_self _ _ _, .refl t, hshape, hannounces⟩

theorem attributed_of_reachable {w₀ : World} {x : Config Op.Resp Call Exn Reply World}
    (hops : w₀.operations = .empty) (hinvocations : w₀.invocations = [])
    (hx : (system d).Reachable w₀ x) : x.state.operations.Attributed d.rt := by
  induction hx with
  | refl =>
    change w₀.operations.Attributed d.rt
    rw [hops]
    rintro e ⟨⟩
  | tail hprior hstep ih =>
    cases hstep with
    | spawn c => exact ih
    | perform i c o hp =>
      exact attributed_of_effect (Operations.effect_of_performs hops hinvocations hprior hp).2 ih

/-- Events are told apart by their identifiers. -/
theorem Consistent.event_eq (h : st.Consistent d) {e e' : OutboxEvent} (he : e ∈ st.events)
    (he' : e' ∈ st.events) (hid : e.eventId = e'.eventId) : e = e' := by
  obtain ⟨row, hrow, rfl⟩ := List.mem_map.mp he
  obtain ⟨row', hrow', rfl⟩ := List.mem_map.mp he'
  obtain ⟨k, hk⟩ := Dict.mem_values.mp hrow
  obtain ⟨k', hk'⟩ := Dict.mem_values.mp hrow'
  have hkey : k = k' := (h.eventKey hk).symm.trans (hid.trans (h.eventKey hk'))
  rw [hkey, hk', Option.some.injEq] at hk
  rw [hk]

/-- The events of a submission, and among them the one of its current version. -/
theorem Annals.events (h : st.Annals d) {r : String} {s : ProviderSubmissionRecord}
    (hs : st.submissionsByRtt.get? r = some s) :
    (∀ e ∈ st.eventsOf s.submissionId, ∀ e' ∈ st.eventsOf s.submissionId, ∀ t t', e.Describes t →
      e'.Describes t' → t.version = t'.version → e = e') ∧
    (∃ e ∈ st.eventsOf s.submissionId, e.Describes s) ∧
    ∀ e ∈ st.eventsOf s.submissionId, ∀ t, e.Describes t → t.version ≤ s.version := by
  obtain ⟨l, hl⟩ := h.chronicle r
  have hlast : l.getLast? = some s := hl.last.trans hs
  have hlife : Life l := hl.life (by rintro rfl; cases hlast)
  have hevents := hl.events s hs
  -- the event at the place `i` is the one of the version `i + 1`
  have hplace : ∀ e ∈ st.eventsOf s.submissionId, ∃ i, (st.eventsOf s.submissionId)[i]? = some e ∧
      i < l.length ∧ ∀ t, e.Describes t → t.version = i + 1 := by
    intro e he
    obtain ⟨i, hi, hget⟩ := List.mem_iff_getElem.mp he
    have hi' : i < l.length := hevents.length_eq ▸ hi
    refine ⟨i, List.getElem?_eq_some_iff.mpr ⟨hi, hget⟩, hi', fun t ht => ?_⟩
    have hdescribes := List.Forall₂.get hevents hi hi'
    rw [List.get_eq_getElem, hget] at hdescribes
    have hversion : (l.get ⟨i, hi'⟩).version = i + 1 := by
      have hmap := congrArg (fun m => m[i]?) hlife.versions
      simpa [hi', Nat.add_comm] using hmap
    exact (ht.agree hdescribes).2.1.trans hversion
  obtain ⟨init, rfl⟩ := List.getLast?_eq_some_iff.mp hlast
  have hlength : (st.eventsOf s.submissionId).length = init.length + 1 := by
    rw [hevents.length_eq, List.length_append, List.length_singleton]
  have hcurrent : ∃ e ∈ st.eventsOf s.submissionId, e.Describes s := by
    have hi : init.length < (st.eventsOf s.submissionId).length := by omega
    have hi' : init.length < (init ++ [s]).length := by simp
    have hdescribes := List.Forall₂.get hevents hi hi'
    have hs' : (init ++ [s]).get ⟨init.length, hi'⟩ = s := by simp
    rw [hs'] at hdescribes
    exact ⟨_, List.get_mem _ ⟨init.length, hi⟩, hdescribes⟩
  refine ⟨fun e he e' he' t t' ht ht' hversion => ?_, hcurrent, fun e he t ht => ?_⟩
  · obtain ⟨i, hget, -, hi⟩ := hplace e he
    obtain ⟨i', hget', -, hi'⟩ := hplace e' he'
    have heq : i = i' := by
      have hi₁ := hi t ht
      have hi₂ := hi' t' ht'
      omega
    rw [heq, hget', Option.some.injEq] at hget
    exact hget.symm
  · obtain ⟨i, -, hlt, hi⟩ := hplace e he
    obtain ⟨e', he', hdescribes⟩ := hcurrent
    obtain ⟨i', hget', -, hi'⟩ := hplace e' he'
    have hversion := hi t ht
    have hcurrent := hi' s hdescribes
    have hversions := congrArg List.getLast? hlife.versions
    have hs : s.version = init.length + 1 := by
      simpa [List.range'_1_concat, Nat.add_comm] using hversions
    rw [List.length_append, List.length_singleton] at hlt
    omega

end OperationsStore

/-! ## What the projector reads in an event -/

/-- The progress that the state of a submission is. -/
def ProviderSubmissionState.progress : ProviderSubmissionState → ProviderProgressState
  | .prepared => .prepared
  | .dispatching => .dispatching
  | .accepted => .acceptedForProcessing
  | .rejected => .rejected
  | .unknown => .outcomeUnknown

/-- The projection says what the record says. -/
structure ProviderOutcomeProjection.Shows (p : ProviderOutcomeProjection)
    (s : ProviderSubmissionRecord) : Prop where
  submissionId : p.submissionId = s.submissionId
  uttId : p.uttId = s.uttId
  rttId : p.rttId = s.rttId
  providerId : p.providerId = s.providerId
  state : p.state = s.state.progress
  normalizedCode : p.normalizedCode = .ofOption s.normalizedCode
  externalReference : p.externalReference = .ofOption s.externalReference
  rejectionDisposition : p.rejectionDisposition =
    .ofOption (s.rejectionDisposition.map RejectionDisposition.value)
  submissionVersion : p.submissionVersion = s.version

/-- The projection up to the time at which it was made. -/
def ProviderOutcomeProjection.undated (p : ProviderOutcomeProjection) : ProviderOutcomeProjection :=
  { p with projectedAt := p.occurredAt }

namespace ProviderOutcomeProjection

theorem submissionId_eq {p q : ProviderOutcomeProjection} (h : p.undated = q.undated) :
    p.submissionId = q.submissionId := by
  have hid : p.undated.submissionId = q.undated.submissionId := by rw [h]
  exact hid

theorem submissionVersion_eq {p q : ProviderOutcomeProjection} (h : p.undated = q.undated) :
    p.submissionVersion = q.submissionVersion := by
  have hversion : p.undated.submissionVersion = q.undated.submissionVersion := by rw [h]
  exact hversion

end ProviderOutcomeProjection

/-- An event that has not been consumed is kept, and its projection is if its version is higher. -/
theorem ProjectionStore.apply_fresh {st : ProjectionStore} {eventId sha256 : String}
    {p : ProviderOutcomeProjection} (h : st.eventHashes.get? eventId = none) :
    ∃ st', st.apply eventId sha256 p = .ok (true, st') ∧
      st'.eventHashes = st.eventHashes.set eventId sha256 ∧
      (st'.projections.get? p.submissionId =
        match st.projections.get? p.submissionId with
        | none => some p
        | some c => if c.submissionVersion < p.submissionVersion then some p else some c) ∧
      ∀ k, p.submissionId ≠ k → st'.projections.get? k = st.projections.get? k := by
  unfold ProjectionStore.apply
  rw [h]
  refine ⟨_, rfl, rfl, ?_, fun k hk => ?_⟩
  · cases hcurrent : st.projections.get? p.submissionId with
    | none => simp
    | some current =>
      by_cases hlt : current.submissionVersion < p.submissionVersion
      · simp [hlt]
      · simp [hlt, hcurrent]
  · have hset := Dict.get?_set_of_ne st.projections p (Ne.symm hk)
    dsimp only
    split_ifs
    · exact hset
    · rfl

/-- One delivery to the projector, with the keys as they are at that time. -/
structure EventDelivery where
  keys : KeyProvider
  envelope : SignatureEnvelope
  at_ : Datetime

namespace SignedProviderOutcomeProjector

variable (rt : Runtime)

/-- The projector accepts the delivery: this is what it hands to the store. -/
def Accepts (e : EventDelivery) (eventId sha256 : String) (p : ProviderOutcomeProjection) : Prop :=
  read rt e.keys e.envelope e.at_ = .ok (eventId, sha256, p)

/-- The store after a delivery.  A delivery that is refused changes nothing. -/
def receive (st : ProjectionStore) (e : EventDelivery) : ProjectionStore :=
  match project rt e.keys st e.envelope e.at_ with
  | .ok (_, st') => st'
  | .error _ => st

/-- The store after these deliveries. -/
def receiveAll (l : List EventDelivery) : ProjectionStore := l.foldl (receive rt) .empty

/-- The projections of the accepted deliveries. -/
def accepted (l : List EventDelivery) : List ProviderOutcomeProjection :=
  l.filterMap fun e =>
    match read rt e.keys e.envelope e.at_ with
    | .ok (_, _, p) => some p
    | .error _ => none

variable {rt} {l : List EventDelivery} {e e' : EventDelivery} {eventId sha256 : String}
  {p p' : ProviderOutcomeProjection}

theorem mem_accepted : p ∈ accepted rt l ↔ ∃ e ∈ l, ∃ eventId sha256, Accepts rt e eventId sha256 p := by
  rw [accepted, List.mem_filterMap]
  refine exists_congr fun e => and_congr_right fun _ => ?_
  unfold Accepts
  cases read rt e.keys e.envelope e.at_ with
  | error ex => simp
  | ok r =>
    obtain ⟨i, h, q⟩ := r
    simp

theorem stateOf_eventType (state : ProviderSubmissionState) :
    stateOf rt (some (.str state.eventType)) = .ok state.progress := by
  cases state <;> rfl

/-- What the projector reads in an event is what the event announces. -/
theorem Accepts.eq {f : OutboxEvent} {s : ProviderSubmissionRecord} {idempotent : Bool}
    {occurred : Instant} (h : Accepts rt e eventId sha256 p) (he : e.envelope = f.signedEvent)
    (hf : f.Announces rt s idempotent occurred) (hs : s.Shape) :
    eventId = f.eventId ∧ p.Shows s ∧ p.sourceEventId = f.eventId ∧
      fromTimestamp (epochSeconds occurred) = .ok p.occurredAt ∧
      (f.signedEvent.header.item "payload_sha256").map rt.str = .ok sha256 := by
  have hdescribes := hf.describes hs
  obtain ⟨data, hdata, hcode, href, hdisposition⟩ := hdescribes.outcome
  have hid : f.signedEvent.payload.get "event_id" = some (.str f.eventId) := by
    simp [hf.payload, Fields.get]
  have hutt : f.signedEvent.payload.get "utt_id" = some (.str s.uttId) := by
    simp [hf.payload, Fields.get, ProviderSubmissionRecord.eventCore, List.lookup]
  have hrtt : f.signedEvent.payload.get "rtt_id" = some (.str s.rttId) := by
    simp [hf.payload, Fields.get, ProviderSubmissionRecord.eventCore, List.lookup]
  have hprovider : f.signedEvent.payload.get "provider_id" = some (.str s.providerId) := by
    simp [hf.payload, Fields.get, ProviderSubmissionRecord.eventCore, List.lookup]
  have hoccurred : f.signedEvent.payload.get "occurred_at" = some (.int (epochSeconds occurred)) := by
    simp [hf.payload, Fields.get, ProviderSubmissionRecord.eventCore, List.lookup]
  unfold Accepts read at h
  rw [he] at h
  obtain ⟨verification, -, h⟩ := bind_eq_ok.mp h
  obtain ⟨-, -, h⟩ := bind_eq_ok.mp h
  simp only [hid, hdescribes.signedType, hoccurred, hdata, stateOf_eventType] at h
  split at h
  · cases h
  simp only [bind_eq_ok, Fields.item_eq_ok, hdescribes.signedAggregate, hdescribes.version, hutt, hrtt,
    hprovider, Option.some.injEq, Except.ok.injEq, exists_eq_left', pure_eq_ok, versionOf] at h
  obtain ⟨_, -, _, -, projectedAt, -, occurredAt, hoccurredAt, sha, hsha, heq⟩ := h
  cases heq
  refine ⟨rfl, ⟨rfl, rfl, rfl, rfl, rfl, hcode, href, hdisposition, rfl⟩, rfl, hoccurredAt, ?_⟩
  rw [Fields.item_eq_ok.mpr hsha]
  rfl

/-! ## One delivery after another -/

/-- The deliveries are of events of the outbox. -/
def FromOutbox (st : OperationsStore) (l : List EventDelivery) : Prop :=
  ∀ e ∈ l, ∃ f ∈ st.events, e.envelope = f.signedEvent

/-- The table of the consumed events, and the projection of every submission, after these
deliveries. -/
structure Follows (rt : Runtime) (st : ProjectionStore) (l : List EventDelivery) : Prop where
  hashes : ∀ eventId sha256, st.eventHashes.get? eventId = some sha256 →
    ∃ e ∈ l, ∃ p, Accepts rt e eventId sha256 p
  projections : ∀ k, st.projections.get? k =
    latest (·.submissionId) (·.submissionVersion) (accepted rt l) k

theorem Follows.empty : Follows rt .empty [] := by
  refine ⟨fun eventId sha256 h => ?_, fun _ => rfl⟩
  cases h

theorem receive_of_accepts {store store' : ProjectionStore} {applied : Bool}
    (h : Accepts rt e eventId sha256 p) (happly : store.apply eventId sha256 p = .ok (applied, store')) :
    receive rt store e = store' := by
  unfold Accepts at h
  simp only [receive, project, h, happly, bind, Except.bind, pure, Except.pure]

theorem receive_of_refused {store : ProjectionStore} {ex : Exn}
    (h : read rt e.keys e.envelope e.at_ = .error ex) : receive rt store e = store := by
  simp only [receive, project, h, bind, Except.bind]

variable {d : Deployment} {st : OperationsStore} {f f' : OutboxEvent} {eventId' sha256' : String}

/-- What two accepted deliveries of one event hand to the store differs in its time only. -/
theorem Accepts.agree (hst : st.Attributed d.rt) (hf : f ∈ st.events)
    (h : Accepts d.rt e eventId sha256 p) (he : e.envelope = f.signedEvent)
    (h' : Accepts d.rt e' eventId' sha256' p') (he' : e'.envelope = f.signedEvent) :
    eventId = eventId' ∧ sha256 = sha256' ∧ p.undated = p'.undated := by
  obtain ⟨_, _, t, idempotent, at_, -, -, hshape, hannounces⟩ := hst f hf
  obtain ⟨hid, hshows, hsource, hoccurred, hsha⟩ := h.eq he hannounces hshape
  obtain ⟨hid', hshows', hsource', hoccurred', hsha'⟩ := h'.eq he' hannounces hshape
  refine ⟨hid.trans hid'.symm, Except.ok.inj (hsha.symm.trans hsha'), ?_⟩
  have hat : p.occurredAt = p'.occurredAt := Except.ok.inj (hoccurred.symm.trans hoccurred')
  obtain ⟨h₁, h₂, h₃, h₄, h₅, h₆, h₇, h₈, h₉⟩ := hshows
  obtain ⟨h₁', h₂', h₃', h₄', h₅', h₆', h₇', h₈', h₉'⟩ := hshows'
  simp only [ProviderOutcomeProjection.undated, ProviderOutcomeProjection.mk.injEq]
  exact ⟨h₁.trans h₁'.symm, h₂.trans h₂'.symm, h₃.trans h₃'.symm, h₄.trans h₄'.symm,
    h₅.trans h₅'.symm, h₆.trans h₆'.symm, h₇.trans h₇'.symm, h₈.trans h₈'.symm, h₉.trans h₉'.symm,
    hsource.trans hsource'.symm, hat, hat⟩

theorem accepted_concat_of_accepts (h : Accepts rt e eventId sha256 p) :
    accepted rt (l ++ [e]) = accepted rt l ++ [p] := by
  unfold Accepts at h
  simp [accepted, h]

theorem accepted_concat_of_refused {ex : Exn} (h : read rt e.keys e.envelope e.at_ = .error ex) :
    accepted rt (l ++ [e]) = accepted rt l := by
  simp [accepted, h]

/-- One more delivery. -/
theorem Follows.receive (hst : st.Annals d) (hattributed : st.Attributed d.rt)
    (hl : FromOutbox st (l ++ [e])) {store : ProjectionStore} (h : Follows d.rt store l) :
    Follows d.rt (receive d.rt store e) (l ++ [e]) := by
  have hkeep : ∀ eventId sha256, store.eventHashes.get? eventId = some sha256 →
      ∃ e' ∈ l ++ [e], ∃ p, Accepts d.rt e' eventId sha256 p := by
    intro eventId sha256 hget
    obtain ⟨e', he', p, hp⟩ := h.hashes eventId sha256 hget
    exact ⟨e', List.mem_append_left _ he', p, hp⟩
  obtain ⟨f, hf, he⟩ := hl e (by simp)
  cases hread : read d.rt e.keys e.envelope e.at_ with
  | error ex =>
    rw [receive_of_refused hread]
    exact ⟨hkeep, fun k => (h.projections k).trans (by rw [accepted_concat_of_refused hread])⟩
  | ok r =>
    obtain ⟨eventId, sha256, p⟩ := r
    have haccepts : Accepts d.rt e eventId sha256 p := hread
    cases hhash : store.eventHashes.get? eventId with
    | some prior =>
      -- the event has been accepted before: nothing changes
      obtain ⟨e₀, he₀, p₀, hp₀⟩ := h.hashes eventId prior hhash
      obtain ⟨f₀, hf₀, hf₀e⟩ := hl e₀ (List.mem_append_left _ he₀)
      obtain ⟨_, _, t, _, _, -, -, hshape, hannounces⟩ := hattributed f hf
      obtain ⟨_, _, t₀, _, _, -, -, hshape₀, hannounces₀⟩ := hattributed f₀ hf₀
      have hid : f₀.eventId = f.eventId :=
        (hp₀.eq hf₀e hannounces₀ hshape₀).1.symm.trans (haccepts.eq he hannounces hshape).1
      obtain rfl : f₀ = f := hst.consistent.event_eq hf₀ hf hid
      obtain ⟨-, rfl, hundated⟩ := hp₀.agree hattributed hf hf₀e haccepts he
      have happly : store.apply eventId prior p = .ok (false, store) := by
        simp [ProjectionStore.apply, hhash]
      rw [receive_of_accepts haccepts happly]
      refine ⟨hkeep, fun k => (h.projections k).trans ?_⟩
      rw [accepted_concat_of_accepts haccepts]
      refine (latest_concat_of_known (mem_accepted.mpr ⟨e₀, he₀, eventId, prior, hp₀⟩) ?_ ?_).symm
      · exact ProviderOutcomeProjection.submissionId_eq hundated.symm
      · exact ProviderOutcomeProjection.submissionVersion_eq hundated.symm
    | none =>
      -- a new event: its identifier is kept, and its projection if the version is higher
      obtain ⟨store', happly, hhashes, hsame, hother⟩ := ProjectionStore.apply_fresh hhash
      rw [receive_of_accepts haccepts happly]
      refine ⟨fun eventId' sha256' hget => ?_, fun k => ?_⟩
      · rw [hhashes, Dict.get?_set] at hget
        split at hget
        · rename_i hid
          cases hget
          exact ⟨e, by simp, p, hid ▸ haccepts⟩
        · exact hkeep eventId' sha256' hget
      · rw [accepted_concat_of_accepts haccepts]
        by_cases hk : p.submissionId = k
        · subst hk
          rw [latest_concat rfl, ← h.projections]
          cases hcurrent : store.projections.get? p.submissionId with
          | none => exact hsame.trans (by rw [hcurrent])
          | some current => exact hsame.trans (by rw [hcurrent])
        · rw [latest_concat_of_ne hk, ← h.projections]
          exact hother k hk

/-- Any deliveries. -/
theorem follows_receiveAll (hst : st.Annals d) (hattributed : st.Attributed d.rt)
    (hl : FromOutbox st l) : Follows d.rt (receiveAll d.rt l) l := by
  induction l using List.reverseRecOn with
  | nil => exact .empty
  | append_singleton l e ih =>
    rw [receiveAll, List.foldl_append]
    exact (ih fun e he => hl e (List.mem_append_left _ he)).receive hst hattributed hl

theorem accepted_append (l l' : List EventDelivery) :
    accepted rt (l ++ l') = accepted rt l ++ accepted rt l' := by
  simp [accepted]

/-! ## What the projections are in the end -/

/-- The event is among the accepted deliveries. -/
def Consumes (rt : Runtime) (l : List EventDelivery) (envelope : SignatureEnvelope) : Prop :=
  ∃ e ∈ l, e.envelope = envelope ∧ ∃ eventId sha256 p, Accepts rt e eventId sha256 p

variable {l' : List EventDelivery} {r : String} {s : ProviderSubmissionRecord}

/-- An accepted projection shows a version that a stored submission has gone through. -/
theorem exists_event_of_mem (hst : st.Attributed d.rt) (hl : FromOutbox st l)
    (hp : p ∈ accepted d.rt l) : ∃ e ∈ l, ∃ eventId sha256, Accepts d.rt e eventId sha256 p ∧
      ∃ f ∈ st.events, e.envelope = f.signedEvent ∧ ∃ r s t, st.submissionsByRtt.get? r = some s ∧
        SameSubmission s t ∧ f.Describes t ∧ p.Shows t := by
  obtain ⟨e, hmem, eventId, sha256, haccepts⟩ := mem_accepted.mp hp
  obtain ⟨f, hf, he⟩ := hl e hmem
  obtain ⟨r, s, t, idempotent, at_, hs, hsame, hshape, hannounces⟩ := hst f hf
  exact ⟨e, hmem, eventId, sha256, haccepts, f, hf, he, r, s, t, hs, hsame,
    hannounces.describes hshape, (haccepts.eq he hannounces hshape).2.1⟩

/-- An event that shows the submission is an event of it. -/
theorem mem_eventsOf (hf : f ∈ st.events) {t : ProviderSubmissionRecord} (ht : f.Describes t)
    (hid : t.submissionId = s.submissionId) : f ∈ st.eventsOf s.submissionId := by
  rw [OperationsStore.eventsOf, List.mem_filter]
  exact ⟨hf, by simp [ht.aggregateId, hid]⟩

/-- The version of a projection says which it is. -/
theorem undated_eq (hst : st.Annals d) (hattributed : st.Attributed d.rt) (hl : FromOutbox st l)
    (hl' : FromOutbox st l') (hp : p ∈ accepted d.rt l) (hp' : p' ∈ accepted d.rt l')
    (hid : p.submissionId = p'.submissionId) (hversion : p.submissionVersion = p'.submissionVersion) :
    p.undated = p'.undated := by
  obtain ⟨e, -, eventId, sha256, haccepts, f, hf, he, r, s, t, hs, hsame, hdescribes, hshows⟩ :=
    exists_event_of_mem hattributed hl hp
  obtain ⟨e', -, eventId', sha256', haccepts', f', hf', he', -, -, t', -, -, hdescribes', hshows'⟩ :=
    exists_event_of_mem hattributed hl' hp'
  have hts : t.submissionId = s.submissionId := hsame.submissionId
  have htt : t'.submissionId = t.submissionId :=
    hshows'.submissionId.symm.trans (hid.symm.trans hshows.submissionId)
  have hversions : t.version = t'.version := by
    have hcast : (t.version : Int) = t'.version :=
      hshows.submissionVersion.symm.trans (hversion.trans hshows'.submissionVersion)
    exact_mod_cast hcast
  obtain rfl : f = f' := (hst.events hs).1 f (mem_eventsOf hf hdescribes hts) f'
    (mem_eventsOf hf' hdescribes' (htt.trans hts)) t t' hdescribes hdescribes' hversions
  exact (haccepts.agree hattributed hf he haccepts' he').2.2

/-- A projection never shows a version that the submission has not reached, and shows the submission
once it shows its version. -/
theorem shows_of_mem (hcf : CollisionFree d.rt) (hst : st.Annals d) (hattributed : st.Attributed d.rt)
    (hl : FromOutbox st l) (hs : st.submissionsByRtt.get? r = some s) (hp : p ∈ accepted d.rt l)
    (hid : p.submissionId = s.submissionId) :
    p.submissionVersion ≤ s.version ∧ (p.submissionVersion = s.version → p.Shows s) := by
  obtain ⟨-, -, -, -, -, f, hf, -, r', s', t, hs', hsame, hdescribes, hshows⟩ :=
    exists_event_of_mem hattributed hl hp
  have hts : t.submissionId = s.submissionId := hshows.submissionId.symm.trans hid
  obtain rfl : r' = r := hst.consistent.eq_of_submissionId hcf hs' (hst.consistent.submissionId hs)
    (hst.consistent.key hs) (hsame.submissionId.symm.trans hts)
  obtain rfl : s' = s := Option.some.inj (hs'.symm.trans hs)
  obtain ⟨hone, ⟨g, hg, hcurrent⟩, hle⟩ := hst.events hs
  have hmem := mem_eventsOf hf hdescribes hts
  refine ⟨?_, fun hversion => ?_⟩
  · rw [hshows.submissionVersion]
    exact_mod_cast hle f hmem t hdescribes
  · have hversions : t.version = s'.version := by
      have hcast : (t.version : Int) = s'.version := hshows.submissionVersion.symm.trans hversion
      exact_mod_cast hcast
    obtain rfl : f = g := hone f hmem g hg t s' hdescribes hcurrent hversions
    obtain ⟨hstate, -, hcode, href, hdisposition⟩ := hdescribes.agree hcurrent
    exact ⟨hid, hshows.uttId.trans hsame.uttId, hshows.rttId.trans hsame.rttId,
      hshows.providerId.trans hsame.providerId, hstate ▸ hshows.state, hcode ▸ hshows.normalizedCode,
      href ▸ hshows.externalReference, hdisposition ▸ hshows.rejectionDisposition, hversion⟩

end SignedProviderOutcomeProjector

open SignedProviderOutcomeProjector

/-- However the events of the outbox reach the projector, and however many of them it refuses: the
projection of a submission is the one of the highest version that was accepted, it never goes back and
is never ahead of the submission, it depends on the set of the accepted events only, and it shows the
submission as it is once the event of its version has been accepted. -/
theorem projections_converge {d : Deployment} {w₀ : World} {x : Config Op.Resp Call Exn Reply World}
    (hcf : CollisionFree d.rt) (hops : w₀.operations = .empty) (hinvocations : w₀.invocations = [])
    (hx : (system d).Reachable w₀ x) {l : List EventDelivery} (hl : FromOutbox x.state.operations l) :
    (∀ id, (receiveAll d.rt l).projections.get? id =
      latest (·.submissionId) (·.submissionVersion) (accepted d.rt l) id) ∧
    (∀ before after, l = before ++ after → ∀ id p,
      (receiveAll d.rt before).projections.get? id = some p →
      ∃ q, (receiveAll d.rt l).projections.get? id = some q ∧
        p.submissionVersion ≤ q.submissionVersion) ∧
    (∀ l', FromOutbox x.state.operations l' →
      (∀ envelope, Consumes d.rt l envelope ↔ Consumes d.rt l' envelope) → ∀ id,
      ((receiveAll d.rt l).projections.get? id).map (·.undated) =
        ((receiveAll d.rt l').projections.get? id).map (·.undated)) ∧
    ∀ r s, x.state.operations.submissionsByRtt.get? r = some s →
      (∀ p, (receiveAll d.rt l).projections.get? s.submissionId = some p →
        p.submissionVersion ≤ s.version) ∧
      ((∀ f ∈ x.state.operations.eventsOf s.submissionId, f.Describes s →
          Consumes d.rt l f.signedEvent) →
        ∃ p, (receiveAll d.rt l).projections.get? s.submissionId = some p ∧ p.Shows s) := by
  have hst := Operations.annals_of_reachable hcf hops hinvocations hx
  have hattributed := OperationsStore.attributed_of_reachable hops hinvocations hx
  have hfollows : ∀ {l}, FromOutbox x.state.operations l → Follows d.rt (receiveAll d.rt l) l :=
    fun hl => follows_receiveAll hst hattributed hl
  refine ⟨(hfollows hl).projections, ?_, ?_, ?_⟩
  · rintro before after rfl id p hp
    have hbefore : FromOutbox x.state.operations before := fun e he => hl e (List.mem_append_left _ he)
    rw [(hfollows hbefore).projections] at hp
    rw [(hfollows hl).projections, accepted_append]
    exact version_le_of_append hp
  · intro l' hl' hsame id
    rw [(hfollows hl).projections, (hfollows hl').projections]
    -- what one of the sequences accepts, the other one accepts up to its time
    have haccepted : ∀ {l l'}, FromOutbox x.state.operations l → FromOutbox x.state.operations l' →
        (∀ envelope, Consumes d.rt l envelope → Consumes d.rt l' envelope) →
        ∀ v, (∃ p ∈ accepted d.rt l, p.undated = v) → ∃ p ∈ accepted d.rt l', p.undated = v := by
      rintro l l' hl hl' hsub v ⟨p, hp, rfl⟩
      obtain ⟨e, he, eventId, sha256, haccepts⟩ := mem_accepted.mp hp
      obtain ⟨e', he', heq, eventId', sha256', p', haccepts'⟩ :=
        hsub e.envelope ⟨e, he, rfl, eventId, sha256, p, haccepts⟩
      obtain ⟨f, hf, hfe⟩ := hl e he
      exact ⟨p', mem_accepted.mpr ⟨e', he', eventId', sha256', haccepts'⟩,
        (haccepts'.agree hattributed hf (heq.trans hfe) haccepts hfe).2.2⟩
    refine map_latest_eq (fun _ _ => ProviderOutcomeProjection.submissionId_eq)
      (fun _ _ => ProviderOutcomeProjection.submissionVersion_eq)
      (fun p hp q hq => undated_eq hst hattributed hl hl hp hq) (fun v => ?_) id
    exact ⟨haccepted hl hl' (fun env => (hsame env).mp) v, haccepted hl' hl (fun env => (hsame env).mpr) v⟩
  · intro r s hs
    rw [(hfollows hl).projections]
    refine ⟨fun p hp => ?_, fun hconsumes => ?_⟩
    · obtain ⟨hmem, hid, -⟩ := of_latest_eq_some hp
      exact (shows_of_mem hcf hst hattributed hl hs hmem hid).1
    · obtain ⟨-, ⟨f, hf, hcurrent⟩, -⟩ := hst.events hs
      obtain ⟨e, he, heq, eventId, sha256, q, haccepts⟩ := hconsumes f hf hcurrent
      have hq := mem_accepted.mpr ⟨e, he, eventId, sha256, haccepts⟩
      obtain ⟨_, _, t, _, _, -, -, hshape, hannounces⟩ := hattributed f (List.mem_of_mem_filter hf)
      have hshows := (haccepts.eq heq hannounces hshape).2.1
      have hagree := (hannounces.describes hshape).agree hcurrent
      have hqid : q.submissionId = s.submissionId := by
        rw [hshows.submissionId, ← (hannounces.describes hshape).aggregateId, hcurrent.aggregateId]
      have hqversion : q.submissionVersion = s.version := by
        rw [hshows.submissionVersion, hagree.2.1]
      cases hp : latest (·.submissionId) (·.submissionVersion) (accepted d.rt l) s.submissionId with
      | none => exact absurd hqid (latest_eq_none.mp hp q hq)
      | some p =>
        obtain ⟨hmem, hid, hmax⟩ := of_latest_eq_some hp
        obtain ⟨hle, hshowsIf⟩ := shows_of_mem hcf hst hattributed hl hs hmem hid
        exact ⟨p, rfl, hshowsIf (le_antisymm hle (hqversion ▸ hmax q hq hqid))⟩

/-- The deliveries of all events of the outbox of the sample, in the order of their commits. -/
def Sample.deliveries : List EventDelivery :=
  (execute exactDeployment (inFlightWorld exactRuntime) takeover).state.operations.events.map fun f =>
    ⟨keys, f.signedEvent, .aware 0⟩

/-- In the sample, the events that three workers and a crash have left are delivered twice, the second
time in the opposite order: the projections are those of one delivery each. -/
theorem projections_converge_sample :
    (fun id => ((receiveAll Sample.exactRuntime
        (Sample.deliveries ++ Sample.deliveries.reverse)).projections.get? id).map (·.undated)) =
      fun id => ((receiveAll Sample.exactRuntime Sample.deliveries).projections.get? id).map
        (·.undated) := by
  have houtbox : FromOutbox (Sample.execute Sample.exactDeployment
      (Sample.inFlightWorld Sample.exactRuntime) Sample.takeover).state.operations Sample.deliveries := by
    intro e he
    obtain ⟨f, hf, rfl⟩ := List.mem_map.mp he
    exact ⟨f, hf, rfl⟩
  have htwice : FromOutbox (Sample.execute Sample.exactDeployment
      (Sample.inFlightWorld Sample.exactRuntime) Sample.takeover).state.operations
      (Sample.deliveries ++ Sample.deliveries.reverse) := by
    intro e he
    rcases List.mem_append.mp he with he | he
    · exact houtbox e he
    · exact houtbox e (List.mem_reverse.mp he)
  funext id
  refine (projections_converge Sample.collisionFree_exactRuntime rfl rfl (Sample.reachable_execute
    Sample.exactDeployment (Sample.inFlightWorld Sample.exactRuntime) Sample.takeover) htwice).2.2.1 _
    houtbox (fun envelope => ?_) id
  simp [Consumes]

end RailOne
